import TreeLint.Proofs.Tree.Growth
import TreeLint.Tree.Walk

/-! # Trees in order

Nodes are added after their children, whatever else may be wrong with them.  So children
have smaller places than their parents (`Climbing`), and this stays so from step to step
(`Climbing.steps`).  Neither a walk down nor the way up can go on for longer than there are
nodes: their bounds cut nothing off (`Climbing.visitsWithin_eq`, `Climbing.ancestorsWithin_eq`).

A node that is the child of two others can be added, but such a tree never passes the
check (`Rooted.defect?_of_torn`): from the root the check reaches every node that has a
parent at all, and it finds the parent links of all children as they should be.
-/

namespace TreeLint.Tree

/-- A tree in which children come before their parents. -/
structure Climbing (t : Tree) : Prop where
  child : ∀ {id n}, t.node? id = some n → ∀ c ∈ n.children, c.index < id.index
  parent : ∀ {id n p}, t.node? id = some n → n.parent = some p →
    id.index < p.index ∧ p.index < t.size

namespace Climbing

variable {t : Tree}

theorem empty (file : FileId) : (Tree.empty file).Climbing := by
  constructor <;> intros <;> contradiction

/-- A walk that may go as deep as the place of its node is not cut off. -/
theorem visitsWithin_congr (h : t.Climbing) (skip : NodeId → Bool) {depth depth' : Nat}
    {id : NodeId} (deep : id.index < depth) (deep' : id.index < depth') :
    t.visitsWithin skip depth id = t.visitsWithin skip depth' id := by
  induction depth generalizing depth' id with
  | zero => contradiction
  | succ depth ih =>
    cases depth' with
    | zero => contradiction
    | succ depth' =>
      simp only [visitsWithin]
      cases found : t.node? id with
      | none => rfl
      | some n =>
        have children : n.children.flatMap (fun c => t.visitsWithin skip depth c)
            = n.children.flatMap fun c => t.visitsWithin skip depth' c := by
          refine List.flatMap_congr fun c mem => ?_
          have := h.child found c mem
          exact ih (by omega) (by omega)
        simp only [children]

theorem visitsWithin_eq (h : t.Climbing) (skip : NodeId → Bool) {depth : Nat}
    (deep : t.size ≤ depth) (id : NodeId) :
    t.visitsWithin skip depth id = t.visits skip (some id) := by
  by_cases inside : id.index < t.size
  · exact h.visitsWithin_congr skip (Nat.lt_of_lt_of_le inside deep) inside
  · have absent : t.node? id = none := node?_eq_none.mpr (Nat.not_lt.mp inside)
    have none : ∀ depth, t.visitsWithin skip depth id = [] := by
      intro depth
      cases depth with
      | zero => rfl
      | succ depth => rw [visitsWithin, absent]
    rw [visits, none, none]

theorem ancestorsWithin_congr (h : t.Climbing) {depth depth' : Nat} {r : Ref}
    (deep : ∀ id ∈ r, t.size ≤ id.index + depth) (deep' : ∀ id ∈ r, t.size ≤ id.index + depth') :
    t.ancestorsWithin depth r = t.ancestorsWithin depth' r := by
  have top : ∀ {r : Ref}, (∀ id ∈ r, t.size ≤ id.index) → t.parent r = none := by
    intro r past
    cases r with
    | none => rfl
    | some id => simp [Tree.parent, deref?, node?_eq_none.mpr (past id rfl)]
  have nothing : ∀ {r : Ref} (depth : Nat), (∀ id ∈ r, t.size ≤ id.index) →
      t.ancestorsWithin depth r = [] := by
    intro r depth past
    cases depth with
    | zero => rfl
    | succ depth => rw [ancestorsWithin, top past]
  induction depth generalizing depth' r with
  | zero => rw [nothing 0 deep, nothing depth' deep]
  | succ depth ih =>
    cases depth' with
    | zero => rw [nothing 0 deep', nothing (depth + 1) deep']
    | succ depth' =>
      simp only [ancestorsWithin]
      cases up : t.parent r with
      | none => rfl
      | some p =>
        obtain ⟨n, found, link⟩ := Option.bind_eq_some_iff.mp up
        obtain ⟨id, rfl, found⟩ := Option.bind_eq_some_iff.mp found
        obtain ⟨less, -⟩ := h.parent found link
        have first := deep id rfl
        have second := deep' id rfl
        refine congrArg (p :: ·) (ih ?_ ?_)
        · rintro _ ⟨⟩
          omega
        · rintro _ ⟨⟩
          omega

theorem ancestorsWithin_eq (h : t.Climbing) {depth : Nat} (deep : t.size ≤ depth) (r : Ref) :
    t.ancestorsWithin depth r = t.ancestors r :=
  h.ancestorsWithin_congr (fun _ _ => Nat.le_trans deep (Nat.le_add_left _ _))
    fun _ _ => Nat.le_add_left _ _

theorem of_nodes (h : t.Climbing) {u : Tree} (same : u.nodes = t.nodes) : u.Climbing := by
  obtain ⟨file, root, nodes, names⟩ := u
  cases same
  exact ⟨h.child, h.parent⟩

/-- Whatever is in a tree may be put below a new node. -/
theorem add (h : t.Climbing) {s : Span} {shape : Shape}
    (present : ∀ c ∈ Ref.compact shape.refs, ∃ n, t.node? c = some n) :
    (t.add s shape).1.Climbing := by
  constructor
  · intro id n found c mem
    obtain ⟨rfl, -, rfl⟩ | ⟨old, found', -, same, -⟩ := node?_of_add found
    · obtain ⟨m, there⟩ := present c mem
      exact index_lt_size there
    · rw [Node.children, same] at mem
      exact h.child found' c mem
  · intro id n p found link
    rw [size_add]
    obtain ⟨rfl, -, -⟩ | ⟨old, found', -, -, parent⟩ := node?_of_add found
    · have self : ⟨t.size⟩ ∉ Ref.compact shape.refs := fun mem => by
        obtain ⟨m, there⟩ := present _ mem
        exact Nat.lt_irrefl _ (index_lt_size there)
      rw [node?_add_new self] at found
      cases found
      contradiction
    · rw [link] at parent
      split at parent
      · cases parent
        exact ⟨index_lt_size found', Nat.lt_succ_self _⟩
      · have := h.parent found' parent.symm
        omega

theorem step (h : t.Climbing) {t' : Tree} (step : t.Step t') : t'.Climbing := by
  cases step with
  | node present =>
    refine h.add fun c mem => ?_
    obtain ⟨n, found⟩ : ∃ n, t.node? c = some n := by
      rw [← Option.ne_none_iff_exists', ne_eq, node?_eq_none]
      exact Nat.not_le.mpr (present c mem)
    exact ⟨n, found⟩
  | name | root => exact h.of_nodes rfl

theorem steps (h : t.Climbing) {t' : Tree} (steps : t.Steps t') : t'.Climbing := by
  induction steps with
  | refl => exact h
  | tail _ next ih => exact ih.step next

end Climbing

/-- The nodes there were keep their shapes. -/
theorem exists_node?_add {t : Tree} (s : Span) (shape : Shape) {id : NodeId} {n : Node}
    (found : t.node? id = some n) :
    ∃ n', (t.add s shape).1.node? id = some n' ∧ n'.shape = n.shape := by
  by_cases mem : id ∈ Ref.compact shape.refs
  · exact ⟨_, node?_add_child found mem, rfl⟩
  · exact ⟨_, node?_add_other found mem, rfl⟩

/-! ## Trees that extend each other -/

/-- A tree in order that comes from another one by adding nodes, none of them a program.
The new ones are below others or among those listed. -/
structure Extends (t t' : Tree) (refs : List Ref) : Prop where
  climbing : t'.Climbing
  kept : ∀ {id n}, t.node? id = some n → ∃ n', t'.node? id = some n' ∧ n'.shape = n.shape
  proper : ∀ {id n}, t.node? id = none → t'.node? id = some n → n.kind ≠ .program
  covered : ∀ {id n}, t.node? id = none → t'.node? id = some n →
    some id ∈ refs ∨ ∃ p m, t'.node? p = some m ∧ id ∈ m.children
  present : ∀ id, some id ∈ refs → ∃ n, t'.node? id = some n

namespace Extends

variable {t t' t'' : Tree} {refs refs' : List Ref}

theorem refl (h : t.Climbing) : Extends t t [] where
  climbing := h
  kept found := ⟨_, found, rfl⟩
  proper absent found := by simp [absent] at found
  covered absent found := by simp [absent] at found
  present _ mem := by contradiction

theorem trans (h : Extends t t' refs) (h' : Extends t' t'' refs') :
    Extends t t'' (refs ++ refs') where
  climbing := h'.climbing
  kept found := by
    obtain ⟨n, found, same⟩ := h.kept found
    obtain ⟨n', found', same'⟩ := h'.kept found
    exact ⟨n', found', same'.trans same⟩
  proper absent found := by
    rename_i id n
    cases between : t'.node? id with
    | none => exact h'.proper between found
    | some m =>
      obtain ⟨n', found', same⟩ := h'.kept between
      cases found.symm.trans found'
      rw [Node.kind, same]
      exact h.proper absent between
  covered absent found := by
    rename_i id n
    cases between : t'.node? id with
    | none =>
      cases h'.covered between found with
      | inl listed => exact .inl (List.mem_append_right _ listed)
      | inr below => exact .inr below
    | some m =>
      cases h.covered absent between with
      | inl listed => exact .inl (List.mem_append_left _ listed)
      | inr below =>
        obtain ⟨p, m, above, mem⟩ := below
        obtain ⟨m', above', same⟩ := h'.kept above
        exact .inr ⟨p, m', above', by rwa [Node.children, same]⟩
  present id mem := by
    cases List.mem_append.mp mem with
    | inl first =>
      obtain ⟨n, found⟩ := h.present id first
      obtain ⟨n', found', -⟩ := h'.kept found
      exact ⟨n', found'⟩
    | inr second => exact h'.present id second

/-- The same nodes listed otherwise, and perhaps more. -/
theorem mono (h : Extends t t' refs) (sub : ∀ id, some id ∈ refs → some id ∈ refs')
    (present : ∀ id, some id ∈ refs' → ∃ n, t'.node? id = some n) : Extends t t' refs' where
  climbing := h.climbing
  kept := h.kept
  proper := h.proper
  covered absent found := (h.covered absent found).imp_left (sub _)
  present := present

theorem of_mem_iff (h : Extends t t' refs) (same : ∀ id, some id ∈ refs ↔ some id ∈ refs') :
    Extends t t' refs' :=
  h.mono (fun id => (same id).mp) fun id mem => h.present id ((same id).mpr mem)

theorem of_nodes (h : Extends t t' refs) {u : Tree} (same : u.nodes = t'.nodes) :
    Extends t u refs := by
  have climbing := h.climbing.of_nodes same
  obtain ⟨file, root, nodes, names⟩ := u
  cases same
  exact ⟨climbing, h.kept, h.proper, h.covered, h.present⟩

/-- A new node is not one of those listed before. -/
theorem new_notMem (h : Extends t t' refs) {shape : Shape}
    (children : Ref.compact shape.refs = Ref.compact refs) :
    ⟨t'.size⟩ ∉ Ref.compact shape.refs := by
  intro mem
  obtain ⟨n, found⟩ := h.present _ (Ref.mem_compact.mp (children ▸ mem))
  exact Nat.lt_irrefl _ (index_lt_size found)

/-- A new node above all that is listed. -/
theorem add (h : Extends t t' refs) {s : Span} {shape : Shape}
    (children : Ref.compact shape.refs = Ref.compact refs) (proper : shape.kind ≠ .program) :
    Extends t (t'.add s shape).1 [some ⟨t'.size⟩] := by
  have present : ∀ c ∈ Ref.compact shape.refs, ∃ n, t'.node? c = some n := fun c mem =>
    h.present c (Ref.mem_compact.mp (children ▸ mem))
  have self := h.new_notMem children
  refine ⟨h.climbing.add present, ?_, ?_, ?_, ?_⟩
  · intro id n found
    obtain ⟨n', found', same⟩ := h.kept found
    obtain ⟨n'', found'', same'⟩ := exists_node?_add s shape found'
    exact ⟨n'', found'', same'.trans same⟩
  · intro id n absent found
    obtain ⟨-, -, rfl⟩ | ⟨m, found', -, same, -⟩ := node?_of_add found
    · exact proper
    · rw [Node.kind, same]
      exact h.proper absent found'
  · intro id n absent found
    obtain ⟨rfl, -, -⟩ | ⟨m, found', -, -, -⟩ := node?_of_add found
    · exact .inl (List.mem_singleton_self _)
    · refine .inr ?_
      cases h.covered absent found' with
      | inl listed =>
        refine ⟨_, _, node?_add_new self, ?_⟩
        rw [Node.children, children]
        exact Ref.mem_compact.mpr listed
      | inr below =>
        obtain ⟨p, m, above, mem⟩ := below
        obtain ⟨m', above', same⟩ := exists_node?_add s shape above
        exact ⟨p, m', above', by rwa [Node.children, same]⟩
  · intro id mem
    cases Option.some.inj (List.mem_singleton.mp mem)
    exact ⟨_, node?_add_new self⟩

end Extends

/-! ## Trees with a root -/

/-- A tree in order whose root is its one program and above all other nodes. -/
structure Rooted (t : Tree) (root : NodeId) : Prop where
  climbing : t.Climbing
  at_root : t.root = some root
  program : t.hasKind (some root) .program
  only : ∀ id, t.hasKind (some id) .program → id = root
  covered : ∀ {id n}, t.node? id = some n → id = root ∨
    ∃ p m, t.node? p = some m ∧ id ∈ m.children

theorem hasKind_iff {t : Tree} {id : NodeId} {k : Kind} :
    t.hasKind (some id) k ↔ ∃ n, t.node? id = some n ∧ n.kind = k := by
  simp [hasKind, kind?, deref?]

/-- A program above all that was added to the empty tree. -/
theorem Extends.addProgram {file : FileId} {t : Tree} {refs : List Ref}
    (h : Extends (Tree.empty file) t refs) (s : Span) (p : Program) (children : p.body = refs) :
    Rooted (t.addProgram s p).1 ⟨t.size⟩ := by
  subst children
  have present : ∀ c ∈ Ref.compact p.body, ∃ n, t.node? c = some n := fun c mem =>
    h.present c (Ref.mem_compact.mp mem)
  have self : ⟨t.size⟩ ∉ Ref.compact (Shape.program p).refs := h.new_notMem rfl
  have new : (t.addProgram s p).1.node? ⟨t.size⟩ = some ⟨s, none, .program p⟩ :=
    node?_add_new self
  have absent : ∀ id, (Tree.empty file).node? id = none := fun id => rfl
  have climbing : (t.add s (.program p)).1.Climbing := h.climbing.add present
  refine ⟨climbing.of_nodes rfl, rfl,
    hasKind_iff.mpr ⟨_, new, rfl⟩, ?_, ?_⟩
  · intro id program
    obtain ⟨n, found, kind⟩ := hasKind_iff.mp program
    obtain ⟨rfl, -, -⟩ | ⟨m, found', -, same, -⟩ := node?_of_add found
    · rfl
    · rw [Node.kind, same] at kind
      exact absurd kind (h.proper (absent id) found')
  · intro id n found
    obtain ⟨rfl, -, -⟩ | ⟨m, found', -, -, -⟩ := node?_of_add found
    · exact .inl rfl
    · refine .inr ?_
      cases h.covered (absent id) found' with
      | inl listed => exact ⟨_, _, new, Ref.mem_compact.mpr listed⟩
      | inr below =>
        obtain ⟨q, k, above, mem⟩ := below
        obtain ⟨k', above', same⟩ := exists_node?_add s (.program p) above
        exact ⟨q, k', above', by rwa [Node.children, same]⟩

/-! ## Two parents -/

/-- A node is below a node and below one of the children of that. -/
def Torn (t : Tree) : Prop :=
  ∃ q p l n m, t.node? q = some n ∧ t.node? p = some m ∧ p ∈ n.children ∧ l ∈ n.children ∧
    l ∈ m.children

theorem Torn.extend {t t' : Tree} {refs : List Ref} (h : t.Torn) (grown : Extends t t' refs) :
    t'.Torn := by
  obtain ⟨q, p, l, n, m, found, found', child, first, second⟩ := h
  obtain ⟨n', kept, same⟩ := grown.kept found
  obtain ⟨m', kept', same'⟩ := grown.kept found'
  refine ⟨q, p, l, n', m', kept, kept', ?_, ?_, ?_⟩
  · rwa [Node.children, same]
  · rwa [Node.children, same]
  · rwa [Node.children, same']

theorem Torn.add {t : Tree} (h : t.Torn) (s : Span) (shape : Shape) : (t.add s shape).1.Torn := by
  obtain ⟨q, p, l, n, m, found, found', child, first, second⟩ := h
  obtain ⟨n', kept, same⟩ := exists_node?_add s shape found
  obtain ⟨m', kept', same'⟩ := exists_node?_add s shape found'
  refine ⟨q, p, l, n', m', kept, kept', ?_, ?_, ?_⟩
  · rwa [Node.children, same]
  · rwa [Node.children, same]
  · rwa [Node.children, same']

/-- A new node above a node and a child of that tears the tree. -/
theorem torn_add {t : Tree} {s : Span} {shape : Shape} {p l : NodeId} {m : Node}
    (found : t.node? p = some m) (child : l ∈ m.children) (above : p ∈ Ref.compact shape.refs)
    (above' : l ∈ Ref.compact shape.refs) (self : ⟨t.size⟩ ∉ Ref.compact shape.refs) :
    (t.add s shape).1.Torn := by
  obtain ⟨m', kept, same⟩ := exists_node?_add s shape found
  refine ⟨_, p, l, _, m', node?_add_new self, kept, above, above', ?_⟩
  rwa [Node.children, same]

/-- What is below a node that was checked has been checked as well. -/
theorem fits_of_checkWithin {t : Tree} {depth : Nat} {seen seen' : List NodeId} {id : NodeId}
    (h : t.checkWithin depth seen id = .ok seen') {n : Node} (found : t.node? id = some n) :
    t.childDefect? id none n.children = none ∧
      ∀ c ∈ n.children, ∃ depth seen seen', t.checkWithin depth seen c = .ok seen' := by
  cases depth with
  | zero => contradiction
  | succ depth =>
    simp only [checkWithin, found] at h
    split at h
    · contradiction
    · split at h
      · contradiction
      next fits =>
        refine ⟨fits, ?_⟩
        clear fits found
        generalize id :: seen = start at h
        generalize n.children = cs at h ⊢
        induction cs generalizing start with
        | nil => simp
        | cons c cs ih =>
          rw [List.foldlM_cons] at h
          cases first : t.checkWithin depth start c with
          | error d => simp [first, bind, Except.bind] at h
          | ok next =>
            simp only [first, bind, Except.bind] at h
            intro d mem
            obtain rfl | mem := List.mem_cons.mp mem
            · exact ⟨depth, start, next, first⟩
            · exact ih next h d mem

/-- The nodes from which children lead to a node. -/
def Leads (t : Tree) : NodeId → NodeId → Prop :=
  Relation.ReflTransGen fun x y => ∃ n, t.node? x = some n ∧ y ∈ n.children

theorem fits_of_leads {t : Tree} {depth : Nat} {seen seen' : List NodeId} {root id : NodeId}
    (h : t.checkWithin depth seen root = .ok seen') (leads : t.Leads root id) {n : Node}
    (found : t.node? id = some n) : t.childDefect? id none n.children = none := by
  have checked : ∃ depth seen seen', t.checkWithin depth seen id = .ok seen' := by
    clear found
    induction leads with
    | refl => exact ⟨_, _, _, h⟩
    | tail _ step ih =>
      obtain ⟨depth, seen, seen', h⟩ := ih
      obtain ⟨m, above, mem⟩ := step
      exact (fits_of_checkWithin h above).2 _ mem
  obtain ⟨depth, seen, seen', h⟩ := checked
  exact (fits_of_checkWithin h found).1

namespace Rooted

variable {t : Tree} {root : NodeId}

/-- The root leads to every node. -/
theorem leads (h : t.Rooted root) {id : NodeId} {n : Node} (found : t.node? id = some n) :
    t.Leads root id := by
  -- By induction on the number of nodes that come later.
  generalize later : t.size - id.index = k
  induction k using Nat.strong_induction_on generalizing id n with
  | _ k ih =>
    cases h.covered found with
    | inl same => exact same ▸ .refl
    | inr below =>
      obtain ⟨p, m, above, mem⟩ := below
      have less := h.climbing.child above id mem
      have := index_lt_size above
      exact (ih (t.size - p.index) (by omega) above rfl).tail ⟨m, above, mem⟩

/-- A torn tree has a defect. -/
theorem defect?_of_torn (h : t.Rooted root) (torn : t.Torn) : t.defect? ≠ none := by
  intro fine
  obtain ⟨seen, checked⟩ : ∃ seen, t.checkWithin (t.size + 1) [] root = .ok seen := by
    simp only [defect?, h.at_root] at fine
    split at fine
    · contradiction
    · split at fine
      · contradiction
      · split at fine
        next seen checked => exact ⟨seen, checked⟩
        · contradiction
  obtain ⟨q, p, l, n, m, found, found', child, first, second⟩ := torn
  have fits := fits_of_leads checked (h.leads found) found
  have fits' := fits_of_leads checked (h.leads found') found'
  have up := (childDefect?_eq_none.mp fits).1 l first
  have up' := (childDefect?_eq_none.mp fits').1 l second
  cases up.symm.trans up'
  exact Nat.lt_irrefl _ (h.climbing.child found q child)

end Rooted
end TreeLint.Tree
