import Mathlib.Data.List.Chain
import Mathlib.Logic.Relation
import TreeLint.Tree.Validate

/-! # Trees that grow

Whatever builds a tree builds it from the leaves: it makes some nodes, then a node above
them, and never touches a node that has a parent.  `Settled` says of a tree built so far
that all its links agree and that all spans fit; `Grows` says that one tree comes from
another by adding nodes, and which of the new nodes still wait for a parent.

The check that a tree is well-formed follows the children down from the root.  In a
settled tree it finds nothing wrong (`Settled.defect?_addProgram`): the parent links lead
from any node to one root only, so nothing is reached twice.

Less is said by `Steps`, which holds of all trees on the way and of those that are given up:
whatever was added was put above nodes that were there.
-/

namespace TreeLint

/-! ## References -/

namespace Ref

theorem mem_keep {id x : NodeId} {l : List NodeId} : x ∈ compact.keep id l ↔ x = id ∨ x ∈ l := by
  cases l with
  | nil => simp [compact.keep]
  | cons next rest =>
    rw [compact.keep]
    split
    next same => simp [same]
    · simp

theorem mem_compact {refs : List Ref} {id : NodeId} : id ∈ compact refs ↔ some id ∈ refs := by
  suffices h : ∀ ids : List NodeId, id ∈ ids.foldr compact.keep [] ↔ id ∈ ids by
    simp [compact, h]
  intro ids
  induction ids with
  | nil => rfl
  | cons head rest ih => rw [List.foldr_cons, mem_keep, ih, List.mem_cons]

theorem compact_singleton (id : NodeId) : compact [some id] = [id] := rfl

/-- One node in two parts is one child. -/
theorem compact_shared (r : Ref) : compact [r, r] = r.toList := by
  cases r with
  | none => rfl
  | some id => simp [compact, compact.keep]

theorem keep_append {id : NodeId} {l m : List NodeId} (h : id ∉ m) :
    compact.keep id (l ++ m) = compact.keep id l ++ m := by
  cases l with
  | nil =>
    cases m with
    | nil => rfl
    | cons next rest =>
      have : id ≠ next := fun same => h (same ▸ List.mem_cons_self)
      simp [compact.keep, this]
  | cons next rest =>
    simp only [List.cons_append, compact.keep]
    split <;> rfl

/-- Parts that have no node in common can be listed one after the other. -/
theorem compact_append {a b : List Ref} (h : (compact a ++ compact b).Nodup) :
    compact (a ++ b) = compact a ++ compact b := by
  have apart : ∀ x ∈ a.filterMap id, x ∉ compact b := by
    intro x mem
    rw [List.nodup_append] at h
    exact fun mem' => h.2.2 x (mem_compact.mpr (by simpa using mem)) x mem' rfl
  suffices join : ∀ ids : List NodeId, (∀ x ∈ ids, x ∉ compact b) →
      ids.foldr compact.keep (compact b) = ids.foldr compact.keep [] ++ compact b by
    have := join (a.filterMap id) apart
    rwa [compact, List.filterMap_append, List.foldr_append]
  intro ids apart
  induction ids with
  | nil => rfl
  | cons head rest ih =>
    rw [List.foldr_cons, List.foldr_cons, ih fun x mem => apart x (List.mem_cons_of_mem _ mem),
      keep_append (apart head List.mem_cons_self)]

theorem compact_cons {r : Ref} {refs : List Ref} (h : (r.toList ++ compact refs).Nodup) :
    compact (r :: refs) = r.toList ++ compact refs := by
  have single : compact [r] = r.toList := by cases r <;> rfl
  rw [← single] at h ⊢
  exact compact_append h

theorem compact_of_nodup {refs : List Ref} (h : (refs.filterMap id).Nodup) :
    compact refs = refs.filterMap id := by
  induction refs with
  | nil => rfl
  | cons r refs ih =>
    have split : (r :: refs).filterMap id = r.toList ++ refs.filterMap id := by
      cases r <;> rfl
    rw [split] at h ⊢
    have rest := ih (List.nodup_append.mp h).2.1
    rw [← rest] at h ⊢
    exact compact_cons h

end Ref

/-- What is handed over to a new node are its children: no field is forgotten. -/
theorem Shape.mem_adopted (s : Shape) {id : NodeId} : some id ∈ s.adopted ↔ some id ∈ s.refs := by
  have present : ∀ refs, some id ∈ adopted.present refs ↔ some id ∈ refs := by
    simp [adopted.present]
  cases s <;> simp [adopted, refs, present, or_assoc]

namespace Tree

/-! ## Adding a node -/

theorem node?_eq_none {t : Tree} {id : NodeId} : t.node? id = none ↔ t.size ≤ id.index := by
  simp [node?, size]

theorem index_lt_size {t : Tree} {id : NodeId} {n : Node} (h : t.node? id = some n) :
    id.index < t.size := by
  rw [← Nat.not_le, ← node?_eq_none, h]
  simp

theorem getElem?_adopt (p : NodeId) (nodes : Array Node) (child : Ref) (i : Nat) :
    (adopt p nodes child)[i]?
      = nodes[i]?.map fun n => if child = some ⟨i⟩ then { n with parent := some p } else n := by
  cases child with
  | none => simp [adopt]
  | some id =>
    obtain ⟨c⟩ := id
    rw [adopt, Array.getElem?_modify]
    by_cases same : c = i <;> simp [same]

theorem getElem?_foldl_adopt (p : NodeId) (children : List Ref) (nodes : Array Node) (i : Nat) :
    (children.foldl (adopt p) nodes)[i]?
      = nodes[i]?.map fun n =>
          if some ⟨i⟩ ∈ children then { n with parent := some p } else n := by
  induction children generalizing nodes with
  | nil => simp
  | cons child children ih =>
    rw [List.foldl_cons, ih, getElem?_adopt, Option.map_map]
    congr 1
    funext n
    by_cases first : child = some ⟨i⟩
    · simp [first]
    · simp [first, Ne.symm first]

section

variable (t : Tree) (span : Span) (shape : Shape)

theorem add_snd : (t.add span shape).2 = ⟨t.size⟩ := rfl

@[simp] theorem size_add : (t.add span shape).1.size = t.size + 1 := by
  have grown : ∀ (children : List Ref) (nodes : Array Node) (p : NodeId),
      (children.foldl (adopt p) nodes).size = nodes.size := by
    intro children
    induction children with
    | nil => intros; rfl
    | cons child children ih =>
      intro nodes p
      rw [List.foldl_cons, ih]
      cases child with
      | none => rfl
      | some id => rw [adopt, Array.size_modify]
  rw [size, add, grown, Array.size_push, size]

/-- The nodes after one has been added: the new one, and all others as they were but for
the parent of the children. -/
theorem node?_add (id : NodeId) :
    (t.add span shape).1.node? id
      = (if id.index = t.size then some ⟨span, none, shape⟩ else t.node? id).map fun n =>
          if id ∈ Ref.compact shape.refs then { n with parent := some ⟨t.size⟩ } else n := by
  obtain ⟨i⟩ := id
  simp only [node?, add, getElem?_foldl_adopt, Array.getElem?_push, size, Ref.mem_compact,
    shape.mem_adopted]
  rfl

variable {t span shape}

/-- The new node has no parent, for it is not its own child. -/
theorem node?_add_new (h : ⟨t.size⟩ ∉ Ref.compact shape.refs) :
    (t.add span shape).1.node? ⟨t.size⟩ = some ⟨span, none, shape⟩ := by
  rw [node?_add, if_pos rfl, Option.map_some, if_neg h]

theorem node?_add_child {id : NodeId} {n : Node} (found : t.node? id = some n)
    (h : id ∈ Ref.compact shape.refs) :
    (t.add span shape).1.node? id = some { n with parent := some ⟨t.size⟩ } := by
  rw [node?_add, if_neg (Nat.ne_of_lt (index_lt_size found)), found, Option.map_some, if_pos h]

theorem node?_add_other {id : NodeId} {n : Node} (found : t.node? id = some n)
    (h : id ∉ Ref.compact shape.refs) : (t.add span shape).1.node? id = some n := by
  rw [node?_add, if_neg (Nat.ne_of_lt (index_lt_size found)), found, Option.map_some, if_neg h]

/-- A node after the addition is the new one or an old one with the same span and shape. -/
theorem node?_of_add {id : NodeId} {n : Node} (h : (t.add span shape).1.node? id = some n) :
    (id = ⟨t.size⟩ ∧ n.span = span ∧ n.shape = shape) ∨
      ∃ old, t.node? id = some old ∧ n.span = old.span ∧ n.shape = old.shape ∧
        n.parent = if id ∈ Ref.compact shape.refs then some ⟨t.size⟩ else old.parent := by
  rw [node?_add] at h
  obtain ⟨old, from?, rfl⟩ := Option.map_eq_some_iff.mp h
  by_cases new : id.index = t.size
  · rw [if_pos new] at from?
    cases from?
    refine Or.inl ⟨congrArg NodeId.mk new, ?_⟩
    split <;> exact ⟨rfl, rfl⟩
  · rw [if_neg new] at from?
    refine Or.inr ⟨old, from?, ?_⟩
    split <;> exact ⟨rfl, rfl, rfl⟩

end

theorem span_of_node? {t : Tree} {id : NodeId} {n : Node} (h : t.node? id = some n) :
    t.span (some id) = n.span := by
  simp [span, deref?, h]

theorem parent_of_node? {t : Tree} {id : NodeId} {n : Node} (h : t.node? id = some n) :
    t.parent (some id) = n.parent := by
  simp [parent, deref?, h]

/-! ## Steps -/

/-- What is done to a tree at a time while it is built: a node is added above nodes that are there
already, a name is put in the table, or a node is made the root. -/
inductive Step (t : Tree) : Tree → Prop
  | node {span : Span} {shape : Shape} (present : ∀ c ∈ Ref.compact shape.refs, c.index < t.size) :
    Step t (t.add span shape).1
  | name (name : Text) : Step t { t with names := (t.names.intern name).1 }
  | root (r : Ref) : Step t { t with root := r }

/-- One tree comes from another step by step. -/
abbrev Steps : Tree → Tree → Prop := Relation.ReflTransGen Step

/-- No node is taken away again. -/
theorem Steps.size_le {t t' : Tree} (h : t.Steps t') : t.size ≤ t'.size := by
  induction h with
  | refl => exact Nat.le_refl _
  | tail _ step ih =>
    refine Nat.le_trans ih ?_
    cases step with
    | node => exact size_add _ _ _ ▸ Nat.le_succ _
    | name | root => exact Nat.le_refl _

/-! ## Children in line -/

/-- Spans of one file that lie inside another, in order and apart. -/
def Lined (outer : Span) (spans : List Span) : Prop :=
  (∀ s ∈ spans, outer.contains s) ∧ spans.IsChain fun a b => a.stop ≤ b.start

theorem childDefect?_eq_none {t : Tree} {id : NodeId} {children : List NodeId} :
    t.childDefect? id none children = none ↔
      (∀ c ∈ children, t.parent (some c) = some id) ∧
        Lined (t.span (some id)) (children.map fun c => t.span (some c)) := by
  suffices h : ∀ previous? : Option UInt32, t.childDefect? id previous? children = none ↔
      (∀ c ∈ children, t.parent (some c) = some id) ∧
        (∀ c ∈ children, (t.span (some id)).contains (t.span (some c))) ∧
        (∀ e ∈ previous?, ∀ c ∈ children.head?, e ≤ (t.span (some c)).start) ∧
        (children.map fun c => t.span (some c)).IsChain fun a b => a.stop ≤ b.start by
    simpa [Lined] using h none
  induction children with
  | nil => simp [childDefect?]
  | cons c rest ih =>
    intro previous?
    have next : (∀ e ∈ some (t.span (some c)).stop, ∀ d ∈ rest.head?, e ≤ (t.span (some d)).start) ∧
        (rest.map fun c => t.span (some c)).IsChain (fun a b => a.stop ≤ b.start) ↔
        ((c :: rest).map fun c => t.span (some c)).IsChain fun a b => a.stop ≤ b.start := by
      cases rest <;> simp
    simp only [childDefect?]
    split
    next wrong =>
      constructor
      · intro h
        contradiction
      · intro h
        exact absurd (h.1 c List.mem_cons_self) wrong
    next right =>
      split
      next escapes =>
        simp only [Bool.not_eq_true', reduceCtorEq, List.mem_cons, forall_eq_or_imp, false_iff]
          at escapes ⊢
        simp [escapes]
      next inside =>
        split
        next overlaps =>
          obtain ⟨e, rfl, before⟩ : ∃ e, previous? = some e ∧ (t.span (some c)).start < e := by
            cases previous? <;> simp_all
          simp only [reduceCtorEq, false_iff]
          rintro ⟨-, -, apart, -⟩
          exact absurd (apart e rfl c rfl) (UInt32.not_le.mpr before)
        next apart =>
          have apart : ∀ e ∈ previous?, e ≤ (t.span (some c)).start := by
            cases previous? <;> simp_all
          rw [ih, ← next]
          simp only [List.mem_cons, forall_eq_or_imp, List.head?_cons, Option.mem_some_iff,
            forall_eq']
          simp only [Bool.not_eq_true', Bool.not_eq_false, Decidable.not_not] at inside right
          tauto

/-! ## Settled trees -/

/-- A tree whose links agree and whose spans, all of which have the property, fit. -/
structure Settled (P : Span → Prop) (t : Tree) : Prop where
  spans : ∀ {id n}, t.node? id = some n → P n.span
  below : ∀ {id n}, t.node? id = some n → ∀ c ∈ n.children, c.index < id.index
  nodup : ∀ {id n}, t.node? id = some n → n.children.Nodup
  linked : ∀ {id n p}, t.node? id = some n → n.parent = some p →
    ∃ m, t.node? p = some m ∧ id ∈ m.children
  fits : ∀ {id n}, t.node? id = some n → t.childDefect? id none n.children = none

theorem settled_empty (P : Span → Prop) (file : FileId) : (Tree.empty file).Settled P := by
  constructor <;> intros <;> contradiction

namespace Settled

variable {P : Span → Prop} {t : Tree}

theorem mono {Q : Span → Prop} (h : t.Settled P) (weaker : ∀ s, P s → Q s) : t.Settled Q where
  spans found := weaker _ (h.spans found)
  below := h.below
  nodup := h.nodup
  linked := h.linked
  fits := h.fits

/-- All that is asked of a settled tree is asked of its nodes. -/
theorem of_nodes (h : t.Settled P) {u : Tree} (same : u.nodes = t.nodes) : u.Settled P := by
  obtain ⟨file, root, nodes, names⟩ := u
  cases same
  refine ⟨h.spans, h.below, h.nodup, h.linked, fun found => ?_⟩
  exact childDefect?_eq_none.mpr ((childDefect?_eq_none (t := t)).mp (h.fits found))

theorem parent_child (h : t.Settled P) {id c : NodeId} {n : Node} (found : t.node? id = some n)
    (mem : c ∈ n.children) : t.parent (some c) = some id :=
  (childDefect?_eq_none.mp (h.fits found)).1 c mem

/-- Parents come after their children. -/
theorem index_lt_parent (h : t.Settled P) {id p : NodeId} (up : t.parent (some id) = some p) :
    id.index < p.index := by
  cases found : t.node? id with
  | none => simp [parent, deref?, found] at up
  | some n =>
    rw [parent_of_node? found] at up
    obtain ⟨m, found', mem⟩ := h.linked found up
    exact h.below found' id mem

theorem add (h : t.Settled P) {s : Span} {shape : Shape} (good : P s)
    (nodup : (Ref.compact shape.refs).Nodup)
    (orphans : ∀ c ∈ Ref.compact shape.refs, ∃ n, t.node? c = some n ∧ n.parent = none)
    (lined : Lined s ((Ref.compact shape.refs).map fun c => t.span (some c))) :
    (t.add s shape).1.Settled P := by
  have old : ∀ c ∈ Ref.compact shape.refs, c.index < t.size := by
    intro c mem
    obtain ⟨n, found, -⟩ := orphans c mem
    exact index_lt_size found
  have self : ⟨t.size⟩ ∉ Ref.compact shape.refs := fun mem => Nat.lt_irrefl _ (old _ mem)
  have span_old : ∀ {id n}, t.node? id = some n →
      (t.add s shape).1.span (some id) = t.span (some id) := by
    intro id n found
    by_cases mem : id ∈ Ref.compact shape.refs
    · rw [span_of_node? (node?_add_child found mem), span_of_node? found]
    · rw [span_of_node? (node?_add_other found mem), span_of_node? found]
  refine ⟨?_, ?_, ?_, ?_, ?_⟩
  · intro id n found
    obtain ⟨rfl, rfl, -⟩ | ⟨m, found', same, -⟩ := node?_of_add found
    · exact good
    · exact same ▸ h.spans found'
  · intro id n found c mem
    obtain ⟨rfl, -, rfl⟩ | ⟨m, found', -, same, -⟩ := node?_of_add found
    · exact old c mem
    · rw [Node.children, same] at mem
      exact h.below found' c mem
  · intro id n found
    obtain ⟨rfl, -, rfl⟩ | ⟨m, found', -, same, -⟩ := node?_of_add found
    · exact nodup
    · rw [Node.children, same]
      exact h.nodup found'
  · intro id n p found up
    obtain ⟨rfl, -, -⟩ | ⟨m, found', -, same, parent⟩ := node?_of_add found
    · rw [node?_add_new self] at found
      cases found
      contradiction
    · rw [up] at parent
      split at parent
      next mem =>
        cases parent
        exact ⟨_, node?_add_new self, mem⟩
      · obtain ⟨q, above, mem⟩ := h.linked found' parent.symm
        by_cases adopted : p ∈ Ref.compact shape.refs
        · exact ⟨_, node?_add_child above adopted, mem⟩
        · exact ⟨_, node?_add_other above adopted, mem⟩
  · intro id n found
    obtain ⟨rfl, -, rfl⟩ | ⟨m, found', -, same, -⟩ := node?_of_add found
    · refine childDefect?_eq_none.mpr ⟨fun c mem => ?_, ?_⟩
      · obtain ⟨m, there, -⟩ := orphans c mem
        rw [parent_of_node? (node?_add_child there mem)]
      · rw [span_of_node? (node?_add_new self), Node.children]
        have spans : (Ref.compact n.shape.refs).map (fun c => (t.add s n.shape).1.span (some c))
            = (Ref.compact n.shape.refs).map fun c => t.span (some c) := by
          refine List.map_congr_left fun c mem => ?_
          obtain ⟨m, there, -⟩ := orphans c mem
          exact span_old there
        rw [spans]
        exact lined
    · obtain ⟨parents, fit⟩ := childDefect?_eq_none.mp (h.fits found')
      have there : ∀ c ∈ m.children, ∃ k, t.node? c = some k ∧ c ∉ Ref.compact shape.refs := by
        intro c mem
        cases below : t.node? c with
        | none =>
          have up := parents c mem
          simp [parent, deref?, below] at up
        | some k =>
          refine ⟨k, rfl, fun adopted => ?_⟩
          obtain ⟨k', below', orphan⟩ := orphans c adopted
          have up := parents c mem
          rw [parent_of_node? below', orphan] at up
          contradiction
      rw [Node.children, same]
      refine childDefect?_eq_none.mpr ⟨fun c mem => ?_, ?_⟩
      · obtain ⟨k, below, kept⟩ := there c mem
        rw [parent_of_node? (node?_add_other below kept), ← parent_of_node? below]
        exact parents c mem
      · have spans : m.children.map (fun c => (t.add s shape).1.span (some c))
            = m.children.map fun c => t.span (some c) := by
          refine List.map_congr_left fun c mem => ?_
          obtain ⟨k, below, -⟩ := there c mem
          exact span_old below
        rw [← Node.children, spans, span_old found']
        exact fit

end Settled

/-! ## Growth -/

/-- A settled tree that comes from another one by adding nodes; those listed are new and
have no parent yet. -/
structure Grows (P : Span → Prop) (t t' : Tree) (ids : List NodeId) : Prop where
  kept : ∀ {id n}, t.node? id = some n → t'.node? id = some n
  settled : t'.Settled P
  nodup : ids.Nodup
  new : ∀ id ∈ ids, t.node? id = none
  orphan : ∀ id ∈ ids, ∃ n, t'.node? id = some n ∧ n.parent = none

namespace Grows

variable {P : Span → Prop} {t t' t'' : Tree} {ids ids' : List NodeId}

theorem refl (h : t.Settled P) : Grows P t t [] :=
  ⟨id, h, List.nodup_nil, fun _ mem => absurd mem List.not_mem_nil,
    fun _ mem => absurd mem List.not_mem_nil⟩

theorem size_le (h : Grows P t t' ids) : t.size ≤ t'.size := by
  by_contra less
  cases found : t.node? ⟨t'.size⟩ with
  | none => exact less (node?_eq_none.mp found)
  | some n => exact Nat.lt_irrefl _ (index_lt_size (h.kept found))

theorem span_kept (h : Grows P t t' ids) {id : NodeId} {n : Node} (found : t.node? id = some n) :
    t'.span (some id) = t.span (some id) := by
  rw [span_of_node? (h.kept found), span_of_node? found]

theorem trans (h : Grows P t t' ids) (h' : Grows P t' t'' ids') :
    Grows P t t'' (ids ++ ids') := by
  refine ⟨fun found => h'.kept (h.kept found), h'.settled, ?_, ?_, ?_⟩
  · refine List.nodup_append.mpr ⟨h.nodup, h'.nodup, ?_⟩
    rintro a mem _ mem' rfl
    obtain ⟨n, found, -⟩ := h.orphan a mem
    rw [h'.new a mem'] at found
    contradiction
  · intro id mem
    obtain mem | mem := List.mem_append.mp mem
    · exact h.new id mem
    · cases found : t.node? id with
      | none => rfl
      | some n => exact absurd (h'.new id mem) (by rw [h.kept found]; simp)
  · intro id mem
    obtain mem | mem := List.mem_append.mp mem
    · obtain ⟨n, found, orphan⟩ := h.orphan id mem
      exact ⟨n, h'.kept found, orphan⟩
    · exact h'.orphan id mem

/-- Fewer of the new nodes, in any order. -/
theorem subperm (h : Grows P t t' ids) (nodup : ids'.Nodup) (sub : ids' ⊆ ids) :
    Grows P t t' ids' :=
  ⟨h.kept, h.settled, nodup, fun id mem => h.new id (sub mem), fun id mem => h.orphan id (sub mem)⟩

theorem sublist (h : Grows P t t' ids) (sub : ids'.Sublist ids) : Grows P t t' ids' :=
  h.subperm (h.nodup.sublist sub) sub.subset

/-- A new node above nodes that wait for a parent. -/
theorem add (h : Grows P t t' ids) {s : Span} {shape : Shape} (good : P s)
    (children : Ref.compact shape.refs = ids)
    (lined : Lined s (ids.map fun c => t'.span (some c))) :
    Grows P t (t'.add s shape).1 [(t'.add s shape).2] := by
  subst children
  have self : ⟨t'.size⟩ ∉ Ref.compact shape.refs := by
    intro mem
    obtain ⟨n, found, -⟩ := h.orphan _ mem
    exact Nat.lt_irrefl _ (index_lt_size found)
  refine ⟨?_, h.settled.add good h.nodup h.orphan lined, by simp, ?_, ?_⟩
  · intro id n found
    refine node?_add_other (h.kept found) fun mem => ?_
    rw [h.new id mem] at found
    contradiction
  · simp only [List.mem_singleton, forall_eq, add_snd, node?_eq_none]
    exact h.size_le
  · simp only [List.mem_singleton, forall_eq, add_snd]
    exact ⟨_, node?_add_new self, rfl⟩

theorem mono {Q : Span → Prop} (h : Grows P t t' ids) (weaker : ∀ s, P s → Q s) :
    Grows Q t t' ids :=
  ⟨h.kept, h.settled.mono weaker, h.nodup, h.new, h.orphan⟩

theorem withNames (h : Grows P t t' ids) (names : Names) :
    Grows P t { t' with names } ids :=
  ⟨h.kept, h.settled.of_nodes rfl, h.nodup, h.new, h.orphan⟩

end Grows

/-! ## No defect -/

/-- The nodes from which the parent links lead to a node, itself included. -/
def Under (t : Tree) : NodeId → NodeId → Prop :=
  Relation.ReflTransGen fun x y => t.parent (some x) = some y

namespace Settled

variable {P : Span → Prop} {t : Tree}

theorem index_le_of_under (h : t.Settled P) {x y : NodeId} (under : t.Under x y) :
    x.index ≤ y.index := by
  induction under with
  | refl => exact Nat.le_refl _
  | tail _ up ih => exact Nat.le_trans ih (Nat.le_of_lt (h.index_lt_parent up))

/-- No node is under two siblings. -/
theorem eq_of_under (h : t.Settled P) {x a b p : NodeId} (up : t.parent (some a) = some p)
    (up' : t.parent (some b) = some p) (under : t.Under x a) (under' : t.Under x b) : a = b := by
  have unique : Relator.RightUnique fun x y => t.parent (some x) = some y := by
    intro x y z first second
    exact Option.some.inj (first.symm.trans second)
  -- One of the two is under the other, and if it is not the same node it lies above `p`.
  have apart : ∀ {a b : NodeId}, t.parent (some a) = some p → t.parent (some b) = some p →
      t.Under a b → a = b := by
    intro a b up up' under
    cases Relation.ReflTransGen.cases_head under with
    | inl same => exact same
    | inr step =>
      obtain ⟨q, first, rest⟩ := step
      cases first.symm.trans up
      exact absurd (h.index_le_of_under rest) (Nat.not_le.mpr (h.index_lt_parent up'))
  obtain ab | ba := Relation.ReflTransGen.total_of_right_unique unique under under'
  · exact apart up up' ab
  · exact (apart up' up ba).symm

/-- Below a node of a settled tree nothing is wrong, and only nodes under it are seen. -/
theorem checkWithin_ok (h : t.Settled P) {depth : Nat} {id : NodeId} (deep : id.index < depth)
    {seen : List NodeId} (unseen : ∀ x ∈ seen, ¬ t.Under x id) :
    ∃ seen', t.checkWithin depth seen id = .ok seen' ∧
      ∀ x ∈ seen', x ∈ seen ∨ t.Under x id := by
  induction depth generalizing id seen with
  | zero => contradiction
  | succ depth ih =>
    rw [checkWithin]
    cases found : t.node? id with
    | none => exact ⟨seen, rfl, fun x mem => Or.inl mem⟩
    | some n =>
      have fresh : seen.contains id = false := by
        rw [List.contains_eq_mem, decide_eq_false_iff_not]
        exact fun mem => unseen id mem .refl
      simp only [fresh, Bool.false_eq_true, if_false, h.fits found]
      suffices fold : ∀ (done todo : List NodeId) (mid : List NodeId), done ++ todo = n.children →
          (∀ x ∈ mid, x ∈ id :: seen ∨ ∃ c ∈ done, t.Under x c) →
          ∃ seen', todo.foldlM (fun seen c => t.checkWithin depth seen c) mid = .ok seen' ∧
            ∀ x ∈ seen', x ∈ id :: seen ∨ ∃ c ∈ n.children, t.Under x c by
        obtain ⟨seen', checked, all⟩ := fold [] n.children (id :: seen) rfl fun x mem => .inl mem
        refine ⟨seen', checked, fun x mem => ?_⟩
        obtain mem | ⟨c, child, under⟩ := all x mem
        · obtain rfl | mem := List.mem_cons.mp mem
          · exact .inr .refl
          · exact .inl mem
        · exact .inr (under.tail (h.parent_child found child))
      intro done todo
      induction todo generalizing done with
      | nil =>
        intro mid split all
        rw [List.append_nil] at split
        exact ⟨mid, rfl, split ▸ all⟩
      | cons c todo more =>
        intro mid split all
        have child : c ∈ n.children := by simp [← split]
        have new : ∀ x ∈ mid, ¬ t.Under x c := by
          intro x mem under
          obtain mem | ⟨d, earlier, under'⟩ := all x mem
          · obtain rfl | mem := List.mem_cons.mp mem
            · have := h.index_le_of_under under
              exact Nat.not_lt.mpr this (h.below found c child)
            · exact unseen x mem (under.tail (h.parent_child found child))
          · have sibling : d ∈ n.children := by simp [← split, earlier]
            have same := h.eq_of_under (h.parent_child found child) (h.parent_child found sibling)
              under under'
            have nodup := h.nodup found
            rw [← split, List.nodup_append] at nodup
            exact nodup.2.2 d earlier c List.mem_cons_self same.symm
        have shallow : c.index < depth := by
          have := h.below found c child
          omega
        obtain ⟨mid', checked, all'⟩ := ih shallow new
        rw [List.foldlM_cons, checked]
        refine more (done ++ [c]) mid' (by simp [split]) fun x mem => ?_
        obtain mem | under := all' x mem
        · obtain old | ⟨d, earlier, under⟩ := all x mem
          · exact .inl old
          · exact .inr ⟨d, List.mem_append_left _ earlier, under⟩
        · exact .inr ⟨c, by simp, under⟩

theorem defect?_eq_none (h : t.Settled P) {root : NodeId} {n : Node} (at_root : t.root = some root)
    (found : t.node? root = some n) (program : n.kind = .program) (top : n.parent = none) :
    t.defect? = none := by
  have kind : t.hasKind (some root) .program = true := by
    simp [hasKind, kind?, deref?, found, program]
  have parent : t.parent (some root) = none := by rw [parent_of_node? found, top]
  have deep : root.index < t.size + 1 := Nat.lt_succ_of_lt (index_lt_size found)
  obtain ⟨seen', checked, -⟩ := h.checkWithin_ok deep (fun x mem => absurd mem List.not_mem_nil)
  simp [defect?, at_root, kind, parent, checked]

end Settled

/-- Adding a program above all that waits for a parent makes a tree without defect. -/
theorem Grows.defect?_addProgram {P : Span → Prop} {t t' : Tree} {ids : List NodeId}
    (h : Grows P t t' ids) {s : Span} {p : Program} (good : P s)
    (children : Ref.compact p.body = ids)
    (lined : Lined s (ids.map fun c => t'.span (some c))) :
    (t'.addProgram s p).1.defect? = none := by
  have grown : Grows P t (t'.add s (.program p)).1 [(t'.add s (.program p)).2] :=
    h.add good children lined
  obtain ⟨n, found, top⟩ := grown.orphan _ (List.mem_singleton_self _)
  have shape : n.shape = .program p := by
    obtain ⟨-, -, shape⟩ | ⟨old, found', -⟩ := node?_of_add found
    · exact shape
    · exact absurd (index_lt_size found') (Nat.lt_irrefl _)
  have settled : (t'.addProgram s p).1.Settled P := grown.settled.of_nodes rfl
  exact settled.defect?_eq_none rfl found (by rw [Node.kind, shape]; rfl) top

end Tree
end TreeLint
