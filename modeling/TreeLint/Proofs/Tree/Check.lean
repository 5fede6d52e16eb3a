import Mathlib.Data.List.Nodup
import Mathlib.Data.List.Perm.Subperm
import TreeLint.Proofs.Tree.Ascent

/-! # What passes the check

The check of a tree looks at a node and its children, then at each child, and refuses a
node that it has seen before.  That alone makes it end, whatever refers to what: every node
it goes on from is new, and there are only so many (`Tree.checks_of_continues`).  `Checks` is
the same check with nothing to limit its depth, so the limit of `checkWithin` is one that is
never met (`Tree.validates_iff`).

When the check finds nothing, it has followed the children along a finite tree.  `Branch` is
such a tree written out; what has been seen at the end is what had been seen before and the
nodes of the branch, none of them twice (`Tree.grown_of_checkWithin`).  All that is known of
a tree without defect is read off this branch (`Tree.Planted`).
-/

namespace TreeLint

/-! ## Finite trees -/

/-- A finite tree of nodes, written out. -/
inductive Branch where
  | node (id : NodeId) (below : List Branch)

namespace Branch

def top : Branch → NodeId
  | node id _ => id

/-- The nodes, each before those below it. -/
def ids : Branch → List NodeId
  | node id below => id :: below.flatMap ids

/-- In the tree each node has just the children it has in the branch. -/
inductive Of (t : Tree) : Branch → Prop where
  | node {id n below} (found : t.node? id = some n) (children : n.children = below.map top)
    (each : ∀ b ∈ below, Of t b) : Of t (.node id below)

theorem top_mem_ids (b : Branch) : b.top ∈ b.ids := by
  cases b with
  | node id below =>
    rw [ids]
    exact List.mem_cons_self

theorem ids_sublist {b : Branch} {below : List Branch} (mem : b ∈ below) :
    b.ids.Sublist (below.flatMap ids) := by
  rw [List.flatMap_def]
  exact List.sublist_flatten_of_mem (List.mem_map_of_mem mem)

namespace Of

variable {t : Tree} {b : Branch}

/-- The children of a node of a branch are nodes of it. -/
theorem child_mem (h : b.Of t) {id c : NodeId} (mem : id ∈ b.ids) {n : Node}
    (found : t.node? id = some n) (child : c ∈ n.children) : c ∈ b.ids := by
  induction h with
  | @node top m below here children each ih =>
    rw [ids] at mem ⊢
    cases List.mem_cons.mp mem with
    | inl same =>
      cases same
      cases here.symm.trans found
      rw [children] at child
      obtain ⟨b, under, rfl⟩ := List.mem_map.mp child
      exact List.mem_cons_of_mem _ (List.mem_flatMap.mpr ⟨b, under, b.top_mem_ids⟩)
    | inr deeper =>
      obtain ⟨b, under, mem⟩ := List.mem_flatMap.mp deeper
      exact List.mem_cons_of_mem _ (List.mem_flatMap.mpr ⟨b, under, ih b under mem⟩)

/-- A node of a branch is the top of a branch within it. -/
theorem part (h : b.Of t) {id : NodeId} (mem : id ∈ b.ids) :
    ∃ b' : Branch, b'.top = id ∧ b'.Of t ∧ b'.ids.Sublist b.ids := by
  induction h with
  | @node top m below here children each ih =>
    rw [ids] at mem
    cases List.mem_cons.mp mem with
    | inl same =>
      cases same
      exact ⟨_, rfl, .node here children each, .refl _⟩
    | inr deeper =>
      obtain ⟨b, under, mem⟩ := List.mem_flatMap.mp deeper
      obtain ⟨b', same, shown, sub⟩ := ih b under mem
      refine ⟨b', same, shown, sub.trans ?_⟩
      rw [ids]
      exact (ids_sublist under).cons _

/-- The nodes of a branch are those its top leads to. -/
theorem mem_ids_iff (h : b.Of t) {id : NodeId} : id ∈ b.ids ↔ t.Leads b.top id := by
  constructor
  · intro mem
    induction h with
    | @node top m below here children each ih =>
      rw [ids] at mem
      cases List.mem_cons.mp mem with
      | inl same =>
        rw [same]
        exact .refl
      | inr deeper =>
        obtain ⟨b, under, mem⟩ := List.mem_flatMap.mp deeper
        have child : b.top ∈ m.children := children ▸ List.mem_map_of_mem under
        exact (ih b under mem).head ⟨m, here, child⟩
  · intro leads
    induction leads with
    | refl => exact b.top_mem_ids
    | tail _ step ih =>
      obtain ⟨n, found, child⟩ := step
      exact h.child_mem ih found child

theorem present (h : b.Of t) {id : NodeId} (mem : id ∈ b.ids) : ∃ n, t.node? id = some n := by
  obtain ⟨b', rfl, shown, -⟩ := h.part mem
  cases shown with
  | node found => exact ⟨_, found⟩

end Of
end Branch

namespace Tree

/-- Nodes of a table that are all different are no more than it has. -/
theorem length_le_size {t : Tree} {ids : List NodeId} (nodup : ids.Nodup)
    (present : ∀ id ∈ ids, id.index < t.size) : ids.length ≤ t.size := by
  have places : (ids.map NodeId.index).Nodup := by
    refine List.Nodup.map (fun a b same => ?_) nodup
    cases a
    cases b
    exact congrArg NodeId.mk same
  have sub : ids.map NodeId.index ⊆ List.range t.size := by
    intro i place
    obtain ⟨id, mem, rfl⟩ := List.mem_map.mp place
    exact List.mem_range.mpr (present id mem)
  simpa using (places.subperm sub).length_le

/-! ## The check without a limit -/

/-- What the check comes to when some nodes have been seen and others are still to be looked
at, each before what is below it. -/
inductive Checks (t : Tree) : (seen todo : List NodeId) → Except Defect (List NodeId) → Prop where
  | done {seen} : Checks t seen [] (.ok seen)
  | absent {seen id todo verdict} (missing : t.node? id = none) (rest : Checks t seen todo verdict) :
    Checks t seen (id :: todo) verdict
  | again {seen id todo n} (found : t.node? id = some n) (old : id ∈ seen) :
    Checks t seen (id :: todo) (.error (.reachedTwice id))
  | misfit {seen id todo n d} (found : t.node? id = some n) (new : id ∉ seen)
    (defect : t.childDefect? id none n.children = some d) : Checks t seen (id :: todo) (.error d)
  | descend {seen id todo n verdict} (found : t.node? id = some n) (new : id ∉ seen)
    (fits : t.childDefect? id none n.children = none)
    (rest : Checks t (id :: seen) (n.children ++ todo) verdict) :
    Checks t seen (id :: todo) verdict

variable {t : Tree}

theorem Checks.unique {seen todo : List NodeId} {v v' : Except Defect (List NodeId)}
    (h : t.Checks seen todo v) (h' : t.Checks seen todo v') : v = v' := by
  induction h with
  | done =>
    cases h'
    rfl
  | absent missing rest ih => cases h' <;> simp_all
  | again found old => cases h' <;> simp_all
  | misfit found new defect => cases h' <;> simp_all
  | descend found new fits rest ih => cases h' <;> simp_all

/-- From the verdict on some nodes that on those after them follows, unless it is a defect. -/
def Continues (t : Tree) (todo : List NodeId) (v : Except Defect (List NodeId)) :
    Except Defect (List NodeId) → Prop
  | .ok seen => t.Checks seen todo v
  | .error d => v = .error d

/-! ## What has been seen -/

/-- A check without defect has seen the nodes of branches below those it was given, and
none that had been seen before. -/
structure Grown (t : Tree) (seen : List NodeId) (tops : List NodeId) (below : List Branch)
    (seen' : List NodeId) : Prop where
  tops : below.map Branch.top = tops
  shown : ∀ b ∈ below, b.Of t
  seen_eq : seen' = (below.flatMap Branch.ids).reverse ++ seen
  nodup : seen.Nodup → seen'.Nodup

theorem Grown.nil (seen : List NodeId) : t.Grown seen [] [] seen :=
  ⟨rfl, by simp, by simp, id⟩

theorem Grown.cons {seen mid seen' tops : List NodeId} {id : NodeId} {b : Branch}
    {below : List Branch} (first : t.Grown seen [id] [b] mid) (rest : t.Grown mid tops below seen') :
    t.Grown seen (id :: tops) (b :: below) seen' where
  tops := by
    have top := first.tops
    simp only [List.map_cons, List.map_nil] at top
    rw [List.map_cons, rest.tops, List.singleton_inj.mp top]
  shown := by
    intro b' mem
    cases List.mem_cons.mp mem with
    | inl same => exact first.shown b' (by simp [same])
    | inr mem => exact rest.shown b' mem
  seen_eq := by
    rw [rest.seen_eq, first.seen_eq]
    simp
  nodup fresh := rest.nodup (first.nodup fresh)

/-- The children of a node that fits are there. -/
theorem exists_node?_of_fits {id : NodeId} {children : List NodeId}
    (fits : t.childDefect? id none children = none) : ∀ c ∈ children, ∃ n, t.node? c = some n := by
  intro c mem
  have up := (childDefect?_eq_none.mp fits).1 c mem
  cases found : t.node? c with
  | none => simp [parent, deref?, found] at up
  | some n => exact ⟨n, rfl⟩

/-- Nodes checked one after the other, by a check that follows branches. -/
theorem grown_of_foldlM {check : List NodeId → NodeId → Except Defect (List NodeId)}
    (each : ∀ {seen seen' id n}, check seen id = .ok seen' → t.node? id = some n →
      ∃ b, t.Grown seen [id] [b] seen')
    {ids seen seen' : List NodeId} (present : ∀ id ∈ ids, ∃ n, t.node? id = some n)
    (run : ids.foldlM check seen = .ok seen') : ∃ below, t.Grown seen ids below seen' := by
  induction ids generalizing seen with
  | nil =>
    cases run
    exact ⟨[], .nil _⟩
  | cons id ids ih =>
    obtain ⟨⟨n, found⟩, there⟩ := List.forall_mem_cons.mp present
    rw [List.foldlM_cons] at run
    cases first : check seen id with
    | error d => simp [first, bind, Except.bind] at run
    | ok mid =>
      simp only [first, bind, Except.bind] at run
      obtain ⟨b, here⟩ := each first found
      obtain ⟨below, rest⟩ := ih there run
      exact ⟨b :: below, here.cons rest⟩

/-- A node that is new and fits stands above the branches of its children. -/
theorem Grown.above {seen seen' : List NodeId} {id : NodeId} {n : Node} {below : List Branch}
    (h : t.Grown (id :: seen) n.children below seen') (found : t.node? id = some n)
    (new : id ∉ seen) : t.Grown seen [id] [.node id below] seen' where
  tops := rfl
  shown := by
    intro b mem
    cases List.mem_singleton.mp mem
    exact .node found h.tops.symm h.shown
  seen_eq := by simp [h.seen_eq, Branch.ids]
  nodup fresh := h.nodup (List.nodup_cons.mpr ⟨new, fresh⟩)

theorem grown_of_checkWithin {depth : Nat} {seen seen' : List NodeId} {id : NodeId} {n : Node}
    (checked : t.checkWithin depth seen id = .ok seen') (found : t.node? id = some n) :
    ∃ b, t.Grown seen [id] [b] seen' := by
  induction depth generalizing seen seen' id n with
  | zero => contradiction
  | succ depth ih =>
    simp only [checkWithin, found, List.contains_eq_mem, decide_eq_true_eq] at checked
    split at checked
    · contradiction
    next new =>
      split at checked
      · contradiction
      next fits =>
        obtain ⟨below, grown⟩ := grown_of_foldlM ih (exists_node?_of_fits fits) checked
        exact ⟨_, grown.above found new⟩

theorem Grown.present {seen tops seen' : List NodeId} {below : List Branch}
    (h : t.Grown seen tops below seen') (present : ∀ id ∈ seen, id.index < t.size) :
    ∀ id ∈ seen', id.index < t.size := by
  intro id mem
  rw [h.seen_eq, List.mem_append, List.mem_reverse] at mem
  cases mem with
  | inl new =>
    obtain ⟨b, shown, mem⟩ := List.mem_flatMap.mp new
    obtain ⟨n, found⟩ := (h.shown b shown).present mem
    exact index_lt_size found
  | inr old => exact present id old

/-! ## The check ends -/

/-- Nodes checked one after the other: what is seen below one only adds to what the next
starts from, so a limit that is deep enough for the first is for all. -/
theorem checks_of_foldlM {depth : Nat} {todo : List NodeId} {v : Except Defect (List NodeId)}
    (each : ∀ {seen}, seen.Nodup → (∀ id ∈ seen, id.index < t.size) →
      t.size < depth + seen.length → ∀ {id todo}, t.Continues todo v (t.checkWithin depth seen id) →
      t.Checks seen (id :: todo) v)
    {ids seen : List NodeId} (there : ∀ id ∈ ids, ∃ n, t.node? id = some n) (nodup : seen.Nodup)
    (present : ∀ id ∈ seen, id.index < t.size) (deep : t.size < depth + seen.length)
    (next : t.Continues todo v (ids.foldlM (fun seen id => t.checkWithin depth seen id) seen)) :
    t.Checks seen (ids ++ todo) v := by
  induction ids generalizing seen with
  | nil => exact next
  | cons id ids ih =>
    obtain ⟨⟨n, found⟩, others⟩ := List.forall_mem_cons.mp there
    apply each nodup present deep
    rw [List.foldlM_cons] at next
    cases first : t.checkWithin depth seen id with
    | error d =>
      simp only [first, bind, Except.bind] at next
      exact next
    | ok mid =>
      simp only [first, bind, Except.bind] at next
      -- The first has added its branch to what was seen, so less is left for the others.
      obtain ⟨b, grown⟩ := grown_of_checkWithin first found
      apply ih others (grown.nodup nodup) (grown.present present) _ next
      rw [grown.seen_eq, List.length_append]
      omega

/-- As deep as there are nodes not seen yet the limit makes no difference. -/
theorem checks_of_continues {depth : Nat} {seen : List NodeId} (nodup : seen.Nodup)
    (present : ∀ id ∈ seen, id.index < t.size) (deep : t.size < depth + seen.length)
    {id : NodeId} {todo : List NodeId} {v : Except Defect (List NodeId)}
    (next : t.Continues todo v (t.checkWithin depth seen id)) : t.Checks seen (id :: todo) v := by
  induction depth generalizing seen id todo with
  | zero =>
    have := length_le_size nodup present
    omega
  | succ depth ih =>
    rw [checkWithin] at next
    cases found : t.node? id with
    | none =>
      rw [found] at next
      exact .absent found next
    | some n =>
      simp only [found, List.contains_eq_mem, decide_eq_true_eq] at next
      split at next
      next old =>
        cases next
        exact .again found old
      next new =>
        split at next
        next d misfit =>
          cases next
          exact .misfit found new misfit
        next fits =>
          have there := exists_node?_of_fits fits
          have present' : ∀ x ∈ id :: seen, x.index < t.size :=
            List.forall_mem_cons.mpr ⟨index_lt_size found, present⟩
          have deep' : t.size < depth + (id :: seen).length := by
            rw [List.length_cons]
            omega
          apply Checks.descend found new fits
          exact checks_of_foldlM ih there (List.nodup_cons.mpr ⟨new, nodup⟩) present' deep' next

/-- What validating a tree comes to: the first defect, or none. -/
inductive Validates (t : Tree) : Option Defect → Prop where
  | noProgram (h : ¬ t.hasKind t.root .program) : Validates t (some .noProgramRoot)
  | parented {root p} (at_root : t.root = some root) (program : t.hasKind t.root .program)
    (up : t.parent t.root = some p) : Validates t (some (.rootHasParent root p))
  | refused {root d} (at_root : t.root = some root) (program : t.hasKind t.root .program)
    (orphan : t.parent t.root = none) (checked : t.Checks [] [root] (.error d)) :
    Validates t (some d)
  | accepted {root seen} (at_root : t.root = some root) (program : t.hasKind t.root .program)
    (orphan : t.parent t.root = none) (checked : t.Checks [] [root] (.ok seen)) : Validates t none

theorem Validates.unique {v v' : Option Defect} (h : t.Validates v) (h' : t.Validates v') :
    v = v' := by
  cases h with
  | noProgram no => cases h' <;> simp_all
  | parented at_root program up => cases h' <;> simp_all
  | refused at_root program orphan checked =>
    cases h' with
    | noProgram no => exact absurd program no
    | parented at_root' _ up => simp_all
    | refused at_root' _ _ checked' =>
      cases at_root.symm.trans at_root'
      cases checked.unique checked'
      rfl
    | accepted at_root' _ _ checked' =>
      cases at_root.symm.trans at_root'
      cases checked.unique checked'
  | accepted at_root program orphan checked =>
    cases h' with
    | noProgram no => exact absurd program no
    | parented at_root' _ up => simp_all
    | refused at_root' _ _ checked' =>
      cases at_root.symm.trans at_root'
      cases checked.unique checked'
    | accepted => rfl

theorem validates_defect? (t : Tree) : t.Validates t.defect? := by
  unfold defect?
  split
  next no_root => exact .noProgram (by simp [no_root, hasKind, kind?, deref?])
  next root at_root =>
    split
    next program => exact .noProgram (by simpa using program)
    next program =>
      have program : t.hasKind t.root .program := by simpa using program
      split
      next p up => exact .parented at_root program up
      next orphan =>
        have checked {v} (next : t.Continues [] v (t.checkWithin (t.size + 1) [] root)) :
            t.Checks [] [root] v := checks_of_continues List.nodup_nil (by simp) (by simp) next
        split
        next seen fine =>
          rw [fine] at checked
          exact .accepted at_root program orphan (checked .done)
        next d defect =>
          rw [defect] at checked
          exact .refused at_root program orphan (checked rfl)

/-- Validating ends with one verdict on every tree, and that is what `defect?` tells. -/
theorem validates_iff {v : Option Defect} : t.Validates v ↔ t.defect? = v :=
  ⟨fun h => (validates_defect? t).unique h, fun h => h ▸ validates_defect? t⟩

/-! ## Trees without a defect -/

/-- A tree whose root is a program without parent, at the top of a branch in which no node
occurs twice and all spans and links are as they should be. -/
structure Planted (t : Tree) (root : NodeId) (b : Branch) : Prop where
  at_root : t.root = some root
  program : t.hasKind (some root) .program
  orphan : t.parent (some root) = none
  top : b.top = root
  shown : b.Of t
  nodup : b.ids.Nodup
  fits : ∀ {id n}, t.Leads root id → t.node? id = some n →
    t.childDefect? id none n.children = none

theorem exists_planted (fine : t.defect? = none) : ∃ root b, t.Planted root b := by
  cases at_root : t.root with
  | none => simp [defect?, at_root] at fine
  | some root =>
    simp only [defect?, at_root] at fine
    split at fine
    · contradiction
    next program =>
      split at fine
      · contradiction
      next orphan =>
        split at fine
        next seen checked =>
          simp only [Bool.not_eq_true', Bool.not_eq_false] at program
          obtain ⟨n, found, -⟩ := hasKind_iff.mp program
          obtain ⟨b, grown⟩ := grown_of_checkWithin checked found
          have nodup := grown.nodup List.nodup_nil
          refine ⟨root, b, at_root, program, orphan, List.singleton_inj.mp grown.tops,
            grown.shown b (by simp), ?_, fun leads found => fits_of_leads checked leads found⟩
          simpa [grown.seen_eq, List.nodup_reverse] using nodup
        · contradiction

namespace Planted

variable {root : NodeId} {b : Branch}

theorem mem_ids_iff (h : t.Planted root b) {id : NodeId} : id ∈ b.ids ↔ t.Leads root id :=
  h.top ▸ h.shown.mem_ids_iff

theorem length_ids_le (h : t.Planted root b) : b.ids.length ≤ t.size := by
  refine length_le_size h.nodup fun id mem => ?_
  obtain ⟨n, found⟩ := h.shown.present mem
  exact index_lt_size found

/-- Of the nodes the root leads to, each child knows its parent. -/
theorem parent_child (h : t.Planted root b) {id c : NodeId} (leads : t.Leads root id) {n : Node}
    (found : t.node? id = some n) (mem : c ∈ n.children) : t.parent (some c) = some id :=
  (childDefect?_eq_none.mp (h.fits leads found)).1 c mem

end Planted
end Tree
end TreeLint
