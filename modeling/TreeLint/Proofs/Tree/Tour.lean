import TreeLint.Proofs.Tree.Laminar

/-! # Walks and ways up

A walk goes down by the children, the way up goes by the parent links, and rules use both.
In a tree without defect they agree: whenever a walk enters a node, the nodes it has entered
and not left are the ancestors of that node, the nearest first (`Tree.Traces`).

The walk is read off the branch that the check has followed (`Branch.tour`).  It enters each
node of the branch once and leaves it once, and because spans are in order along the branch,
it comes by the nodes in the order of the source (`Tree.walk_nested`).
-/

namespace TreeLint

namespace Visit

def entered? : Visit → Option NodeId
  | enter id => some id
  | leave _ => none

def left? : Visit → Option NodeId
  | enter _ => none
  | leave id => some id

/-- The nodes that are open after a visit, the last one entered first.  Only that one may be
left. -/
def follow? (opened : List NodeId) : Visit → Option (List NodeId)
  | enter id => some (id :: opened)
  | leave id =>
    match opened with
    | [] => none
    | last :: rest => if last = id then some rest else none

/-- The nodes entered and not left after some visits; none if the visits are not nested. -/
def openAfter? (visits : List Visit) : Option (List NodeId) := visits.foldlM follow? []

end Visit

/-! ## Tours of a branch -/

namespace Branch

/-- The visits of a walk over a branch. -/
def tour : Branch → List Visit
  | node id below => .enter id :: below.flatMap tour ++ [.leave id]

/-- Nodes are entered in the order of the branch. -/
theorem entered_tour : ∀ b : Branch, b.tour.filterMap Visit.entered? = b.ids
  | node id below => by
    have each : ∀ b ∈ below, b.tour.filterMap Visit.entered? = b.ids := fun b _ => entered_tour b
    simp [tour, ids, Visit.entered?, List.filterMap_flatMap, List.flatMap_congr each]

/-- The nodes that are left are those that are entered, in another order. -/
theorem left_tour_perm : ∀ b : Branch, (b.tour.filterMap Visit.left?).Perm b.ids
  | node id below => by
    have each : ∀ b ∈ below, (b.tour.filterMap Visit.left?).Perm b.ids :=
      fun b _ => left_tour_perm b
    simp only [tour, ids, List.cons_append, List.filterMap_cons, List.filterMap_append,
      Visit.left?, List.filterMap_nil, List.filterMap_flatMap]
    exact (List.perm_append_singleton id _).trans ((List.Perm.flatMap_left below each).cons id)

end Branch

namespace Tree

variable {t : Tree} {root : NodeId} {b : Branch}

/-- All visits of a walk from the root. -/
def walk (t : Tree) : List Visit := t.visits (fun _ => false) t.root

/-- A walk that may go as deep as there are nodes below is the tour of the branch. -/
theorem visitsWithin_eq_tour (shown : b.Of t) {depth : Nat} (deep : b.ids.length ≤ depth) :
    t.visitsWithin (fun _ => false) depth b.top = b.tour := by
  induction shown generalizing depth with
  | @node id n below found children each ih =>
    rw [Branch.ids, List.length_cons] at deep
    cases depth with
    | zero => omega
    | succ depth =>
      -- Fewer nodes are below a child, so the depth that is left is enough for it.
      have part : ∀ b ∈ below, t.visitsWithin (fun _ => false) depth b.top = b.tour := by
        intro b mem
        have := (Branch.ids_sublist mem).length_le
        exact ih b mem (by omega)
      show t.visitsWithin (fun _ => false) (depth + 1) id = _
      rw [visitsWithin, Branch.tour, ← List.flatMap_congr part]
      simp [found, children, List.flatMap_map]

theorem find_eq_filter (start : Ref) (k : Kind) :
    t.find start k = ((t.visits (fun _ => false) start).filterMap Visit.entered?).filter
      fun id => t.hasKind (some id) k := by
  rw [find, List.filter_filterMap]
  congr 1
  funext v
  cases v with
  | enter id => simp [Visit.entered?, Option.filter]
  | leave id => rfl

/-! ## The way up -/

/-- The nodes that parent links lead through, up to one that has no parent. -/
inductive Ancestry (t : Tree) : NodeId → List NodeId → Prop where
  | top {id} (orphan : t.parent (some id) = none) : Ancestry t id []
  | step {id p above} (up : t.parent (some id) = some p) (more : Ancestry t p above) :
    Ancestry t id (p :: above)

theorem Ancestry.ancestorsWithin_eq {id : NodeId} {above : List NodeId} (h : t.Ancestry id above)
    {depth : Nat} (deep : above.length ≤ depth) :
    t.ancestorsWithin depth (some id) = above := by
  induction h generalizing depth with
  | top orphan => cases depth <;> simp [ancestorsWithin, orphan]
  | step up more ih =>
    cases depth with
    | zero => contradiction
    | succ depth => simp [ancestorsWithin, up, ih (Nat.le_of_succ_le_succ deep)]

/-! ## Both together -/

/-- Visits that leave what was entered last, and that enter a node only when its ancestors
are open and no others. -/
inductive Traces (t : Tree) : (opened : List NodeId) → List Visit → (last : List NodeId) → Prop
  | nil {opened} : Traces t opened [] opened
  | enter {opened last id visits} (up : t.Ancestry id opened) (deep : opened.length < t.size)
    (rest : Traces t (id :: opened) visits last) : Traces t opened (.enter id :: visits) last
  | leave {opened last id visits} (rest : Traces t opened visits last) :
    Traces t (id :: opened) (.leave id :: visits) last

namespace Traces

theorem append {opened mid last : List NodeId} {visits visits' : List Visit}
    (h : t.Traces opened visits mid) (h' : t.Traces mid visits' last) :
    t.Traces opened (visits ++ visits') last := by
  induction h with
  | nil => exact h'
  | enter up deep rest ih => exact .enter up deep (ih h')
  | leave rest ih => exact .leave (ih h')

/-- Visits one after the other, each of which leaves open what it found open. -/
theorem flatMap {α : Type} {opened : List NodeId} {tour : α → List Visit} {parts : List α}
    (each : ∀ a ∈ parts, t.Traces opened (tour a) opened) :
    t.Traces opened (parts.flatMap tour) opened := by
  induction parts with
  | nil => exact .nil
  | cons a parts ih =>
    rw [List.flatMap_cons]
    exact (each a List.mem_cons_self).append (ih fun b mem => each b (List.mem_cons_of_mem a mem))

theorem foldlM_eq {opened last : List NodeId} {visits : List Visit}
    (h : t.Traces opened visits last) : visits.foldlM Visit.follow? opened = some last := by
  induction h with
  | nil => rfl
  | enter up deep rest ih => exact ih
  | leave rest ih => simpa [Visit.follow?] using ih

/-- What is open when a node is entered. -/
theorem opened_at {opened last : List NodeId} {before after : List Visit} {id : NodeId}
    (h : t.Traces opened (before ++ .enter id :: after) last) :
    ∃ above, before.foldlM Visit.follow? opened = some above ∧ t.Ancestry id above ∧
      above.length < t.size := by
  induction before generalizing opened with
  | nil =>
    cases h with
    | enter up deep rest => exact ⟨opened, rfl, up, deep⟩
  | cons v before ih =>
    cases h with
    | enter up deep rest => exact ih rest
    | leave rest => simpa [Visit.follow?] using ih rest

end Traces

namespace Planted

/-- The tour of a branch below the root, begun when the ancestors of its top are open. -/
theorem traces (h : t.Planted root b) {b' : Branch} (shown : b'.Of t) (first : t.Leads root b'.top)
    {above : List NodeId} (up : t.Ancestry b'.top above)
    (deep : b'.ids.length + above.length ≤ t.size) : t.Traces above b'.tour above := by
  induction shown generalizing above with
  | @node id n below found children each ih =>
    rw [Branch.ids, List.length_cons] at deep
    -- While the children are toured, their parent is open on top of its own ancestors.
    have parts : t.Traces (id :: above) (below.flatMap Branch.tour) (id :: above) := by
      refine .flatMap fun b mem => ?_
      have child : b.top ∈ n.children := children ▸ List.mem_map_of_mem mem
      have fewer := (Branch.ids_sublist mem).length_le
      apply ih b mem (first.tail ⟨n, found, child⟩)
      · exact .step (h.parent_child first found child) up
      · rw [List.length_cons]
        omega
    rw [Branch.tour]
    exact .enter up (by omega) (parts.append (.leave .nil))

theorem walk_eq_tour (h : t.Planted root b) : t.walk = b.tour := by
  rw [walk, h.at_root, visits, ← h.top]
  exact visitsWithin_eq_tour h.shown h.length_ids_le

theorem walk_traces (h : t.Planted root b) : t.Traces [] t.walk [] := by
  rw [h.walk_eq_tour]
  apply h.traces h.shown
  · rw [h.top]
    exact .refl
  · rw [h.top]
    exact .top h.orphan
  · simpa using h.length_ids_le

/-- Along the branch no span begins before one that comes earlier. -/
theorem starts_in_order (h : t.Planted root b) (upright : t.Upright) :
    b.ids.Pairwise fun x y => (t.spanAt x).start ≤ (t.spanAt y).start := by
  refine (h.in_order upright).imp_of_mem ?_
  intro x y memX _ order
  have first := h.mem_ids_iff.mp memX
  cases order with
  | inl below => exact (Span.contains_iff.mp (h.contains first below)).2.1
  | inr apart => exact UInt32.le_trans (upright root h.at_root x first) apart

/-- What is found below a node is in the branch below it. -/
theorem find_eq (h : t.Planted root b) {b' : Branch} (shown : b'.Of t)
    (sub : b'.ids.Sublist b.ids) (k : Kind) :
    t.find (some b'.top) k = b'.ids.filter fun id => t.hasKind (some id) k := by
  have deep : b'.ids.length ≤ t.size := Nat.le_trans sub.length_le h.length_ids_le
  rw [find_eq_filter, visits, visitsWithin_eq_tour shown deep, Branch.entered_tour]

end Planted

/-- In a tree without defect a walk from the root enters every node it leads to once and
leaves it once, the last one entered first, and in the order of the source.  When it enters
a node the open nodes are its ancestors, the nearest first, so looking upward for a kind
finds the innermost open node of it; and looking downward finds nodes in the order of the
walk. -/
theorem walk_nested (t : Tree) (fine : t.defect? = none) (upright : t.Upright) :
    ∃ root, t.root = some root ∧
      (∀ depth, t.size ≤ depth → t.visitsWithin (fun _ => false) depth root = t.walk) ∧
      ((t.walk.filterMap Visit.entered?).Nodup ∧
        ∀ id, id ∈ t.walk.filterMap Visit.entered? ↔ t.Leads root id) ∧
      ((t.walk.filterMap Visit.left?).Nodup ∧
        ∀ id, id ∈ t.walk.filterMap Visit.left? ↔ t.Leads root id) ∧
      Visit.openAfter? t.walk = some [] ∧
      (t.walk.filterMap Visit.entered?).Pairwise
        (fun x y => (t.spanAt x).start ≤ (t.spanAt y).start) ∧
      (∀ before id after, t.walk = before ++ .enter id :: after →
        ∃ opened, Visit.openAfter? before = some opened ∧ t.Ancestry id opened ∧
          t.ancestors (some id) = opened ∧
          ∀ kinds p, t.closest (some id) kinds = some p ↔
            ∃ inner outer, opened = inner ++ p :: outer ∧ kinds.any (t.hasKind (some p)) ∧
              ∀ q ∈ inner, ¬ kinds.any (t.hasKind (some q))) ∧
      (∀ start k, t.Leads root start →
        (∀ id, id ∈ t.find (some start) k ↔ t.Leads start id ∧ t.hasKind (some id) k) ∧
        (t.find (some start) k).Sublist (t.walk.filterMap Visit.entered?) ∧
        (t.find (some start) k).Pairwise
          fun x y => (t.spanAt x).start ≤ (t.spanAt y).start) := by
  obtain ⟨root, b, h⟩ := exists_planted fine
  have toured := h.walk_eq_tour
  have entered : t.walk.filterMap Visit.entered? = b.ids := by rw [toured, Branch.entered_tour]
  have left : (t.walk.filterMap Visit.left?).Perm b.ids := by
    rw [toured]
    exact b.left_tour_perm
  have starts := h.starts_in_order upright
  refine ⟨root, h.at_root, ?_, ?_, ?_, h.walk_traces.foldlM_eq, ?_, ?_, ?_⟩
  · intro depth deep
    rw [toured, ← h.top]
    exact visitsWithin_eq_tour h.shown (Nat.le_trans h.length_ids_le deep)
  · rw [entered]
    exact ⟨h.nodup, fun id => h.mem_ids_iff⟩
  · exact ⟨left.nodup_iff.mpr h.nodup, fun id => left.mem_iff.trans h.mem_ids_iff⟩
  · rw [entered]
    exact starts
  · intro before id after split
    have traces := h.walk_traces
    rw [split] at traces
    obtain ⟨opened, here, up, deep⟩ := traces.opened_at
    have ancestors : t.ancestors (some id) = opened := up.ancestorsWithin_eq (Nat.le_of_lt deep)
    refine ⟨opened, here, up, ancestors, fun kinds p => ?_⟩
    rw [closest, ancestors, List.find?_eq_some_iff_append]
    constructor
    · rintro ⟨wanted, inner, outer, split, others⟩
      exact ⟨inner, outer, split, wanted, by simpa using others⟩
    · rintro ⟨inner, outer, split, wanted, others⟩
      exact ⟨wanted, inner, outer, split, by simpa using others⟩
  · intro start k leads
    obtain ⟨b', rfl, shown, sub⟩ := h.shown.part (h.mem_ids_iff.mpr leads)
    rw [h.find_eq shown sub, entered]
    refine ⟨fun id => ?_, List.filter_sublist.trans sub, (starts.sublist sub).filter _⟩
    rw [List.mem_filter, shown.mem_ids_iff]

/-- The call `f(x)` in a statement, walked from the program: the call is entered before its
callee and its argument, which stand in it one after the other. -/
theorem walk_nested_call :
    let t := (Tree.empty 0).addIdentifier ⟨0, 0, 1⟩ "f" none false |>.1
      |>.addIdentifier ⟨0, 2, 3⟩ "x" none false |>.1
      |>.add ⟨0, 0, 4⟩ (.call ⟨.call, some ⟨0⟩, [some ⟨1⟩], false⟩) |>.1
      |>.add ⟨0, 0, 5⟩ (.wrap .expressionStatement (some ⟨2⟩)) |>.1
      |>.addProgram ⟨0, 0, 5⟩ ⟨[some ⟨3⟩], []⟩ |>.1
    t.defect? = none ∧ t.Upright ∧ ∃ root, t.root = some root ∧
      (t.walk.filterMap Visit.entered?).Nodup ∧
      Visit.openAfter? t.walk = some [] ∧
      ∀ start k, t.Leads root start →
        (t.find (some start) k).Pairwise
          fun x y => (t.spanAt x).start ≤ (t.spanAt y).start := by
  intro t
  have fine : t.defect? = none := by decide
  have upright : t.Upright := upright_of_nodes (by decide)
  obtain ⟨root, at_root, -, ⟨once, -⟩, -, closed, -, -, found⟩ := walk_nested t fine upright
  exact ⟨fine, upright, root, at_root, once, closed,
    fun start k leads => (found start k leads).2.2⟩

end Tree
end TreeLint
