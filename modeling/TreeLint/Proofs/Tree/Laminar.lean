import TreeLint.Proofs.Tree.Check

/-! # Spans of a tree without defect

The check compares a node with its children only: they know their parent, they lie inside
it, and one begins where the one before has ended, or later.  Taken together along the
finite tree that the check has followed, this says how any two nodes lie: one inside the
other if it is below it, and one after the other if neither is (`Planted.in_order`).

Two nodes one of which is not below the other may only lie apart as long as no span ends
before it begins, which the check does not look at; hence `Upright`.
-/

namespace TreeLint

namespace Span

theorem contains_iff {s r : Span} :
    s.contains r ↔ s.file = r.file ∧ s.start ≤ r.start ∧ r.stop ≤ s.stop := by
  simp [contains, and_assoc]

theorem contains_self (s : Span) : s.contains s :=
  contains_iff.mpr ⟨rfl, UInt32.le_refl _, UInt32.le_refl _⟩

theorem contains_trans {s r q : Span} (h : s.contains r) (h' : r.contains q) : s.contains q := by
  obtain ⟨file, start, stop⟩ := contains_iff.mp h
  obtain ⟨file', start', stop'⟩ := contains_iff.mp h'
  exact contains_iff.mpr
    ⟨file.trans file', UInt32.le_trans start start', UInt32.le_trans stop' stop⟩

end Span

namespace Tree

variable {t : Tree} {root : NodeId} {b : Branch}

/-- The span of a node. -/
def spanAt (t : Tree) (id : NodeId) : Span := t.span (some id)

/-- No node that the root leads to ends before it begins. -/
def Upright (t : Tree) : Prop :=
  ∀ root ∈ t.root, ∀ id, t.Leads root id → (t.spanAt id).start ≤ (t.spanAt id).stop

theorem upright_of_nodes (h : ∀ n ∈ t.nodes.toList, n.span.start ≤ n.span.stop) : t.Upright := by
  intro root _ id _
  rw [spanAt, span]
  cases found : t.deref? (some id) with
  | none => exact UInt32.le_refl 0
  | some n =>
    obtain ⟨at_id, rfl⟩ := Array.getElem?_eq_some_iff.mp found
    exact h _ (Array.getElem_mem_toList at_id)

theorem mem_children {id c : NodeId} :
    c ∈ t.children id ↔ ∃ n, t.node? id = some n ∧ c ∈ n.children := by
  rw [children]
  cases t.node? id <;> simp

/-- Where a part of a node refers to another one, this is a child of it. -/
theorem mem_children_of_part? {α : Type} {id c : NodeId} {pick : Shape → Option α} {a : α}
    (part : t.part? (some id) pick = some a)
    (refers : ∀ s, pick s = some a → some c ∈ s.refs) : c ∈ t.children id := by
  obtain ⟨n, found, picked⟩ := Option.bind_eq_some_iff.mp part
  exact mem_children.mpr ⟨n, found, Ref.mem_compact.mpr (refers _ picked)⟩

/-- Spans in line that do not end before they begin are in order, neighbours or not. -/
theorem Lined.pairwise {outer : Span} {spans : List Span} (h : Lined outer spans)
    (upright : ∀ s ∈ spans, s.start ≤ s.stop) :
    spans.Pairwise fun a b => a.stop ≤ b.start := by
  obtain ⟨-, chain⟩ := h
  induction spans with
  | nil => exact .nil
  | cons a rest ih =>
    have later := ih (fun s mem => upright s (List.mem_cons_of_mem a mem)) chain.tail
    refine List.pairwise_cons.mpr ⟨fun c mem => ?_, later⟩
    cases rest with
    | nil => contradiction
    | cons b rest =>
      have next : a.stop ≤ b.start := (List.isChain_cons_cons.mp chain).1
      cases List.mem_cons.mp mem with
      | inl same => exact same ▸ next
      | inr beyond =>
        calc a.stop ≤ b.start := next
          _ ≤ b.stop := upright b (by simp)
          _ ≤ c.start := (List.pairwise_cons.mp later).1 c beyond

namespace Planted

/-- Parent links are the inverse of the children. -/
theorem parent_iff (h : t.Planted root b) {x y : NodeId} (leads : t.Leads root y) :
    t.parent (some y) = some x ↔ t.Leads root x ∧ y ∈ t.children x := by
  constructor
  · intro up
    cases leads.cases_tail with
    | inl same =>
      rw [same, h.orphan] at up
      contradiction
    | inr step =>
      obtain ⟨p, first, n, found, mem⟩ := step
      cases up.symm.trans (h.parent_child first found mem)
      exact ⟨first, mem_children.mpr ⟨n, found, mem⟩⟩
  · rintro ⟨first, mem⟩
    obtain ⟨n, found, mem⟩ := mem_children.mp mem
    exact h.parent_child first found mem

/-- What is below a node lies inside it. -/
theorem contains (h : t.Planted root b) {x y : NodeId} (first : t.Leads root x)
    (below : t.Leads x y) : (t.spanAt x).contains (t.spanAt y) := by
  induction below with
  | refl => exact Span.contains_self _
  | @tail y z between step ih =>
    obtain ⟨n, found, mem⟩ := step
    obtain ⟨-, inside, -⟩ := childDefect?_eq_none.mp (h.fits (first.trans between) found)
    exact Span.contains_trans ih (inside _ (List.mem_map_of_mem mem))

/-- Of two nodes in the order of the branch, the second is below the first or begins where
the first has ended, or later. -/
theorem in_order (h : t.Planted root b) (upright : t.Upright) :
    b.ids.Pairwise fun x y => t.Leads x y ∨ (t.spanAt x).stop ≤ (t.spanAt y).start := by
  suffices all : ∀ b' : Branch, b'.Of t → t.Leads root b'.top →
      b'.ids.Pairwise fun x y => t.Leads x y ∨ (t.spanAt x).stop ≤ (t.spanAt y).start by
    apply all b h.shown
    rw [h.top]
    exact .refl
  intro b' shown first
  induction shown with
  | @node top n below found children each ih =>
    have child : ∀ b ∈ below, t.Leads root b.top := by
      intro b mem
      have step : b.top ∈ n.children := children ▸ List.mem_map_of_mem mem
      exact first.tail ⟨n, found, step⟩
    have here : (Branch.node top below).Of t := .node found children each
    rw [Branch.ids]
    refine List.pairwise_cons.mpr ⟨fun y mem => .inl ?_, ?_⟩
    · apply here.mem_ids_iff.mp
      rw [Branch.ids]
      exact List.mem_cons_of_mem top mem
    · refine List.pairwise_flatMap.mpr ⟨fun b mem => ih b mem (child b mem), ?_⟩
      have lined := (childDefect?_eq_none.mp (h.fits first found)).2
      rw [children, List.map_map] at lined
      have apart := lined.pairwise (by
        intro s place
        obtain ⟨b, mem, rfl⟩ := List.mem_map.mp place
        exact upright root h.at_root b.top (child b mem))
      refine (List.pairwise_map.mp apart).imp_of_mem ?_
      intro a c memA memC before x inA y inC
      have left := h.contains (child a memA) ((each a memA).mem_ids_iff.mp inA)
      have right := h.contains (child c memC) ((each c memC).mem_ids_iff.mp inC)
      right
      calc (t.spanAt x).stop ≤ (t.spanAt a.top).stop := (Span.contains_iff.mp left).2.2
        _ ≤ (t.spanAt c.top).start := before
        _ ≤ (t.spanAt y).start := (Span.contains_iff.mp right).2.1

/-- Nodes neither of which is below the other lie apart. -/
theorem apart (h : t.Planted root b) (upright : t.Upright) {x y : NodeId}
    (first : t.Leads root x) (second : t.Leads root y) (notBelow : ¬ t.Leads x y)
    (notAbove : ¬ t.Leads y x) :
    (t.spanAt x).stop ≤ (t.spanAt y).start ∨ (t.spanAt y).stop ≤ (t.spanAt x).start := by
  have ordered := h.in_order upright
  obtain ⟨before, after, split⟩ := List.append_of_mem (h.mem_ids_iff.mpr first)
  have there := h.mem_ids_iff.mpr second
  rw [split] at ordered there
  obtain ⟨-, later, across⟩ := List.pairwise_append.mp ordered
  cases List.mem_append.mp there with
  | inl mem =>
    cases across y mem x List.mem_cons_self with
    | inl below => exact absurd below notAbove
    | inr apart => exact .inr apart
  | inr mem =>
    cases List.mem_cons.mp mem with
    | inl same => exact absurd (same ▸ .refl) notBelow
    | inr mem =>
      cases (List.pairwise_cons.mp later).1 y mem with
      | inl below => exact absurd below notBelow
      | inr apart => exact .inl apart

end Planted

/-- Validating a tree ends with one verdict, whatever its nodes refer to.  When that is no
defect and no span ends before it begins, the root is a program without a parent from which
the children lead to the nodes of a finite tree, each once; parent links go back where the
children come from; and of any two spans one lies inside the other, if its node is below,
or they lie apart. -/
theorem validates_laminar (t : Tree) :
    (∀ verdict, t.Validates verdict ↔ t.defect? = verdict) ∧
    (t.defect? = none → t.Upright → ∃ root, ∃ b : Branch,
      t.root = some root ∧ t.hasKind (some root) .program ∧ t.parent (some root) = none ∧
      (b.top = root ∧ b.Of t ∧ b.ids.Nodup ∧ ∀ id, id ∈ b.ids ↔ t.Leads root id) ∧
      (∀ x y, t.Leads root y →
        (t.parent (some y) = some x ↔ t.Leads root x ∧ y ∈ t.children x)) ∧
      (∀ x y, t.Leads root x → t.Leads x y → (t.spanAt x).contains (t.spanAt y)) ∧
      (∀ x y, t.Leads root x → t.Leads root y → ¬ t.Leads x y → ¬ t.Leads y x →
        (t.spanAt x).stop ≤ (t.spanAt y).start ∨ (t.spanAt y).stop ≤ (t.spanAt x).start)) := by
  refine ⟨fun verdict => validates_iff, fun fine upright => ?_⟩
  obtain ⟨root, b, h⟩ := exists_planted fine
  refine ⟨root, b, h.at_root, h.program, h.orphan,
    ⟨h.top, h.shown, h.nodup, fun id => h.mem_ids_iff⟩, ?_, ?_, ?_⟩
  · intro x y leads
    exact h.parent_iff leads
  · intro x y first below
    exact h.contains first below
  · intro x y first second notBelow notAbove
    exact h.apart upright first second notBelow notAbove

/-- The call `f(x)` in a statement: the two names lie apart, and both inside the call. -/
theorem validates_laminar_call :
    let t := (Tree.empty 0).addIdentifier ⟨0, 0, 1⟩ "f" none false |>.1
      |>.addIdentifier ⟨0, 2, 3⟩ "x" none false |>.1
      |>.add ⟨0, 0, 4⟩ (.call ⟨.call, some ⟨0⟩, [some ⟨1⟩], false⟩) |>.1
      |>.add ⟨0, 0, 5⟩ (.wrap .expressionStatement (some ⟨2⟩)) |>.1
      |>.addProgram ⟨0, 0, 5⟩ ⟨[some ⟨3⟩], []⟩ |>.1
    t.Validates none ∧ t.Upright ∧ ∃ root, ∃ b : Branch, t.root = some root ∧ b.Of t ∧ b.ids.Nodup ∧
      ∀ x y, t.Leads root x → t.Leads root y → ¬ t.Leads x y → ¬ t.Leads y x →
        (t.spanAt x).stop ≤ (t.spanAt y).start ∨ (t.spanAt y).stop ≤ (t.spanAt x).start := by
  intro t
  have fine : t.defect? = none := by decide
  have upright : t.Upright := upright_of_nodes (by decide)
  obtain ⟨verdict, sound⟩ := validates_laminar t
  obtain ⟨root, b, at_root, -, -, ⟨-, shown, nodup, -⟩, -, -, apart⟩ := sound fine upright
  exact ⟨(verdict none).mpr fine, upright, root, b, at_root, shown, nodup, apart⟩

/-- A node on both sides of another: the check ends all the same. -/
example :
    let t := (Tree.empty 0).addIdentifier ⟨0, 0, 0⟩ "a" none false |>.1
      |>.addIdentifier ⟨0, 0, 0⟩ "b" none false |>.1
      |>.addProgram ⟨0, 0, 0⟩ ⟨[some ⟨0⟩, some ⟨1⟩, some ⟨0⟩], []⟩ |>.1
    t.defect? = some (.reachedTwice ⟨0⟩) := by decide

end Tree
end TreeLint
