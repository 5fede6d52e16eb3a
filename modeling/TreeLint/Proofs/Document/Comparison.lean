import Mathlib.Logic.Basic
import TreeLint.Proofs.Document.Layout

/-! # Comparing ranges

Two fields that hold nodes with equal ranges are one node, so a decoder compares the
entries of ranges before it knows that they are numbers.  Lists and objects have no
equality to compare them by (`Json.Clash`), and a property is the one node for which that
can matter: both nodes of a specifier are compared after the first of them has been
decoded, hence has numbers for its range, while key and value of a property are compared
first of all (`nodeWithin_clash`).

If in a document no such property is found, then whatever else is wrong with it, ranges
are compared as values that can be compared (`decode_of_comparable`).
-/

namespace TreeLint

namespace Json

/-- The values a value holds, itself included. -/
inductive Within : Json → Json → Prop where
  | self (j : Json) : Within j j
  | item {j v : Json} {items : List Json} (mem : v ∈ items) (within : Within j v) :
    Within j (.array items)
  | field {j v : Json} {key : Text} {fields : List (Text × Json)} (mem : (key, v) ∈ fields)
    (within : Within j v) : Within j (.object fields)

theorem Within.trans {i j k : Json} (h : i.Within j) (h' : j.Within k) : i.Within k := by
  induction h' with
  | self => exact h
  | item mem _ ih => exact .item mem ih
  | field mem _ ih => exact .field mem ih

mutual

/-- The objects in a value. -/
def objects : Json → List (List (Text × Json))
  | .array items => itemObjects items
  | .object fields => fields :: fieldObjects fields
  | _ => []

def itemObjects : List Json → List (List (Text × Json))
  | [] => []
  | v :: vs => objects v ++ itemObjects vs

def fieldObjects : List (Text × Json) → List (List (Text × Json))
  | [] => []
  | (_, v) :: fs => objects v ++ fieldObjects fs

end

theorem objects_subset_item {v : Json} {items : List Json} (mem : v ∈ items) :
    v.objects ⊆ itemObjects items := by
  induction items with
  | nil => contradiction
  | cons w items ih =>
    rw [itemObjects]
    obtain rfl | mem := List.mem_cons.mp mem
    · exact List.subset_append_left _ _
    · exact List.subset_append_of_subset_right _ (ih mem)

theorem objects_subset_field {key : Text} {v : Json} {fields : List (Text × Json)}
    (mem : (key, v) ∈ fields) : v.objects ⊆ fieldObjects fields := by
  induction fields with
  | nil => contradiction
  | cons field fields ih =>
    rw [fieldObjects]
    obtain rfl | mem := List.mem_cons.mp mem
    · exact List.subset_append_left _ _
    · exact List.subset_append_of_subset_right _ (ih mem)

theorem Within.objects {i j : Json} (h : i.Within j) : i.objects ⊆ j.objects := by
  induction h with
  | self => exact fun _ mem => mem
  | item mem _ ih => exact fun _ inner => objects_subset_item mem (ih inner)
  | field mem _ ih =>
    exact fun _ inner => List.mem_cons_of_mem _ (objects_subset_field mem (ih inner))

/-- Two lists or two objects, which have no equality. -/
def Clash : Json → Json → Prop
  | .array _, .array _ => True
  | .object _, .object _ => True
  | _, _ => False

theorem not_clash_number (j : Json) (digits : Text) :
    ¬ j.Clash (.number digits) ∧ ¬ (Json.number digits).Clash j := by
  cases j <;> simp [Clash]

end Json

namespace Document

theorem sameEntry?_eq_none {a b : Json} : sameEntry? a b = none ↔ a.Clash b := by
  cases a <;> cases b <;> simp [Json.Clash, sameEntry?]

theorem sameEntry?_eq_true {a b : Json} (h : sameEntry? a b = some true) : a = b := by
  cases a <;> cases b <;> simp_all [ sameEntry?]

theorem sameEntry?_self {a : Json} (h : ¬ a.Clash a) : sameEntry? a a = some true := by
  cases a <;> simp_all [Json.Clash, sameEntry?]

/-- The ranges of two fields can be compared: entry by entry, up to the first difference,
they are not two lists or two objects. -/
def Comparable (o : Fields) (first second : Text) : Prop :=
  ∀ a b a0 a1 b0 b1, nodeField? o first = some a → nodeField? o second = some b →
    a.value? "range" = some (.array [a0, a1]) → b.value? "range" = some (.array [b0, b1]) →
    ¬ a0.Clash b0 ∧ (a0 = b0 → ¬ a1.Clash b1)

/-- Looks whether the ranges of two fields can be compared. -/
def comparable (o : Fields) (first second : Text) : Bool :=
  match nodeField? o first, nodeField? o second with
  | some a, some b =>
    match a.value? "range", b.value? "range" with
    | some (.array [a0, a1]), some (.array [b0, b1]) =>
      match sameEntry? a0 b0 with
      | none => false
      | some false => true
      | some true => ( sameEntry? a1 b1).isSome
    | _, _ => true
  | _, _ => true

theorem comparable_of_eq_true {o : Fields} {first second : Text}
    (h : comparable o first second = true) : Comparable o first second := by
  intro a b a0 a1 b0 b1 fieldA fieldB rangeA rangeB
  simp only [comparable, fieldA, fieldB, rangeA, rangeB] at h
  constructor
  · intro clash
    simp [sameEntry?_eq_none.mpr clash] at h
  · rintro rfl clash
    by_cases start : a0.Clash a0
    · simp [sameEntry?_eq_none.mpr start] at h
    · simp [sameEntry?_self start, sameEntry?_eq_none.mpr clash] at h

/-- One node lies among the values of another, or is that node. -/
def Inside (c o : Fields) : Prop := (Json.object c).Within (.object o)

theorem Inside.trans {a b c : Fields} (h : Inside a b) (h' : Inside b c) : Inside a c :=
  Json.Within.trans h h'

theorem node?_eq_some {v : Json} {n : Fields} (h : node? v = some n) : v = .object n := by
  cases v with
  | object fields =>
    simp only [node?] at h
    split at h <;> simp_all
  | _ => simp [node?] at h

theorem mem_of_value? {o : Fields} {key : Text} {v : Json} (h : o.value? key = some v) :
    (key, v) ∈ o := by
  rw [Fields.value?, List.lookup_eq_some_iff] at h
  obtain ⟨l₁, l₂, rfl, -⟩ := h
  simp

theorem inside_of_field {o c : Fields} {key : Text} (h : nodeField? o key = some c) :
    Inside c o := by
  obtain ⟨v, found, node⟩ := Option.bind_eq_some_iff.mp h
  cases node?_eq_some node
  exact .field (mem_of_value? found) (.self _)

theorem inside_of_item {o c : Fields} {key : Text} {vs : List Json} {v : Json}
    (found : (key, .array vs) ∈ o) (mem : v ∈ vs) (node : node? v = some c) : Inside c o := by
  cases node?_eq_some node
  exact .field found (.item mem (.self _))

theorem inside_of_fieldValues {o c : Fields} {v : Json} (mem : v ∈ fieldValues o)
    (node : node? v = some c) : Inside c o := by
  simp only [fieldValues, List.mem_flatMap, List.mem_mergeSort, List.mem_filter] at mem
  obtain ⟨⟨key, w⟩, ⟨field, -⟩, opened⟩ := mem
  split at opened
  next vs eq =>
    cases eq
    exact inside_of_item field opened node
  next eq =>
    cases eq
    rw [List.mem_singleton] at opened
    subst opened
    cases node?_eq_some node
    exact .field field (.self _)

/-- No fault but one is excluded. -/
abbrev Safe {α : Type} (s : Setting) (t : Tree) (d : Decoder α) (Q : α → Prop) : Prop :=
  Runs s t d (fun a _ => Q a) (· ≠ .incomparable)

/-! ## Ranges -/

section

variable {s : Setting} {t : Tree} {o : Fields}

theorem sameRange_safe {first second : Text} (h : Comparable o first second) :
    Safe s t (sameRange o first second) fun _ => True := by
  unfold sameRange
  split
  next a b fieldA fieldB =>
    split
    next a0 a1 b0 b1 rangeA rangeB =>
      obtain ⟨start, stop⟩ := h a b a0 a1 b0 b1 fieldA fieldB rangeA rangeB
      split
      next clash => exact absurd (sameEntry?_eq_none.mp clash) start
      · exact .pure trivial
      next same =>
        split
        next clash =>
          exact absurd (sameEntry?_eq_none.mp clash) (stop (sameEntry?_eq_true same))
        · exact .pure trivial
    · exact .pure trivial
  · exact .pure trivial

/-- Ranges of which one is known to be of numbers can be compared. -/
theorem comparable_of_numbered {first second : Text}
    (h : ∀ a b, nodeField? o first = some a → nodeField? o second = some b →
      Numbered a ∨ Numbered b) : Comparable o first second := by
  intro a b a0 a1 b0 b1 fieldA fieldB rangeA rangeB
  cases h a b fieldA fieldB with
  | inl numbered =>
    obtain ⟨x, y, range⟩ := numbered
    cases rangeA.symm.trans range
    exact ⟨(Json.not_clash_number _ _).2, fun _ => (Json.not_clash_number _ _).2⟩
  | inr numbered =>
    obtain ⟨x, y, range⟩ := numbered
    cases rangeB.symm.trans range
    exact ⟨(Json.not_clash_number _ _).1, fun _ => (Json.not_clash_number _ _).1⟩

/-! ## Slots -/

section Slots

variable {decode : NodeDecoder}
  (decoded : ∀ c, Inside c o → ∀ t, Safe s t (decode c) fun _ => Numbered c)

include decoded

theorem child_safe (key : Text) :
    Safe s t (child decode o key) fun _ => ∀ c, nodeField? o key = some c → Numbered c := by
  unfold child
  split
  next absent => exact .pure fun c h => by simp [nodeField?, absent] at h
  next null => exact .pure fun c h => by simp [nodeField?, null, node?] at h
  next v _ found =>
    split
    next n node =>
      have field : nodeField? o key = some n := by simp [nodeField?, found, node]
      refine (decoded n (inside_of_field field) t).bind fun id t' numbered => .pure ?_
      intro c h
      cases field.symm.trans h
      exact numbered
    · exact .fail (by simp)

theorem items_safe {key : Text} {vs : List Json} (i : Nat)
    (inside : ∀ v ∈ vs, ∀ c, node? v = some c → Inside c o) (key' : Fields) :
    Safe s t (items decode key' key i vs) fun _ => True := by
  induction vs generalizing i t with
  | nil => exact .pure trivial
  | cons v vs ih =>
    have item : Safe s t (item decode key' key i v) fun _ => True := by
      unfold item
      split
      · exact .pure trivial
      · split
        next n node =>
          exact (decoded n (inside v List.mem_cons_self n node) t).bind fun _ _ _ => .pure trivial
        · exact .fail (by simp)
    refine item.bind fun _ _ _ => ?_
    exact (ih (i + 1) fun v mem => inside v (List.mem_cons_of_mem _ mem)).bind fun _ _ _ =>
      .pure trivial

theorem list_safe {n : Fields} (key : Text) (inside : Inside n o) :
    Safe s t (list decode n key) fun _ => True := by
  unfold list
  split
  next vs found =>
    refine items_safe decoded 0 (fun v mem c node => ?_) n
    exact (inside_of_item (mem_of_value? found) mem node).trans inside
  · exact .pure trivial

theorem read_safe {slot : Slot} (entry : slot = .entry → Comparable o "key" "value") :
    Safe s t (slot.read decode o) fun _ => True := by
  have inner : ∀ {n : Fields}, Inside n o → ∀ c, Inside c n → ∀ t,
      Safe s t (decode c) fun _ => Numbered c :=
    fun inside c within => decoded c (within.trans inside)
  cases slot with
  | child key => exact (child_safe decoded key).bind fun _ _ _ => .pure trivial
  | list key => exact list_safe decoded key (.self _)
  | type key =>
    refine Runs.bind (Q := fun _ _ => True) ?_ fun _ _ _ => .pure trivial
    unfold typeField
    split
    · exact .pure trivial
    next n field =>
      have inside := inside_of_field field
      split
      · exact (child_safe (inner inside) _).imp fun _ _ _ => trivial
      · exact (decoded n inside t).bind fun _ _ _ => .pure trivial
  | typeArguments =>
    simp only [Slot.read, typeArguments]
    split
    next n field => exact list_safe decoded _ (inside_of_field field)
    · split
      next n field => exact list_safe decoded _ (inside_of_field field)
      · exact .pure trivial
  | imported =>
    refine (child_safe decoded "local").bind fun _ t' numbered => ?_
    refine Runs.bind (Q := fun _ _ => True) ?_ fun _ _ _ => .pure trivial
    refine (sameRange_safe (comparable_of_numbered fun _ b _ found => .inr (numbered b found))).bind
      fun same _ _ => ?_
    cases same with
    | true => exact .pure trivial
    | false => exact (child_safe decoded _).imp fun _ _ _ => trivial
  | exported =>
    refine (child_safe decoded "local").bind fun _ t' numbered => ?_
    refine Runs.bind (Q := fun _ _ => True) ?_ fun _ _ _ => .pure trivial
    refine (sameRange_safe (comparable_of_numbered fun _ b _ found => .inr (numbered b found))).bind
      fun same _ _ => ?_
    cases same with
    | true => exact .pure trivial
    | false => exact (child_safe decoded _).imp fun _ _ _ => trivial
  | entry =>
    refine Runs.bind (Q := fun _ _ => True) ?_ fun _ _ _ => .pure trivial
    refine (sameRange_safe (entry rfl)).bind fun same _ _ => ?_
    split
    · exact (child_safe decoded _).bind fun _ _ _ => .pure trivial
    · split
      · refine (child_safe decoded _).bind fun value t' _ => ?_
        obtain ⟨key, read, -⟩ := shorthandKey_ok value s t'
        refine Runs.bind (Q := fun _ _ => True) ?_ fun _ _ _ => .pure trivial
        rw [Runs, read]
        trivial
      · exact (child_safe decoded _).bind fun _ _ _ => (child_safe decoded _).bind fun _ _ _ =>
          .pure trivial
  | rest =>
    refine (candidates_runs (fieldValues o)).bind ?_
    rintro found t ⟨rfl, among⟩
    refine Runs.bind (Q := fun _ _ => True) ?_ fun _ _ _ => .pure trivial
    refine Runs.mapM (I := fun _ _ _ => True) (fun c mem _ _ t'' _ => ?_) trivial
    -- Sorting and dropping candidates leaves them nodes among the fields.
    have kept := List.mem_mergeSort.mp ((apart_sublist _ _).subset mem)
    obtain ⟨v, value, node⟩ := among c kept
    exact (decoded c.node (inside_of_fieldValues value node) t'').imp fun _ _ _ => trivial

end Slots

/-! ## Nodes -/

theorem mapM_read_safe {decode : NodeDecoder}
    (decoded : ∀ c, Inside c o → ∀ t, Safe s t (decode c) fun _ => Numbered c)
    {slots : List Slot} (entry : .entry ∈ slots → Comparable o "key" "value") :
    Safe s t (slots.mapM (Slot.read decode o)) fun _ => True := by
  refine Runs.mapM (I := fun _ _ _ => True) (fun slot mem _ _ t' _ => ?_) trivial
  exact (read_safe decoded fun eq => entry (eq ▸ mem)).imp fun _ _ _ => trivial

/-- The properties inside a node have comparable ranges. -/
def Fit (o : Fields) : Prop :=
  ∀ c, Inside c o → Kind.ofType (typeOf c) = .property → Comparable c "key" "value"

theorem nodeWithin_safe (depth : Nat) (fit : Fit o) (t : Tree) :
    Safe s t (nodeWithin depth o) fun _ => Numbered o := by
  induction depth generalizing o t with
  | zero => exact .fail (by simp)
  | succ depth ih =>
    have decoded : ∀ c, Inside c o → ∀ t, Safe s t (nodeWithin depth c) fun _ => Numbered c :=
      fun c inside => ih fun d within => fit d (within.trans inside)
    rw [nodeWithin, nodeWith_eq]
    split
    · exact .fail (by simp)
    · refine (mapM_read_safe decoded fun mem => ?_).bind fun parts t₁ _ => ?_
      · exact fit o (.self _) (entry_of_mem_before mem)
      refine (span_runs o).bind ?_
      rintro sp _ ⟨rfl, numbered⟩
      refine (mapM_read_safe decoded fun mem => ?_).bind fun others t₃ _ => ?_
      · exact absurd mem (entry_not_mem_after _)
      obtain ⟨names, shape, added, -⟩ :=
        close_ok (o := o) (Kind.ofType (typeOf o)) sp (parts ++ others) s t₃
      rw [Runs, added]
      exact numbered

/-- A property whose ranges cannot be compared is never decoded: its ranges are compared
before anything else is looked at. -/
theorem nodeWithin_clash {depth : Nat} (property : Kind.ofType (typeOf o) = .property)
    (clash : ¬ Comparable o "key" "value") :
    nodeWithin (depth + 1) o s t = .error ⟨.incomparable, t⟩ := by
  have compared : sameRange o "key" "value" s t = .error ⟨.incomparable, t⟩ := by
    obtain ⟨a, b, a0, a1, b0, b1, fieldA, fieldB, rangeA, rangeB, clash⟩ :
        ∃ a b a0 a1 b0 b1, nodeField? o "key" = some a ∧ nodeField? o "value" = some b ∧
          a.value? "range" = some (.array [a0, a1]) ∧ b.value? "range" = some (.array [b0, b1]) ∧
          (¬ a0.Clash b0 → a0 = b0 ∧ a1.Clash b1) := by
      simpa only [Comparable, not_forall, not_and, not_not, exists_prop] using clash
    simp only [sameRange, fieldA, fieldB, rangeA, rangeB]
    by_cases start : a0.Clash b0
    · rw [sameEntry?_eq_none.mpr start]
      rfl
    · obtain ⟨rfl, stop⟩ := clash start
      rw [sameEntry?_self start, sameEntry?_eq_none.mpr stop]
      rfl
  rw [nodeWithin, nodeWith, property]
  simp only [propertyNode, keyAndValue, bind, ReaderT.bind, StateT.bind, Except.bind, compared]

theorem program_safe (fit : Fit o) : Safe s t (program o) fun _ => True := by
  have body : Safe s t (list (nodeWithin maxDepth) o "body") fun _ => True :=
    list_safe (fun c inside t => nodeWithin_safe maxDepth (fun d within =>
      fit d (within.trans inside)) t) _ (.self _)
  unfold program
  refine body.bind fun refs t₁ _ => ?_
  have close : ∀ (found : List Span) (t₂ : Tree), Safe s t₂
      (do
        let sp ← span o
        modify fun t => (t.addProgram sp ⟨refs, found⟩).1) fun _ => True := fun found t₂ =>
    (span_runs o).bind fun sp t₃ _ => trivial
  split
  · exact (comments_runs _).bind fun found t₂ _ => close found t₂
  · exact close [] t₁

end

/-- If the ranges of no property in the document are lists or objects that would have to
be compared, decoding gives a tree or one of its errors: the document is no JSON, its
root is no program, or the program is faulty, and the fault is not one of comparing. -/
theorem decode_of_comparable {files : FileSet} {id : FileId} {f : File} {document : Text}
    (found : files.get? id = some f)
    (fit : ∀ root o, Json.read document = .ok root → (Json.object o).Within root →
      Kind.ofType (typeOf o) = .property → Comparable o "key" "value") :
    (∃ t, decode files id document = .ok t) ∨
      (∃ e, decode files id document = .error (.notJson f.path e)) ∨
      decode files id document = .error (.notProgram f.path) ∨
      ∃ fault, decode files id document = .error (.invalid f.path fault) ∧
        fault ≠ .incomparable := by
  simp only [decode, found]
  split
  · exact .inr (.inl ⟨_, rfl⟩)
  next o read =>
    split
    · exact .inr (.inr (.inl rfl))
    · have safe := program_safe (s := ⟨id, .ofText f.content⟩) (t := Tree.empty id)
        fun c inside => fit _ c read inside
      split
      next failure failed => exact .inr (.inr (.inr ⟨failure.fault, rfl, safe.of_error failed⟩))
      next tree built =>
        split
        · exact .inr (.inr (.inr ⟨_, rfl, by simp⟩))
        · exact .inl ⟨tree, rfl⟩
  · exact .inr (.inr (.inl rfl))
/-- A program of one property, whose ranges are numbers. -/
theorem decode_of_comparable_property :
    let f : File := ⟨0, "a.ts", "a: b", ⟨true, false, false⟩⟩
    let files : FileSet := ⟨[f], [], "/"⟩
    let document : Text :=
      "\x7b\"type\":\"Program\",\"range\":[0,4],\"body\":[\x7b" ++
        "\"type\":\"Property\",\"range\":[0,4]," ++
        "\"key\":\x7b\"type\":\"Identifier\",\"range\":[0,1],\"name\":\"a\"\x7d," ++
        "\"value\":\x7b\"type\":\"Identifier\",\"range\":[3,4],\"name\":\"b\"\x7d\x7d]\x7d"
    (∀ root o, Json.read document = .ok root → (Json.object o).Within root →
      Kind.ofType (typeOf o) = .property → Comparable o "key" "value") ∧
    ((∃ t, decode files 0 document = .ok t) ∨
      (∃ e, decode files 0 document = .error (.notJson f.path e)) ∨
      decode files 0 document = .error (.notProgram f.path) ∨
      ∃ fault, decode files 0 document = .error (.invalid f.path fault) ∧
        fault ≠ .incomparable) := by
  intro f files document
  have fit : ∀ root o, Json.read document = .ok root → (Json.object o).Within root →
      Kind.ofType (typeOf o) = .property → Comparable o "key" "value" := by
    intro root o read within property
    have all : ∀ o ∈ (match Json.read document with
        | .ok root => root.objects
        | .error _ => []),
        Kind.ofType (typeOf o) = .property → comparable o "key" "value" = true := by
      decide +kernel
    rw [read] at all
    exact comparable_of_eq_true (all o (within.objects List.mem_cons_self) property)
  exact ⟨fit, decode_of_comparable (f := f) rfl fit⟩

end Document
end TreeLint
