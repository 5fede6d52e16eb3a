import Mathlib.Data.List.Flatten
import TreeLint.Proofs.Fix.Selection
import TreeLint.Proofs.Text.Part

/-! # Fixes that do not get in each other's way

The mode that takes all fixes could take every one of a list of fixes that are safe, fit
their files and keep apart from each other.  In a dry run the loop that accepts them has
nothing against any of them (`Accepting.foldl_of_apart`), but collecting comes first, and
there a fix is dropped when its id was seen before.  An id is made up for a fix that has
none, from the code, the file and the start of its diagnostic, so two diagnostics that
share these get the same ids, and the fix of the second is lost though it conflicts with
nothing.

`apply_independent` says which fixes are lost, and when none is.
-/

namespace TreeLint.Fix

open Edit (Apart)

/-- A fix of a diagnostic as it resolves, and its place among those that do. -/
structure Offer where
  diagnostic : Diagnostic
  fix : Fix
  place : Nat

namespace Offer

/-- The fix with its id, or with one that is made up. -/
def candidate (o : Offer) : Candidate := ⟨o.diagnostic, named o.diagnostic (o.fix, o.place)⟩

/-- Two fixes go by one id, and it is made up for one of them at least. -/
inductive Collides (o p : Offer) : Prop where
  | madeUp (first : o.fix.id = []) (second : p.fix.id = []) (place : o.place = p.place)
      (code : o.diagnostic.code = p.diagnostic.code)
      (file : o.diagnostic.primary.file = p.diagnostic.primary.file)
      (start : o.diagnostic.primary.start = p.diagnostic.primary.start)
  | givenToSecond (first : o.fix.id = []) (same : p.fix.id = derivedId o.diagnostic o.place)
  | givenToFirst (second : p.fix.id = []) (same : o.fix.id = derivedId p.diagnostic p.place)

end Offer

/-- The fixes of a diagnostic that resolve, as they are before ids are made up. -/
def offers (d : Diagnostic) : List Offer :=
  (resolveAll d.fixes).1.zipIdx.map fun fn => ⟨d, fn.1, fn.2⟩

/-- Fixes that could all be applied together: each resolves to edits that are safe and fit
their files, no two edits conflict, and no id is given twice. -/
structure Independent (files : FileSet) (ds : List Diagnostic) : Prop where
  resolves : ∀ d ∈ ds, ∀ f ∈ d.fixes, ∃ g, f.resolve = .ok g
  nonempty : ∀ o ∈ ds.flatMap offers, o.fix.edits ≠ []
  safe : ∀ o ∈ ds.flatMap offers, o.fix.applicability = .alwaysSafe
  placed : ∀ o ∈ ds.flatMap offers, ∀ e ∈ o.fix.edits, Placed files e
  apart : ((ds.flatMap offers).flatMap (·.fix.edits)).Pairwise Apart
  distinct : (ds.flatMap offers).Pairwise fun o p => o.fix.id = p.fix.id → o.fix.id = []

/-! ## Ids -/

/-- A made-up id tells what it was made from: no number has a hyphen in it. -/
theorem derivedId_inj {d e : Diagnostic} {m n : Nat} :
    derivedId d m = derivedId e n ↔
      d.code = e.code ∧ d.primary.file = e.primary.file ∧ d.primary.start = e.primary.start ∧
        m = n := by
  have hyphen : utf8 "-" = [45] := by decide
  have other : ¬ Text.isDigit 45 := by decide
  rw [derivedId, derivedId, hyphen, Text.append_decimal_inj other, Text.append_decimal_inj other,
    Text.append_decimal_inj other, UInt32.toNat_inj, UInt32.toNat_inj]
  simp only [and_assoc]

theorem derivedId_ne_nil (d : Diagnostic) (n : Nat) : derivedId d n ≠ [] := by
  have hyphen : utf8 "-" = [45] := by decide
  simp [derivedId, hyphen]

@[simp] theorem named_applicability (d : Diagnostic) (fn : Fix × Nat) :
    (named d fn).applicability = fn.1.applicability := by
  unfold named
  split <;> rfl

namespace Offer

theorem id_of_nil {o : Offer} (absent : o.fix.id = []) :
    o.candidate.fix.id = derivedId o.diagnostic o.place := by
  simp [candidate, named, absent]

theorem id_of_ne_nil {o : Offer} (given : o.fix.id ≠ []) : o.candidate.fix.id = o.fix.id := by
  simp [candidate, named, given]

/-- When ids are not given twice, a made-up one is to blame for an id that occurs twice. -/
theorem id_eq_iff {o p : Offer} (distinct : o.fix.id = p.fix.id → o.fix.id = []) :
    o.candidate.fix.id = p.candidate.fix.id ↔ o.Collides p := by
  by_cases first : o.fix.id = []
  · by_cases second : p.fix.id = []
    · rw [id_of_nil first, id_of_nil second, derivedId_inj]
      constructor
      · rintro ⟨code, file, start, place⟩
        exact .madeUp first second place code file start
      · intro collision
        cases collision with
        | madeUp _ _ place code file start => exact ⟨code, file, start, place⟩
        | givenToSecond _ same => exact absurd (same.symm.trans second) (derivedId_ne_nil _ _)
        | givenToFirst _ same => exact absurd (same.symm.trans first) (derivedId_ne_nil _ _)
    · rw [id_of_nil first, id_of_ne_nil second, eq_comm]
      constructor
      · exact .givenToSecond first
      · intro collision
        cases collision with
        | madeUp _ absent => exact absurd absent second
        | givenToSecond _ same => exact same
        | givenToFirst absent => exact absurd absent second
  · by_cases second : p.fix.id = []
    · rw [id_of_ne_nil first, id_of_nil second]
      constructor
      · exact .givenToFirst second
      · intro collision
        cases collision with
        | madeUp absent => exact absurd absent first
        | givenToSecond absent => exact absurd absent first
        | givenToFirst _ same => exact same
    · rw [id_of_ne_nil first, id_of_ne_nil second]
      constructor
      · intro same
        exact absurd (distinct same) first
      · intro collision
        cases collision with
        | madeUp absent => exact absurd absent first
        | givenToSecond absent => exact absurd absent first
        | givenToFirst absent => exact absurd absent second

end Offer

theorem flatMap_resolvedOf (ds : List Diagnostic) :
    ds.flatMap resolvedOf = (ds.flatMap offers).map Offer.candidate := by
  rw [List.map_flatMap]
  congr 1
  funext d
  simp [resolvedOf, offers, Offer.candidate, Function.comp_def]

/-! ## Collecting -/

theorem resolveAll_errors {fs : List Fix} (h : ∀ f ∈ fs, ∃ g, f.resolve = .ok g) :
    (resolveAll fs).2 = [] := by
  induction fs with
  | nil => rfl
  | cons f fs ih =>
    obtain ⟨g, resolved⟩ := h f List.mem_cons_self
    have rest := ih fun f mem => h f (List.mem_cons_of_mem _ mem)
    simp [resolveAll, resolved, rest]

/-- What collecting has come to after fixes that have edits: those whose id was new are
kept, and the others reported for it. -/
structure Weeded (met kept repeated : List Candidate) (c : Collected) : Prop where
  split : met.Perm (kept ++ repeated)
  sublist : kept.Sublist met
  candidates : c.candidates = kept
  skipped : c.skipped = repeated.map fun x => skip x.fix .duplicateId
  seen : ∀ id, id ∈ c.seen ↔ ∃ b ∈ kept, b.fix.id = id
  distinct : kept.Pairwise fun a b => a.fix.id ≠ b.fix.id
  first : ∀ x ∈ repeated, ∃ b ∈ kept, [b, x].Sublist met ∧ b.fix.id = x.fix.id

namespace Weeded

variable {met kept repeated : List Candidate} {c : Collected}

/-- Every fix is kept when and only when all ids are different. -/
theorem repeated_eq_nil (h : Weeded met kept repeated c) :
    repeated = [] ↔ met.Pairwise fun a b => a.fix.id ≠ b.fix.id := by
  constructor
  · rintro rfl
    have all : met.Perm kept := by simpa using h.split
    exact (all.pairwise_iff Ne.symm).mpr h.distinct
  · intro different
    cases repeated with
    | nil => rfl
    | cons x rest =>
      obtain ⟨b, -, order, same⟩ := h.first x List.mem_cons_self
      have ne := different.sublist order
      simp [same] at ne

theorem repeat_one (h : Weeded met kept repeated c) {x : Candidate} (known : x.fix.id ∈ c.seen) :
    Weeded (met ++ [x]) kept (repeated ++ [x])
      { c with skipped := c.skipped ++ [skip x.fix .duplicateId] } where
  split := by
    rw [← List.append_assoc]
    exact h.split.append_right [x]
  sublist := h.sublist.trans (List.sublist_append_left met [x])
  candidates := h.candidates
  skipped := by simp [h.skipped]
  seen := h.seen
  distinct := h.distinct
  first := by
    intro y mem
    rcases List.mem_append.mp mem with old | new
    · obtain ⟨b, kept, order, same⟩ := h.first y old
      exact ⟨b, kept, order.trans (List.sublist_append_left met [x]), same⟩
    · rw [List.mem_singleton] at new
      subst new
      obtain ⟨b, mem, same⟩ := (h.seen _).mp known
      have before : [b].Sublist met := List.singleton_sublist.mpr (h.sublist.subset mem)
      exact ⟨b, mem, before.append_right [y], same⟩

theorem keep_one (h : Weeded met kept repeated c) {x : Candidate} (new : x.fix.id ∉ c.seen) :
    Weeded (met ++ [x]) (kept ++ [x]) repeated
      { c with seen := x.fix.id :: c.seen, candidates := c.candidates ++ [x] } where
  split := by
    refine (h.split.append_right [x]).trans ?_
    rw [List.append_assoc, List.append_assoc]
    exact List.perm_append_comm.append_left kept
  sublist := h.sublist.append_right [x]
  candidates := by simp [h.candidates]
  skipped := h.skipped
  seen := by
    intro id
    simp only [List.mem_cons, h.seen, List.mem_append, List.not_mem_nil, or_false, or_and_right,
      exists_or, exists_eq_left]
    rw [or_comm, eq_comm]
  distinct := by
    rw [List.pairwise_append]
    refine ⟨h.distinct, List.pairwise_singleton _ _, ?_⟩
    intro b mem y last same
    rw [List.mem_singleton] at last
    subst last
    exact new ((h.seen _).mpr ⟨b, mem, same⟩)
  first := by
    intro y mem
    obtain ⟨b, kept, order, same⟩ := h.first y mem
    exact ⟨b, List.mem_append_left _ kept, order.trans (List.sublist_append_left met [x]), same⟩

theorem collectFix (h : Weeded met kept repeated c) (d : Diagnostic) (fn : Fix × Nat)
    (nonempty : fn.1.edits ≠ []) :
    ∃ kept repeated, Weeded (met ++ [⟨d, named d fn⟩]) kept repeated (Fix.collectFix d c fn) := by
  simp only [Fix.collectFix, named_edits, List.isEmpty_iff, nonempty, if_false]
  split
  next known => exact ⟨_, _, h.repeat_one (x := ⟨d, named d fn⟩) (by simpa using known)⟩
  next new => exact ⟨_, _, h.keep_one (x := ⟨d, named d fn⟩) (by simpa using new)⟩

theorem foldl_collectFix (h : Weeded met kept repeated c) (d : Diagnostic) (fns : List (Fix × Nat))
    (nonempty : ∀ fn ∈ fns, fn.1.edits ≠ []) :
    ∃ kept repeated, Weeded (met ++ fns.map fun fn => ⟨d, named d fn⟩) kept repeated
      (fns.foldl (Fix.collectFix d) c) := by
  induction fns generalizing met kept repeated c with
  | nil => exact ⟨kept, repeated, by simpa using h⟩
  | cons fn fns ih =>
    obtain ⟨kept', repeated', next⟩ := h.collectFix d fn (nonempty fn List.mem_cons_self)
    simpa using ih next fun fn mem => nonempty fn (List.mem_cons_of_mem _ mem)

theorem collectFrom (h : Weeded met kept repeated c) (d : Diagnostic)
    (resolves : (resolveAll d.fixes).2 = []) (nonempty : ∀ o ∈ offers d, o.fix.edits ≠ []) :
    ∃ kept repeated, Weeded (met ++ resolvedOf d) kept repeated (Fix.collectFrom c d) := by
  have each : ∀ fn ∈ (resolveAll d.fixes).1.zipIdx, fn.1.edits ≠ [] := fun fn mem =>
    nonempty ⟨d, fn.1, fn.2⟩ (List.mem_map_of_mem mem)
  simpa [Fix.collectFrom, resolves, resolvedOf] using h.foldl_collectFix d _ each

theorem foldl (h : Weeded met kept repeated c) (ds : List Diagnostic)
    (resolves : ∀ d ∈ ds, (resolveAll d.fixes).2 = [])
    (nonempty : ∀ o ∈ ds.flatMap offers, o.fix.edits ≠ []) :
    ∃ kept repeated, Weeded (met ++ ds.flatMap resolvedOf) kept repeated
      (ds.foldl Fix.collectFrom c) := by
  induction ds generalizing met kept repeated c with
  | nil => exact ⟨kept, repeated, by simpa using h⟩
  | cons d ds ih =>
    rw [List.forall_mem_cons] at resolves
    simp only [List.flatMap_cons, List.forall_mem_append] at nonempty
    obtain ⟨kept', repeated', next⟩ := h.collectFrom d resolves.1 nonempty.1
    simpa using ih next resolves.2 nonempty.2

end Weeded

theorem Independent.weeded {files : FileSet} {ds : List Diagnostic} (h : Independent files ds) :
    ∃ kept repeated, Weeded (ds.flatMap resolvedOf) kept repeated (collect ds) := by
  have start : Weeded [] [] [] ⟨[], [], []⟩ :=
    ⟨.nil, .slnil, rfl, rfl, by simp, .nil, by simp⟩
  have resolves : ∀ d ∈ ds, (resolveAll d.fixes).2 = [] := fun d mem =>
    resolveAll_errors (h.resolves d mem)
  simpa [collect] using start.foldl ds resolves h.nonempty

/-! ## The pass -/

section Pass

variable {files : FileSet} {ds : List Diagnostic}

theorem editsOf_flatMap_resolvedOf (ds : List Diagnostic) :
    editsOf (ds.flatMap resolvedOf) = (ds.flatMap offers).flatMap (·.fix.edits) := by
  rw [flatMap_resolvedOf, editsOf, List.flatMap_map]
  simp [Offer.candidate]

/-- Taking all fixes leaves out none that is safe. -/
theorem choose_all_of_safe {cs : List Candidate}
    (safe : ∀ c ∈ cs, c.fix.applicability = .alwaysSafe) : choose .all cs = (cs, []) := by
  have each : ∀ c ∈ cs, c.isSafe := by
    intro c mem
    simp [Candidate.isSafe, safe c mem]
  have unsafeOnes : cs.filter (fun c => !c.isSafe) = [] := by
    rw [List.filter_eq_nil_iff]
    intro c mem
    simp [each c mem]
  rw [choose, List.filter_eq_self.mpr each, unsafeOnes, List.map_nil]

namespace Independent

theorem safe_of_resolved (h : Independent files ds) {c : Candidate}
    (mem : c ∈ ds.flatMap resolvedOf) : c.fix.applicability = .alwaysSafe := by
  rw [flatMap_resolvedOf, List.mem_map] at mem
  obtain ⟨o, offered, rfl⟩ := mem
  rw [Offer.candidate, named_applicability]
  exact h.safe o offered

theorem placed_of_resolved (h : Independent files ds) {e : Edit}
    (mem : e ∈ editsOf (ds.flatMap resolvedOf)) : Placed files e := by
  rw [editsOf_flatMap_resolvedOf, List.mem_flatMap] at mem
  obtain ⟨o, offered, owns⟩ := mem
  exact h.placed o offered e owns

/-- Ids are all different when and only when none that is made up is met again. -/
theorem ids_distinct_iff (h : Independent files ds) :
    (ds.flatMap resolvedOf).Pairwise (fun a b => a.fix.id ≠ b.fix.id) ↔
      (ds.flatMap offers).Pairwise fun o p => ¬ o.Collides p := by
  rw [flatMap_resolvedOf, List.pairwise_map]
  refine ⟨fun different => ?_, fun free => ?_⟩
  · refine (different.and h.distinct).imp ?_
    rintro o p ⟨ne, distinct⟩ collision
    exact ne ((Offer.id_eq_iff distinct).mpr collision)
  · refine (free.and h.distinct).imp ?_
    rintro o p ⟨free, distinct⟩ same
    exact free ((Offer.id_eq_iff distinct).mp same)

/-- Whatever is kept of them can be accepted in any order: keeping apart needs none. -/
theorem acceptable (h : Independent files ds) {kept ordered : List Candidate}
    (sub : kept.Sublist (ds.flatMap resolvedOf)) (order : ordered.Perm kept) :
    choose .all ordered = (ordered, []) ∧ (∀ e ∈ editsOf ordered, Placed files e) ∧
      (editsOf ordered).Pairwise Apart := by
  have among : ∀ c ∈ ordered, c ∈ ds.flatMap resolvedOf := fun c mem =>
    sub.subset (order.mem_iff.mp mem)
  refine ⟨choose_all_of_safe fun c mem => h.safe_of_resolved (among c mem), ?_, ?_⟩
  · intro e mem
    obtain ⟨c, taken, owns⟩ := List.mem_flatMap.mp mem
    exact h.placed_of_resolved (List.mem_flatMap.mpr ⟨c, among c taken, owns⟩)
  · have all : (editsOf (ds.flatMap resolvedOf)).Pairwise Apart := by
      rw [editsOf_flatMap_resolvedOf]
      exact h.apart
    have fewer : (editsOf kept).Sublist (editsOf (ds.flatMap resolvedOf)) := sub.flatMap _
    exact ((order.flatMap_right _).pairwise_iff Edit.Apart.symm).mpr (all.sublist fewer)

/-- A dry run applies whatever collecting has kept. -/
theorem applyAll_eq (h : Independent files ds) {kept repeated : List Candidate}
    (weeded : Weeded (ds.flatMap resolvedOf) kept repeated (collect ds)) :
    (applyAll files ds .all true).applied =
        (kept.mergeSort Candidate.atMost).map (·.record files) ∧
      (applyAll files ds .all true).skipped = repeated.map fun x => skip x.fix .duplicateId := by
  rw [← weeded.candidates, ← weeded.skipped]
  by_cases empty : (collect ds).candidates = []
  · simp [applyAll, empty]
  let ordered := (collect ds).candidates.mergeSort Candidate.atMost
  have order : ordered.Perm (collect ds).candidates := List.mergeSort_perm _ _
  have sub : (collect ds).candidates.Sublist (ds.flatMap resolvedOf) := by
    rw [weeded.candidates]
    exact weeded.sublist
  obtain ⟨chosen, placed, apart⟩ := h.acceptable sub order
  have initial : Accepting files true (collect ds).skipped [] [] []
      ⟨[], [], (collect ds).skipped⟩ := .initial
  have inv := initial.foldl_of_apart ordered placed (by simpa using apart)
  have something : ordered ≠ [] := by
    intro nothing
    rw [nothing, List.nil_perm] at order
    exact empty order
  have applied := inv.applied
  have skipped := inv.skipped
  simp only [List.nil_append, reportOf, List.map_nil, List.append_nil] at applied skipped
  simp only [applyAll, List.isEmpty_iff, empty, if_false, chosen, List.append_nil, applied,
    List.map_eq_nil_iff, something, ordered] at *
  split
  all_goals exact ⟨rfl, skipped⟩

end Independent

end Pass

/-- In a dry run over fixes that do not get in each other's way a fix is lost to an earlier
one that goes by the same id, and to nothing else.  All of them are applied when and only
when no id that is made up is met again. -/
theorem apply_independent (files : FileSet) (ds : List Diagnostic) (h : Independent files ds) :
    (∃ kept repeated : List Candidate,
      (ds.flatMap resolvedOf).Perm (kept ++ repeated) ∧
      kept.Pairwise (fun a b => a.fix.id ≠ b.fix.id) ∧
      (∀ x ∈ repeated, ∃ b ∈ kept,
        [b, x].Sublist (ds.flatMap resolvedOf) ∧ b.fix.id = x.fix.id) ∧
      (apply (some files) ds .all true).applied =
        (kept.mergeSort Candidate.atMost).map (·.record files) ∧
      (apply (some files) ds .all true).skipped =
        repeated.map fun x => skip x.fix .duplicateId) ∧
    ((apply (some files) ds .all true).applied.Perm
        ((ds.flatMap resolvedOf).map (·.record files)) ∧
      (apply (some files) ds .all true).skipped = [] ↔
      (ds.flatMap offers).Pairwise fun o p => ¬ o.Collides p) := by
  obtain ⟨kept, repeated, weeded⟩ := h.weeded
  obtain ⟨applied, skipped⟩ := h.applyAll_eq weeded
  refine ⟨⟨kept, repeated, weeded.split, weeded.distinct, weeded.first, applied, skipped⟩, ?_⟩
  rw [← h.ids_distinct_iff, ← weeded.repeated_eq_nil]
  simp only [apply]
  rw [applied, skipped, List.map_eq_nil_iff]
  refine ⟨And.right, fun none => ⟨?_, none⟩⟩
  subst none
  have all : (ds.flatMap resolvedOf).Perm kept := by simpa using weeded.split
  exact ((List.mergeSort_perm kept _).trans all.symm).map _

/-- Two parameters of one function, each reported at the function, with a fix that has no
id: the second fix is lost. -/
theorem apply_independent_params :
    let files : FileSet :=
      ⟨[⟨0, "a.ts", "function test(foo, bar) {}\n", ⟨true, false, false⟩⟩], [], "/"⟩
    let d := Diagnostic.new .error "param-types" "mustBeTyped" ⟨0, 0, 26⟩ "parameter must be typed"
    let typed (name : Span) (type : Text) := { d with
      fixes := [.quick "add parameter type" [.insertAfter name type]] }
    let ds := [typed ⟨0, 14, 17⟩ ": Foo", typed ⟨0, 19, 22⟩ ": Bar"]
    Independent files ds ∧
      ¬ ((apply (some files) ds .all true).applied.Perm
          ((ds.flatMap resolvedOf).map (·.record files)) ∧
        (apply (some files) ds .all true).skipped = []) := by
  intro files d typed ds
  let foo : Fix := .quick "add parameter type" [.insertAfter ⟨0, 14, 17⟩ ": Foo"]
  let bar : Fix := .quick "add parameter type" [.insertAfter ⟨0, 19, 22⟩ ": Bar"]
  have offered : ds.flatMap offers =
      [⟨typed ⟨0, 14, 17⟩ ": Foo", foo, 0⟩, ⟨typed ⟨0, 19, 22⟩ ": Bar", bar, 0⟩] := rfl
  have independent : Independent files ds := {
    resolves := by
      intro d mem f fix
      simp only [ds, typed, List.mem_cons, List.not_mem_nil, or_false] at mem
      rcases mem with rfl | rfl
      all_goals
        rw [List.mem_singleton] at fix
        subst fix
        exact ⟨_, rfl⟩
    nonempty := by
      rw [offered]
      simp [foo, bar, Fix.quick]
    safe := by
      rw [offered]
      simp [foo, bar, Fix.quick]
    placed := by
      rw [offered]
      simp only [foo, bar, Fix.quick, List.forall_mem_cons, List.not_mem_nil, false_implies,
        implies_true, and_true]
      exact ⟨⟨_, rfl, by decide, by decide, .inl rfl⟩, ⟨_, rfl, by decide, by decide, .inl rfl⟩⟩
    apart := by
      rw [offered]
      unfold Edit.Apart
      decide
    distinct := by
      rw [offered]
      simp [foo, bar, Fix.quick] }
  refine ⟨independent, ?_⟩
  rw [(apply_independent files ds independent).2, offered, List.pairwise_pair]
  intro free
  exact free (.madeUp rfl rfl rfl rfl rfl rfl)

end TreeLint.Fix
