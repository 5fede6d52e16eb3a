import TreeLint.Fix.Splice

/-! # Rewriting a text in one go

Edits are spliced one after the other, from the last to the first.  `rewritten` says what
that comes to without an order of application: the text is copied from its start to its
end, and where an edit stands its new text takes the place of the bytes under its span.

The main statement is `splice_eq_rewritten`: edits of one file that fit the text and keep
apart from each other always splice, and the result is the rewritten text.  It rests on
two facts about such edits.  Sorted by their starts, each one stops before the next begins
(`Compatible.before`), so what a later edit does never reaches an earlier one; and the
order they are applied in is that order backwards (`applicationOrder_eq`).

Before that fixes are merged: one pass over them in order keeps the edits of those taken so far
in hand.  `taken` gives the fixes themselves: what merging returns is the list of their edits and
the number of the others (`mergeFixes_eq`).  The decision on a fix depends on nothing behind it
(`takenFrom_append`), and each is taken or has an edit that conflicts with one of a fix taken
before it (`taken_concat`). -/

namespace TreeLint

namespace Span

theorem overlaps_comm (s t : Span) : s.overlaps t = t.overlaps s := by
  simp only [overlaps, isEmpty]
  grind

/-- Two spans of one file that do not conflict lie one after the other, and only empty
ones start together. -/
theorem apart_cases {s t : Span} (file : s.file = t.file) (hs : s.start ≤ s.stop)
    (ht : t.start ≤ t.stop) (apart : s.overlaps t = false) :
    (s.stop ≤ t.start ∨ t.stop ≤ s.start) ∧ (s.start = t.start → s.stop = t.stop) := by
  simp only [overlaps, isEmpty, file, bne_self_eq_false, Bool.false_eq_true, if_false, beq_iff_eq,
    Bool.and_eq_true] at apart
  simp only [← UInt32.toNat_inj, UInt32.le_iff_toNat_le, UInt32.lt_iff_toNat_lt] at *
  split at apart
  · omega
  split at apart
  · simp only [Bool.and_eq_false_iff, decide_eq_false_iff_not] at apart
    omega
  split at apart
  all_goals
    simp only [Bool.and_eq_false_iff, decide_eq_false_iff_not] at apart
    omega

end Span

namespace Edit

/-- Two edits that do not conflict. -/
def Apart (a b : Edit) : Prop := a.span.overlaps b.span = false

instance (a b : Edit) : Decidable (Apart a b) := inferInstanceAs (Decidable (_ = _))

/-- The first edit ends where the second begins, or before. -/
def Before (a b : Edit) : Prop := a.span.stop ≤ b.span.start

/-- An edit whose span lies in a text that has there what the guard asks for. -/
structure Fits (text : Text) (e : Edit) : Prop where
  start_le_stop : e.span.start ≤ e.span.stop
  stop_le_length : e.span.stop.toNat ≤ text.length
  guard : e.oldText = [] ∨ text.slice e.span.start.toNat e.span.stop.toNat = e.oldText

theorem fits_iff {text : Text} {e : Edit} : Fits text e ↔ e.span.start ≤ e.span.stop ∧
    e.span.stop.toNat ≤ text.length ∧
      (e.oldText = [] ∨ text.slice e.span.start.toNat e.span.stop.toNat = e.oldText) :=
  ⟨fun ⟨forward, inside, guard⟩ => ⟨forward, inside, guard⟩,
    fun ⟨forward, inside, guard⟩ => ⟨forward, inside, guard⟩⟩

instance (text : Text) (e : Edit) : Decidable (Fits text e) := decidable_of_iff' _ fits_iff

/-- Copies a text from an offset on, with the new texts of edits in their places. -/
def weave (text : Text) (done : Nat) : List Edit → Text
  | [] => text.drop done
  | e :: es => text.slice done e.span.start.toNat ++ e.newText ++ weave text e.span.stop.toNat es

def startsFirst (a b : Edit) : Bool := a.span.start ≤ b.span.start

/-- The edits in the order of their starts; those that start together keep their order. -/
def inOrder (edits : List Edit) : List Edit := edits.mergeSort startsFirst

/-- The text with all edits made at once. -/
def rewritten (text : Text) (edits : List Edit) : Text := weave text 0 (inOrder edits)

/-! ## Edits that keep apart -/

theorem Apart.symm {a b : Edit} (h : Apart a b) : Apart b a := by
  rw [Apart, Span.overlaps_comm]
  exact h

theorem overlap?_eq_none {edits : List Edit} : overlap? edits = none ↔ edits.Pairwise Apart := by
  induction edits with
  | nil => simp [overlap?]
  | cons e es ih =>
    rw [List.pairwise_cons, ← ih, overlap?]
    split
    next other found =>
      have conflict := List.find?_some found
      simp only [reduceCtorEq, false_iff, not_and]
      intro apart
      rw [apart other (List.mem_of_find?_eq_some found)] at conflict
      contradiction
    next absent =>
      simp only [List.find?_eq_none, Bool.not_eq_true] at absent
      exact ⟨fun rest => ⟨absent, rest⟩, And.right⟩

theorem conflicts_eq_false {taken : List Edit} {e : Edit} :
    conflicts taken e = false ↔ ∀ t ∈ taken, Apart t e := by
  simp [conflicts, Apart]

/-! ## The order of application -/

theorem startsFirst_trans (a b c : Edit) (h : startsFirst a b) (h' : startsFirst b c) :
    startsFirst a c := by
  simp only [startsFirst] at *
  grind

theorem startsFirst_total (a b : Edit) : startsFirst a b || startsFirst b a := by
  simp only [startsFirst]
  grind

theorem appliesFirst_trans (a b c : Edit × Nat) (h : appliesFirst a b) (h' : appliesFirst b c) :
    appliesFirst a c := by
  simp only [appliesFirst] at *
  grind

theorem appliesFirst_total (a b : Edit × Nat) : appliesFirst a b || appliesFirst b a := by
  simp only [appliesFirst]
  grind

theorem mem_inOrder {edits : List Edit} {e : Edit} : e ∈ inOrder edits ↔ e ∈ edits :=
  List.mem_mergeSort

/-- Edits of one file, none of them inverted, that keep apart from each other. -/
structure Compatible (edits : List Edit) : Prop where
  file : ∀ a ∈ edits, ∀ b ∈ edits, a.span.file = b.span.file
  forward : ∀ e ∈ edits, e.span.start ≤ e.span.stop
  apart : edits.Pairwise Apart

namespace Compatible

variable {edits : List Edit}

theorem apart_of_ne (h : Compatible edits) {a b : Edit × Nat} (ha : a ∈ edits.zipIdx)
    (hb : b ∈ edits.zipIdx) (ne : a.2 ≠ b.2) : Apart a.1 b.1 := by
  rw [List.mem_zipIdx_iff_getElem?] at ha hb
  have pair := List.pairwise_iff_getElem.mp h.apart
  obtain ⟨la, ea⟩ := List.getElem?_eq_some_iff.mp ha
  obtain ⟨lb, eb⟩ := List.getElem?_eq_some_iff.mp hb
  rcases Nat.lt_or_gt_of_ne ne with lt | gt
  · rw [← ea, ← eb]
    exact pair _ _ la lb lt
  · rw [← ea, ← eb]
    exact (pair _ _ lb la gt).symm

/-- Edits that start together stop together, so their stops never decide the order of
application. -/
theorem stop_eq (h : Compatible edits) {a b : Edit × Nat} (ha : a ∈ edits.zipIdx)
    (hb : b ∈ edits.zipIdx) (start : a.1.span.start = b.1.span.start) :
    a.1.span.stop = b.1.span.stop := by
  have ma := List.fst_mem_of_mem_zipIdx ha
  have mb := List.fst_mem_of_mem_zipIdx hb
  by_cases place : a.2 = b.2
  · rw [List.mem_zipIdx_iff_getElem?] at ha hb
    rw [place, hb, Option.some.injEq] at ha
    rw [ha]
  · exact (Span.apart_cases (h.file _ ma _ mb) (h.forward _ ma) (h.forward _ mb)
      (h.apart_of_ne ha hb place)).2 start

/-- Backwards, the order of the starts is the order of application. -/
theorem applicationOrder_eq (h : Compatible edits) :
    applicationOrder edits = (inOrder edits).reverse := by
  have last := List.pairwise_mergeSort appliesFirst_trans appliesFirst_total edits.zipIdx
  have backwards : (edits.zipIdx.mergeSort (List.zipIdxLE startsFirst)).reverse.Pairwise
      fun a b => appliesFirst a b := by
    rw [List.pairwise_reverse]
    refine (List.pairwise_mergeSort (List.zipIdxLE_trans startsFirst_trans)
      (List.zipIdxLE_total startsFirst_total) _).imp_of_mem ?_
    intro a b ha hb order
    have stop := h.stop_eq (List.mem_mergeSort.mp ha) (List.mem_mergeSort.mp hb)
    simp only [List.zipIdxLE, startsFirst] at order
    simp only [appliesFirst]
    grind
  have unique : ∀ a b, a ∈ edits.zipIdx.mergeSort appliesFirst →
      b ∈ (edits.zipIdx.mergeSort (List.zipIdxLE startsFirst)).reverse →
      appliesFirst a b → appliesFirst b a → a = b := by
    intro a b ha hb ab ba
    rw [List.mem_mergeSort] at ha
    rw [List.mem_reverse, List.mem_mergeSort] at hb
    simp only [appliesFirst] at ab ba
    have place : a.2 = b.2 := by grind
    rw [List.mem_zipIdx_iff_getElem?] at ha hb
    rw [place, hb, Option.some.injEq] at ha
    exact Prod.ext ha.symm place
  have pairs := List.Perm.eq_of_pairwise unique last backwards
    ((List.mergeSort_perm _ _).trans
      ((List.mergeSort_perm _ _).symm.trans (List.reverse_perm _).symm))
  rw [applicationOrder, pairs, List.map_reverse, List.mergeSort_zipIdx, inOrder]

theorem before (h : Compatible edits) : (inOrder edits).Pairwise Before := by
  have apart : (inOrder edits).Pairwise Apart :=
    (List.mergeSort_perm _ _).symm.pairwise h.apart Apart.symm
  have sorted := List.pairwise_mergeSort startsFirst_trans startsFirst_total edits
  refine (apart.and sorted).imp_of_mem ?_
  rintro a b ha hb ⟨apart, order⟩
  rw [mem_inOrder] at ha hb
  have forward := h.forward b hb
  obtain ⟨cases, together⟩ :=
    Span.apart_cases (h.file a ha b hb) (h.forward a ha) forward apart
  simp only [startsFirst, decide_eq_true_eq] at order
  simp only [Before]
  grind

end Compatible

/-! ## Splicing -/

/-- What was put behind a part of a text does not show in a slice of the part. -/
theorem slice_untouched {text rest : Text} {start stop : Nat} (forward : start ≤ stop)
    (inside : stop ≤ text.length) :
    Text.slice (text.take stop ++ rest) start stop = text.slice start stop := by
  have size : (text.take stop).length = stop := List.length_take_of_le inside
  simp only [Text.slice]
  rw [List.drop_append_of_le_length (by omega), List.take_append_of_le_length (by simp; omega)]
  rw [List.drop_take, List.take_take, Nat.min_self]

/-- One edit replaces the bytes under its span, when the text has not been touched there
or before. -/
theorem spliceOne_eq {text rest : Text} {e : Edit} (fits : Fits text e) :
    spliceOne text.length (text.take e.span.stop.toNat ++ rest) e
      = .ok (text.take e.span.start.toNat ++ e.newText ++ rest) := by
  obtain ⟨forward, inside, guard⟩ := fits
  rw [UInt32.le_iff_toNat_le] at forward
  have size : (text.take e.span.stop.toNat).length = e.span.stop.toNat := by
    rw [List.length_take]
    omega
  -- The guard is compared with a part of the text that nothing has touched yet.
  have found : Text.slice (text.take e.span.stop.toNat ++ rest) e.span.start.toNat
      e.span.stop.toNat = text.slice e.span.start.toNat e.span.stop.toNat :=
    slice_untouched forward inside
  have matching : (!e.oldText.isEmpty && Text.slice text e.span.start.toNat e.span.stop.toNat
      != e.oldText) = false := by
    rcases guard with none | same
    · simp [none]
    · simp [same]
  simp only [spliceOne]
  rw [if_neg (by omega), if_neg (by rw [List.length_append]; omega), found, matching]
  simp [List.take_append, List.take_take, size, forward]

/-- Edits that lie one after the other are spliced from the last to the first, and what
lies before them all stays as it was. -/
theorem foldlM_spliceOne {text : Text} {es : List Edit} (fits : ∀ e ∈ es, Fits text e)
    (ordered : es.Pairwise Before) (done : Nat) (bound : done ≤ text.length)
    (first : ∀ e ∈ es, done ≤ e.span.start.toNat) :
    es.reverse.foldlM (spliceOne text.length) text
      = .ok (text.take done ++ weave text done es) := by
  induction es generalizing done with
  | nil => simp [weave, pure, Except.pure]
  | cons e es ih =>
    have here := fits e List.mem_cons_self
    rw [List.pairwise_cons] at ordered
    have later : ∀ f ∈ es, e.span.stop.toNat ≤ f.span.start.toNat := fun f mem =>
      UInt32.le_iff_toNat_le.mp (ordered.1 f mem)
    have rest := ih (fun f mem => fits f (List.mem_cons_of_mem _ mem)) ordered.2
      e.span.stop.toNat here.stop_le_length later
    rw [List.reverse_cons, List.foldlM_append, rest]
    have begins := first e List.mem_cons_self
    have copied : text.take e.span.start.toNat
        = text.take done ++ text.slice done e.span.start.toNat := by
      rw [Text.slice, ← List.take_add]
      congr 1
      omega
    simp only [bind, Except.bind, List.foldlM_cons, List.foldlM_nil, pure, Except.pure,
      spliceOne_eq here, weave, copied, List.append_assoc]

/-- Edits of one file that fit a text and keep apart from each other splice to the
rewritten text. -/
theorem splice_eq_rewritten {text : Text} {edits : List Edit} (small : text.length < UInt32.size)
    (file : ∀ a ∈ edits, ∀ b ∈ edits, a.span.file = b.span.file)
    (fits : ∀ e ∈ edits, Fits text e) (apart : edits.Pairwise Apart) :
    splice text edits = .ok (rewritten text edits) := by
  have compatible : Compatible edits := ⟨file, fun e mem => (fits e mem).start_le_stop, apart⟩
  have spliced := foldlM_spliceOne (fun e mem => fits e (mem_inOrder.mp mem)) compatible.before 0
    (Nat.zero_le _) (fun _ _ => Nat.zero_le _)
  rw [splice, overlap?_eq_none.mpr apart]
  simp only
  rw [if_neg (by omega), compatible.applicationOrder_eq, spliced, rewritten]
  simp

/-! ## Which fixes are merged -/

variable {α : Type} (edits : α → List Edit)

/-- The fixes of a list, each with its edits, that are taken when some edits are held already:
those that have edits and none in conflict with an edit held by then. -/
def takenFrom (held : List Edit) : List α → List α
  | [] => []
  | f :: fs =>
    if (edits f).isEmpty || (edits f).any (conflicts held) then takenFrom held fs
    else f :: takenFrom (held ++ edits f) fs

/-- The fixes of a list that are taken. -/
def taken (fs : List α) : List α := takenFrom edits [] fs

/-- Whether a fix has edits. -/
def hasEdits (f : α) : Bool := !(edits f).isEmpty

variable {edits} {held : List Edit}

theorem takenFrom_cons_of_isEmpty {f : α} (none : edits f = []) (fs : List α) :
    takenFrom edits held (f :: fs) = takenFrom edits held fs := by
  rw [takenFrom, none]
  rfl

theorem takenFrom_cons_of_conflict {f : α} (conflict : (edits f).any (conflicts held))
    (fs : List α) : takenFrom edits held (f :: fs) = takenFrom edits held fs := by
  rw [takenFrom, conflict, Bool.or_true, if_pos rfl]

theorem takenFrom_cons_of_apart {f : α} (some : edits f ≠ [])
    (apart : (edits f).any (conflicts held) = false) (fs : List α) :
    takenFrom edits held (f :: fs) = f :: takenFrom edits (held ++ edits f) fs := by
  rw [takenFrom, apart, List.isEmpty_eq_false_iff.mpr some]
  rfl

theorem any_conflicts_eq_false {es : List Edit} :
    es.any (conflicts held) = false ↔ ∀ t ∈ held, ∀ e ∈ es, Apart t e := by
  simp only [List.any_eq_false, Bool.not_eq_true, conflicts_eq_false]
  exact ⟨fun h t held e mem => h e mem t held, fun h e mem t held => h t held e mem⟩

theorem takenFrom_sublist (held : List Edit) (fs : List α) :
    (takenFrom edits held fs).Sublist fs := by
  induction fs generalizing held with
  | nil => exact .slnil
  | cons f fs ih =>
    rw [takenFrom]
    split
    · exact (ih held).cons f
    · exact (ih _).cons_cons f

/-- Where all edits keep apart, every fix that has any is taken. -/
theorem takenFrom_of_apart {fs : List α} (some : ∀ f ∈ fs, edits f ≠ [])
    (apart : (held ++ fs.flatMap edits).Pairwise Apart) : takenFrom edits held fs = fs := by
  induction fs generalizing held with
  | nil => rfl
  | cons f fs ih =>
    rw [List.forall_mem_cons] at some
    rw [List.flatMap_cons, ← List.append_assoc] at apart
    have own : (edits f).any (conflicts held) = false := any_conflicts_eq_false.mpr
      (List.pairwise_append.mp (List.pairwise_append.mp apart).1).2.2
    rw [takenFrom_cons_of_apart some.1 own, ih some.2 apart]

/-- What is taken of the first fixes does not depend on those that follow. -/
theorem takenFrom_append (held : List Edit) (fs gs : List α) :
    takenFrom edits held (fs ++ gs) = takenFrom edits held fs ++
      takenFrom edits (held ++ (takenFrom edits held fs).flatMap edits) gs := by
  induction fs generalizing held with
  | nil => simp [takenFrom]
  | cons f fs ih =>
    rw [List.cons_append, takenFrom, takenFrom]
    split
    · exact ih held
    · rw [ih, List.flatMap_cons, List.append_assoc, List.cons_append]

/-- Fixes without edits make no difference. -/
theorem takenFrom_filter (held : List Edit) (fs : List α) :
    takenFrom edits held (fs.filter (hasEdits edits)) = takenFrom edits held fs := by
  induction fs generalizing held with
  | nil => rfl
  | cons f fs ih =>
    by_cases none : edits f = []
    · rw [takenFrom_cons_of_isEmpty none, List.filter_cons_of_neg (by simp [hasEdits, none]), ih]
    · rw [List.filter_cons_of_pos (by simp [hasEdits, none]), takenFrom, takenFrom, ih, ih]

theorem foldl_mergeOne (held : List Edit) (skipped : Nat) (fs : List α) :
    (fs.map edits).foldl mergeOne (held, skipped) =
      (held ++ (takenFrom edits held fs).flatMap edits,
        skipped + (fs.length - (takenFrom edits held fs).length)) := by
  induction fs generalizing held skipped with
  | nil => simp [takenFrom]
  | cons f fs ih =>
    have fewer (held : List Edit) := (@takenFrom_sublist _ edits held fs).length_le
    simp only [List.map_cons, List.foldl_cons, mergeOne, takenFrom]
    split
    · rw [ih, List.length_cons]
      have := fewer held
      exact Prod.ext rfl (by simp only; omega)
    · rw [ih, List.flatMap_cons, List.append_assoc, List.length_cons, List.length_cons,
        Nat.add_sub_add_right]

/-- Merging returns the edits of the fixes it takes and the number of the others. -/
theorem mergeFixes_eq (fs : List α) :
    mergeFixes (fs.map edits)
      = ((taken edits fs).flatMap edits, fs.length - (taken edits fs).length) := by
  rw [mergeFixes, foldl_mergeOne, List.nil_append, Nat.zero_add, taken]

/-- The edits of the fixes taken keep apart, from those held and from each other. -/
theorem pairwise_takenFrom {held : List Edit} {fs : List α} (free : held.Pairwise Apart)
    (own : ∀ f ∈ fs, (edits f).Pairwise Apart) :
    (held ++ (takenFrom edits held fs).flatMap edits).Pairwise Apart := by
  induction fs generalizing held with
  | nil => simpa [takenFrom] using free
  | cons f fs ih =>
    rw [List.forall_mem_cons] at own
    rw [takenFrom]
    split
    · exact ih free own.2
    next fine =>
      rw [Bool.or_eq_true, not_or, Bool.not_eq_true, Bool.not_eq_true] at fine
      rw [List.flatMap_cons, ← List.append_assoc]
      refine ih ?_ own.2
      exact List.pairwise_append.mpr ⟨free, own.1, any_conflicts_eq_false.mp fine.2⟩

/-- The first fix that has edits is taken. -/
theorem taken_first {before rest : List α} {f : α} (none : ∀ g ∈ before, edits g = [])
    (some : edits f ≠ []) : ∃ more, taken edits (before ++ f :: rest) = f :: more := by
  have nothing : takenFrom edits [] before = [] := by
    rw [← takenFrom_filter, List.filter_eq_nil_iff.mpr fun g mem => by simp [hasEdits, none g mem],
      takenFrom]
  have apart : (edits f).any (conflicts []) = false := any_conflicts_eq_false.mpr (by simp)
  rw [taken, takenFrom_append, nothing, List.flatMap_nil, List.append_nil,
    takenFrom_cons_of_apart some apart]
  exact ⟨_, rfl⟩

theorem taken_prefix (done rest : List α) :
    ∃ more, taken edits (done ++ rest) = taken edits done ++ more := by
  rw [taken, takenFrom_append]
  exact ⟨_, rfl⟩

theorem taken_concat_of_isEmpty {f : α} (none : edits f = []) (done : List α) :
    taken edits (done ++ [f]) = taken edits done := by
  rw [taken, takenFrom_append, takenFrom_cons_of_isEmpty none, takenFrom, List.append_nil, taken]

/-- A fix that has edits is taken, or it conflicts with one that was taken before it. -/
theorem taken_concat {f : α} (some : edits f ≠ []) (done : List α) :
    taken edits (done ++ [f]) = taken edits done ++ [f] ∨
      taken edits (done ++ [f]) = taken edits done ∧
        ∃ g ∈ taken edits done, ∃ t ∈ edits g, ∃ e ∈ edits f, ¬ Apart t e := by
  rw [taken, takenFrom_append, List.nil_append]
  by_cases conflict : (edits f).any (conflicts ((takenFrom edits [] done).flatMap edits))
  · refine .inr ⟨by rw [takenFrom_cons_of_conflict conflict, takenFrom, List.append_nil, taken], ?_⟩
    obtain ⟨e, mem, clash⟩ := List.any_eq_true.mp conflict
    obtain ⟨t, held, overlap⟩ := List.any_eq_true.mp clash
    obtain ⟨g, before, owns⟩ := List.mem_flatMap.mp held
    exact ⟨g, before, t, owns, e, mem, fun apart => by rw [apart] at overlap; contradiction⟩
  · rw [Bool.not_eq_true] at conflict
    exact .inl (by rw [takenFrom_cons_of_apart some conflict, takenFrom, taken])

end Edit
end TreeLint
