import TreeLint.Text

/-! # Parts of texts

Cutting a text at a mark finds the first place where the mark stands (`cut?_eq_some`), and it
fails where there is no such place (`cut?_eq_none`).  Where the first place is, the bytes up to
the end of the mark tell (`cut?_append`).

A slice between two offsets in order puts together what lies up to the one and from the other on
(`take_append_slice`, `drop_eq_slice_append`), and slices between neighbouring offsets put together
the text (`flatMap_slice`).  Where both offsets lie in the text, nothing that is asked for is
missing (`slice?_eq_some`).

A number is written in digits and can be read back, so in a text that is put together from
numbers with other bytes between them the numbers can be told: whatever stands before the
last separator, the number behind it is the one that was written (`append_decimal_inj`).
-/

namespace TreeLint.Text

variable {mark t before after : Text}

/-! ## Cutting at marks -/

theorem afterHead?_eq_some {head rest : Text} :
    afterHead? head t = some rest ↔ t = head ++ rest := by
  induction head generalizing t with
  | nil => simp [afterHead?, eq_comm]
  | cons h hs ih =>
    cases t with
    | nil => simp [afterHead?]
    | cons b bs =>
      by_cases same : h = b
      · simp [afterHead?, same, ih]
      · simp [afterHead?, same, Ne.symm same]

/-- A mark stands in a text between `before` and `after`, and nowhere earlier. -/
structure FirstCut (mark t before after : Text) : Prop where
  whole : t = before ++ mark ++ after
  first : ∀ b a, t = b ++ mark ++ a → before.length ≤ b.length

theorem cut?_eq_none : cut? mark t = none ↔ ¬ mark <:+: t := by
  induction t with
  | nil =>
    rw [cut?, List.infix_nil, ← List.isEmpty_iff]
    split <;> simp_all
  | cons b t ih =>
    rw [cut?, List.infix_cons_iff, not_or, ← ih]
    split
    next rest found =>
      have starts : mark <+: b :: t := ⟨rest, (afterHead?_eq_some.mp found).symm⟩
      simp [starts]
    next missed =>
      have notFirst : ¬ mark <+: b :: t := by
        rintro ⟨rest, whole⟩
        rw [afterHead?_eq_some.mpr whole.symm] at missed
        contradiction
      simp [notFirst]

theorem firstCut_of_cut? (h : cut? mark t = some (before, after)) :
    FirstCut mark t before after := by
  induction t generalizing before with
  | nil =>
    simp only [cut?] at h
    split at h
    next empty =>
      cases h
      rw [List.isEmpty_iff] at empty
      subst empty
      exact ⟨rfl, fun _ _ _ => Nat.zero_le _⟩
    · contradiction
  | cons c t ih =>
    simp only [cut?] at h
    split at h
    next found =>
      cases h
      exact ⟨afterHead?_eq_some.mp found, fun _ _ _ => Nat.zero_le _⟩
    next missed =>
      simp only [Option.map_eq_some_iff, Prod.exists, Prod.mk.injEq] at h
      obtain ⟨before, after, inner, rfl, rfl⟩ := h
      obtain ⟨whole, first⟩ := ih inner
      refine ⟨congrArg (c :: ·) whole, fun b a eq => ?_⟩
      cases b with
      | nil =>
        have starts : afterHead? mark (c :: t) = some a := afterHead?_eq_some.mpr eq
        rw [starts] at missed
        contradiction
      | cons d b => exact Nat.succ_le_succ (first b a (List.cons.inj eq).2)

theorem FirstCut.unique {before' after' : Text} (h : FirstCut mark t before after)
    (h' : FirstCut mark t before' after') : before = before' ∧ after = after' := by
  have length : before.length = before'.length :=
    Nat.le_antisymm (h.first _ _ h'.whole) (h'.first _ _ h.whole)
  have same := h.whole.symm.trans h'.whole
  rw [List.append_assoc, List.append_assoc] at same
  obtain ⟨rfl, rest⟩ := List.append_inj same length
  exact ⟨rfl, List.append_cancel_left rest⟩

theorem cut?_eq_some : cut? mark t = some (before, after) ↔ FirstCut mark t before after := by
  refine ⟨firstCut_of_cut?, fun h => ?_⟩
  cases cut : cut? mark t with
  | none => exact absurd ⟨before, after, h.whole.symm⟩ (cut?_eq_none.mp cut)
  | some parts =>
    obtain ⟨rfl, rfl⟩ := h.unique (firstCut_of_cut? cut)
    rfl

/-- What comes after the mark does not tell where it stands. -/
theorem FirstCut.append (h : FirstCut mark t before after) (after' : Text) :
    FirstCut mark (before ++ mark ++ after') before after' := by
  refine ⟨rfl, fun b a eq => Nat.le_of_not_lt fun earlier => ?_⟩
  have upTo : b ++ mark <+: before ++ mark := by
    refine List.prefix_of_prefix_length_le ⟨a, eq.symm⟩ ⟨after', rfl⟩ ?_
    simp only [List.length_append]
    omega
  obtain ⟨more, same⟩ := upTo
  have le := h.first b (more ++ after) (by rw [h.whole, ← same, List.append_assoc])
  omega

/-- The first occurrence of a mark is told by the bytes up to its end. -/
theorem cut?_append (h : cut? mark t = some (before, after)) :
    t = before ++ mark ++ after ∧
      ∀ after', cut? mark (before ++ mark ++ after') = some (before, after') :=
  ⟨(cut?_eq_some.mp h).whole, fun after' => cut?_eq_some.mpr ((cut?_eq_some.mp h).append after')⟩

/-! ## Slices -/

theorem take_append_slice {start stop : Nat} (le : start ≤ stop) :
    t.take start ++ t.slice start stop = t.take stop := by
  rw [slice, ← List.take_add, Nat.add_sub_cancel' le]

/-- The slices between cuts in order are the text up to the last cut. -/
theorem flatMap_slice {cut : Nat → Nat} (zero : cut 0 = 0) {n : Nat}
    (forward : ∀ i < n, cut i ≤ cut (i + 1)) :
    ((List.range n).flatMap fun i => t.slice (cut i) (cut (i + 1))) = t.take (cut n) := by
  induction n with
  | zero => rw [zero]; rfl
  | succ n ih =>
    rw [List.range_succ, List.flatMap_append, ih fun i lt => forward i (by omega),
      List.flatMap_singleton, take_append_slice (forward n n.lt_succ_self)]

theorem slice_succ {start stop : Nat} {b : UInt8} (le : start ≤ stop) (h : t[stop]? = some b) :
    t.slice start (stop + 1) = t.slice start stop ++ [b] := by
  have last : (t.drop start)[stop - start]? = some b := by
    rw [List.getElem?_drop, Nat.add_sub_cancel' le, h]
  rw [slice, slice, Nat.sub_add_comm le, List.take_add_one, last]
  rfl

theorem drop_eq_slice_append {start stop : Nat} (le : start ≤ stop) :
    t.drop start = t.slice start stop ++ t.drop stop := by
  conv => lhs; rw [← List.take_append_drop (stop - start) (t.drop start)]
  rw [List.drop_drop, Nat.add_sub_cancel' le, slice]

theorem length_slice {start stop : Nat} (le : start ≤ stop) (inside : stop ≤ t.length) :
    (t.slice start stop).length = stop - start := by
  rw [slice, List.length_take, List.length_drop]
  omega

/-- A slice of a slice is one of the text. -/
theorem slice_slice {lo hi start stop : Nat} (inside : lo + stop ≤ hi) :
    (t.slice lo hi).slice start stop = t.slice (lo + start) (lo + stop) := by
  rw [slice, slice, slice, List.drop_take, List.take_take, List.drop_drop]
  congr 1
  omega

theorem slice?_eq_some {start stop : Nat} (le : start ≤ stop) (inside : stop ≤ t.length) :
    t.slice? start stop = some (t.slice start stop) := by
  rw [slice?, if_pos (by omega), Int.toNat_natCast, Int.toNat_natCast]

/-! ## Decimal numbers -/

theorem utf8_eq (s : String) : utf8 s = s.toList.flatMap String.utf8EncodeChar := by
  rw [utf8, String.toUTF8, ← String.utf8Encode_toList, List.utf8Encode]
  simp

theorem utf8_inj {s t : String} : utf8 s = utf8 t ↔ s = t := by
  constructor
  · intro same
    rw [← String.toByteArray_inj]
    exact ByteArray.ext (Array.toList_inj.mp same)
  · rintro rfl
    rfl

/-- A number can be read back from its digits. -/
theorem decimal_inj {m n : Nat} : decimal m = decimal n ↔ m = n := by
  rw [decimal, decimal, utf8_inj]
  constructor
  · intro same
    have digits : Nat.toDigits 10 m = Nat.toDigits 10 n := by
      rw [← Nat.toList_repr, ← Nat.toList_repr]
      exact congrArg String.toList same
    have back := congrArg (Nat.ofDigitChars 10 · 0) digits
    simpa using back
  · rintro rfl
    rfl

theorem isDigit_of_mem_decimal {n : Nat} {b : UInt8} (mem : b ∈ decimal n) : isDigit b := by
  rw [decimal, utf8_eq, List.mem_flatMap] at mem
  obtain ⟨c, shown, mem⟩ := mem
  have digit : c.isDigit := by
    apply Nat.isDigit_of_mem_toDigits (b := 10) (n := n) (by decide) (by decide)
    rw [← Nat.toList_repr]
    exact shown
  simp only [Char.isDigit, Bool.and_eq_true, decide_eq_true_eq, ge_iff_le,
    UInt32.le_iff_toNat_le] at digit
  have low : 48 ≤ c.val.toNat := digit.1
  have high : c.val.toNat ≤ 57 := digit.2
  have single : c.utf8Size = 1 := by
    rw [Char.utf8Size_eq_one_iff, UInt32.le_iff_toNat_le]
    show c.val.toNat ≤ 127
    omega
  rw [String.utf8EncodeChar_eq_singleton single, List.mem_singleton] at mem
  subst mem
  have code : c.val.toUInt8.toNat = c.val.toNat := by
    rw [UInt32.toNat_toUInt8]
    omega
  rw [isDigit, Bool.and_eq_true, decide_eq_true_eq, decide_eq_true_eq, UInt8.le_iff_toNat_le,
    UInt8.le_iff_toNat_le, code]
  exact ⟨low, high⟩

/-- What stands behind the last separator can be told from what stands before it. -/
theorem append_separator_inj {sep : UInt8} {a b x y : Text} (hx : sep ∉ x) (hy : sep ∉ y) :
    a ++ [sep] ++ x = b ++ [sep] ++ y ↔ a = b ∧ x = y := by
  constructor
  · intro same
    -- One of the two ends is part of the other; the separator of the shorter would be in
    -- the longer.
    rw [List.append_assoc, List.append_assoc, List.append_eq_append_iff] at same
    rcases same with ⟨more, rfl, eq⟩ | ⟨more, rfl, eq⟩
    · cases more with
      | nil => simpa using eq
      | cons c more =>
        simp only [List.cons_append, List.nil_append, List.cons.injEq] at eq
        exact absurd (eq.2 ▸ by simp) hx
    · cases more with
      | nil => simpa [eq_comm] using eq
      | cons c more =>
        simp only [List.cons_append, List.nil_append, List.cons.injEq] at eq
        exact absurd (eq.2 ▸ by simp) hy
  · rintro ⟨rfl, rfl⟩
    rfl

/-- The number at the end of a text, behind a byte that is no digit. -/
theorem append_decimal_inj {sep : UInt8} (other : ¬ isDigit sep) {a b : Text} {m n : Nat} :
    a ++ [sep] ++ decimal m = b ++ [sep] ++ decimal n ↔ a = b ∧ m = n := by
  rw [append_separator_inj (fun mem => other (isDigit_of_mem_decimal mem))
    (fun mem => other (isDigit_of_mem_decimal mem)), decimal_inj]

end TreeLint.Text
