import Mathlib
import TreeLint.Source.Utf16

/-! # Offsets in order

The byte offsets of the UTF-16 units of a text are in order and end with the length of the
text.  So a range of units that is not inverted is a range of bytes that is not, and what
lies inside a range of units lies inside it in bytes.
-/

namespace TreeLint

namespace Utf8

theorem width_char (c : Char) : (Piece.char c).width = c.utf8Size := by
  simp [Piece.width, Piece.bytes]

theorem width_stray (b : UInt8) : (Piece.stray b).width = 1 := rfl

theorem utf8Size_eq (c : Char) :
    c.utf8Size = if c.toNat < 0x80 then 1 else if c.toNat < 0x800 then 2
      else if c.toNat < 0x10000 then 3 else 4 := by
  simp only [Char.utf8Size, UInt32.le_iff_toNat_le, Char.toNat, Nat.lt_succ_iff]
  rfl

theorem toNat_ofNat {n : Nat} (h : n < 0xD800 ∨ 0xDFFF < n ∧ n < 0x110000) :
    (Char.ofNat n).toNat = n := by
  have valid : n.isValidChar := h
  simp [Char.ofNat, valid, Char.toNat, Char.ofNatAux]

theorem width_ofNat {n : Nat} (h : n < 0xD800 ∨ 0xDFFF < n ∧ n < 0x110000) :
    (Piece.char (Char.ofNat n)).width
      = if n < 0x80 then 1 else if n < 0x800 then 2 else if n < 0x10000 then 3 else 4 := by
  rw [width_char, utf8Size_eq, toNat_ofNat h]

theorem isTail_iff {b : UInt8} : isTail b = true ↔ 0x80 ≤ b.toNat ∧ b.toNat ≤ 0xBF := by
  simp [isTail, UInt8.le_iff_toNat_le]

/-- A second byte excludes the longer forms, the surrogates and what is past the last
character. -/
theorem isSecond_bounds {lead b : UInt8} (h : isSecond lead b = true) :
    0x80 ≤ b.toNat ∧ b.toNat ≤ 0xBF ∧ (lead.toNat = 0xE0 → 0xA0 ≤ b.toNat) ∧
      (lead.toNat = 0xED → b.toNat ≤ 0x9F) ∧ (lead.toNat = 0xF0 → 0x90 ≤ b.toNat) ∧
      (lead.toNat = 0xF4 → b.toNat ≤ 0x8F) := by
  have within : ∀ {low high : UInt8}, (decide (low ≤ b) && decide (b ≤ high)) = true →
      low.toNat ≤ b.toNat ∧ b.toNat ≤ high.toNat := by
    simp [UInt8.le_iff_toNat_le]
  simp only [isSecond, isTail, beq_iff_eq, ← UInt8.toNat_inj, UInt8.reduceToNat] at h
  split at h
  · have := within h
    simp only [UInt8.reduceToNat] at this
    omega
  · split at h
    · have := within h
      simp only [UInt8.reduceToNat] at this
      omega
    · split at h
      · have := within h
        simp only [UInt8.reduceToNat] at this
        omega
      · split at h
        · have := within h
          simp only [UInt8.reduceToNat] at this
          omega
        · have := within h
          simp only [UInt8.reduceToNat] at this
          omega

theorem utf8EncodeChar_ofNat {n : Nat} (h : n < 0xD800 ∨ 0xDFFF < n ∧ n < 0x110000) :
    String.utf8EncodeChar (Char.ofNat n)
      = if n ≤ 0x7F then [UInt8.ofNat n]
        else if n ≤ 0x7FF then [UInt8.ofNat (n / 64 % 32 + 0xC0), UInt8.ofNat (n % 64 + 0x80)]
        else if n ≤ 0xFFFF then
          [UInt8.ofNat (n / 4096 % 16 + 0xE0), UInt8.ofNat (n / 64 % 64 + 0x80),
            UInt8.ofNat (n % 64 + 0x80)]
        else
          [UInt8.ofNat (n / 262144 % 8 + 0xF0), UInt8.ofNat (n / 4096 % 64 + 0x80),
            UInt8.ofNat (n / 64 % 64 + 0x80), UInt8.ofNat (n % 64 + 0x80)] := by
  have code : (Char.ofNat n).val.toNat = n := toNat_ofNat h
  rw [String.utf8EncodeChar, code]

theorem ofNat_eq {b : UInt8} {n : Nat} (h : n = b.toNat) : UInt8.ofNat n = b := by
  rw [h, UInt8.ofNat_toNat]

/-- A piece and what follows it are the bytes that are read. -/
theorem bytes_split (b : UInt8) (rest : Text) :
    (split b rest).1.bytes ++ (split b rest).2 = b :: rest := by
  unfold split
  simp only [Bool.and_eq_true, decide_eq_true_eq, UInt8.le_iff_toNat_le, UInt8.lt_iff_toNat_lt,
    UInt8.reduceToNat]
  split
  · rw [Piece.bytes, utf8EncodeChar_ofNat (by omega), if_pos (by omega), ofNat_eq rfl]
    rfl
  split
  · split
    next b1 r =>
      split
      next tail =>
        have := isTail_iff.mp tail
        unfold low
        rw [Piece.bytes, utf8EncodeChar_ofNat (by omega), if_neg (by omega), if_pos (by omega),
          @ofNat_eq b _ (by omega), @ofNat_eq b1 _ (by omega)]
        rfl
      · rfl
    · rfl
  split
  · split
    next b1 b2 r =>
      split
      next tails =>
        have second := isSecond_bounds tails.1
        have third := isTail_iff.mp tails.2
        unfold low
        rw [Piece.bytes, utf8EncodeChar_ofNat (by omega), if_neg (by omega), if_neg (by omega),
          if_pos (by omega), @ofNat_eq b _ (by omega), @ofNat_eq b1 _ (by omega),
          @ofNat_eq b2 _ (by omega)]
        rfl
      · rfl
    · rfl
  split
  · split
    next b1 b2 b3 r =>
      split
      next tails =>
        have second := isSecond_bounds tails.1.1
        have third := isTail_iff.mp tails.1.2
        have fourth := isTail_iff.mp tails.2
        unfold low
        rw [Piece.bytes, utf8EncodeChar_ofNat (by omega), if_neg (by omega), if_neg (by omega),
          if_neg (by omega), @ofNat_eq b _ (by omega), @ofNat_eq b1 _ (by omega),
          @ofNat_eq b2 _ (by omega), @ofNat_eq b3 _ (by omega)]
        rfl
      · rfl
    · rfl
  · rfl

/-- Reading a piece takes as many bytes as the piece is wide. -/
theorem width_split (b : UInt8) (rest : Text) :
    (split b rest).1.width + (split b rest).2.length = rest.length + 1 := by
  have whole := congrArg List.length (bytes_split b rest)
  rwa [List.length_append, List.length_cons] at whole

theorem width_pieces (t : Text) : ((pieces t).map Piece.width).sum = t.length := by
  induction t using pieces.induct with
  | case1 => simp [pieces]
  | case2 b rest ih =>
    rw [pieces, List.map_cons, List.sum_cons, ih, List.length_cons]
    exact width_split b rest

end Utf8

namespace Utf16Index

open Utf8 (Piece)

/-- A character of two units takes four bytes. -/
theorem units_le_width (p : Piece) : units p ≤ p.width := by
  cases p with
  | char c =>
    rw [Utf8.width_char, Utf8.utf8Size_eq, units]
    have code : (Piece.char c).code = c.toNat := rfl
    rw [code]
    repeat' split
    all_goals omega
  | stray b =>
    have code : (Piece.stray b).code = 0xFFFD := rfl
    simp [Utf8.width_stray, units, code]

theorem length_unitOffsets (offset : Nat) (ps : List Piece) :
    (unitOffsets offset ps).length = (ps.map units).sum + 1 := by
  induction ps generalizing offset with
  | nil => rfl
  | cons p ps ih =>
    rw [unitOffsets, List.length_append, List.length_replicate, ih, List.map_cons, List.sum_cons]
    omega

theorem mem_unitOffsets {offset x : Nat} {ps : List Piece} (h : x ∈ unitOffsets offset ps) :
    offset ≤ x ∧ x ≤ offset + (ps.map Piece.width).sum := by
  induction ps generalizing offset with
  | nil =>
    rw [unitOffsets, List.mem_singleton] at h
    simp [h]
  | cons p ps ih =>
    rw [unitOffsets, List.mem_append] at h
    rw [List.map_cons, List.sum_cons]
    cases h with
    | inl first =>
      have := List.eq_of_mem_replicate first
      omega
    | inr later =>
      have := ih later
      omega

theorem unitOffsets_sorted (offset : Nat) (ps : List Piece) :
    (unitOffsets offset ps).Pairwise (· ≤ ·) := by
  induction ps generalizing offset with
  | nil => exact List.pairwise_singleton _ _
  | cons p ps ih =>
    refine List.pairwise_append.mpr ⟨?_, ih _, fun x first y later => ?_⟩
    · exact List.pairwise_replicate.mpr (Or.inr (Nat.le_refl _))
    · have := List.eq_of_mem_replicate first
      have := (mem_unitOffsets later).1
      omega

theorem size_ofText_le (content : Text) : (ofText content).size ≤ content.length := by
  unfold ofText
  split
  · exact Nat.le_refl _
  · have sums : ∀ ps : List Piece, (ps.map units).sum ≤ (ps.map Piece.width).sum := by
      intro ps
      induction ps with
      | nil => exact Nat.le_refl _
      | cons p ps ih => exact Nat.add_le_add (units_le_width p) ih
    have := sums (Utf8.pieces content)
    simp only [size, List.size_toArray, length_unitOffsets]
    rw [Utf8.width_pieces] at this
    omega

/-- Every unit of a text has a byte offset in the text. -/
theorem exists_byteOffset? {content : Text} {unit : Nat} (h : unit ≤ (ofText content).size) :
    ∃ b, (ofText content).byteOffset? unit = some b ∧ b ≤ content.length := by
  unfold ofText at h ⊢
  split at h
  next ascii => exact ⟨unit, by rw [if_pos ascii]; exact if_pos h, h⟩
  next wide =>
    rw [if_neg wide]
    simp only [size, List.size_toArray, length_unitOffsets, Nat.add_sub_cancel] at h
    have inside : unit < (unitOffsets 0 (Utf8.pieces content)).length := by
      rw [length_unitOffsets]
      omega
    refine ⟨(unitOffsets 0 (Utf8.pieces content))[unit], ?_, ?_⟩
    · simp [byteOffset?, inside]
    · have := (mem_unitOffsets (List.getElem_mem inside)).2
      rwa [Utf8.width_pieces, Nat.zero_add] at this

theorem le_size_of_byteOffset? {index : Utf16Index} {unit b : Nat}
    (h : index.byteOffset? unit = some b) : unit ≤ index.size := by
  cases index with
  | ascii size =>
    rw [byteOffset?, Option.ite_none_right_eq_some] at h
    exact h.1
  | table offsets =>
    have inside : unit < offsets.size := (Array.getElem?_eq_some_iff.mp h).1
    exact Nat.le_sub_one_of_lt inside

/-- The byte offset of a unit lies in the text. -/
theorem byteOffset?_le {content : Text} {unit b : Nat}
    (h : (ofText content).byteOffset? unit = some b) : b ≤ content.length := by
  obtain ⟨b', found, le⟩ := exists_byteOffset? (le_size_of_byteOffset? h)
  cases h.symm.trans found
  exact le

/-- Later units have no smaller offsets. -/
theorem byteOffset?_mono {content : Text} {unit later a b : Nat} (order : unit ≤ later)
    (first : (ofText content).byteOffset? unit = some a)
    (second : (ofText content).byteOffset? later = some b) : a ≤ b := by
  unfold ofText at first second
  split at first
  next ascii =>
    rw [if_pos ascii] at second
    simp only [byteOffset?, Option.ite_none_right_eq_some, Option.some.injEq] at first second
    omega
  next wide =>
    rw [if_neg wide] at second
    simp only [byteOffset?, List.getElem?_toArray, List.getElem?_eq_some_iff] at first second
    obtain ⟨i, rfl⟩ := first
    obtain ⟨j, rfl⟩ := second
    obtain less | rfl := Nat.lt_or_eq_of_le order
    · exact List.pairwise_iff_getElem.mp (unitOffsets_sorted 0 _) _ _ i j less
    · exact Nat.le_refl _

/-- An index that maps its units in order to offsets that are words. -/
structure Orderly (index : Utf16Index) : Prop where
  small : index.size < UInt32.size
  byte : ∀ {unit}, unit ≤ index.size → ∃ b, index.byteOffset? unit = some b ∧ b < UInt32.size
  mono : ∀ {unit later a b}, unit ≤ later → index.byteOffset? unit = some a →
    index.byteOffset? later = some b → a ≤ b

theorem ofText_orderly {content : Text} (short : content.length < UInt32.size) :
    (ofText content).Orderly where
  small := Nat.lt_of_le_of_lt (size_ofText_le content) short
  byte h :=
    let ⟨b, found, le⟩ := exists_byteOffset? h
    ⟨b, found, Nat.lt_of_le_of_lt le short⟩
  mono := byteOffset?_mono

/-- The byte offset of a unit as a word. -/
def wordAt (index : Utf16Index) (unit : Nat) : UInt32 := ((index.byteOffset? unit).getD 0).toUInt32

theorem Orderly.wordAt_le {index : Utf16Index} (h : index.Orderly) {unit later : Nat}
    (order : unit ≤ later) (inside : later ≤ index.size) :
    index.wordAt unit ≤ index.wordAt later := by
  obtain ⟨a, first, small⟩ := h.byte (Nat.le_trans order inside)
  obtain ⟨b, second, small'⟩ := h.byte inside
  have le := h.mono order first second
  rw [UInt32.le_iff_toNat_le, wordAt, wordAt, first, second]
  simp only [Option.getD_some, Nat.toUInt32_eq, UInt32.toNat_ofNat']
  rwa [Nat.mod_eq_of_lt small, Nat.mod_eq_of_lt small']

end Utf16Index
end TreeLint
