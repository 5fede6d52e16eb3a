import TreeLint.Proofs.Source.Utf16

/-! # Offsets at boundaries

Between two pieces of a text is a boundary: cut there, the text is read as its two parts are
(`Utf8.Boundary`).  Wherever the pieces of a text are divided there is such a cut
(`Utf8.exists_cut`), because a character is read from its own bytes, whatever follows them
(`Utf8.split_char`), and a byte that is stray stays so when less follows it.

An index has an offset for every unit of its text and one for the end, and these are the
boundaries; at a boundary stands the unit that as many come before as the text has up to there
(`Utf16Index.byteOffset?_boundary`).  The short form of an index, for a text of ASCII alone,
says the same as the table it stands for (`Utf16Index.byteOffset?_ofText`).
-/

namespace TreeLint

namespace Utf8

/-! ## Cutting a text -/

/-- A place where a text may be cut without cutting a character. -/
def Boundary (t : Text) (place : Nat) : Prop :=
  place ≤ t.length ∧ pieces t = pieces (t.take place) ++ pieces (t.drop place)

/-- A character is read from its own bytes, whatever follows them. -/
theorem split_char {b : UInt8} {rest r : Text} {c : Char} (h : split b rest = (.char c, r)) :
    ∃ read, rest = read ++ r ∧ ∀ r', split b (read ++ r') = (.char c, r') := by
  unfold split at h
  split at h
  next one =>
    cases h
    exact ⟨[], rfl, fun r' => by simp [split, one]⟩
  next notOne =>
    split at h
    next two =>
      split at h
      next b1 r =>
        split at h
        next tail =>
          cases h
          exact ⟨[b1], rfl, fun r' => by simp [split, notOne, two, tail]⟩
        · cases h
      · cases h
    next notTwo =>
      split at h
      next three =>
        split at h
        next b1 b2 r =>
          split at h
          next tails =>
            cases h
            exact ⟨[b1, b2], rfl, fun r' => by simp [split, notOne, notTwo, three, tails]⟩
          · cases h
        · cases h
      next notThree =>
        split at h
        next four =>
          split at h
          next b1 b2 b3 r =>
            split at h
            next tails =>
              cases h
              refine ⟨[b1, b2, b3], rfl, fun r' => ?_⟩
              simp [split, notOne, notTwo, notThree, four, tails]
            · cases h
          · cases h
        · cases h

/-- A byte is read as part of a character, or it is stray. -/
theorem split_cases (b : UInt8) (rest : Text) :
    (∃ c r, split b rest = (.char c, r)) ∨ split b rest = (.stray b, rest) := by
  unfold split
  repeat' split
  all_goals simp

/-- A stray byte stays stray when less follows it. -/
theorem split_stray {b b' : UInt8} {s t r : Text} (h : split b (s ++ t) = (.stray b', r)) :
    split b s = (.stray b, s) := by
  refine (split_cases b s).resolve_left ?_
  rintro ⟨c, r', whole⟩
  obtain ⟨read, rfl, same⟩ := split_char whole
  rw [List.append_assoc, same] at h
  injection h with piece
  contradiction

/-- Where the pieces of a text are divided, the text is. -/
theorem exists_cut {text : Text} {before after : List Piece}
    (h : pieces text = before ++ after) :
    ∃ s t, text = s ++ t ∧ pieces s = before ∧ pieces t = after := by
  induction before generalizing text with
  | nil => exact ⟨[], text, rfl, by rw [pieces], h⟩
  | cons p before ih =>
    cases text with
    | nil => simp [pieces] at h
    | cons b rest =>
      rw [pieces, List.cons_append] at h
      obtain ⟨first, others⟩ := List.cons.inj h
      obtain ⟨s, t, rest_eq, rfl, rfl⟩ := ih others
      rcases split_cases b rest with ⟨c, r, whole⟩ | stray
      · rw [whole] at first rest_eq
        obtain ⟨read, rfl, same⟩ := split_char whole
        refine ⟨b :: (read ++ s), t, by simp [← rest_eq], ?_, rfl⟩
        rw [pieces, same, ← first]
      · rw [stray] at first rest_eq
        subst rest_eq
        refine ⟨b :: s, t, rfl, ?_, rfl⟩
        rw [pieces, split_stray stray, ← first]

theorem boundary_of_pieces {text : Text} {before after : List Piece}
    (h : pieces text = before ++ after) : Boundary text (before.map Piece.width).sum := by
  obtain ⟨s, t, rfl, rfl, rfl⟩ := exists_cut h
  rw [width_pieces, Boundary, List.take_left, List.drop_left, List.length_append]
  exact ⟨Nat.le_add_right _ _, h⟩

end Utf8

namespace Utf16Index

open Utf8 (Piece Boundary)

/-! ## Units of pieces -/

theorem units_char (c : Char) : units (.char c) = if c.toNat < 0x10000 then 1 else 2 := rfl

theorem units_stray (b : UInt8) : units (.stray b) = 1 := by
  have code : (Piece.stray b).code = 0xFFFD := rfl
  simp [units, code]

theorem units_pos (p : Piece) : 0 < units p := by
  unfold units
  split <;> omega

/-- The number of units of a text in UTF-16: two for a character past the first 65536, one for
any other and for a stray byte. -/
def unitCount (t : Text) : Nat :=
  ((Utf8.pieces t).map fun
    | .char c => if c.toNat < 0x10000 then 1 else 2
    | .stray _ => 1).sum

theorem unitCount_eq (t : Text) : unitCount t = ((Utf8.pieces t).map units).sum := by
  refine congrArg List.sum (List.map_congr_left fun p _ => ?_)
  cases p with
  | char c => exact (units_char c).symm
  | stray b => exact (units_stray b).symm

/-- After the units of some pieces stands the offset where these end. -/
theorem getElem?_unitOffsets (offset : Nat) (before after : List Piece) :
    (unitOffsets offset (before ++ after))[(before.map units).sum]?
      = some (offset + (before.map Piece.width).sum) := by
  induction before generalizing offset with
  | nil =>
    cases after with
    | nil => rfl
    | cons p after => simp [unitOffsets, units_pos]
  | cons p before ih =>
    simp only [List.cons_append, unitOffsets, List.map_cons, List.sum_cons]
    rw [List.getElem?_append_right (by simp), List.length_replicate, Nat.add_sub_cancel_left, ih,
      Nat.add_assoc]

/-- Every offset is one where some of the pieces end. -/
theorem exists_of_mem_unitOffsets {offset x : Nat} {ps : List Piece}
    (h : x ∈ unitOffsets offset ps) :
    ∃ before after, ps = before ++ after ∧ x = offset + (before.map Piece.width).sum := by
  induction ps generalizing offset with
  | nil => exact ⟨[], [], rfl, by simpa [unitOffsets] using h⟩
  | cons p ps ih =>
    rw [unitOffsets, List.mem_append] at h
    cases h with
    | inl first => exact ⟨[], p :: ps, rfl, List.eq_of_mem_replicate first⟩
    | inr later =>
      obtain ⟨before, after, rfl, rfl⟩ := ih later
      exact ⟨p :: before, after, rfl, by rw [List.map_cons, List.sum_cons, Nat.add_assoc]⟩

/-! ## Texts of ASCII alone -/

/-- Each byte of such a text is a unit of its own. -/
theorem unitOffsets_ascii {t : Text} (ascii : t.all (· < 0x80)) (offset : Nat) :
    unitOffsets offset (Utf8.pieces t) = List.range' offset (t.length + 1) := by
  induction t generalizing offset with
  | nil => simp [Utf8.pieces, unitOffsets]
  | cons b t ih =>
    rw [List.all_cons, Bool.and_eq_true, decide_eq_true_eq] at ascii
    have small : b.toNat < 0x80 := by simpa [UInt8.lt_iff_toNat_lt] using ascii.1
    have read : Utf8.split b t = (.char (Char.ofNat b.toNat), t) := by simp [Utf8.split, ascii.1]
    have width : (Piece.char (Char.ofNat b.toNat)).width = 1 := by
      rw [Utf8.width_ofNat (by omega), if_pos small]
    have one : units (.char (Char.ofNat b.toNat)) = 1 := by
      rw [units_char, Utf8.toNat_ofNat (by omega), if_pos (by omega)]
    rw [Utf8.pieces, read, unitOffsets, width, one, ih ascii.2]
    rfl

/-- The index of a text, in either form, is the table of its units. -/
theorem byteOffset?_ofText (content : Text) (unit : Nat) :
    (ofText content).byteOffset? unit = (unitOffsets 0 (Utf8.pieces content))[unit]? := by
  unfold ofText
  split
  next ascii =>
    rw [unitOffsets_ascii ascii, byteOffset?]
    split
    next inside => rw [List.getElem?_range' (by omega)]; simp
    next beyond => exact (List.getElem?_eq_none (by simpa using Nat.lt_of_not_le beyond)).symm
  · rw [byteOffset?, List.getElem?_toArray]

/-- The offsets of an index are the boundaries of its text: each unit and the end have one, later
units have no smaller ones, and at a boundary stands the unit that as many come before as the text
has up to there.  A text of ASCII alone needs no table for that. -/
theorem byteOffset?_boundary (content : Text) :
    (∀ unit, (∃ b, (ofText content).byteOffset? unit = some b) ↔ unit ≤ unitCount content) ∧
    (∀ unit later a b, unit ≤ later → (ofText content).byteOffset? unit = some a →
      (ofText content).byteOffset? later = some b → a ≤ b) ∧
    (∀ unit b, (ofText content).byteOffset? unit = some b → Boundary content b) ∧
    (ofText content).byteOffset? (unitCount content) = some content.length ∧
    (∀ b, Boundary content b →
      (ofText content).byteOffset? (unitCount (content.take b)) = some b) ∧
    (content.all (· < 0x80) → ∀ unit, (ascii content.length).byteOffset? unit
      = (table (unitOffsets 0 (Utf8.pieces content)).toArray).byteOffset? unit) := by
  have at_end : Boundary content content.length := by simp [Boundary, Utf8.pieces]
  have at_boundary {b : Nat} (h : Boundary content b) :
      (ofText content).byteOffset? (unitCount (content.take b)) = some b := by
    rw [byteOffset?_ofText, unitCount_eq, h.2, getElem?_unitOffsets, Utf8.width_pieces,
      List.length_take, Nat.zero_add, Nat.min_eq_left h.1]
  refine ⟨fun unit => ?_, fun _ _ _ _ => byteOffset?_mono, fun unit b found => ?_, ?_,
    fun b => at_boundary, fun ascii unit => ?_⟩
  · rw [← Option.isSome_iff_exists, byteOffset?_ofText, unitCount_eq]
    simp [length_unitOffsets]
  · rw [byteOffset?_ofText] at found
    obtain ⟨before, after, split, rfl⟩ := exists_of_mem_unitOffsets (List.mem_of_getElem? found)
    rw [Nat.zero_add]
    exact Utf8.boundary_of_pieces split
  · simpa using at_boundary at_end
  · have table := byteOffset?_ofText content unit
    rw [ofText, if_pos ascii] at table
    rw [table, byteOffset?, List.getElem?_toArray]

/-- After a character of two units comes a stray byte: both units stand at the start of the
character, and the end of the text is four units from its start. -/
theorem byteOffset?_boundary_pair :
    let content := utf8 "a😀" ++ [0xFF]
    unitCount content = 4 ∧ (ofText content).byteOffset? 2 = some 1 ∧ Boundary content 1 ∧
      (ofText content).byteOffset? 4 = some content.length := by
  intro content
  have count : unitCount content = 4 := by decide +kernel
  have second : (ofText content).byteOffset? 2 = some 1 := by decide +kernel
  obtain ⟨-, -, boundaries, stop, -, -⟩ := byteOffset?_boundary content
  exact ⟨count, second, boundaries 2 1 second, count ▸ stop⟩

end Utf16Index
end TreeLint
