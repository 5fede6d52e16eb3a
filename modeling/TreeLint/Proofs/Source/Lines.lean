import Mathlib
import TreeLint.Proofs.Text.Part
import TreeLint.Source.File

/-! # Lines and positions

The lines of a file begin at zero and just after its line feeds (`File.mem_lineStarts`), in order
(`File.sorted_lineStarts`).  Read from the first line on, they are cuts of the content that begin
at zero and end at its length (`File.begins`), and between two cuts stands a line with its end
(`File.fullLine_eq`).  A position names the last cut that is not after its offset
(`File.begins_before_le`, `File.lt_begins_succ`).

Offsets are words of 32 bits.  In a file of less than 2^31 bytes no line number and no offset
wraps, and what holds of the cuts holds of the words (`File.lines_positions`).
-/

namespace TreeLint

namespace Text

/-- A text with a tail taken off goes on with the tail, or is the text as it was. -/
theorem exists_withoutTail_append (t tail : Text) :
    ∃ mark ∈ [[], tail], t = t.withoutTail tail ++ mark := by
  rw [withoutTail, endsWith]
  split
  next ends =>
    obtain ⟨s, rfl⟩ := List.isSuffixOf_iff_suffix.mp ends
    exact ⟨tail, by simp, by simp⟩
  · exact ⟨[], by simp, by simp⟩

end Text

/-- The first position stands before the second: on an earlier line, or earlier on its line. -/
def Position.Before (p q : Position) : Prop :=
  p.line < q.line ∨ p.line = q.line ∧ p.column < q.column

namespace File

/-! ## Where lines begin -/

section Begins

variable {content : Text} {i j offset : Nat}

theorem mem_startsAfter {t : Text} {start : Nat} :
    start ∈ startsAfter offset t ↔ ∃ i, t[i]? = some 10 ∧ start = offset + i + 1 := by
  induction t generalizing offset with
  | nil => simp [startsAfter]
  | cons b t ih =>
    rw [startsAfter, ← Nat.or_exists_add_one]
    simp only [List.getElem?_cons_zero, List.getElem?_cons_succ, Option.some.injEq]
    split
    next lineFeed =>
      rw [List.mem_cons, ih]
      simp only [beq_iff_eq] at lineFeed
      simp only [lineFeed, true_and, Nat.add_zero, Nat.add_assoc, Nat.add_comm 1]
    next other =>
      rw [ih]
      simp only [beq_iff_eq] at other
      simp only [other, false_and, false_or, Nat.add_assoc, Nat.add_comm 1]

theorem mem_lineStarts {start : Nat} :
    start ∈ lineStarts content ↔ start = 0 ∨ ∃ i, content[i]? = some 10 ∧ start = i + 1 := by
  simp [lineStarts, mem_startsAfter]

theorem sorted_startsAfter {t : Text} : (startsAfter offset t).Pairwise (· < ·) := by
  induction t generalizing offset with
  | nil => exact .nil
  | cons b t ih =>
    rw [startsAfter]
    split
    · refine .cons (fun start mem => ?_) ih
      obtain ⟨i, -, rfl⟩ := mem_startsAfter.mp mem
      omega
    · exact ih

/-- Lines begin in order, no two at one offset. -/
theorem sorted_lineStarts : (lineStarts content).Pairwise (· < ·) := by
  refine .cons (fun start mem => ?_) sorted_startsAfter
  obtain ⟨i, -, rfl⟩ := mem_startsAfter.mp mem
  omega

theorem length_startsAfter_le {t : Text} : (startsAfter offset t).length ≤ t.length := by
  induction t generalizing offset with
  | nil => exact Nat.le_refl _
  | cons b t ih =>
    rw [startsAfter]
    have := @ih (offset + 1)
    split <;> simp only [List.length_cons] <;> omega

theorem length_lineStarts_le (content : Text) :
    (lineStarts content).length ≤ content.length + 1 :=
  Nat.succ_le_succ length_startsAfter_le

theorem le_length_of_mem {start : Nat} (mem : start ∈ lineStarts content) :
    start ≤ content.length := by
  rcases mem_lineStarts.mp mem with rfl | ⟨i, at_i, rfl⟩
  · exact Nat.zero_le _
  · exact (List.getElem?_eq_some_iff.mp at_i).1

/-- Where the line begins that `i` others come before; the end, when there are no more. -/
def begins (content : Text) (i : Nat) : Nat := (lineStarts content)[i]?.getD content.length

theorem begins_zero (content : Text) : begins content 0 = 0 := rfl

theorem begins_of_lt (lt : i < (lineStarts content).length) :
    begins content i = (lineStarts content)[i] := by
  rw [begins, List.getElem?_eq_getElem lt, Option.getD_some]

theorem begins_of_le (le : (lineStarts content).length ≤ i) :
    begins content i = content.length := by
  rw [begins, List.getElem?_eq_none le, Option.getD_none]

theorem begins_mem (lt : i < (lineStarts content).length) :
    begins content i ∈ lineStarts content := by
  rw [begins_of_lt lt]
  exact List.getElem_mem lt

theorem begins_le_length : begins content i ≤ content.length := by
  by_cases lt : i < (lineStarts content).length
  · exact le_length_of_mem (begins_mem lt)
  · exact (begins_of_le (Nat.le_of_not_lt lt)).le

theorem begins_lt_begins (lt : i < j) (inside : j < (lineStarts content).length) :
    begins content i < begins content j := by
  rw [begins_of_lt (lt.trans inside), begins_of_lt inside]
  exact List.pairwise_iff_getElem.mp sorted_lineStarts i j _ _ lt

theorem begins_le_begins (le : i ≤ j) : begins content i ≤ begins content j := by
  by_cases inside : j < (lineStarts content).length
  · rcases le.eq_or_lt with rfl | lt
    · exact Nat.le_refl _
    · exact (begins_lt_begins lt inside).le
  · rw [begins_of_le (Nat.le_of_not_lt inside)]
    exact begins_le_length

/-- Before a line that is not the first stands the line feed that ends the line before. -/
theorem exists_lineFeed (more : i + 1 < (lineStarts content).length) :
    ∃ stop, begins content i ≤ stop ∧ begins content (i + 1) = stop + 1 ∧
      content[stop]? = some 10 := by
  have lt : begins content i < begins content (i + 1) := begins_lt_begins i.lt_succ_self more
  rcases mem_lineStarts.mp (begins_mem more) with zero | ⟨stop, lineFeed, next⟩
  · omega
  · exact ⟨stop, by omega, next, lineFeed⟩

/-- Where that line stops: before the line feed that ends it, or at the end. -/
def stops (content : Text) (i : Nat) : Nat :=
  if i + 1 < (lineStarts content).length then begins content (i + 1) - 1 else content.length

/-- A line is up to where it stops, and its line feed follows unless it is the last. -/
theorem slice_begins :
    content.slice (begins content i) (begins content (i + 1))
      = content.slice (begins content i) (stops content i)
        ++ if i + 1 < (lineStarts content).length then utf8 "\n" else [] := by
  rw [stops]
  split
  next more =>
    obtain ⟨stop, le, next, lineFeed⟩ := exists_lineFeed more
    rw [next, Nat.add_sub_cancel, Text.slice_succ le lineFeed]
    rfl
  next last => rw [begins_of_le (Nat.le_of_not_lt last), List.append_nil]

/-- How many lines come before the one that an offset is on. -/
def before (content : Text) (offset : Nat) : Nat :=
  (startsAfter 0 content).findIdx (offset < ·)

theorem findIdx_lineStarts :
    (lineStarts content).findIdx (offset < ·) = before content offset + 1 := by
  simp [lineStarts, List.findIdx_cons, before]

theorem before_lt (content : Text) (offset : Nat) :
    before content offset < (lineStarts content).length := by
  rw [← Nat.succ_le_iff, Nat.succ_eq_add_one, ← findIdx_lineStarts]
  exact List.findIdx_le_length

/-- An offset is on a line that begins there or before. -/
theorem begins_before_le (content : Text) (offset : Nat) :
    begins content (before content offset) ≤ offset := by
  have lt : before content offset < (lineStarts content).findIdx (offset < ·) := by
    rw [findIdx_lineStarts]
    exact Nat.lt_succ_self _
  rw [begins_of_lt (before_lt content offset)]
  simpa using List.not_of_lt_findIdx lt

/-- The next line begins after it. -/
theorem lt_begins_succ (more : before content offset + 1 < (lineStarts content).length) :
    offset < begins content (before content offset + 1) := by
  simp only [← findIdx_lineStarts] at more ⊢
  rw [begins_of_lt more]
  simpa using List.findIdx_getElem (w := more)

theorem before_le_before {offset' : Nat} (le : offset ≤ offset') :
    before content offset ≤ before content offset' := by
  by_contra more
  have later : before content offset' + 1 ≤ before content offset := Nat.lt_of_not_le more
  have upTo : begins content (before content offset' + 1) ≤ offset :=
    (begins_le_begins later).trans (begins_before_le content offset)
  have past := lt_begins_succ (later.trans_lt (before_lt content offset))
  omega

theorem takeWhile_lineStarts :
    (lineStarts content).takeWhile (· ≤ offset)
      = (lineStarts content).take (before content offset + 1) := by
  rw [List.takeWhile_eq_take_findIdx_not, ← findIdx_lineStarts]
  congr 2
  funext start
  rw [← decide_not, decide_eq_decide, Nat.not_le]

end Begins

/-! ## Words -/

section Words

variable {f : File}

theorem position_eq (offset : UInt32) :
    f.position offset = ⟨(before f.content offset.toNat + 1).toUInt32,
      offset - (begins f.content (before f.content offset.toNat)).toUInt32 + 1⟩ := by
  have lt : before f.content offset.toNat < (lineStarts f.content).length := before_lt _ _
  rw [position, takeWhile_lineStarts, List.length_take_of_le lt, List.getLast?_take,
    if_neg (Nat.succ_ne_zero _), Nat.add_sub_cancel, List.getElem?_eq_getElem lt, Option.some_or,
    Option.getD_some, begins_of_lt lt]

variable (short : f.content.length < 2 ^ 31)
include short

theorem toNat_size : f.size.toNat = f.content.length :=
  UInt32.toNat_ofNat_of_lt' (short.trans (by decide))

theorem toNat_lineCount : f.lineCount.toNat = (lineStarts f.content).length :=
  UInt32.toNat_ofNat_of_lt'
    (((length_lineStarts_le _).trans (Nat.succ_le_of_lt short)).trans_lt (by decide))

theorem toNat_begins (i : Nat) : (begins f.content i).toUInt32.toNat = begins f.content i :=
  UInt32.toNat_ofNat_of_lt' ((begins_le_length.trans_lt short).trans (by decide))

theorem toNat_lineStart {n : UInt32} {i : Nat} (nth : n.toNat = i + 1) :
    (f.lineStart n).toNat = begins f.content i := by
  have start : f.lineStart n = (begins f.content i).toUInt32 := by
    rw [lineStart, nth, Nat.add_sub_cancel]
    split
    next first =>
      rw [UInt32.le_iff_toNat_le, nth] at first
      obtain rfl : i = 0 := Nat.le_zero.mp (Nat.le_of_succ_le_succ first)
      rfl
    · rw [begins]
      split
      next start at_i => rw [at_i, Option.getD_some]
      next none => rw [none, Option.getD_none, size]
  rw [start, toNat_begins short]

/-- A line that is there comes after some others. -/
theorem exists_others {n : UInt32} (some : 1 ≤ n) (inside : n ≤ f.lineCount) :
    ∃ i, n.toNat = i + 1 ∧ (n + 1).toNat = i + 2 ∧ i < (lineStarts f.content).length := by
  have le := length_lineStarts_le f.content
  rw [UInt32.le_iff_toNat_le] at some inside
  rw [toNat_lineCount short] at inside
  rw [UInt32.toNat_one] at some
  refine ⟨n.toNat - 1, by omega, ?_, by omega⟩
  rw [UInt32.toNat_add, UInt32.toNat_one, Nat.mod_eq_of_lt (by omega)]
  omega

theorem toNat_position_line (offset : UInt32) :
    (f.position offset).line.toNat = before f.content offset.toNat + 1 := by
  rw [position_eq]
  have lt : before f.content offset.toNat + 1 < 2 ^ 32 := by
    have := before_lt f.content offset.toNat
    have := length_lineStarts_le f.content
    omega
  exact UInt32.toNat_ofNat_of_lt' lt

/-- Up to the end of the file columns do not wrap. -/
theorem toNat_position_column {offset : UInt32} (inside : offset ≤ f.size) :
    (f.position offset).column.toNat
      = offset.toNat - begins f.content (before f.content offset.toNat) + 1 := by
  have le := begins_before_le f.content offset.toNat
  rw [UInt32.le_iff_toNat_le, toNat_size short] at inside
  rw [position_eq, UInt32.toNat_add, UInt32.toNat_sub_of_le, toNat_begins short, UInt32.toNat_one]
  · exact Nat.mod_eq_of_lt (by omega)
  · rwa [UInt32.le_iff_toNat_le, toNat_begins short]

/-- Every offset has a position on a line that is there, and the position gives it back. -/
theorem position_placed (offset : UInt32) :
    1 ≤ (f.position offset).line ∧ (f.position offset).line ≤ f.lineCount ∧
      f.lineStart (f.position offset).line ≤ offset ∧
      ((f.position offset).line < f.lineCount →
        offset < f.lineStart ((f.position offset).line + 1)) ∧
      f.lineStart (f.position offset).line + (f.position offset).column - 1 = offset := by
  have nth := toNat_position_line short offset
  have start := toNat_lineStart short nth
  have some : 1 ≤ (f.position offset).line := by
    rw [UInt32.le_iff_toNat_le, nth]
    exact Nat.succ_le_succ (Nat.zero_le _)
  have inside : (f.position offset).line ≤ f.lineCount := by
    rw [UInt32.le_iff_toNat_le, nth, toNat_lineCount short]
    exact before_lt _ _
  refine ⟨some, inside, ?_, fun more => ?_, ?_⟩
  · rw [UInt32.le_iff_toNat_le, start]
    exact begins_before_le _ _
  · obtain ⟨i, nth', next, -⟩ := exists_others short some inside
    obtain rfl : before f.content offset.toNat = i := Nat.succ.inj (nth.symm.trans nth')
    rw [UInt32.lt_iff_toNat_lt, nth, toNat_lineCount short] at more
    rw [UInt32.lt_iff_toNat_lt, toNat_lineStart short next]
    exact lt_begins_succ more
  · have word : f.lineStart (f.position offset).line
        = (begins f.content (before f.content offset.toNat)).toUInt32 := by
      rw [← UInt32.toNat_inj, start, toNat_begins short]
    rw [word, position_eq]
    grind

theorem position_before {a b : UInt32} (lt : a < b) (inside : b ≤ f.size) :
    (f.position a).Before (f.position b) := by
  have lines : before f.content a.toNat ≤ before f.content b.toNat :=
    before_le_before (UInt32.lt_iff_toNat_lt.mp lt).le
  have le := begins_before_le f.content a.toNat
  rw [Position.Before, UInt32.lt_iff_toNat_lt, ← UInt32.toNat_inj, UInt32.lt_iff_toNat_lt,
    toNat_position_line short, toNat_position_line short, toNat_position_column short inside,
    toNat_position_column short (UInt32.le_trans (UInt32.le_of_lt lt) inside)]
  rw [UInt32.lt_iff_toNat_lt] at lt
  rcases lines.eq_or_lt with same | earlier
  · exact .inr ⟨by rw [same], by rw [← same]; omega⟩
  · exact .inl (Nat.succ_lt_succ earlier)

theorem lineStart_lt {m n : UInt32} (some : 1 ≤ m) (lt : m < n) (inside : n ≤ f.lineCount) :
    f.lineStart m < f.lineStart n := by
  have le := UInt32.le_of_lt lt
  obtain ⟨i, mth, -, -⟩ := exists_others short some (UInt32.le_trans le inside)
  obtain ⟨j, nth, -, exists_j⟩ := exists_others short (UInt32.le_trans some le) inside
  rw [UInt32.lt_iff_toNat_lt, mth, nth] at lt
  rw [UInt32.lt_iff_toNat_lt, toNat_lineStart short mth, toNat_lineStart short nth]
  exact begins_lt_begins (Nat.lt_of_succ_lt_succ lt) exists_j

end Words

/-! ## Whole lines -/

/-- The bytes of a line with what ends it, up to where the next line begins. -/
def fullLine (f : File) (n : UInt32) : Text :=
  f.content.slice (f.lineStart n).toNat (f.lineStart (n + 1)).toNat

theorem line_eq {f : File} {n : UInt32} {i : Nat} (nth : n.toNat = i + 1)
    (exists_i : i < (lineStarts f.content).length) :
    f.line n
      = (f.content.slice (begins f.content i) (stops f.content i)).withoutTail "\r" := by
  have notZero : ¬ (n == 0) = true := by
    rw [beq_iff_eq, ← UInt32.toNat_inj, nth]
    exact Nat.succ_ne_zero i
  simp only [line, if_neg notZero, nth, Nat.add_sub_cancel, List.getElem?_eq_getElem exists_i]
  rw [begins_of_lt exists_i, stops]
  split
  next next at_next =>
    obtain ⟨more, rfl⟩ := List.getElem?_eq_some_iff.mp at_next
    rw [if_pos more, begins_of_lt more]
  next none => rw [if_neg (List.getElem?_eq_none_iff.mp none).not_gt]

section Whole

variable {f : File} (short : f.content.length < 2 ^ 31)
include short

theorem fullLine_eq {n : UInt32} (some : 1 ≤ n) (inside : n ≤ f.lineCount) :
    ∃ mark ∈ [[], utf8 "\r"],
      f.fullLine n = f.line n ++ mark ++ if n < f.lineCount then utf8 "\n" else [] := by
  obtain ⟨i, nth, next, exists_i⟩ := exists_others short some inside
  obtain ⟨mark, isMark, whole⟩ := Text.exists_withoutTail_append
    (f.content.slice (begins f.content i) (stops f.content i)) "\r"
  refine ⟨mark, isMark, ?_⟩
  rw [fullLine, toNat_lineStart short nth, toNat_lineStart short next, slice_begins,
    line_eq nth exists_i, ← whole]
  simp only [UInt32.lt_iff_toNat_lt, nth, toNat_lineCount short]

theorem flatMap_fullLine :
    ((List.range' 1 f.lineCount.toNat).flatMap fun n => f.fullLine n.toUInt32) = f.content := by
  have le := length_lineStarts_le f.content
  have cut := Text.flatMap_slice (t := f.content) (begins_zero f.content)
    (n := (lineStarts f.content).length) fun i _ => begins_le_begins i.le_succ
  rw [begins_of_le (Nat.le_refl _), List.take_length] at cut
  rw [List.range'_eq_map_range, List.flatMap_map, toNat_lineCount short]
  refine Eq.trans (List.flatMap_congr fun i mem => ?_) cut
  rw [List.mem_range] at mem
  have nth : (1 + i).toUInt32.toNat = i + 1 := by
    rw [Nat.add_comm]
    exact UInt32.toNat_ofNat_of_lt' (show i + 1 < 2 ^ 32 by omega)
  have next : ((1 + i).toUInt32 + 1).toNat = i + 1 + 1 := by
    rw [UInt32.toNat_add, nth]
    exact Nat.mod_eq_of_lt (show i + 1 + 1 < 2 ^ 32 by omega)
  rw [fullLine, toNat_lineStart short nth, toNat_lineStart short next]

/-- Every offset is on one of the lines, and its position gives it back; positions are in the
order of the offsets up to the size, lines begin in order, and with what ends them they are the
content. -/
theorem lines_positions :
    (∀ offset, 1 ≤ (f.position offset).line ∧ (f.position offset).line ≤ f.lineCount ∧
      f.lineStart (f.position offset).line ≤ offset ∧
      ((f.position offset).line < f.lineCount →
        offset < f.lineStart ((f.position offset).line + 1)) ∧
      f.lineStart (f.position offset).line + (f.position offset).column - 1 = offset) ∧
    (∀ a b, a < b → b ≤ f.size → (f.position a).Before (f.position b)) ∧
    (∀ m n, 1 ≤ m → m < n → n ≤ f.lineCount → f.lineStart m < f.lineStart n) ∧
    ((List.range' 1 f.lineCount.toNat).flatMap fun n => f.fullLine n.toUInt32) = f.content ∧
    ∀ n, 1 ≤ n → n ≤ f.lineCount → ∃ mark ∈ [[], utf8 "\r"],
      f.fullLine n = f.line n ++ mark ++ if n < f.lineCount then utf8 "\n" else [] :=
  ⟨position_placed short, fun _ _ => position_before short, fun _ _ => lineStart_lt short,
    flatMap_fullLine short, fun _ => fullLine_eq short⟩

end Whole

/-- Of three lines, one has a carriage return and the last is empty. -/
theorem lines_positions_mixed :
    let f : File := ⟨0, [], [97, 13, 10, 98, 10], ⟨true, false, true⟩⟩
    f.content.length < 2 ^ 31 ∧ f.lineCount = 3 ∧ f.position 4 = ⟨2, 2⟩ ∧
      f.lineStart (f.position 4).line + (f.position 4).column - 1 = 4 ∧
      (f.position 2).Before (f.position 3) ∧ f.lineStart 2 < f.lineStart 3 ∧
      f.fullLine 1 ++ (f.fullLine 2 ++ (f.fullLine 3 ++ [])) = f.content := by
  intro f
  have short : f.content.length < 2 ^ 31 := by decide
  obtain ⟨placed, before, begins, whole, -⟩ := lines_positions short
  exact ⟨short, by decide, by decide, (placed 4).2.2.2.2, before 2 3 (by decide) (by decide),
    begins 2 3 (by decide) (by decide) (by decide), whole⟩

end File
end TreeLint
