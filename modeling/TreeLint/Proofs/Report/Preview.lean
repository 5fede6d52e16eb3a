import Mathlib.Data.List.DropRight
import TreeLint.Proofs.Edit.Rewriting
import TreeLint.Proofs.Path.Components
import TreeLint.Proofs.Source.Lines
import TreeLint.Report.Preview

/-! # Previews and what they show

A preview works on whole lines: on those an edit touches, as the positions of its span tell, and
on what the edit makes of them.  Wherever an edit can be made to a file these lines are found and
hold its span, and patching them patches the file (`Preview.ofEdit_lines`).

A text shows its lines without the blank ones at its end (`Preview.lines_eq`).  So a preview shows
all lines unless the last one is blank, and an edit that only makes or takes blank lines at the
end of those it touches looks as if it did nothing.
-/

namespace TreeLint

namespace Text

variable {sep b : UInt8} {t : Text}

/-- The lines of a text.  A line feed at its end ends the last line and begins none. -/
def lines (t : Text) : List Text :=
  if (splitByte 10 t).getLast? = some [] then (splitByte 10 t).dropLast else splitByte 10 t

theorem splitByte_concat_self (sep : UInt8) (t : Text) :
    splitByte sep (t ++ [sep]) = splitByte sep t ++ [[]] := splitByte_append sep t []

/-- The last part of a text that does not end in a separator is not empty. -/
theorem getLast?_splitByte_concat (other : b ≠ sep) :
    ∃ part, (splitByte sep (t ++ [b])).getLast? = some (part ++ [b]) := by
  induction t with
  | nil => exact ⟨[], by simp [splitByte, other]⟩
  | cons c t ih =>
    obtain ⟨part, last⟩ := ih
    cases parts : splitByte sep (t ++ [b]) with
    | nil => exact absurd parts (splitByte_ne_nil sep _)
    | cons first rest =>
      rw [parts] at last
      simp only [List.cons_append, splitByte, parts]
      split
      · exact ⟨part, by rw [List.getLast?_cons_cons, last]⟩
      · cases rest with
        | nil => exact ⟨c :: part, by simpa using last⟩
        | cons next rest => exact ⟨part, by rwa [List.getLast?_cons_cons] at last ⊢⟩

end Text

namespace Preview

open Text (splitByte)

variable {t : Text}

/-! ## Lines that are shown -/

/-- Lines without the blank ones at their end. -/
def unpadded (lines : List Text) : List Text := lines.rdropWhile List.isEmpty

theorem unpadded_append_blank (lines : List Text) (n : Nat) :
    unpadded (lines ++ List.replicate n []) = unpadded lines := by
  induction n with
  | zero => rw [List.replicate_zero, List.append_nil]
  | succ n ih =>
    rw [List.replicate_succ', ← List.append_assoc, unpadded, List.rdropWhile_concat_pos _ _ _ rfl]
    exact ih

theorem exists_blank (lines : List Text) :
    ∃ n, lines = unpadded lines ++ List.replicate n [] := by
  refine ⟨(lines.rtakeWhile List.isEmpty).length, ?_⟩
  have blank : lines.rtakeWhile List.isEmpty
      = List.replicate (lines.rtakeWhile List.isEmpty).length [] := by
    refine List.eq_replicate_of_mem fun line mem => ?_
    exact List.isEmpty_iff.mp (List.mem_rtakeWhile_imp mem)
  rw [← blank]
  exact List.rdropWhile_append_rtakeWhile.symm

/-- Without their blank ends, lines are the same if they differ in nothing else. -/
theorem unpadded_eq_iff {lines lines' : List Text} :
    unpadded lines = unpadded lines' ↔
      ∃ m n, lines ++ List.replicate m [] = lines' ++ List.replicate n [] := by
  constructor
  · intro same
    obtain ⟨n, blank⟩ := exists_blank lines
    obtain ⟨m, blank'⟩ := exists_blank lines'
    refine ⟨m, n, ?_⟩
    rw [blank, blank', ← same, List.append_assoc, List.append_assoc,
      List.replicate_append_replicate, List.replicate_append_replicate, Nat.add_comm]
  · rintro ⟨m, n, same⟩
    rw [← unpadded_append_blank lines m, same, unpadded_append_blank]

theorem unpadded_eq_self_iff {lines : List Text} :
    unpadded lines = lines ↔ lines.getLast? ≠ some [] := by
  rw [unpadded, List.rdropWhile_eq_self_iff]
  cases last : lines.getLast? with
  | none => simp [List.getLast?_eq_none_iff.mp last]
  | some line =>
    obtain ⟨front, rfl⟩ := List.getLast?_eq_some_iff.mp last
    simp

theorem unpadded_lines (t : Text) : unpadded (Text.lines t) = unpadded (splitByte 10 t) := by
  rw [Text.lines]
  split
  next last =>
    have parts := List.dropLast_append_getLast? [] last
    rw [← unpadded_append_blank _ 1, List.replicate_one, parts]
  · rfl

/-- A text shows its lines, but not those at its end that are blank. -/
theorem lines_eq (t : Text) : lines t = unpadded (Text.lines t) := by
  rw [unpadded_lines]
  induction t using List.reverseRecOn with
  | nil => rfl
  | append_singleton t b ih =>
    by_cases lineFeed : b = 10
    · subst lineFeed
      rw [Text.splitByte_concat_self, unpadded, List.rdropWhile_concat_pos _ _ _ rfl, ← unpadded,
        ← ih]
      simp [lines]
    · obtain ⟨part, last⟩ := Text.getLast?_splitByte_concat (t := t) lineFeed
      rw [unpadded_eq_self_iff.mpr (by simp [last])]
      simp [lines, lineFeed]

/-! ## Patching lines -/

section Patch

variable {content : Text} {lo hi : UInt32} {e : Edit}

/-- Where an edit lies in some lines, nothing is missing for patching them. -/
theorem patch?_eq (start : lo ≤ e.span.start) (forward : e.span.start ≤ e.span.stop)
    (stop : e.span.stop ≤ hi) (inside : hi.toNat ≤ content.length) :
    patch? content lo hi e = some (content.slice lo.toNat hi.toNat,
      content.slice lo.toNat e.span.start.toNat ++ e.newText
        ++ content.slice e.span.stop.toNat hi.toNat) := by
  have start' := UInt32.toNat_sub_of_le _ _ start
  have stop' := UInt32.toNat_sub_of_le _ _ (UInt32.le_trans start forward)
  rw [UInt32.le_iff_toNat_le] at start forward stop
  have length : (content.slice lo.toNat hi.toNat).length = hi.toNat - lo.toNat :=
    Text.length_slice (by omega) inside
  have kept : (content.slice lo.toNat hi.toNat).slice? 0 (e.span.start - lo).toNat
      = some (content.slice lo.toNat e.span.start.toNat) := by
    have slice := Text.slice?_eq_some (Nat.zero_le (e.span.start - lo).toNat)
      (show _ ≤ (content.slice lo.toNat hi.toNat).length by omega)
    rw [Text.slice_slice (by omega), start', Nat.add_zero, Nat.add_sub_cancel' start] at slice
    rw [start']
    exact slice
  have rest : (content.slice lo.toNat hi.toNat).slice? (e.span.stop - lo).toNat
      (content.slice lo.toNat hi.toNat).length
        = some (content.slice e.span.stop.toNat hi.toNat) := by
    rw [Text.slice?_eq_some (by omega) (Nat.le_refl _), Text.slice_slice (by omega), stop', length]
    congr 2 <;> omega
  rw [patch?, Text.slice?_eq_some (by omega) inside]
  simp only [Option.bind_eq_bind, Option.bind_some, kept, rest]
  rfl

/-- Patching some lines is making the edit in the text that they are part of. -/
theorem splice_eq_patched (small : content.length < UInt32.size) (start : lo ≤ e.span.start)
    (forward : e.span.start ≤ e.span.stop) (stop : e.span.stop ≤ hi)
    (inside : hi.toNat ≤ content.length) :
    Edit.splice content [e.guarded []] = .ok (content.take lo.toNat
      ++ (content.slice lo.toNat e.span.start.toNat ++ e.newText
        ++ content.slice e.span.stop.toNat hi.toNat) ++ content.drop hi.toNat) := by
  have fits : Edit.Fits content (e.guarded []) :=
    ⟨forward, (UInt32.le_iff_toNat_le.mp stop).trans inside, .inl rfl⟩
  have spliced : Edit.splice content [e.guarded []] = .ok (Edit.rewritten content [e.guarded []]) :=
    Edit.splice_eq_rewritten small (by simp) (by simpa using fits) (List.pairwise_singleton _ _)
  rw [UInt32.le_iff_toNat_le] at start stop
  rw [spliced, Edit.rewritten, Edit.inOrder, List.mergeSort_singleton, Edit.weave, Edit.weave]
  have front : content.slice 0 e.span.start.toNat
      = content.take lo.toNat ++ content.slice lo.toNat e.span.start.toNat := by
    rw [Text.take_append_slice start, Text.slice, List.drop_zero, Nat.sub_zero]
  simp only [Edit.guarded, front, Text.drop_eq_slice_append stop, List.append_assoc]

end Patch

/-! ## The lines of an edit -/

/-- Where a line begins, or the end. -/
def Edge (content : Text) (offset : Nat) : Prop :=
  offset ∈ File.lineStarts content ∨ offset = content.length

theorem edge_begins (content : Text) (i : Nat) : Edge content (File.begins content i) := by
  by_cases inside : i < (File.lineStarts content).length
  · exact .inl (File.begins_mem inside)
  · exact .inr (File.begins_of_le (Nat.le_of_not_lt inside))

section Bounds

variable {f : File} (short : f.content.length < 2 ^ 31)
include short

open File (begins)

/-- The lines of a span go from the one its start is on to the last of those that its start and
its stop are on. -/
theorem toNat_bounds (span : Span) :
    (bounds f span).1.toNat = begins f.content (File.before f.content span.start.toNat) ∧
      (bounds f span).2.toNat = begins f.content (max (File.before f.content span.stop.toNat)
        (File.before f.content span.start.toNat) + 1) := by
  have start := File.toNat_position_line short span.start
  have stop := File.toNat_position_line short span.stop
  have lo := File.toNat_lineStart short start
  have last : (max (f.position span.stop).line (f.position span.start).line + 1).toNat
      = max (File.before f.content span.stop.toNat) (File.before f.content span.start.toNat)
        + 1 + 1 := by
    have := File.before_lt f.content span.start.toNat
    have := File.before_lt f.content span.stop.toNat
    have := File.length_lineStarts_le f.content
    rw [UInt32.toNat_add, UInt32.toNat_max, start, stop, UInt32.toNat_one]
    omega
  refine ⟨lo, ?_⟩
  simp only [bounds]
  rw [UInt32.toNat_max, File.toNat_lineStart short last, lo]
  exact max_eq_left (File.begins_le_begins (by omega))

theorem edge_bounds (span : Span) : Edge f.content (bounds f span).1.toNat ∧
    Edge f.content (bounds f span).2.toNat := by
  rw [(toNat_bounds short span).1, (toNat_bounds short span).2]
  exact ⟨edge_begins _ _, edge_begins _ _⟩

/-- The lines of a span begin at it or before, and it lies in them if it lies in the file. -/
theorem bounds_placed (span : Span) :
    (bounds f span).1 ≤ span.start ∧ (bounds f span).2.toNat ≤ f.content.length ∧
      (span.stop ≤ f.size → span.stop ≤ (bounds f span).2) := by
  obtain ⟨lo, hi⟩ := toNat_bounds short span
  simp only [UInt32.le_iff_toNat_le, lo, hi, File.toNat_size short]
  refine ⟨File.begins_before_le _ _, File.begins_le_length, fun inside => ?_⟩
  have next : span.stop.toNat
      ≤ begins f.content (File.before f.content span.stop.toNat + 1) := by
    by_cases more : File.before f.content span.stop.toNat + 1 < (File.lineStarts f.content).length
    · exact (File.lt_begins_succ more).le
    · rwa [File.begins_of_le (Nat.le_of_not_lt more)]
  exact next.trans (File.begins_le_begins (by omega))

theorem ofFile_of_inside {e : Edit} (forward : e.span.start ≤ e.span.stop)
    (inside : e.span.stop ≤ f.size) :
    ofFile f e = .ok ⟨lines (f.content.slice (bounds f e.span).1.toNat (bounds f e.span).2.toNat),
      lines (f.content.slice (bounds f e.span).1.toNat e.span.start.toNat ++ e.newText
        ++ f.content.slice e.span.stop.toNat (bounds f e.span).2.toNat)⟩ := by
  obtain ⟨lo, hi, holds⟩ := bounds_placed short e.span
  simp only [ofFile]
  rw [if_neg, patch?_eq lo forward (holds inside) hi]
  simp only [Bool.or_eq_true, decide_eq_true_eq, not_or, UInt32.not_lt]
  exact ⟨⟨lo, holds inside⟩, forward⟩

theorem ofFile_of_not_inside {e : Edit}
    (outside : ¬ (e.span.start ≤ e.span.stop ∧ e.span.stop ≤ f.size)) :
    ofFile f e = .error (.outside e.span (bounds f e.span).1 (bounds f e.span).2) := by
  obtain ⟨-, hi, -⟩ := bounds_placed short e.span
  simp only [ofFile]
  split
  · rfl
  next within =>
    simp only [Bool.or_eq_true, decide_eq_true_eq, not_or, UInt32.not_lt] at within
    have inside : e.span.stop ≤ f.size := by
      rw [UInt32.le_iff_toNat_le, File.toNat_size short]
      exact (UInt32.le_iff_toNat_le.mp within.1.2).trans hi
    exact absurd ⟨within.2, inside⟩ outside

end Bounds

/-! ## Previews of edits -/

/-- The lines of a text that a preview shows: all but the blank ones at its end, so all of them
unless the last is blank. -/
def Shows (shown : List Text) (t : Text) : Prop :=
  shown = unpadded (Text.lines t) ∧ (shown = Text.lines t ↔ (Text.lines t).getLast? ≠ some [])

theorem shows_lines (t : Text) : Shows (lines t) t := by
  rw [Shows, lines_eq]
  exact ⟨rfl, unpadded_eq_self_iff⟩

/-- An edit has a preview exactly if its file is there and its span lies in it, and no byte is
asked for that is not there.  The lines of the preview are whole lines of the file that hold the
span of the edit, and the edit of the file is the edit of these lines.  What is shown of them
before and after the edit lacks the blank lines at their end, so the two differ exactly if the
lines do in more than that. -/
theorem ofEdit_lines {files : FileSet}
    (short : ∀ f ∈ files.files, f.content.length < 2 ^ 31) (e : Edit) :
    ((∃ p, ofEdit files e = .ok p) ↔ ∃ f, files.get? e.span.file = some f ∧
      e.span.start ≤ e.span.stop ∧ e.span.stop ≤ f.size) ∧
    ofEdit files e ≠ .error .fault ∧
    ∀ f p, files.get? e.span.file = some f → ofEdit files e = .ok p →
      ∃ lo hi patched, lo ≤ e.span.start.toNat ∧ e.span.stop.toNat ≤ hi ∧
        Edge f.content lo ∧ Edge f.content hi ∧ hi ≤ f.content.length ∧
        Edit.splice f.content [e.guarded []]
          = .ok (f.content.take lo ++ patched ++ f.content.drop hi) ∧
        Shows p.before (f.content.slice lo hi) ∧ Shows p.after patched ∧
        (p.before = p.after ↔ ∃ m n, Text.lines (f.content.slice lo hi) ++ List.replicate m []
          = Text.lines patched ++ List.replicate n []) := by
  cases found : files.get? e.span.file with
  | none => simp [ofEdit, found]
  | some f =>
    have short := short f (List.mem_of_getElem? found)
    simp only [ofEdit, found, Option.some.injEq, exists_eq_left']
    by_cases inside : e.span.start ≤ e.span.stop ∧ e.span.stop ≤ f.size
    · obtain ⟨lo, hi, holds⟩ := bounds_placed short e.span
      obtain ⟨first, last⟩ := edge_bounds short e.span
      have preview := ofFile_of_inside short inside.1 inside.2
      refine ⟨⟨fun _ => inside, fun _ => ⟨_, preview⟩⟩, by simp [preview], ?_⟩
      rintro _ p rfl made
      rw [preview, Except.ok.injEq] at made
      subst made
      have spliced :=
        splice_eq_patched (short.trans (by decide)) lo inside.1 (holds inside.2) hi
      dsimp only
      refine ⟨_, _, _, UInt32.le_iff_toNat_le.mp lo, UInt32.le_iff_toNat_le.mp (holds inside.2),
        first, last, hi, spliced, shows_lines _, shows_lines _, ?_⟩
      simp only [lines_eq, unpadded_eq_iff]
    · have preview := ofFile_of_not_inside short inside
      refine ⟨⟨?_, fun inside' => absurd inside' inside⟩, by simp [preview], ?_⟩
      · rintro ⟨p, made⟩
        rw [preview] at made
        contradiction
      · intro _ p _ made
        rw [preview] at made
        contradiction

/-- A line feed that is put in before another makes a blank line, but the preview does not show
it. -/
theorem ofEdit_lines_blank :
    let f : File := ⟨0, "a.ts", "a\n", ⟨true, false, false⟩⟩
    let files : FileSet := ⟨[f], [], "/"⟩
    let e : Edit := .insertAfter ⟨0, 1, 1⟩ "\n"
    (∀ f ∈ files.files, f.content.length < 2 ^ 31) ∧ files.get? e.span.file = some f ∧
      ofEdit files e = .ok ⟨["a"], ["a"]⟩ ∧ Text.lines "a\n" ≠ Text.lines "a\n\n" ∧
      ∃ lo hi patched, Edit.splice f.content [e.guarded []]
          = .ok (f.content.take lo ++ patched ++ f.content.drop hi) ∧
        Shows ["a"] (f.content.slice lo hi) ∧ Shows ["a"] patched ∧
        ∃ m n, Text.lines (f.content.slice lo hi) ++ List.replicate m []
          = Text.lines patched ++ List.replicate n [] := by
  intro f files e
  have short : ∀ f ∈ files.files, f.content.length < 2 ^ 31 := by decide
  have preview : ofEdit files e = .ok ⟨["a"], ["a"]⟩ := by decide
  obtain ⟨lo, hi, patched, -, -, -, -, -, spliced, before, after, same⟩ :=
    (ofEdit_lines short e).2.2 f _ rfl preview
  exact ⟨short, rfl, preview, by decide, lo, hi, patched, spliced, before, after, same.mp rfl⟩

end Preview
end TreeLint
