import Mathlib.Data.List.Basic
import TreeLint.Diagnostic.Template
import TreeLint.Proofs.Text.Part

/-! # Filling templates

What a template is made of can be said without any values: placeholders, each with the text
before it, and a rest that holds none (`Reads`).  A template reads in exactly one way, and
filling it puts the values where the placeholders stand (`fill_reads`).  Values have no part in
the reading, so braces in them mean nothing.
-/

namespace TreeLint.Template

open Text (FirstCut cut? trim)

variable {t rest : Text} {data : Data}

/-- Somewhere behind an opening there is a closing. -/
def HasPlaceholder (t : Text) : Prop :=
  ∃ before key after, t = before ++ opening ++ key ++ closing ++ after

/-- A placeholder with the text before it; its key still has the white space around it. -/
structure Placeholder where
  before : Text
  key : Text

/-- A template is read from the left: a placeholder goes from the first opening to the first
closing behind it, and the rest of the template holds none. -/
inductive Reads : Text → List Placeholder → Text → Prop where
  | rest {t : Text} (none : ¬ HasPlaceholder t) : Reads t [] t
  | placeholder {t before inside key after rest : Text} {ps : List Placeholder}
      (opens : FirstCut opening t before inside) (closes : FirstCut closing inside key after)
      (more : Reads after ps rest) : Reads t (⟨before, key⟩ :: ps) rest

/-- The values in the places of the placeholders. -/
def filled (data : Data) (ps : List Placeholder) (rest : Text) : Text :=
  (ps.flatMap fun p => p.before ++ data.value (trim p.key)) ++ rest

/-! ## Reading -/

theorem hasPlaceholder_of_cuts {before inside key after : Text}
    (opens : FirstCut opening t before inside) (closes : FirstCut closing inside key after) :
    HasPlaceholder t := by
  refine ⟨before, key, after, ?_⟩
  rw [opens.whole, closes.whole]
  simp only [List.append_assoc]

/-- Behind the first opening there is a closing if there is one behind any. -/
theorem exists_closing {before inside : Text} (opens : FirstCut opening t before inside)
    (some : HasPlaceholder t) : ∃ key after, FirstCut closing inside key after := by
  obtain ⟨b, k, a, whole⟩ := some
  have later := opens.first b (k ++ closing ++ a) (by rw [whole]; simp only [List.append_assoc])
  have other : k ++ closing ++ a <:+ t := by
    refine ⟨b ++ opening, ?_⟩
    rw [whole]
    simp only [List.append_assoc]
  have behind : k ++ closing ++ a <:+ inside := by
    refine List.suffix_of_suffix_length_le other ⟨before ++ opening, opens.whole.symm⟩ ?_
    have lengths := congrArg List.length (opens.whole.symm.trans whole)
    simp only [List.length_append] at lengths ⊢
    omega
  obtain ⟨s, inside_eq⟩ := behind
  cases cut : cut? closing inside with
  | none =>
    refine absurd ⟨s ++ k, a, ?_⟩ (Text.cut?_eq_none.mp cut)
    rw [← inside_eq]
    simp only [List.append_assoc]
  | some parts => exact ⟨parts.1, parts.2, Text.cut?_eq_some.mp cut⟩

theorem Reads.unique {ps ps' : List Placeholder} {rest' : Text} (h : Reads t ps rest)
    (h' : Reads t ps' rest') : ps' = ps ∧ rest' = rest := by
  induction h generalizing ps' rest' with
  | rest none =>
    cases h' with
    | rest => exact ⟨rfl, rfl⟩
    | placeholder opens closes => exact absurd (hasPlaceholder_of_cuts opens closes) none
  | placeholder opens closes more ih =>
    cases h' with
    | rest none => exact absurd (hasPlaceholder_of_cuts opens closes) none
    | placeholder opens' closes' more' =>
      obtain ⟨rfl, rfl⟩ := opens.unique opens'
      obtain ⟨rfl, rfl⟩ := closes.unique closes'
      obtain ⟨rfl, rfl⟩ := ih more'
      exact ⟨rfl, rfl⟩

theorem exists_reads (t : Text) : ∃ ps rest, Reads t ps rest := by
  induction t using fill.induct with
  | case1 t missing =>
    refine ⟨[], t, .rest ?_⟩
    rintro ⟨before, key, after, whole⟩
    refine Text.cut?_eq_none.mp missing ⟨before, key ++ closing ++ after, ?_⟩
    rw [whole]
    simp only [List.append_assoc]
  | case2 t before inside opens missing =>
    refine ⟨[], t, .rest fun some => ?_⟩
    obtain ⟨key, after, closes⟩ := exists_closing (Text.cut?_eq_some.mp opens) some
    rw [Text.cut?_eq_some.mpr closes] at missing
    contradiction
  | case3 t before inside opens key after closes ih =>
    obtain ⟨ps, rest, more⟩ := ih
    exact ⟨_, _, .placeholder (Text.cut?_eq_some.mp opens) (Text.cut?_eq_some.mp closes) more⟩

/-! ## Filling -/

theorem fill_of_not_hasPlaceholder (none : ¬ HasPlaceholder t) : fill data t = t := by
  rw [fill]
  split
  · rfl
  next opens =>
    split
    · rfl
    next closes =>
      exact absurd
        (hasPlaceholder_of_cuts (Text.cut?_eq_some.mp opens) (Text.cut?_eq_some.mp closes)) none

theorem fill_of_cuts {before inside key after : Text} (opens : FirstCut opening t before inside)
    (closes : FirstCut closing inside key after) :
    fill data t = before ++ data.value (trim key) ++ fill data after := by
  rw [fill]
  split
  next missing =>
    rw [Text.cut?_eq_some.mpr opens] at missing
    contradiction
  next opens' =>
    obtain ⟨rfl, rfl⟩ := opens.unique (Text.cut?_eq_some.mp opens')
    split
    next missing =>
      rw [Text.cut?_eq_some.mpr closes] at missing
      contradiction
    next closes' =>
      obtain ⟨rfl, rfl⟩ := closes.unique (Text.cut?_eq_some.mp closes')
      rfl

theorem Reads.fill_eq {ps : List Placeholder} (h : Reads t ps rest) :
    fill data t = filled data ps rest := by
  induction h with
  | rest none => exact fill_of_not_hasPlaceholder none
  | placeholder opens closes more ih =>
    rw [fill_of_cuts opens closes, ih]
    simp only [filled, List.flatMap_cons, List.append_assoc]

theorem filled_congr {data' : Data} {ps : List Placeholder}
    (same : ∀ p ∈ ps, data.value (trim p.key) = data'.value (trim p.key)) :
    filled data ps rest = filled data' ps rest := by
  rw [filled, filled, List.flatMap_congr fun p mem => by rw [same p mem]]

/-- A template reads in one way.  Filled, it is what it was, with the value of the trimmed key in
the place of each placeholder; so it hangs on the values of the keys in it alone, and without a
placeholder it stays what it is. -/
theorem fill_reads (template : Text) :
    ∃ ps rest, Reads template ps rest ∧
      (∀ ps' rest', Reads template ps' rest' → ps' = ps ∧ rest' = rest) ∧
      (∀ data, fill data template = filled data ps rest) ∧
      (∀ data data' : Data,
        (∀ p ∈ ps, data.value (trim p.key) = data'.value (trim p.key)) →
          fill data template = fill data' template) ∧
      (¬ HasPlaceholder template → ∀ data, fill data template = template) := by
  obtain ⟨ps, rest, reads⟩ := exists_reads template
  refine ⟨ps, rest, reads, fun _ _ => reads.unique, fun _ => reads.fill_eq, ?_,
    fun none _ => fill_of_not_hasPlaceholder none⟩
  intro data data' same
  rw [reads.fill_eq, reads.fill_eq, filled_congr same]

/-- The value of the first placeholder looks like another, a key is missing, and the last opening
is not closed. -/
example : fill [(utf8 "a", utf8 "\x7b\x7bb\x7d\x7d"), (utf8 "b", utf8 "B")]
    "\x7b\x7b a \x7d\x7d-\x7b\x7bb\x7d\x7d\x7b\x7bc\x7d\x7d\x7d \x7b\x7ba"
      = "\x7b\x7bb\x7d\x7d-B\x7d \x7b\x7ba" := by decide +kernel

end TreeLint.Template
