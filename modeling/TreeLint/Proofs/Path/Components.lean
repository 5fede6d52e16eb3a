import Mathlib.Data.List.Induction
import TreeLint.Path

/-! # Components of paths

Cleaning a path leaves components that are neither empty nor dots, and none of which leads
up if the path is absolute.  Such components are kept as they are when a path is taken
apart, so a cleaned absolute path has the components of the path (`components_clean`), and
a path that ends in such a component leads to it (`getLast?_absolute`).

A relative path is cleaned without knowing where it starts from: steps up with nothing before
them stay.  From any folder the cleaned path leads to where the path itself leads
(`components_append_clean`).  What is cleaned stays as it is when it is cleaned again
(`components_clean_self`), so going down from a folder name by name leads to the path of all of
them together (`foldl_append_eq`).
-/

namespace TreeLint

namespace Text

theorem splitByte_ne_nil (sep : UInt8) (t : Text) : splitByte sep t ≠ [] := by
  cases t with
  | nil => simp [splitByte]
  | cons b t =>
    simp only [splitByte]
    split
    · simp
    · split <;> simp

/-- A text cut at a separator is the text before it and the text after it, each cut. -/
theorem splitByte_append (sep : UInt8) (s t : Text) :
    splitByte sep (s ++ sep :: t) = splitByte sep s ++ splitByte sep t := by
  induction s with
  | nil =>
    simp only [List.nil_append, splitByte]
    split
    next eq => exact absurd eq (splitByte_ne_nil sep t)
    next part parts eq => simp [eq]
  | cons b s ih =>
    simp only [List.cons_append, splitByte, ih]
    cases parts : splitByte sep s with
    | nil => exact absurd parts (splitByte_ne_nil sep s)
    | cons part rest =>
      simp only [List.cons_append]
      split <;> rfl

theorem splitByte_of_notMem {sep : UInt8} {t : Text} (h : sep ∉ t) : splitByte sep t = [t] := by
  induction t with
  | nil => rfl
  | cons b t ih =>
    simp only [List.mem_cons, not_or] at h
    have other : (b == sep) = false := beq_eq_false_iff_ne.mpr (Ne.symm h.1)
    simp only [splitByte, ih h.2, other, Bool.false_eq_true, if_false]

theorem notMem_of_mem_splitByte {sep : UInt8} {t part : Text} (h : part ∈ splitByte sep t) :
    sep ∉ part := by
  induction t generalizing part with
  | nil => simp_all [splitByte]
  | cons b t ih =>
    simp only [splitByte] at h
    cases parts : splitByte sep t with
    | nil => exact absurd parts (splitByte_ne_nil sep t)
    | cons first rest =>
      rw [parts] at h ih
      simp only at h
      split at h
      next same =>
        rcases List.mem_cons.mp h with rfl | mem
        · exact List.not_mem_nil
        · exact ih mem
      next other =>
        rcases List.mem_cons.mp h with rfl | mem
        · rw [List.mem_cons, not_or]
          exact ⟨fun eq => other (beq_iff_eq.mpr eq.symm), ih List.mem_cons_self⟩
        · exact ih (List.mem_cons_of_mem _ mem)

/-- Parts without a separator are found again in the joined text. -/
theorem splitByte_join {sep : UInt8} {parts : List Text} (some : parts ≠ [])
    (h : ∀ part ∈ parts, sep ∉ part) : splitByte sep (join [sep] parts) = parts := by
  induction parts with
  | nil => contradiction
  | cons part rest ih =>
    rw [List.forall_mem_cons] at h
    cases rest with
    | nil => exact splitByte_of_notMem h.1
    | cons next rest =>
      rw [join, List.append_assoc, List.singleton_append, splitByte_append,
        splitByte_of_notMem h.1, ih (by simp) h.2, List.singleton_append]

theorem join_append (sep : Text) {parts more : List Text} (some : parts ≠ [])
    (goesOn : more ≠ []) :
    join sep (parts ++ more) = join sep parts ++ sep ++ join sep more := by
  induction parts with
  | nil => contradiction
  | cons part rest ih =>
    cases rest with
    | nil =>
      obtain ⟨first, more, rfl⟩ := List.exists_cons_of_ne_nil goesOn
      rfl
    | cons next rest =>
      have tail := ih (by simp)
      simp only [List.cons_append] at tail ⊢
      simp only [join, tail, List.append_assoc]

end Text

namespace Path

open Text (splitByte join)

/-- A component that names something in its folder. -/
structure Plain (part : Text) : Prop where
  whole : slash ∉ part
  some : part ≠ []
  here : part ≠ "."
  up : part ≠ ".."

theorem descend_plain {part : Text} (h : Plain part) (rooted : Bool) (cleaned : List Text) :
    descend rooted cleaned part = part :: cleaned := by
  simp [descend, h.some, h.here, h.up]

theorem foldl_descend_plain {parts : List Text} (h : ∀ part ∈ parts, Plain part) (rooted : Bool)
    (cleaned : List Text) : parts.foldl (descend rooted) cleaned = parts.reverse ++ cleaned := by
  induction parts generalizing cleaned with
  | nil => rfl
  | cons part rest ih =>
    rw [List.forall_mem_cons] at h
    rw [List.foldl_cons, descend_plain h.1, ih h.2, List.reverse_cons, List.append_assoc,
      List.singleton_append]

/-- What a rooted path is cleaned to has nothing but plain components. -/
theorem foldl_descend_rooted {parts cleaned : List Text} (whole : ∀ part ∈ parts, slash ∉ part)
    (h : ∀ part ∈ cleaned, Plain part) :
    ∀ part ∈ parts.foldl (descend true) cleaned, Plain part := by
  induction parts generalizing cleaned with
  | nil => exact h
  | cons part rest ih =>
    rw [List.forall_mem_cons] at whole
    refine ih whole.2 ?_
    simp only [descend]
    split
    · exact h
    split
    · cases cleaned with
      | nil => simp
      | cons last before =>
        rw [List.forall_mem_cons] at h
        simp only [h.1.up, beq_iff_eq, if_false]
        exact h.2
    next nothing notUp =>
      simp only [Bool.or_eq_true, beq_iff_eq, not_or] at nothing notUp
      exact List.forall_mem_cons.mpr ⟨⟨whole.1, nothing.1, nothing.2, notUp⟩, h⟩

theorem plain_of_mem_components {p : Text} (rooted : isAbsolute p) {part : Text}
    (h : part ∈ components p) : Plain part := by
  rw [components, rooted, List.mem_reverse] at h
  exact foldl_descend_rooted (fun part mem => Text.notMem_of_mem_splitByte mem) (by simp) part h

theorem clean_of_isAbsolute {p : Text} (rooted : isAbsolute p) :
    clean p = slash :: join [slash] (components p) := by
  rw [clean, rooted, ofComponents, if_pos rfl]

theorem isAbsolute_clean {p : Text} (rooted : isAbsolute p) : isAbsolute (clean p) := by
  rw [clean_of_isAbsolute rooted]
  rfl

/-- Joining plain components makes a path that has them. -/
theorem foldl_descend_join {parts : List Text} (h : ∀ part ∈ parts, Plain part) (rooted : Bool)
    (cleaned : List Text) :
    (splitByte slash (join [slash] parts)).foldl (descend rooted) cleaned
      = parts.reverse ++ cleaned := by
  by_cases none : parts = []
  · subst none
    rfl
  · rw [Text.splitByte_join none fun part mem => (h part mem).whole,
      foldl_descend_plain h]

/-- Cleaning an absolute path leaves its components as they are. -/
theorem components_clean {p : Text} (rooted : isAbsolute p) :
    components (clean p) = components p := by
  have split (t : Text) : splitByte slash (slash :: t) = [] :: splitByte slash t :=
    Text.splitByte_append slash [] t
  rw [clean_of_isAbsolute rooted]
  calc components (slash :: join [slash] (components p))
    _ = ((splitByte slash (slash :: join [slash] (components p))).foldl (descend true)
          []).reverse := rfl
    _ = ((splitByte slash (join [slash] (components p))).foldl (descend true) []).reverse := by
        rw [split]
        rfl
    _ = components p := by
        rw [foldl_descend_join fun part mem => plain_of_mem_components rooted mem,
          List.append_nil, List.reverse_reverse]

/-! ## The last component -/

/-- A path that ends in a component, in text. -/
def EndsIn (part p : Text) : Prop := p = part ∨ ∃ q, p = q ++ slash :: part

theorem components_append {part : Text} (h : Plain part) (p : Text) :
    ∃ before, components (p ++ slash :: part) = before ++ [part] := by
  refine ⟨((splitByte slash p).foldl (descend (isAbsolute (p ++ slash :: part))) []).reverse, ?_⟩
  rw [components, Text.splitByte_append, Text.splitByte_of_notMem h.whole, List.foldl_append,
    List.foldl_cons, List.foldl_nil, descend_plain h, List.reverse_cons]

theorem components_of_plain {part : Text} (h : Plain part) : components part = [part] := by
  rw [components, Text.splitByte_of_notMem h.whole, List.foldl_cons, List.foldl_nil,
    descend_plain h]
  rfl

theorem EndsIn.components {part p : Text} (h : Plain part) (ends : EndsIn part p) :
    ∃ before, Path.components p = before ++ [part] := by
  obtain rfl | ⟨q, rfl⟩ := ends
  · exact ⟨[], components_of_plain h⟩
  · exact components_append h q

theorem EndsIn.append {part p : Text} (ends : EndsIn part p) (dir : Text) :
    EndsIn part (dir ++ slash :: p) := by
  obtain rfl | ⟨q, rfl⟩ := ends
  · exact .inr ⟨dir, rfl⟩
  · exact .inr ⟨dir ++ slash :: q, by rw [List.append_assoc, List.cons_append]⟩

theorem endsIn_join (part : Text) (before : List Text) :
    EndsIn part (join [slash] (before ++ [part])) := by
  by_cases none : before = []
  · subst none
    exact .inl rfl
  · refine .inr ⟨join [slash] before, ?_⟩
    rw [Text.join_append [slash] none (List.cons_ne_nil _ _), join, List.append_assoc,
      List.singleton_append]

theorem EndsIn.clean {part p : Text} (h : Plain part) (ends : EndsIn part p) :
    EndsIn part (Path.clean p) := by
  obtain ⟨before, eq⟩ := ends.components h
  have joined := endsIn_join part before
  rw [Path.clean, eq, ofComponents]
  split
  · exact joined.append []
  · rw [if_neg (by simp)]
    exact joined

theorem endsIn_joinAll {part : Text} (h : Plain part) (parts : List Text) :
    EndsIn part (joinAll (parts ++ [part])) := by
  have some : part.isEmpty = false := List.isEmpty_eq_false_iff.mpr h.some
  have rest : ∃ before, (parts ++ [part]).dropWhile (·.isEmpty) = before ++ [part] := by
    rw [List.dropWhile_append]
    split
    · exact ⟨[], by simp [some]⟩
    · exact ⟨_, rfl⟩
  obtain ⟨before, eq⟩ := rest
  rw [joinAll, eq]
  split
  next none => simp at none
  · exact (endsIn_join part before).clean h

theorem append_of_ne_nil {dir : Text} (some : dir ≠ []) (name : Text) :
    append dir name = clean (dir ++ slash :: name) := by
  simp [append, joinAll, some, join]

theorem append_of_isAbsolute {cwd : Text} (rooted : isAbsolute cwd) (p : Text) :
    append cwd p = clean (cwd ++ slash :: p) := by
  refine append_of_ne_nil ?_ p
  rintro rfl
  contradiction

theorem isAbsolute_append {p : Text} (rooted : isAbsolute p) (t : Text) : isAbsolute (p ++ t) := by
  cases p with
  | nil => contradiction
  | cons b p => exact rooted

/-- The components of a path as seen from a working directory. -/
theorem components_absolute {cwd : Text} (rooted : isAbsolute cwd) (p : Text) :
    components (absolute cwd p)
      = if isAbsolute p then components p else components (cwd ++ slash :: p) := by
  rw [absolute]
  split
  next own => exact components_clean own
  · rw [append_of_isAbsolute rooted, components_clean (isAbsolute_append rooted _)]

/-- A path that ends in a plain component leads to it from any folder. -/
theorem getLast?_absolute {cwd part p : Text} (rooted : isAbsolute cwd) (h : Plain part)
    (ends : EndsIn part p) : (components (absolute cwd p)).getLast? = some part := by
  rw [components_absolute rooted]
  split
  · obtain ⟨before, eq⟩ := ends.components h
    rw [eq, List.getLast?_concat]
  · obtain ⟨before, eq⟩ := (ends.append cwd).components h
    rw [eq, List.getLast?_concat]

/-! ## Cleaned relative paths -/

/-- A step of a cleaned relative path: up, or into a folder. -/
def Step (part : Text) : Prop := part = ".." ∨ Plain part

theorem Step.whole {part : Text} (h : Step part) : slash ∉ part := by
  rcases h with rfl | plain
  · decide
  · exact plain.whole

theorem Step.some {part : Text} (h : Step part) : part ≠ [] := by
  rcases h with rfl | plain
  · decide
  · exact plain.some

section Steps

variable {part : Text} {cleaned start : List Text}

theorem descend_skip (nothing : part = [] ∨ part = ".") (rooted : Bool) :
    descend rooted cleaned part = cleaned := by
  rcases nothing with rfl | rfl <;> simp [descend]

theorem step_of_mem_descend (whole : slash ∉ part) (steps : ∀ p ∈ cleaned, Step p) :
    ∀ p ∈ descend false cleaned part, Step p := by
  have added (h : Step part) : ∀ p ∈ part :: cleaned, Step p := List.forall_mem_cons.mpr ⟨h, steps⟩
  simp only [descend]
  split
  · exact steps
  next something =>
    split
    next up =>
      have up := beq_iff_eq.mp up
      split
      · exact List.forall_mem_singleton.mpr (.inl up)
      · split
        · exact added (.inl up)
        · exact fun p mem => steps p (List.mem_cons_of_mem _ mem)
    next notUp =>
      simp only [Bool.or_eq_true, beq_iff_eq, not_or] at something notUp
      exact added (.inr ⟨whole, something.1, something.2, notUp⟩)

/-- A part that is cleaned into a relative path leads on from where that path leads. -/
theorem foldl_descend_descend (steps : ∀ p ∈ cleaned, Step p) :
    (descend false cleaned part).reverse.foldl (descend true) start
      = descend true (cleaned.reverse.foldl (descend true) start) part := by
  have added : (part :: cleaned).reverse.foldl (descend true) start
      = descend true (cleaned.reverse.foldl (descend true) start) part := by
    rw [List.reverse_cons, List.foldl_append, List.foldl_cons, List.foldl_nil]
  by_cases nothing : part = [] ∨ part = "."
  · rw [descend_skip nothing, descend_skip nothing]
  · by_cases up : part = ".."
    · subst up
      cases cleaned with
      | nil => rfl
      | cons last before =>
        rw [List.forall_mem_cons] at steps
        rcases steps.1 with rfl | plain
        · exact added
        · have dots : utf8 ".." ≠ [] ∧ utf8 ".." ≠ "." := by decide
          have undone (rooted : Bool) (rest : List Text) :
              descend rooted (last :: rest) ".." = rest := by
            simp [descend, dots, plain.up]
          rw [undone, List.reverse_cons, List.foldl_append, List.foldl_cons, List.foldl_nil,
            descend_plain plain, undone]
    · have kept : descend false cleaned part = part :: cleaned := by
        rw [not_or] at nothing
        simp [descend, nothing, up]
      rw [kept, added]

theorem foldl_descend_foldl (start : List Text) {parts : List Text} (whole : ∀ p ∈ parts, slash ∉ p)
    (steps : ∀ p ∈ cleaned, Step p) :
    (∀ p ∈ parts.foldl (descend false) cleaned, Step p) ∧
      (parts.foldl (descend false) cleaned).reverse.foldl (descend true) start
        = parts.foldl (descend true) (cleaned.reverse.foldl (descend true) start) := by
  induction parts generalizing cleaned with
  | nil => exact ⟨steps, rfl⟩
  | cons part parts ih =>
    rw [List.forall_mem_cons] at whole
    have next := ih whole.2 (step_of_mem_descend whole.1 steps)
    rw [foldl_descend_descend steps] at next
    exact next

/-- Cleaned steps are kept as they are, and so are those that a part is cleaned into. -/
theorem descend_settled (steps : ∀ p ∈ cleaned, Step p)
    (settled : cleaned.reverse.foldl (descend false) [] = cleaned) :
    (descend false cleaned part).reverse.foldl (descend false) [] = descend false cleaned part := by
  by_cases added : descend false cleaned part = part :: cleaned
  · rw [added, List.reverse_cons, List.foldl_append, settled, List.foldl_cons, List.foldl_nil,
      added]
  · by_cases nothing : part = [] ∨ part = "."
    · rw [descend_skip nothing, settled]
    · rw [not_or] at nothing
      by_cases up : part = ".."
      · subst up
        cases cleaned with
        | nil => rfl
        | cons last before =>
          rw [List.forall_mem_cons] at steps
          rcases steps.1 with rfl | plain
          · exact absurd rfl added
          · have undone : descend false (last :: before) ".." = before := by
              simp [descend, nothing, plain.up]
            rw [List.reverse_cons, List.foldl_append, List.foldl_cons, List.foldl_nil,
              descend_plain plain] at settled
            rw [undone, (List.cons.inj settled).2]
      · exact absurd (by simp [descend, nothing, up]) added

theorem foldl_descend_settled {parts : List Text} (whole : ∀ p ∈ parts, slash ∉ p)
    (steps : ∀ p ∈ cleaned, Step p)
    (settled : cleaned.reverse.foldl (descend false) [] = cleaned) :
    (parts.foldl (descend false) cleaned).reverse.foldl (descend false) []
      = parts.foldl (descend false) cleaned := by
  induction parts generalizing cleaned with
  | nil => exact settled
  | cons part parts ih =>
    rw [List.forall_mem_cons] at whole
    exact ih whole.2 (step_of_mem_descend whole.1 steps) (descend_settled steps settled)

end Steps

section Relative

variable {path : Text} (relative : ¬ isAbsolute path)
include relative

theorem components_of_relative :
    components path = ((splitByte slash path).foldl (descend false) []).reverse := by
  rw [components, Bool.eq_false_iff.mpr relative]

theorem clean_of_relative :
    clean path
      = if (components path).isEmpty then utf8 "." else join [slash] (components path) := by
  rw [clean, Bool.eq_false_iff.mpr relative, ofComponents, if_neg Bool.false_ne_true]

/-- A relative path is cleaned to steps, and from any folder these lead where the path leads. -/
theorem components_steps (start : List Text) : (∀ part ∈ components path, Step part) ∧
    (components path).foldl (descend true) start
      = (splitByte slash path).foldl (descend true) start := by
  have whole : ∀ part ∈ splitByte slash path, slash ∉ part :=
    fun part mem => Text.notMem_of_mem_splitByte mem
  obtain ⟨steps, leads⟩ := foldl_descend_foldl start whole (List.forall_mem_nil Step)
  rw [components_of_relative relative]
  exact ⟨fun part mem => steps part (List.mem_reverse.mp mem), leads⟩

theorem not_isAbsolute_clean : ¬ isAbsolute (clean path) := by
  have steps := (components_steps relative []).1
  rw [clean_of_relative relative]
  cases parts : components path with
  | nil => decide
  | cons first rest =>
    rw [parts, List.forall_mem_cons] at steps
    obtain ⟨b, name, rfl⟩ := List.exists_cons_of_ne_nil steps.1.some
    have other : b ≠ slash := fun same => steps.1.whole (same ▸ List.mem_cons_self)
    cases rest <;> simpa [isAbsolute, join] using other

/-- From any folder a relative path leads where it leads when it is cleaned. -/
theorem components_append_clean {dir : Text} (rooted : isAbsolute dir) :
    components (dir ++ slash :: clean path) = components (dir ++ slash :: path) := by
  have inside (p : Text) : components (dir ++ slash :: p)
      = ((splitByte slash p).foldl (descend true) (components dir).reverse).reverse := by
    rw [components, isAbsolute_append rooted, Text.splitByte_append, List.foldl_append, components,
      rooted, List.reverse_reverse]
  obtain ⟨steps, leads⟩ := components_steps relative (components dir).reverse
  rw [inside, inside, ← leads, clean_of_relative relative]
  congr 1
  split
  next none =>
    rw [List.isEmpty_iff.mp none]
    exact descend_skip (.inr rfl) true
  next some =>
    rw [Text.splitByte_join (by simpa using some) fun part mem => (steps part mem).whole]

end Relative

/-! ## Going down -/

/-- Cleaning a path leaves its components as they are. -/
theorem components_clean_self (path : Text) : components (clean path) = components path := by
  by_cases rooted : isAbsolute path
  · exact components_clean rooted
  · have steps := (components_steps rooted []).1
    have settled : (components path).foldl (descend false) [] = (components path).reverse := by
      have whole (part) (mem : part ∈ splitByte slash path) := Text.notMem_of_mem_splitByte mem
      have := foldl_descend_settled whole (List.forall_mem_nil Step) rfl
      rw [components_of_relative rooted, this, List.reverse_reverse]
    rw [components_of_relative (not_isAbsolute_clean rooted), clean_of_relative rooted]
    split
    next none =>
      rw [List.isEmpty_iff.mp none]
      decide
    next some =>
      rw [Text.splitByte_join (by simpa using some) fun part mem => (steps part mem).whole,
        settled, List.reverse_reverse]

theorem isAbsolute_clean_eq (path : Text) : isAbsolute (clean path) = isAbsolute path := by
  by_cases rooted : isAbsolute path
  · rw [rooted, isAbsolute_clean rooted]
  · rw [Bool.eq_false_iff.mpr rooted, Bool.eq_false_iff.mpr (not_isAbsolute_clean rooted)]

theorem clean_ne_nil (path : Text) : clean path ≠ [] := by
  by_cases rooted : isAbsolute path
  · simp [clean_of_isAbsolute rooted]
  · have steps := (components_steps rooted []).1
    rw [clean_of_relative rooted]
    cases parts : components path with
    | nil => decide
    | cons first rest =>
      rw [parts, List.forall_mem_cons] at steps
      cases rest <;> simp [join, steps.1.some]

/-- A path into a folder is cleaned by cleaning the path of the folder. -/
theorem components_append_plain {dir part : Text} (some : dir ≠ []) (h : Plain part) :
    isAbsolute (dir ++ slash :: part) = isAbsolute dir ∧
      components (dir ++ slash :: part) = components dir ++ [part] := by
  have same : isAbsolute (dir ++ slash :: part) = isAbsolute dir := by
    cases dir with
    | nil => contradiction
    | cons b dir => rfl
  refine ⟨same, ?_⟩
  rw [components, same, Text.splitByte_append, Text.splitByte_of_notMem h.whole, List.foldl_append,
    List.foldl_cons, List.foldl_nil, descend_plain h, List.reverse_cons, components]

theorem append_clean {dir name : Text} (some : dir ≠ []) (h : Plain name) :
    append (clean dir) name = append dir name := by
  have own := components_append_plain some h
  have cleaned := components_append_plain (clean_ne_nil dir) h
  rw [append_of_ne_nil some, append_of_ne_nil (clean_ne_nil dir)]
  calc clean (clean dir ++ slash :: name)
    _ = ofComponents (isAbsolute (clean dir)) (components (clean dir) ++ [name]) := by
        rw [clean, cleaned.1, cleaned.2]
    _ = ofComponents (isAbsolute dir) (components dir ++ [name]) := by
        rw [isAbsolute_clean_eq, components_clean_self]
    _ = clean (dir ++ slash :: name) := by rw [clean, own.1, own.2]

/-- Going down from a folder name by name leads to the cleaned path of all of them. -/
theorem foldl_append_eq {dir : Text} {names : List Text} (some : dir ≠ []) (deeper : names ≠ [])
    (plain : ∀ name ∈ names, Plain name) :
    names.foldl append dir = clean (join [slash] (dir :: names)) := by
  induction names using List.reverseRecOn with
  | nil => contradiction
  | append_singleton names name ih =>
    rw [List.forall_mem_append, List.forall_mem_singleton] at plain
    have path : join [slash] (dir :: (names ++ [name]))
        = join [slash] (dir :: names) ++ slash :: name := by
      rw [← List.cons_append, Text.join_append _ (List.cons_ne_nil _ _) (List.cons_ne_nil _ _),
        join, List.append_assoc, List.singleton_append]
    have above : join [slash] (dir :: names) ≠ [] := by
      cases names <;> simp [join, some]
    rw [List.foldl_append, List.foldl_cons, List.foldl_nil, path, ← append_of_ne_nil above]
    cases names with
    | nil => rfl
    | cons first rest => rw [ih (List.cons_ne_nil _ _) plain.1, append_clean above plain.2]

end Path
end TreeLint
