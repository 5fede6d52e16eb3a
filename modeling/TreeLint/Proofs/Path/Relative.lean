import TreeLint.Proofs.Path.Components
import TreeLint.Specifier

/-! # Relative specifiers

From one absolute path to another leads a way of components: as many steps up as the first
has of its own, then the components that only the second has (`relative?_eq`).  Followed
from the first path it ends at the second one (`clean_append_way`).

A way that goes up begins with `..` and reads as a relative specifier as it is.  One that
only goes down is given a `./` in front, unless its first component begins with a dot: that
one is taken for a mark of a path and is none.  So a specifier made for a path reads as
relative and resolves to the path, except for a path below the folder that begins with such
a component (`relativeTo_resolves_iff`).
-/

namespace TreeLint

namespace Path

open Text (splitByte join)

/-! ## What two paths have in common -/

theorem diverge_eq (as bs : List Text) :
    ∃ common, as = common ++ (diverge as bs).1 ∧ bs = common ++ (diverge as bs).2 := by
  induction as generalizing bs with
  | nil => exact ⟨[], rfl, rfl⟩
  | cons a as ih =>
    cases bs with
    | nil => exact ⟨[], rfl, rfl⟩
    | cons b bs =>
      rw [diverge]
      split
      next same =>
        obtain ⟨common, left, right⟩ := ih bs
        rw [beq_iff_eq] at same
        subst same
        exact ⟨a :: common, congrArg (a :: ·) left, congrArg (a :: ·) right⟩
      · exact ⟨[], rfl, rfl⟩

theorem diverge_append (common as bs : List Text) :
    diverge (common ++ as) (common ++ bs) = diverge as bs := by
  induction common with
  | nil => rfl
  | cons part common ih => rw [List.cons_append, List.cons_append, diverge, if_pos (by simp), ih]

/-- Nothing leads up exactly to where the second path goes on from the first. -/
theorem diverge_fst_eq_nil {as bs : List Text} :
    (diverge as bs).1 = [] ↔ ∃ down, bs = as ++ down := by
  constructor
  · intro stays
    obtain ⟨common, left, right⟩ := diverge_eq as bs
    rw [stays, List.append_nil] at left
    exact ⟨(diverge as bs).2, left ▸ right⟩
  · rintro ⟨down, rfl⟩
    have := diverge_append as [] down
    rw [List.append_nil] at this
    rw [this]
    rfl

/-- The components that lead from one absolute path to another. -/
def way (dir target : Text) : List Text :=
  let (up, down) := diverge (components dir) (components target)
  up.map (fun _ => utf8 "..") ++ down

/-! ## Relating two paths -/

theorem splitByte_rooted (t : Text) : splitByte slash (slash :: t) = [] :: splitByte slash t :=
  Text.splitByte_append slash [] t

theorem join_ne_nil {part : Text} (h : part ≠ []) (rest : List Text) :
    join [slash] (part :: rest) ≠ [] := by
  cases rest <;> simp [join, h]

theorem clean_ne_dot {p : Text} (rooted : isAbsolute p) : clean p ≠ "." := by
  rw [clean_of_isAbsolute rooted]
  intro eq
  injection eq with first
  exact absurd first (by decide)

/-- The steps of a cleaned absolute path are one for the root and one for each component. -/
theorem steps_clean {p : Text} (rooted : isAbsolute p) : steps (clean p) = [] :: components p := by
  have plain : ∀ part ∈ components p, Plain part := fun part => plain_of_mem_components rooted
  have notDot := clean_ne_dot rooted
  rw [clean_of_isAbsolute rooted] at notDot ⊢
  cases parts : components p with
  | nil => rfl
  | cons part rest =>
    rw [parts] at plain notDot
    have long : join [slash] (part :: rest) ≠ [] := join_ne_nil (plain part (by simp)).some rest
    have notRoot : slash :: join [slash] (part :: rest) ≠ "/" := by
      intro eq
      injection eq with first rest
      exact long rest
    simp only [steps, beq_iff_eq, notDot, notRoot, if_false]
    rw [splitByte_rooted, Text.splitByte_join (by simp) fun part mem => (plain part mem).whole]

theorem clean_inj {p q : Text} (inP : isAbsolute p) (inQ : isAbsolute q) :
    clean p = clean q ↔ components p = components q := by
  constructor
  · intro eq
    rw [← components_clean inP, eq, components_clean inQ]
  · intro eq
    rw [clean_of_isAbsolute inP, clean_of_isAbsolute inQ, eq]

/-- Two absolute paths are always related, and by the way from one to the other. -/
theorem relative?_eq {dir target : Text} (inDir : isAbsolute dir) (inTarget : isAbsolute target) :
    relative? dir target = some (ofComponents false (way dir target)) := by
  have common : diverge (steps (clean dir)) (steps (clean target))
      = diverge (components dir) (components target) := by
    rw [steps_clean inDir, steps_clean inTarget]
    exact diverge_append [[]] _ _
  obtain ⟨shared, left, right⟩ := diverge_eq (components dir) (components target)
  simp only [relative?, way, common, isAbsolute_clean inDir, isAbsolute_clean inTarget,
    bne_self_eq_false, Bool.false_eq_true, if_false, beq_iff_eq, clean_inj inDir inTarget]
  rcases parts : diverge (components dir) (components target) with ⟨up, down⟩
  rw [parts] at left right
  cases up with
  | nil =>
    cases down with
    | nil => simp [left, right, ofComponents]
    | cons first down => simp [left, right, ofComponents]
  | cons first up =>
    have plain : Plain first := plain_of_mem_components inDir (left ▸ by simp)
    have other : components dir ≠ components target := by
      intro same
      have : (diverge (components dir) (components target)).1 = [] :=
        diverge_fst_eq_nil.mpr ⟨[], by rw [same, List.append_nil]⟩
      rw [parts] at this
      contradiction
    simp [other, plain.up, ofComponents]

/-! ## Following a way -/

theorem foldl_descend_up {parts before : List Text} (plain : ∀ part ∈ parts, Plain part) :
    (parts.map fun _ => utf8 "..").foldl (descend true) (parts ++ before) = before := by
  induction parts with
  | nil => rfl
  | cons part parts ih =>
    rw [List.forall_mem_cons] at plain
    have dots : utf8 ".." ≠ [] ∧ utf8 ".." ≠ "." := by decide
    have up : descend true (part :: parts ++ before) ".." = parts ++ before := by
      simp [descend, dots, plain.1.up]
    rw [List.map_cons, List.foldl_cons, up, ih plain.2]

/-- The way from one path to another leads there. -/
theorem foldl_descend_way {dir target : Text} (inDir : isAbsolute dir)
    (inTarget : isAbsolute target) :
    (way dir target).foldl (descend true) (components dir).reverse
      = (components target).reverse := by
  obtain ⟨common, left, right⟩ := diverge_eq (components dir) (components target)
  rcases parts : diverge (components dir) (components target) with ⟨up, down⟩
  rw [parts] at left right
  have ups : (up.map fun _ => utf8 "..") = up.reverse.map fun _ => utf8 ".." := by
    rw [List.map_const', List.map_const', List.length_reverse]
  have plainUp : ∀ part ∈ up.reverse, Plain part := fun part mem =>
    plain_of_mem_components inDir (left ▸ List.mem_append_right _ (List.mem_reverse.mp mem))
  have plainDown : ∀ part ∈ down, Plain part := fun part mem =>
    plain_of_mem_components inTarget (right ▸ List.mem_append_right _ mem)
  rw [way, parts]
  simp only
  rw [List.foldl_append, ups, left, List.reverse_append, foldl_descend_up plainUp,
    foldl_descend_plain plainDown, right, List.reverse_append]

theorem whole_of_mem_way (dir : Text) {target : Text} (inTarget : isAbsolute target) :
    ∀ part ∈ way dir target, slash ∉ part := by
  obtain ⟨common, -, right⟩ := diverge_eq (components dir) (components target)
  intro part mem
  rcases List.mem_append.mp mem with up | down
  · obtain ⟨_, _, rfl⟩ := List.mem_map.mp up
    decide
  · exact (plain_of_mem_components inTarget (right ▸ List.mem_append_right _ down)).whole

/-- A path is followed from a folder component by component. -/
theorem clean_append {dir target p : Text} (inDir : isAbsolute dir) (inTarget : isAbsolute target)
    (leads : (splitByte slash p).foldl (descend true) (components dir).reverse
      = (components target).reverse) : clean (append dir p) = clean target := by
  have inside : isAbsolute (dir ++ slash :: p) := isAbsolute_append inDir _
  have parts : components (dir ++ slash :: p) = components target := by
    rw [components, inside, Text.splitByte_append, List.foldl_append,
      ← List.reverse_reverse (components target), ← leads]
    rw [components, inDir, List.reverse_reverse]
  rw [append_of_isAbsolute inDir, clean_inj (isAbsolute_clean inside) inTarget,
    components_clean inside, parts]

/-- The way as it is written leads there, with and without a dot in front. -/
theorem clean_append_way {dir target : Text} (inDir : isAbsolute dir)
    (inTarget : isAbsolute target) :
    clean (append dir (ofComponents false (way dir target))) = clean target ∧
      clean (append dir ("./" ++ ofComponents false (way dir target))) = clean target := by
  have here (before : List Text) : descend true before "." = before := by simp [descend]
  have follow : (splitByte slash (ofComponents false (way dir target))).foldl (descend true)
      (components dir).reverse = (components target).reverse := by
    rw [← foldl_descend_way inDir inTarget, ofComponents]
    cases parts : way dir target with
    | nil => exact here _
    | cons part rest =>
      rw [← parts, if_neg (by simp), if_neg (by simp [parts]),
        Text.splitByte_join (by simp [parts]) (whole_of_mem_way dir inTarget)]
  refine ⟨clean_append inDir inTarget follow, clean_append inDir inTarget ?_⟩
  have cut : splitByte slash ("./" ++ ofComponents false (way dir target))
      = utf8 "." :: splitByte slash (ofComponents false (way dir target)) :=
    Text.splitByte_append slash "." _
  rw [cut, List.foldl_cons, here, follow]

end Path

namespace Specifier

open Text (splitByte)
open Path

/-! ## Marks of a path -/

/-- The first part of a cut text stands at its start. -/
theorem starts_of_splitByte {sep : UInt8} {t part : Text} {parts : List Text}
    (h : splitByte sep t = part :: parts) : t = part ∨ ∃ rest, t = part ++ sep :: rest := by
  induction t generalizing part parts with
  | nil =>
    injection h with first
    exact .inl first
  | cons b t ih =>
    simp only [splitByte] at h
    cases eq : splitByte sep t with
    | nil => exact absurd eq (Text.splitByte_ne_nil sep t)
    | cons first rest =>
      rw [eq] at h
      simp only at h
      split at h
      next same =>
        injection h with first
        exact .inr ⟨t, by rw [← first, beq_iff_eq.mp same, List.nil_append]⟩
      · injection h with first
        subst first
        rcases ih eq with rfl | ⟨rest, rfl⟩
        · exact .inl rfl
        · exact .inr ⟨rest, rfl⟩

/-- What the first part of a cut text is shows in how the text begins. -/
theorem head?_splitByte_iff {sep : UInt8} {t mark : Text} (whole : sep ∉ mark) :
    (splitByte sep t).head? = some mark ↔ t = mark ∨ mark ++ [sep] <+: t := by
  constructor
  · intro first
    obtain ⟨parts, h⟩ := List.head?_eq_some_iff.mp first
    exact (starts_of_splitByte h).imp_right fun ⟨rest, eq⟩ =>
      ⟨rest, by rw [eq, List.append_assoc, List.singleton_append]⟩
  · rintro (rfl | ⟨rest, rfl⟩)
    · rw [Text.splitByte_of_notMem whole, List.head?_cons]
    · rw [List.append_assoc, List.singleton_append, Text.splitByte_append,
        Text.splitByte_of_notMem whole, List.singleton_append, List.head?_cons]

/-- A specifier that is no rooted path reads as relative by its first component. -/
theorem isRelative_iff {spec part : Text} {parts : List Text}
    (h : splitByte slash spec = part :: parts) (some : part ≠ []) :
    isRelative spec ↔ part = "." ∨ part = ".." := by
  have marked (mark : Text) (whole : slash ∉ mark) :
      spec = mark ∨ (mark ++ [slash]).isPrefixOf spec ↔ part = mark := by
    rw [List.isPrefixOf_iff_prefix, ← head?_splitByte_iff whole, h, List.head?_cons,
      Option.some.injEq]
  have notRooted : spec.startsWith "/" = false := by
    rw [Bool.eq_false_iff, ne_eq, Text.startsWith, List.isPrefixOf_iff_prefix]
    rintro ⟨rest, rfl⟩
    rw [show utf8 "/" ++ rest = slash :: rest from rfl, splitByte_rooted] at h
    injection h with first
    exact some first.symm
  have here : utf8 "." ++ [slash] = "./" := rfl
  have up : utf8 ".." ++ [slash] = "../" := rfl
  rw [← marked "." (by decide), ← marked ".." (by decide), here, up, isRelative, notRooted]
  simp only [Bool.or_eq_true, beq_iff_eq, Text.startsWith, Bool.or_false]
  rw [or_assoc, or_or_or_comm]

/-- Whether a text begins with a dot is seen from its first component. -/
theorem startsWith_dot {spec part : Text} {parts : List Text}
    (h : splitByte slash spec = part :: parts) (some : part ≠ []) :
    spec.startsWith "." = part.startsWith "." := by
  cases part with
  | nil => contradiction
  | cons b part => obtain rfl | ⟨rest, rfl⟩ := starts_of_splitByte h <;> rfl

/-- No builtin module has a name that begins with a dot. -/
theorem isBuiltin_of_dot {spec : Text} (h : spec.startsWith ".") : isBuiltin spec = false := by
  have names : ∀ name ∈ builtins, name.startsWith "." = false := by decide +kernel
  have other : builtins.contains spec = false := by
    rw [Bool.eq_false_iff, ne_eq, List.contains_iff_mem]
    intro mem
    rw [names spec mem] at h
    contradiction
  obtain ⟨rest, rfl⟩ := List.isPrefixOf_iff_prefix.mp h
  rw [isBuiltin, other, Bool.or_false]
  rfl

/-- What a specifier with a dot at its start is taken for. -/
theorem classify_of_dot {spec : Text} (h : spec.startsWith ".") (dir : Text) :
    classify dir spec = if isRelative spec then ⟨.relative, spec, clean (append dir spec)⟩
      else ⟨.package, spec, spec⟩ := by
  have notRooted : spec.startsWith "/" = false := by
    obtain ⟨rest, rfl⟩ := List.isPrefixOf_iff_prefix.mp h
    rfl
  simp only [classify, isBuiltin_of_dot h, notRooted, Bool.false_eq_true, if_false]

/-! ## A specifier for a path -/

/-- The path is below the folder, and what it has there first begins with a dot. -/
def Dotted (dir target : Text) : Prop :=
  ∃ part rest, components target = components dir ++ part :: rest ∧ part.startsWith "."

/-- The ways from one path to another: none at all, one that goes up first, and one that only
goes down. -/
theorem way_cases (dir : Text) {target : Text} (inTarget : isAbsolute target) :
    (way dir target = [] ∧ ¬ Dotted dir target) ∨
      (∃ rest, way dir target = utf8 ".." :: rest ∧ ¬ Dotted dir target) ∨
      ∃ part rest, way dir target = part :: rest ∧ Plain part ∧
        (Dotted dir target ↔ part.startsWith ".") := by
  obtain ⟨common, left, right⟩ := diverge_eq (components dir) (components target)
  have stays {part : Text} {rest : List Text}
      (below : components target = components dir ++ part :: rest) :
      diverge (components dir) (components target) = ([], part :: rest) := by
    have := diverge_append (components dir) [] (part :: rest)
    rwa [List.append_nil, ← below] at this
  rcases parts : diverge (components dir) (components target) with ⟨up, down⟩
  rw [parts] at left right
  rw [way, parts]
  cases up with
  | cons first up =>
    refine .inr (.inl ⟨_, rfl, ?_⟩)
    rintro ⟨part, rest, below, -⟩
    have := stays below
    rw [parts] at this
    injection this with none
    contradiction
  | nil =>
    rw [List.append_nil] at left
    cases down with
    | nil =>
      refine .inl ⟨rfl, ?_⟩
      rintro ⟨part, rest, below, -⟩
      have := stays below
      rw [parts] at this
      injection this with _ none
      contradiction
    | cons part rest =>
      have below : components target = components dir ++ part :: rest := left ▸ right
      have plain : Plain part := plain_of_mem_components inTarget (below ▸ by simp)
      refine .inr (.inr ⟨part, rest, rfl, plain, ?_, fun dot => ⟨part, rest, below, dot⟩⟩)
      rintro ⟨part', rest', below', dot⟩
      have := stays below'
      rw [parts] at this
      injection this with _ same
      injection same with same
      rwa [same]

/-- From any absolute folder a specifier is found for any absolute path, and it leads there;
it has a dot in front, which is the mark of a path unless it is one of the path itself. -/
theorem exists_specifier {dir target : Text} (inDir : isAbsolute dir)
    (inTarget : isAbsolute target) :
    ∃ spec, relativeTo dir target = .ok spec ∧ spec.startsWith "." ∧
      clean (append dir spec) = clean target ∧ (isRelative spec ↔ ¬ Dotted dir target) := by
  obtain ⟨leads, leadsMarked⟩ := clean_append_way inDir inTarget
  have whole := whole_of_mem_way dir inTarget
  simp only [relativeTo, relative?_eq inDir inTarget]
  have cut {part : Text} {rest : List Text} (eq : way dir target = part :: rest) :
      splitByte slash (ofComponents false (part :: rest)) = part :: rest :=
    Text.splitByte_join (by simp) fun part mem => whole part (eq ▸ mem)
  obtain ⟨none, straight⟩ | ⟨rest, ups, straight⟩ | ⟨part, rest, down, plain, dotted⟩ :=
    way_cases dir inTarget
  · rw [none] at leads ⊢
    exact ⟨".", rfl, rfl, leads, iff_of_true rfl straight⟩
  · have first : utf8 ".." ≠ [] := by decide
    have dot := startsWith_dot (cut ups) first
    rw [ups] at leads ⊢
    exact ⟨_, congrArg _ (if_pos dot), dot, leads,
      iff_of_true ((isRelative_iff (cut ups) first).mpr (.inr rfl)) straight⟩
  -- Only here the test for a dot decides, and a plain component is not one of the two marks.
  · have dot := startsWith_dot (cut down) plain.some
    have package : ¬ isRelative (ofComponents false (part :: rest)) := by
      rw [isRelative_iff (cut down) plain.some, not_or]
      exact ⟨plain.here, plain.up⟩
    rw [down] at leads leadsMarked ⊢
    rw [dotted, ← dot]
    cases own : (ofComponents false (part :: rest)).startsWith "." with
    | true => exact ⟨_, rfl, own, leads, by simpa using package⟩
    | false =>
      have marked : splitByte slash ("./" ++ ofComponents false (part :: rest))
          = utf8 "." :: part :: rest :=
        (Text.splitByte_append slash "." _).trans (congrArg _ (cut down))
      have reads := (isRelative_iff marked (by decide)).mpr (.inl rfl)
      exact ⟨_, rfl, rfl, leadsMarked, iff_of_true reads (by simp)⟩

/-- A specifier made for a path leads to the path.  It reads as relative, and is classified as
the path, unless the path is below the folder and begins there with a dot: then it is taken
for a package. -/
theorem relativeTo_resolves_iff {dir target : Text} (inDir : isAbsolute dir)
    (inTarget : isAbsolute target) :
    ∃ spec, relativeTo dir target = .ok spec ∧ clean (append dir spec) = clean target ∧
      (isRelative spec ∧ classify dir spec = ⟨.relative, spec, clean target⟩ ↔
        ¬ Dotted dir target) ∧
      (Dotted dir target → classify dir spec = ⟨.package, spec, spec⟩) := by
  obtain ⟨spec, found, dot, leads, reads⟩ := exists_specifier inDir inTarget
  refine ⟨spec, found, leads, ?_, fun dotted => ?_⟩
  · rw [← reads, and_iff_left_iff_imp]
    intro relative
    rw [classify_of_dot dot, if_pos relative, leads]
  · rw [classify_of_dot dot, if_neg fun relative => reads.mp relative dotted]

/-- A folder below the own one that is hidden by its name. -/
theorem relativeTo_resolves_iff_hidden :
    isAbsolute "/repo" ∧ isAbsolute "/repo/.hidden/x" ∧ Dotted "/repo" "/repo/.hidden/x" ∧
      relativeTo "/repo" "/repo/.hidden/x" = .ok ".hidden/x" ∧
      classify "/repo" ".hidden/x" = ⟨.package, ".hidden/x", ".hidden/x"⟩ := by
  have inDir : isAbsolute "/repo" := by decide
  have inTarget : isAbsolute "/repo/.hidden/x" := by decide
  have dotted : Dotted "/repo" "/repo/.hidden/x" := ⟨".hidden", ["x"], by decide, by decide⟩
  have found : relativeTo "/repo" "/repo/.hidden/x" = .ok ".hidden/x" := by rfl
  obtain ⟨spec, ok, -, -, package⟩ := relativeTo_resolves_iff inDir inTarget
  rw [found] at ok
  injection ok with same
  subst same
  exact ⟨inDir, inTarget, dotted, found, package dotted⟩

end Specifier
end TreeLint
