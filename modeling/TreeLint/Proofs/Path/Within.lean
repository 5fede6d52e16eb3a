import TreeLint.Proofs.Path.Relative
import TreeLint.Source.File

/-! # Paths below a folder

A path lies within a folder if it has the components of the folder at its start (`Within`); in
cleaned paths that shows in their text (`within_iff`).  The way from the folder to it then goes
down only, by the components that it has of its own (`way_of_within`); every other way first goes
up.  Which of the two it is shows in how the way begins, since a component such as `..x` is not a
step up (`climbs_way_iff`).

So a path that is shown relative to a folder lies within the folder and is reached from there by
what is shown, and any other path is shown as it is seen from the root (`relativeTo_within_iff`).
-/

namespace TreeLint.Path

open Text (splitByte join)

variable {cwd dir target : Text}

theorem isAbsolute_absolute (rooted : isAbsolute cwd) (p : Text) : isAbsolute (absolute cwd p) := by
  rw [absolute]
  split
  next own => exact isAbsolute_clean own
  · rw [append_of_isAbsolute rooted]
    exact isAbsolute_clean (isAbsolute_append rooted _)

theorem clean_absolute (rooted : isAbsolute cwd) (p : Text) :
    clean (absolute cwd p) = absolute cwd p := by
  have again {q : Text} (h : isAbsolute q) : clean (clean q) = clean q :=
    (clean_inj (isAbsolute_clean h) h).mpr (components_clean h)
  rw [absolute]
  split
  next own => exact again own
  · rw [append_of_isAbsolute rooted]
    exact again (isAbsolute_append rooted _)

/-- A path is a folder or lies below it. -/
def Within (dir p : Text) : Prop := components dir <+: components p

theorem splitByte_clean {p : Text} (rooted : isAbsolute p) (notRoot : clean p ≠ "/") :
    splitByte slash (clean p) = [] :: components p := by
  rw [← steps_clean rooted, steps, if_neg (by simpa using clean_ne_dot rooted),
    if_neg (by simpa using notRoot)]

theorem components_of_root (inDir : isAbsolute dir) (root : clean dir = "/") :
    components dir = [] := by
  rw [← components_clean inDir, root]
  rfl

/-- Cleaned paths show it in how they begin: with the root, as the folder itself, or with the
folder and a slash. -/
theorem within_iff (inDir : isAbsolute dir) (inTarget : isAbsolute target) :
    Within dir target
      ↔ clean dir = "/" ∨ clean target = clean dir ∨ clean dir ++ [slash] <+: clean target := by
  by_cases root : clean dir = "/"
  · rw [Within, components_of_root inDir root]
    exact iff_of_true List.nil_prefix (.inl root)
  rw [or_iff_right root]
  constructor
  · rintro ⟨down, eq⟩
    by_cases same : down = []
    · rw [same, List.append_nil] at eq
      exact .inl ((clean_inj inTarget inDir).mpr eq.symm)
    · have some : components dir ≠ [] := fun none =>
        root (by rw [clean_of_isAbsolute inDir, none]; rfl)
      refine .inr ⟨join [slash] down, ?_⟩
      rw [clean_of_isAbsolute inDir, clean_of_isAbsolute inTarget, ← eq,
        Text.join_append _ some same, List.append_assoc, List.cons_append, List.append_assoc]
  · rintro (same | ⟨rest, eq⟩)
    · exact ⟨[], by rw [List.append_nil, (clean_inj inTarget inDir).mp same]⟩
    · have notRoot : clean target ≠ "/" := by
        intro same
        rw [← eq, clean_of_isAbsolute inDir] at same
        injection same with _ none
        simp at none
      have parts := splitByte_clean inTarget notRoot
      rw [← eq, List.append_assoc, List.singleton_append, Text.splitByte_append,
        splitByte_clean inDir root] at parts
      injection parts with _ parts
      exact ⟨_, parts⟩

/-! ## Ways that go down -/

/-- The way to a path within a folder is what the path has of its own. -/
theorem way_of_within (h : Within dir target) :
    components target = components dir ++ way dir target := by
  obtain ⟨down, eq⟩ := h
  have goesDown := diverge_append (components dir) [] down
  rw [List.append_nil] at goesDown
  rw [way, ← eq, goesDown]
  rfl

/-- The way to any other path goes up first. -/
theorem way_of_not_within (h : ¬ Within dir target) :
    ∃ rest, way dir target = utf8 ".." :: rest := by
  have goesUp : (diverge (components dir) (components target)).1 ≠ [] := fun none =>
    h ((diverge_fst_eq_nil.mp none).imp fun _ eq => eq.symm)
  obtain ⟨first, up, eq⟩ := List.exists_cons_of_ne_nil goesUp
  simp only [way, eq, List.map_cons, List.cons_append]
  exact ⟨_, rfl⟩

/-! ## The way as it is written -/

theorem splitByte_way (dir : Text) (inTarget : isAbsolute target) :
    splitByte slash (ofComponents false (way dir target))
      = if way dir target = [] then [utf8 "."] else way dir target := by
  have whole := whole_of_mem_way dir inTarget
  simp only [ofComponents, Bool.false_eq_true, if_false, List.isEmpty_iff]
  split
  · rfl
  next some => rw [Text.splitByte_join some whole]

/-- Within a folder a path is written with plain components, or as a dot. -/
theorem parts_of_within (inTarget : isAbsolute target) (h : Within dir target) {part : Text}
    (mem : part ∈ splitByte slash (ofComponents false (way dir target))) :
    part = "." ∨ Plain part := by
  rw [splitByte_way dir inTarget] at mem
  split at mem
  · exact .inl (List.mem_singleton.mp mem)
  · exact .inr (plain_of_mem_components inTarget
      (way_of_within h ▸ List.mem_append_right _ mem))

theorem up_notMem_of_within (inTarget : isAbsolute target) (h : Within dir target) :
    utf8 ".." ∉ splitByte slash (ofComponents false (way dir target)) := by
  intro mem
  rcases parts_of_within inTarget h mem with same | plain
  · exact absurd same (by decide)
  · exact plain.up rfl

theorem isAbsolute_of_within (inTarget : isAbsolute target) (h : Within dir target) :
    ¬ isAbsolute (ofComponents false (way dir target)) := by
  intro own
  obtain ⟨rest, eq⟩ := List.head?_eq_some_iff.mp (beq_iff_eq.mp own)
  have mem : [] ∈ splitByte slash (ofComponents false (way dir target)) := by
    rw [eq, splitByte_rooted]
    exact List.mem_cons_self
  rcases parts_of_within inTarget h mem with same | plain
  · exact absurd same (by decide)
  · exact plain.some rfl

/-- The test for a step up is not misled by a component that only begins with two dots. -/
theorem climbs_way_iff (dir : Text) (inTarget : isAbsolute target) :
    (ofComponents false (way dir target) == ".." ||
        (ofComponents false (way dir target)).startsWith "../") = true
      ↔ ¬ Within dir target := by
  have mark : utf8 "../" = utf8 ".." ++ [slash] := rfl
  rw [Bool.or_eq_true, beq_iff_eq, Text.startsWith, List.isPrefixOf_iff_prefix, mark,
    ← Specifier.head?_splitByte_iff (by decide)]
  constructor
  · exact fun first h => up_notMem_of_within inTarget h (List.mem_of_mem_head? first)
  · intro h
    obtain ⟨rest, eq⟩ := way_of_not_within h
    rw [splitByte_way dir inTarget, eq, if_neg (List.cons_ne_nil _ _), List.head?_cons]

/-! ## What is shown -/

theorem relativeTo_of_within (rooted : isAbsolute cwd) {path base : Text}
    (h : Within (absolute cwd base) (absolute cwd path)) :
    relativeTo cwd path base
      = ofComponents false (way (absolute cwd base) (absolute cwd path)) := by
  have inBase := isAbsolute_absolute rooted base
  have inPath := isAbsolute_absolute rooted path
  simp only [relativeTo, relative?_eq inBase inPath]
  exact if_neg fun climbs => (climbs_way_iff _ inPath).mp climbs h

theorem relativeTo_of_not_within (rooted : isAbsolute cwd) {path base : Text}
    (h : ¬ Within (absolute cwd base) (absolute cwd path)) :
    relativeTo cwd path base = absolute cwd path := by
  have inBase := isAbsolute_absolute rooted base
  have inPath := isAbsolute_absolute rooted path
  simp only [relativeTo, relative?_eq inBase inPath]
  exact if_pos ((climbs_way_iff _ inPath).mpr h)

/-- What is shown for a path names the path: from the root if it is absolute, and otherwise from
the base, without a step up.  It is relative exactly for the base and what lies below it. -/
theorem relativeTo_within_iff (rooted : isAbsolute cwd) (path base : Text) :
    (isAbsolute (relativeTo cwd path base) → relativeTo cwd path base = absolute cwd path) ∧
      (¬ isAbsolute (relativeTo cwd path base) →
        clean (append (absolute cwd base) (relativeTo cwd path base)) = absolute cwd path ∧
        utf8 ".." ∉ splitByte slash (relativeTo cwd path base)) ∧
      (¬ isAbsolute (relativeTo cwd path base) ↔
        Within (absolute cwd base) (absolute cwd path)) := by
  have inBase := isAbsolute_absolute rooted base
  have inPath := isAbsolute_absolute rooted path
  by_cases h : Within (absolute cwd base) (absolute cwd path)
  · have shown := isAbsolute_of_within inPath h
    rw [relativeTo_of_within rooted h]
    refine ⟨fun own => absurd own shown, fun _ => ⟨?_, up_notMem_of_within inPath h⟩,
      iff_of_true shown h⟩
    rw [(clean_append_way inBase inPath).1, clean_absolute rooted]
  · rw [relativeTo_of_not_within rooted h]
    exact ⟨fun _ => rfl, fun other => absurd inPath other, iff_of_false (not_not_intro inPath) h⟩

/-- A name that only looks like a step up is shown, and a neighbour of the base is not. -/
theorem relativeTo_within_iff_dots :
    isAbsolute "/repo" ∧ relativeTo "/repo" "src/..x" "src" = "..x" ∧
      clean (append (absolute "/repo" "src") "..x") = absolute "/repo" "src/..x" ∧
      Within (absolute "/repo" "src") (absolute "/repo" "src/..x") ∧
      relativeTo "/repo" "srcs/x" "src" = "/repo/srcs/x" ∧
      ¬ Within (absolute "/repo" "src") (absolute "/repo" "srcs/x") := by
  have rooted : isAbsolute "/repo" := by decide
  have inside : relativeTo "/repo" "src/..x" "src" = "..x" := by rfl
  have outside : relativeTo "/repo" "srcs/x" "src" = "/repo/srcs/x" := by rfl
  obtain ⟨-, names, below⟩ := relativeTo_within_iff rooted "src/..x" "src"
  obtain ⟨-, -, beside⟩ := relativeTo_within_iff rooted "srcs/x" "src"
  rw [inside] at names below
  rw [outside] at beside
  have shown : ¬ isAbsolute "..x" := by decide
  have whole : isAbsolute "/repo/srcs/x" := by decide
  exact ⟨rooted, inside, (names shown).1, below.mp shown, outside,
    fun within => beside.mpr within whole⟩

end TreeLint.Path
