import TreeLint.Proofs.Rewriting.Basic
import TreeLint.Proofs.Script.Token
import TreeLint.Proofs.Text.Part

/-! # Pieces of a script

A script that can be cut into tokens is the pieces that the cutting takes off it, one after the
other, blanks and comments among them.  A list of pieces is what its text is cut into if each of
them is what a step takes off the text from there on (`Piece.Fits`), and that hangs on little of
what follows: on nothing at all for most pieces (`Fits.closed`), on the next byte for nearly
all the others (`Fits.of_head`).  So where pieces are put in or taken out, the pieces before and
after them stay what they are.
-/

namespace TreeLint.Script

open Text (byte isDigit startsWith afterHead? afterHead?_eq_some cut? cut?_append)

/-- A part of a text that one step of the cutting takes off. -/
structure Piece where
  lexeme : Lexeme
  text : Text
  deriving DecidableEq, Repr

/-- The text of pieces. -/
def Piece.joined (ps : List Piece) : Text := ps.flatMap Piece.text

namespace Piece

@[simp] theorem joined_nil : joined [] = [] := rfl

@[simp] theorem joined_cons (p : Piece) (ps : List Piece) : joined (p :: ps) = p.text ++ joined ps :=
  rfl

@[simp] theorem joined_append (ps qs : List Piece) : joined (ps ++ qs) = joined ps ++ joined qs :=
  List.flatMap_append

/-- A piece is what a step takes off a text that goes on so after it. -/
def Fits (p : Piece) (after : Text) : Prop :=
  ∃ b front, p.text = b :: front ∧ next b (front ++ after) = .ok (p.lexeme, p.text.length)

/-- Each piece fits the text after it. -/
inductive Cut : List Piece → Prop
  | nil : Cut []
  | cons {p : Piece} {ps : List Piece} (fits : p.Fits (joined ps)) (rest : Cut ps) : Cut (p :: ps)

/-! ## Reading on -/

section Prefix

variable {s after after' : Text}

/-- How far a scan goes hangs on what it finds where it stops. -/
theorem length_takeWhile_append {P : UInt8 → Bool} :
    ((s ++ after).takeWhile P).length = s.length ↔
      (∀ b ∈ s, P b) ∧ ∀ b ∈ after.head?, P b = false := by
  induction s with
  | nil =>
    cases after with
    | nil => simp
    | cons c after => by_cases found : P c <;> simp [found]
  | cons b s ih => by_cases found : P b <;> simp [found, ih]

/-- A string is told by its own bytes. -/
theorem stringLength_append {quote : UInt8} {t : Text} {n : Nat} (h : stringLength quote t = .ok n)
    (begins : t = s ++ after) (length : s.length = n) :
    stringLength quote (s ++ after') = .ok n := by
  fun_induction stringLength quote t generalizing s n with
  | case1 | case2 | case4 => contradiction
  | case3 b escape c rest ih =>
    obtain ⟨m, inner, rfl⟩ := exists_of_map_eq_ok h
    obtain ⟨b', s', rfl⟩ := List.exists_cons_of_length_eq_add_one length
    obtain ⟨c', s, rfl⟩ := List.exists_cons_of_length_eq_add_one (Nat.succ.inj length)
    cases begins
    simp [stringLength, escape, ih inner rfl (by simpa using length), Except.map]
  | case5 b rest escape line quoted =>
    cases h
    obtain ⟨b', rfl⟩ := List.length_eq_one_iff.mp length
    cases begins
    rw [List.cons_append, stringLength.eq_def]
    simp [escape, line, quoted]
  | case6 b rest escape line quoted ih =>
    obtain ⟨m, inner, rfl⟩ := exists_of_map_eq_ok h
    obtain ⟨b', s, rfl⟩ := List.exists_cons_of_length_eq_add_one length
    cases begins
    rw [List.cons_append, stringLength.eq_def]
    simp [escape, line, quoted, ih inner rfl (by simpa using length), Except.map]

theorem templateLength_append {t : Text} {n : Nat} (h : templateLength t = .ok n)
    (begins : t = s ++ after) (length : s.length = n) :
    templateLength (s ++ after') = .ok n := by
  fun_induction templateLength t generalizing s n with
  | case1 | case2 => contradiction
  | case3 b escape c rest ih =>
    obtain ⟨m, inner, rfl⟩ := exists_of_map_eq_ok h
    obtain ⟨b', s', rfl⟩ := List.exists_cons_of_length_eq_add_one length
    obtain ⟨c', s, rfl⟩ := List.exists_cons_of_length_eq_add_one (Nat.succ.inj length)
    cases begins
    simp [templateLength, escape, ih inner rfl (by simpa using length), Except.map]
  | case4 b rest escape quoted =>
    cases h
    obtain ⟨b', rfl⟩ := List.length_eq_one_iff.mp length
    cases begins
    rw [List.cons_append, templateLength.eq_def]
    simp [escape, quoted]
  | case5 b rest escape quoted ih =>
    obtain ⟨m, inner, rfl⟩ := exists_of_map_eq_ok h
    obtain ⟨b', s, rfl⟩ := List.exists_cons_of_length_eq_add_one length
    cases begins
    rw [List.cons_append, templateLength.eq_def]
    simp [escape, quoted, ih inner rfl (by simpa using length), Except.map]

end Prefix

/-! ## What a piece asks of the text after it -/

/-- What makes a longer punctuator of a text. -/
def extensions (t : Text) : List Text :=
  (punctuators.filterMap (afterHead? t)).filter (!·.isEmpty)

theorem mem_extensions {t more : Text} :
    more ∈ extensions t ↔ more ≠ [] ∧ t ++ more ∈ punctuators := by
  simp only [extensions, List.mem_filter, List.mem_filterMap, afterHead?_eq_some,
    Bool.not_eq_true', List.isEmpty_eq_false_iff]
  constructor
  · rintro ⟨⟨q, mem, rfl⟩, some⟩
    exact ⟨some, mem⟩
  · rintro ⟨some, mem⟩
    exact ⟨⟨_, mem, rfl⟩, some⟩

/-- A punctuator that another one begins with stands behind it. -/
theorem punctuators_sorted : punctuators.Pairwise fun p q => ¬ p <+: q := by
  decide +kernel

theorem find?_punctuators {t after : Text} :
    punctuators.find? (startsWith (t ++ after)) = some t ↔
      t ∈ punctuators ∧ ∀ more ∈ extensions t, ¬ more <+: after := by
  simp only [List.find?_eq_some_iff_append, startsWith, List.isPrefixOf_iff_prefix,
    List.prefix_append, true_and, Bool.not_eq_eq_eq_not, Bool.not_true, Bool.eq_false_iff, ne_eq]
  constructor
  · rintro ⟨before, later, split, missed⟩
    have sorted := punctuators_sorted
    rw [split] at sorted
    refine ⟨by simp [split], fun more mem begins => ?_⟩
    obtain ⟨some, mem⟩ := mem_extensions.mp mem
    have found : t ++ more <+: t ++ after := List.prefix_append_right_inj t |>.mpr begins
    rw [split, List.mem_append, List.mem_cons] at mem
    obtain mem | mem | mem := mem
    · exact missed _ mem found
    · exact some (by simpa using mem)
    · exact (List.pairwise_cons.mp (List.pairwise_append.mp sorted).2.1).1 _ mem
        (List.prefix_append _ _)
  · rintro ⟨mem, missed⟩
    obtain ⟨before, later, split⟩ := List.append_of_mem mem
    refine ⟨before, later, split, fun q early begins => ?_⟩
    have known : q ∈ punctuators := by simp [split, early]
    have sorted := punctuators_sorted
    rw [split] at sorted
    have apart : ¬ q <+: t := (List.pairwise_append.mp sorted).2.2 q early t List.mem_cons_self
    obtain begins' | ⟨more, rfl⟩ := List.prefix_or_prefix_of_prefix begins (List.prefix_append t after)
    · exact apart begins'
    · refine missed more (mem_extensions.mpr ⟨?_, known⟩)
        ((List.prefix_append_right_inj t).mp begins)
      rintro rfl
      exact apart (by simp)

/-- What a step takes off a text, and what must not follow for it to end there. -/
inductive Takes (after : Text) : Piece → Prop
  | blank {b : UInt8} (start : isBlank b) : Takes after ⟨.blank, [b]⟩
  | line {s : Text} (inside : ∀ c ∈ s, c ≠ 10) (ends : ∀ c ∈ after.head?, c = 10) :
    Takes after ⟨.comment, byte '/' :: byte '/' :: s⟩
  | block {s : Text} (inside : cut? "*/" (s ++ utf8 "*/") = some (s, [])) :
    Takes after ⟨.comment, byte '/' :: byte '*' :: (s ++ utf8 "*/")⟩
  | word {b : UInt8} {s : Text} (start : isWordStart b) (inside : ∀ c ∈ s, isWordPart c)
    (ends : ∀ c ∈ after.head?, isWordPart c = false) : Takes after ⟨.token .word, b :: s⟩
  | number {b : UInt8} {s : Text} (start : isDigit b ∨ b = byte '.' ∧ s.head?.any isDigit)
    (inside : ∀ c ∈ s, isWordPart c || c == byte '.')
    (ends : ∀ c ∈ after.head?, (isWordPart c || c == byte '.') = false) :
    Takes after ⟨.token .number, b :: s⟩
  | string {b : UInt8} {s : Text} (start : b = byte '\'' ∨ b = byte '"')
    (inside : stringLength b s = .ok s.length) : Takes after ⟨.token .string, b :: s⟩
  | template {s : Text} (inside : templateLength s = .ok s.length) :
    Takes after ⟨.token .template, 96 :: s⟩
  | punctuator {t : Text} (mem : t ∈ punctuators)
    (longer : ∀ more ∈ extensions t, ¬ more <+: after)
    (point : t = utf8 "." → ∀ c ∈ after.head?, isDigit c = false)
    (slash : t = utf8 "/" → ∀ c ∈ after.head?, c ≠ byte '/' ∧ c ≠ byte '*') :
    Takes after ⟨.token .punctuator, t⟩

/-- A punctuator begins with a byte that nothing else begins with, but for the point and the
slash. -/
theorem head_of_mem_punctuators : ∀ t ∈ punctuators, t ≠ [] ∧ ∀ b ∈ t.head?, isBlank b = false ∧
    isWordStart b = false ∧ isDigit b = false ∧ (b == byte '\'' || b == byte '"') = false ∧
    (b == 96) = false ∧ (b = byte '.' → t.tail = [] ∨ t.tail.head?.any isDigit = false) ∧
    (b = byte '/' → t.tail = [] ∨ t.tail = utf8 "=") := by
  decide +kernel

theorem ordinary_of_isWordStart {b : UInt8} (h : isWordStart b) :
    isBlank b = false ∧ b ≠ byte '/' := by
  simp only [isWordStart, isBlank, Text.isLetter, byte] at *
  grind

theorem ordinary_of_isDigit {b : UInt8} (h : isDigit b) :
    isBlank b = false ∧ b ≠ byte '/' ∧ isWordStart b = false := by
  simp only [isDigit, isWordStart, isBlank, Text.isLetter, byte] at *
  grind

theorem next_of_not_comment {b : UInt8} {rest : Text} (start : isBlank b = false)
    (ordinary : b = byte '/' → ∀ c ∈ rest.head?, c ≠ byte '/' ∧ c ≠ byte '*') :
    next b rest = nextToken b rest := by
  rw [next.eq_def, start]
  simp only [Bool.false_eq_true, if_false]
  cases rest with
  | nil => rfl
  | cons c rest =>
    by_cases slash : b = byte '/'
    · obtain ⟨line, block⟩ := ordinary slash c rfl
      simp [slash, comment?, line, block]
    · simp [slash]

theorem Takes.fits {p : Piece} {after : Text} (h : Takes after p) : p.Fits after := by
  cases h with
  | blank start =>
    refine ⟨_, [], rfl, ?_⟩
    rw [next.eq_def, if_pos start]
    rfl
  | @line s inside ends =>
    refine ⟨_, _, rfl, ?_⟩
    have taken : ((s ++ after).takeWhile (· != 10)).length = s.length :=
      length_takeWhile_append.mpr ⟨fun c mem => by simpa using inside c mem,
        fun c mem => by simpa using ends c mem⟩
    rw [next.eq_def, if_neg (by decide)]
    simp [comment?, taken]
    omega
  | @block s inside =>
    refine ⟨_, _, rfl, ?_⟩
    obtain ⟨-, more⟩ := cut?_append inside
    have other : (byte '*' == byte '/') = false := by decide
    rw [next.eq_def, if_neg (by decide), List.cons_append]
    simp only [comment?, other, more, beq_self_eq_true, if_true, Bool.false_eq_true, if_false,
      Option.getD_some, List.length_cons, List.length_append]
    rfl
  | @word b s start inside ends =>
    refine ⟨_, _, rfl, ?_⟩
    obtain ⟨blank, slash⟩ := ordinary_of_isWordStart start
    have taken := length_takeWhile_append.mpr ⟨inside, ends⟩
    rw [next_of_not_comment blank fun same => absurd same slash, nextToken, if_pos start, taken,
      Nat.add_comm]
    rfl
  | @number b s start inside ends =>
    refine ⟨_, _, rfl, ?_⟩
    have taken := length_takeWhile_append.mpr ⟨inside, ends⟩
    have ordinary : isBlank b = false ∧ b ≠ byte '/' ∧ isWordStart b = false := by
      obtain digit | ⟨rfl, -⟩ := start
      · exact ordinary_of_isDigit digit
      · decide
    have begins : (isDigit b || (b == byte '.' && (s ++ after).head?.any isDigit)) = true := by
      obtain digit | ⟨rfl, digit⟩ := start
      · simp [digit]
      · cases s with
        | nil => exact absurd digit Bool.false_ne_true
        | cons c s => simpa using .inr digit
    rw [next_of_not_comment ordinary.1 fun same => absurd same ordinary.2.1, nextToken,
      if_neg (by simp [ordinary]), if_pos begins, taken, Nat.add_comm]
    rfl
  | @string b s start inside =>
    refine ⟨_, _, rfl, ?_⟩
    have more : stringLength b (s ++ after) = .ok s.length :=
      stringLength_append inside (List.append_nil s).symm rfl
    obtain rfl | rfl := start
    all_goals
      rw [next_of_not_comment (by decide) (fun same => absurd same (by decide)), nextToken, more,
        Except.map, if_neg (by decide), if_neg (by simp [isDigit, byte]), if_pos (by decide),
        Nat.add_comm]
      rfl
  | @template s inside =>
    refine ⟨_, _, rfl, ?_⟩
    have more : templateLength (s ++ after) = .ok s.length :=
      templateLength_append inside (List.append_nil s).symm rfl
    rw [next_of_not_comment (by decide) (fun same => absurd same (by decide)), nextToken, more,
      Except.map, if_neg (by decide), if_neg (by simp [isDigit, byte]), if_neg (by decide),
      if_pos (by decide), Nat.add_comm]
    rfl
  | @punctuator t mem longer point slash =>
    obtain ⟨some, ordinary⟩ := head_of_mem_punctuators t mem
    obtain ⟨b, s, rfl⟩ := List.exists_cons_of_ne_nil some
    obtain ⟨blank, word, digit, quote, tick, dotted, slashed⟩ := ordinary b rfl
    refine ⟨_, _, rfl, ?_⟩
    have found := find?_punctuators.mpr ⟨mem, longer⟩
    have begins : (isDigit b || (b == byte '.' && (s ++ after).head?.any isDigit)) = false := by
      by_cases same : b = byte '.'
      · subst same
        cases s with
        | nil =>
          have missed := point rfl
          cases after <;> simp_all
        | cons c s => simpa [digit] using dotted rfl
      · simp [digit, same]
    have comment : b = byte '/' → ∀ c ∈ (s ++ after).head?, c ≠ byte '/' ∧ c ≠ byte '*' := by
      rintro rfl c mem
      obtain nil | rfl := slashed rfl
      · obtain rfl : s = [] := nil
        exact slash rfl c mem
      · cases mem
        decide
    rw [next_of_not_comment blank comment, nextToken, if_neg (by simp [word]),
      if_neg (begins ▸ Bool.false_ne_true), if_neg (by simp [quote]), if_neg (by simp [tick]),
      ← List.cons_append, found]

theorem takes_of_nextToken {b : UInt8} {s after : Text} {lexeme : Lexeme}
    (comment : b = byte '/' → ∀ c ∈ (s ++ after).head?, c ≠ byte '/' ∧ c ≠ byte '*')
    (h : nextToken b (s ++ after) = .ok (lexeme, (b :: s).length)) : Takes after ⟨lexeme, b :: s⟩ := by
  rw [nextToken, List.length_cons] at h
  split at h
  next word =>
    simp only [Except.ok.injEq, Prod.mk.injEq] at h
    obtain ⟨rfl, length⟩ := h
    have taken : ((s ++ after).takeWhile isWordPart).length = s.length := by omega
    obtain ⟨inside, ends⟩ := length_takeWhile_append.mp taken
    exact .word word inside ends
  split at h
  next begins =>
    simp only [Except.ok.injEq, Prod.mk.injEq] at h
    obtain ⟨rfl, length⟩ := h
    have taken : ((s ++ after).takeWhile fun c => isWordPart c || c == byte '.').length
        = s.length := by omega
    obtain ⟨inside, ends⟩ := length_takeWhile_append.mp taken
    refine .number ?_ inside ends
    simp only [Bool.or_eq_true, Bool.and_eq_true, beq_iff_eq] at begins
    obtain digit | ⟨rfl, digit⟩ := begins
    · exact .inl digit
    · cases s with
      | cons c s => exact .inr ⟨rfl, digit⟩
      | nil =>
        cases after with
        | nil => contradiction
        | cons c after =>
          have part : (isWordPart c || c == byte '.') = true := by
            simp [isWordPart, show isDigit c from digit]
          rw [ends c rfl] at part
          contradiction
  next begins =>
  split at h
  next quote =>
    obtain ⟨n, inner, eq⟩ := exists_of_map_eq_ok h
    simp only [Prod.mk.injEq] at eq
    obtain ⟨rfl, length⟩ := eq
    obtain rfl : n = s.length := by omega
    have own : stringLength b (s ++ []) = .ok s.length := stringLength_append inner rfl rfl
    rw [List.append_nil] at own
    exact .string (by simpa using quote) own
  split at h
  next tick =>
    obtain ⟨n, inner, eq⟩ := exists_of_map_eq_ok h
    simp only [Prod.mk.injEq] at eq
    obtain ⟨rfl, length⟩ := eq
    obtain rfl : n = s.length := by omega
    have own : templateLength (s ++ []) = .ok s.length := templateLength_append inner rfl rfl
    rw [List.append_nil] at own
    obtain rfl : b = 96 := by simpa using tick
    exact .template own
  split at h
  next t found =>
    simp only [Except.ok.injEq, Prod.mk.injEq] at h
    obtain ⟨rfl, length⟩ := h
    have begins' := List.find?_some found
    rw [startsWith, List.isPrefixOf_iff_prefix, ← List.cons_append] at begins'
    obtain rfl : t = b :: s := by
      obtain ⟨r, split⟩ := begins'
      exact (List.append_inj split length).1
    rw [← List.cons_append] at found
    obtain ⟨mem, longer⟩ := find?_punctuators.mp found
    refine .punctuator mem longer (fun point c first => ?_) fun slash c first => ?_
    · cases point
      cases after with
      | nil => contradiction
      | cons d after =>
        cases first
        have missed := Bool.eq_false_iff.mpr begins
        simp only [Bool.or_eq_false_iff, Bool.and_eq_false_iff] at missed
        exact missed.2.resolve_left (by decide)
    · cases slash
      exact comment rfl c first
  · contradiction

theorem Fits.takes {p : Piece} {after : Text} (h : p.Fits after) : Takes after p := by
  obtain ⟨lexeme, t⟩ := p
  obtain ⟨b, s, rfl, step⟩ := h
  by_cases blank : isBlank b
  · rw [next.eq_def, if_pos blank] at step
    simp only [Except.ok.injEq, Prod.mk.injEq, List.length_cons] at step
    obtain ⟨rfl, length⟩ := step
    obtain rfl : s = [] := List.length_eq_zero_iff.mp (by omega)
    exact .blank blank
  rw [Bool.not_eq_true] at blank
  by_cases comment : b = byte '/' → ∀ c ∈ (s ++ after).head?, c ≠ byte '/' ∧ c ≠ byte '*'
  · rw [next_of_not_comment blank comment] at step
    exact takes_of_nextToken comment step
  · simp only [Classical.not_imp, Classical.not_forall] at comment
    obtain ⟨rfl, c, head, mark⟩ := comment
    obtain ⟨r, split⟩ : ∃ r, s ++ after = c :: r := by
      cases rest : s ++ after with
      | nil => simp [rest] at head
      | cons d r =>
        rw [rest] at head
        cases head
        exact ⟨r, rfl⟩
    rw [next.eq_def, if_neg (by simp [blank]), split] at step
    simp only [beq_self_eq_true, if_true, comment?] at step
    split at step
    next line =>
      simp only [Option.getD_some, Except.ok.injEq, Prod.mk.injEq, List.length_cons] at step
      obtain ⟨rfl, length⟩ := step
      obtain rfl : c = byte '/' := by simpa using line
      cases s with
      | nil =>
        simp only [List.length_nil] at length
        omega
      | cons d s =>
        cases split
        simp only [List.length_cons] at length
        have taken : ((s ++ after).takeWhile (· != 10)).length = s.length := by
          simp only [List.append_eq] at length
          omega
        obtain ⟨inside, ends⟩ := length_takeWhile_append.mp taken
        exact .line (fun c mem => by simpa using inside c mem) fun c mem => by simpa using ends c mem
    next line =>
    split at step
    next block =>
      obtain rfl : c = byte '*' := by simpa using block
      split at step
      next body rest found =>
        simp only [Option.getD_some, Except.ok.injEq, Prod.mk.injEq, List.length_cons] at step
        obtain ⟨rfl, length⟩ := step
        obtain ⟨whole, again⟩ := cut?_append found
        cases s with
        | nil => simp at length
        | cons d s =>
          cases split
          have same : s = body ++ utf8 "*/" := by
            refine (List.append_inj whole ?_).1
            simp only [List.length_cons] at length
            have two : (utf8 "*/").length = 2 := by decide
            rw [List.length_append, two]
            omega
          subst same
          have own := again []
          rw [List.append_nil] at own
          exact .block own
      · contradiction
    next block => exact (mark ⟨by simpa using line, by simpa using block⟩).elim

theorem fits_iff {p : Piece} {after : Text} : p.Fits after ↔ Takes after p :=
  ⟨Fits.takes, Takes.fits⟩

theorem Fits.ne_nil {p : Piece} {after : Text} (h : p.Fits after) : p.text ≠ [] := by
  obtain ⟨b, s, text, -⟩ := h
  rw [text]
  exact List.cons_ne_nil b s

/-! ## Other text after a piece -/

theorem extensions_sorted : ∀ t ∈ punctuators, ∀ more ∈ extensions t,
    (∀ c ∈ more.head?, isWordStart c = false) ∧
      (more.length ≤ 1 ∨ more = utf8 ".." ∨ more.take 1 ∈ extensions t) := by
  decide +kernel

/-- Where the next byte is the same, a second point is all that could matter. -/
theorem Fits.of_head {p : Piece} {after after' : Text} (h : p.Fits after)
    (head : after'.head? = after.head?) (point : utf8 ".." <+: after' → utf8 ".." <+: after) :
    p.Fits after' := by
  rw [fits_iff] at *
  cases h with
  | blank start => exact .blank start
  | line inside ends => exact .line inside (head ▸ ends)
  | block inside => exact .block inside
  | word start inside ends => exact .word start inside (head ▸ ends)
  | number start inside ends => exact .number start inside (head ▸ ends)
  | string start inside => exact .string start inside
  | template inside => exact .template inside
  | punctuator mem longer digit slash =>
    refine .punctuator mem (fun more mem' begins => ?_) (head ▸ digit) (head ▸ slash)
    have single {c : UInt8} (first : c ∈ after'.head?) : [c] <+: after := by
      rw [head] at first
      cases after with
      | nil => contradiction
      | cons d after =>
        cases first
        exact List.prefix_append [c] after
    obtain ⟨some, -⟩ := mem_extensions.mp mem'
    obtain ⟨c, more, rfl⟩ := List.exists_cons_of_ne_nil some
    have first : c ∈ after'.head? := by
      obtain ⟨r, rfl⟩ := begins
      rfl
    obtain short | points | one := (extensions_sorted _ mem _ mem').2
    · obtain rfl : more = [] := List.length_eq_zero_iff.mp (by simpa using short)
      exact longer _ mem' (single first)
    · rw [points] at begins mem'
      exact longer _ mem' (point begins)
    · exact longer _ one (single first)

/-- Pieces that end where they do whatever follows. -/
def Closed (p : Piece) : Prop := ∀ after, p.Fits after

theorem closed_blank {b : UInt8} (h : isBlank b) : Closed ⟨.blank, [b]⟩ :=
  fun _ => fits_iff.mpr (.blank h)

/-- A word that nothing after it goes on with. -/
theorem fits_word {w after : Text} (start : w.head?.any isWordStart) (inside : w.all isWordPart)
    (ends : after.head?.any isWordPart = false) : Fits ⟨.token .word, w⟩ after := by
  obtain ⟨b, first, begins⟩ := (Option.any_eq_true _ _).mp start
  obtain ⟨s, rfl⟩ := List.head?_eq_some_iff.mp first
  refine fits_iff.mpr (.word begins (fun c mem => ?_) fun c next => ?_)
  · exact List.all_eq_true.mp inside c (List.mem_cons_of_mem _ mem)
  · rw [Option.mem_def.mp next] at ends
    exact ends

theorem closed_space : Closed ⟨.blank, " "⟩ := by
  have space : utf8 " " = [32] := by decide
  rw [space]
  exact closed_blank (by decide)

theorem closed_punctuator {t : Text} (mem : t ∈ punctuators) (alone : extensions t = []) :
    Closed ⟨.token .punctuator, t⟩ := by
  intro after
  have none : ∀ more, more ∉ extensions t := by simp [alone]
  refine fits_iff.mpr (.punctuator mem (fun more mem => (none more mem).elim) ?_ ?_)
  · rintro rfl
    exact (none (utf8 "..") (by decide +kernel)).elim
  · rintro rfl
    exact (none (utf8 "=") (by decide +kernel)).elim

/-- A token that is written like a punctuator is one. -/
theorem Fits.kind_of_punctuator {k : TokenKind} {t after : Text} (h : Fits ⟨.token k, t⟩ after)
    (mem : t ∈ punctuators) : k = .punctuator := by
  obtain ⟨-, first⟩ := head_of_mem_punctuators t mem
  cases h.takes with
  | punctuator => rfl
  | word start => simp [(first _ rfl).2.1] at start
  | template => exact absurd (first _ rfl).2.2.2.2.1 (by decide)
  | string start =>
    have quote := (first _ rfl).2.2.2.1
    simp only [Bool.or_eq_false_iff, beq_eq_false_iff_ne] at quote
    exact absurd start (not_or.mpr quote)
  | @number b s start =>
    obtain ⟨-, -, digit, -, -, point, -⟩ := first b rfl
    obtain start | ⟨here, next⟩ := start
    · simp [start] at digit
    · obtain none | none := point here
      · rw [List.tail_cons] at none
        simp [none] at next
      · rw [List.tail_cons] at none
        simp [none] at next

/-- Where nothing longer is a punctuator, such a token ends where it does whatever follows. -/
theorem Fits.closed_of_punctuator {k : TokenKind} {t after : Text} (h : Fits ⟨.token k, t⟩ after)
    (mem : t ∈ punctuators) (alone : extensions t = []) : Closed ⟨.token k, t⟩ := by
  rw [h.kind_of_punctuator mem]
  exact closed_punctuator mem alone

/-- Whatever follows a string or a template, it ends at its closing mark. -/
theorem Fits.closed {p : Piece} {after : Text} (h : p.Fits after)
    (kind : p.lexeme = .blank ∨ p.lexeme = .token .string ∨ p.lexeme = .token .template) :
    p.Closed := by
  intro after'
  rw [fits_iff] at *
  cases h with
  | blank start => exact .blank start
  | string start inside => exact .string start inside
  | template inside => exact .template inside
  | _ => simp at kind

/-! ## Cutting -/

/-- A step takes something off. -/
theorem next_pos {b : UInt8} {rest : Text} {lexeme : Lexeme} {n : Nat}
    (h : next b rest = .ok (lexeme, n)) : 0 < n := by
  have token {lexeme : Lexeme} {n : Nat} (h : nextToken b rest = .ok (lexeme, n)) : 0 < n := by
    simp only [nextToken] at h
    split at h
    · cases h
      omega
    split at h
    · cases h
      omega
    split at h
    · obtain ⟨m, -, eq⟩ := exists_of_map_eq_ok h
      cases eq
      omega
    split at h
    · obtain ⟨m, -, eq⟩ := exists_of_map_eq_ok h
      cases eq
      omega
    split at h
    next t found =>
      cases h
      exact List.length_pos_of_ne_nil
        (head_of_mem_punctuators t (List.mem_of_find?_eq_some found)).1
    · contradiction
  rw [next.eq_def] at h
  split at h
  · cases h
    exact Nat.one_pos
  cases rest with
  | nil => exact token h
  | cons c rest =>
    by_cases slash : (b == byte '/') = true
    · simp only [slash, if_true, comment?] at h
      split at h
      · cases h
        omega
      split at h
      · split at h
        · cases h
          omega
        · contradiction
      · exact token h
    · exact token (by simpa [slash] using h)

/-- What a step takes off fits what it leaves. -/
theorem fits_of_next {b : UInt8} {rest : Text} {lexeme : Lexeme} {n : Nat}
    (h : next b rest = .ok (lexeme, n)) :
    Fits ⟨lexeme, b :: rest.take (n - 1)⟩ (rest.drop (n - 1)) := by
  refine ⟨b, rest.take (n - 1), rfl, ?_⟩
  have some := next_pos h
  have le := (next_proper h).2
  have length : (b :: rest.take (n - 1)).length = n := by
    rw [List.length_cons, List.length_take]
    omega
  rw [List.take_append_drop, h, length]

theorem exists_cut {file : FileId} {offset : Nat} {t : Text} {found : Tokens}
    (h : tokensFrom file offset t = .ok found) : ∃ ps, joined ps = t ∧ Cut ps := by
  have step {b : UInt8} {rest : Text} {lexeme : Lexeme} {n : Nat} {ps : List Piece}
      (h : next b rest = .ok (lexeme, n)) (text : joined ps = rest.drop (n - 1)) (cut : Cut ps) :
      ∃ ps, joined ps = b :: rest ∧ Cut ps := by
    refine ⟨⟨lexeme, b :: rest.take (n - 1)⟩ :: ps, ?_, .cons (text ▸ fits_of_next h) cut⟩
    rw [joined_cons, text, List.cons_append, List.take_append_drop]
  fun_induction tokensFrom file offset t generalizing found with
  | case1 => exact ⟨[], rfl, .nil⟩
  | case2 | case3 => contradiction
  | case4 offset b rest length more cut taken ih =>
    obtain ⟨ps, text, fit⟩ := ih cut
    exact step taken text fit
  | case5 offset b rest length more cut span taken =>
    rename_i ih
    obtain ⟨ps, text, fit⟩ := ih cut
    exact step taken text fit
  | case6 offset b rest length more cut kind token taken =>
    rename_i ih
    obtain ⟨ps, text, fit⟩ := ih cut
    exact step taken text fit

/-- The tokens among pieces, and the line breaks between them, from an offset on. -/
def seenFrom : (offset : Nat) → (broken : Bool) → List Piece → List Seen
  | offset, broken, [] => [⟨.ofText .eof [] offset, broken⟩]
  | offset, broken, p :: ps =>
    match p.lexeme with
    | .token kind =>
      ⟨.ofText kind p.text offset, broken⟩ :: seenFrom (offset + p.text.length) false ps
    | _ => seenFrom (offset + p.text.length) (broken || p.text.contains 10) ps

/-- Pieces that each fit the text after them are what the text is cut into. -/
theorem Cut.tokensFrom {ps : List Piece} (h : Cut ps) (file : FileId) (offset : Nat)
    (broken : Bool) : ∃ found, Script.tokensFrom file offset (joined ps) = .ok found ∧
      found.tokens = (seenFrom offset broken ps).map Seen.token := by
  induction h generalizing offset broken with
  | nil =>
    refine ⟨_, by rw [joined_nil, Script.tokensFrom], ?_⟩
    rfl
  | @cons p ps fits rest ih =>
    obtain ⟨b, s, text, step⟩ := fits
    have one : 1 + (p.text.length - 1) = p.text.length := by
      rw [text, List.length_cons]
      omega
    have take : (s ++ joined ps).take (p.text.length - 1) = s := by simp [text]
    have drop : (s ++ joined ps).drop (p.text.length - 1) = joined ps := by simp [text]
    rw [joined_cons, text, List.cons_append, Script.tokensFrom]
    simp only [step, Nat.add_assoc, one, drop, take]
    cases kind : p.lexeme with
    | blank =>
      obtain ⟨found, cut, tokens⟩ := ih (offset + p.text.length) (broken || p.text.contains 10)
      exact ⟨found, by simp [cut], by simp [seenFrom, kind, tokens]⟩
    | comment =>
      obtain ⟨found, cut, tokens⟩ := ih (offset + p.text.length) (broken || p.text.contains 10)
      simp only [cut]
      exact ⟨_, rfl, by simp [seenFrom, kind, tokens]⟩
    | token k =>
      obtain ⟨found, cut, tokens⟩ := ih (offset + p.text.length) false
      simp only [cut]
      exact ⟨_, rfl, by simp [seenFrom, kind, tokens, text]⟩

theorem slice_append {front t rest : Text} {start : Nat} (le : start ≤ front.length) :
    (front ++ t ++ rest).slice start (front ++ t).length
      = (front ++ t ++ rest).slice start front.length ++ t := by
  have far : (front ++ t).length - start = front.length - start + t.length := by
    rw [List.length_append]
    omega
  have near : start + (front.length - start) = front.length := by omega
  rw [Text.slice, far, List.take_add, List.drop_drop, near]
  simp [Text.slice]

/-- The line breaks between tokens are those in the blanks and comments between them. -/
theorem seen_eq_seenFrom {source front : Text} {ps : List Piece} (split : source = front ++ joined ps)
    (short : source.length < UInt32.size) {before : UInt32} (behind : before.toNat ≤ front.length)
    {broken : Bool} (breaks : (source.slice before.toNat front.length).contains 10 = broken) :
    seen source before ((seenFrom front.length broken ps).map Seen.token)
      = seenFrom front.length broken ps := by
  have here : front.length < UInt32.size := by
    rw [split, List.length_append] at short
    omega
  have start : front.length.toUInt32.toNat = front.length := toNat_offset here
  induction ps generalizing front before broken with
  | nil =>
    simp only [seenFrom, List.map_cons, List.map_nil, seen, Token.ofText, start, breaks]
  | cons p ps ih =>
    have split' : source = front ++ p.text ++ joined ps := by rw [split, joined_cons, List.append_assoc]
    have here' : (front ++ p.text).length < UInt32.size := by
      rw [split', List.length_append] at short
      omega
    have length : front.length + p.text.length = (front ++ p.text).length := List.length_append.symm
    have further : (source.slice before.toNat (front ++ p.text).length).contains 10
        = (broken || p.text.contains 10) := by
      rw [split', slice_append behind, ← split', ← breaks]
      simp
    have behind' : before.toNat ≤ (front ++ p.text).length := by omega
    have next := ih split' behind' further here' (toNat_offset here')
    cases kind : p.lexeme with
    | blank => simpa only [seenFrom, kind, length] using next
    | comment => simpa only [seenFrom, kind, length] using next
    | token k =>
      simp only [seenFrom, kind, List.map_cons, seen, length]
      have stop : (Token.ofText k p.text front.length).stop.toNat = (front ++ p.text).length := by
        simp only [Token.ofText, length]
        exact toNat_offset here'
      refine congrArg₂ List.cons ?_ (ih split' (Nat.le_of_eq stop) ?_ here' (toNat_offset here'))
      · simp only [Token.ofText, start, breaks]
      · rw [stop]
        simp [Text.slice]

/-- A token among pieces is one of them. -/
theorem Cut.exists_of_mem {ps : List Piece} (cut : Cut ps) {offset : Nat} {broken : Bool} {s : Seen}
    (mem : s ∈ seenFrom offset broken ps) (live : s.token.kind ≠ .eof) : ∃ before p after k,
      ps = before ++ p :: after ∧ p.Fits (joined after) ∧ p.lexeme = .token k ∧
        s.token = .ofText k p.text (offset + (joined before).length) := by
  induction cut generalizing offset broken with
  | nil =>
    obtain rfl := List.mem_singleton.mp mem
    exact absurd rfl live
  | @cons p ps fits cut ih =>
    have later {broken : Bool} (mem : s ∈ seenFrom (offset + p.text.length) broken ps) :
        ∃ before q after k, p :: ps = before ++ q :: after ∧ q.Fits (joined after) ∧
          q.lexeme = .token k ∧ s.token = .ofText k q.text (offset + (joined before).length) := by
      obtain ⟨before, q, after, k, rfl, fits, kind, token⟩ := ih mem
      exact ⟨p :: before, q, after, k, rfl, fits, kind, by
        rw [token, joined_cons, List.length_append, Nat.add_assoc]⟩
    cases kind : p.lexeme with
    | token k =>
      simp only [seenFrom, kind, List.mem_cons] at mem
      obtain rfl | mem := mem
      · exact ⟨[], p, ps, k, rfl, fits, kind, rfl⟩
      · exact later mem
    | blank | comment =>
      simp only [seenFrom, kind] at mem
      exact later mem

/-- A token of a script stands where it starts, and is what a step takes off there. -/
theorem exists_of_token {file : FileId} {source : Text} {found : Tokens} {t : Token}
    (cut : tokenize file source = .ok found) (mem : t ∈ found.tokens) (live : t.kind ≠ .eof) :
    ∃ front after, source = front ++ t.text ++ after ∧ Fits ⟨.token t.kind, t.text⟩ after ∧
      t.start = front.length.toUInt32 ∧ t.stop = (front ++ t.text).length.toUInt32 := by
  obtain ⟨ps, rfl, pieces⟩ := exists_cut cut
  obtain ⟨found', cut', tokens⟩ := pieces.tokensFrom file 0 false
  obtain rfl : found' = found := Except.ok.inj (cut'.symm.trans cut)
  rw [tokens, List.mem_map] at mem
  obtain ⟨s, inside, rfl⟩ := mem
  obtain ⟨before, p, after, k, rfl, fits, kind, token⟩ := pieces.exists_of_mem inside live
  obtain ⟨lexeme, text⟩ := p
  obtain rfl : lexeme = .token k := kind
  refine ⟨joined before, joined after, ?_, token ▸ fits, ?_, ?_⟩
  · rw [token, joined_append, joined_cons, List.append_assoc]
    rfl
  · rw [token, Nat.zero_add]
    rfl
  · rw [token, Nat.zero_add, List.length_append]
    rfl

end Piece
end TreeLint.Script
