import Mathlib
import TreeLint.Proofs.Script.Piece

/-! # Covering a source

A source that can be cut into tokens is its tokens, its comments and the blanks between them.
From any offset on, what is found there lies behind the offset, is in order and nowhere covers a
byte twice, and each byte that it does not cover is blank (`Tokens.Covers`).  A step of the cutting
puts one stretch in front of what is found behind it, so this holds of the whole source
(`tokenize_covers`).

Offsets are words of 32 bits, so this is said of sources whose length fits into one.
-/

namespace TreeLint.Script

/-- Whether a byte of a file lies between two offsets. -/
def Covered (start stop : UInt32) (i : Nat) : Prop := start.toNat ≤ i ∧ i < stop.toNat

/-- What is found in a source from an offset on. -/
structure Tokens.Covers (found : Tokens) (file : FileId) (source : Text) (offset : Nat) : Prop where
  /-- The end is marked once, by the last token and where the source ends. -/
  ending : ∃ before, found.tokens = before ++ [.ofText .eof [] source.length] ∧
    ∀ t ∈ before, t.kind ≠ .eof ∧ t.start < t.stop
  /-- A token lies in the source and has the text that stands there. -/
  reads : ∀ t ∈ found.tokens, offset ≤ t.start.toNat ∧ t.stop.toNat ≤ source.length ∧
    t.text = source.slice t.start.toNat t.stop.toNat
  /-- A comment lies in the source, and there is something to it. -/
  comments : ∀ c ∈ found.comments, c.file = file ∧ offset ≤ c.start.toNat ∧ c.start < c.stop ∧
    c.stop.toNat ≤ source.length
  tokensRise : found.tokens.Pairwise fun t u => t.start < u.start ∧ t.stop ≤ u.start
  commentsRise : found.comments.Pairwise fun c d => c.start < d.start ∧ c.stop ≤ d.start
  apart : ∀ t ∈ found.tokens, ∀ c ∈ found.comments, t.stop ≤ c.start ∨ c.stop ≤ t.start
  /-- Nothing but blanks is left out. -/
  blank : ∀ i b, offset ≤ i → source[i]? = some b →
    (∀ t ∈ found.tokens, ¬ Covered t.start t.stop i) →
    (∀ c ∈ found.comments, ¬ Covered c.start c.stop i) → isBlank b

namespace Tokens.Covers

variable {file : FileId} {source : Text} {offset n : Nat} {more : Tokens} {start stop : UInt32}

/-- At the end of a source nothing is left but the mark of the end. -/
theorem eof (short : source.length < UInt32.size) :
    Covers ⟨[.ofText .eof [] source.length], []⟩ file source source.length where
  ending := ⟨[], rfl, List.forall_mem_nil _⟩
  reads := by
    have here : source.length.toUInt32.toNat = source.length := toNat_offset short
    rw [List.forall_mem_singleton]
    simp only [Token.ofText, List.length_nil, Nat.add_zero, here]
    exact ⟨Nat.le_refl _, Nat.le_refl _, by simp [Text.slice]⟩
  comments := List.forall_mem_nil _
  tokensRise := List.pairwise_singleton _ _
  commentsRise := .nil
  apart _ _ := List.forall_mem_nil _
  blank i b ge here := by
    rw [List.getElem?_eq_none ge] at here
    contradiction

/-- A blank is left out. -/
theorem skip {b : UInt8} (h : more.Covers file source (offset + 1))
    (here : source[offset]? = some b) (blank : isBlank b) : more.Covers file source offset where
  ending := h.ending
  reads t mem := (h.reads t mem).imp_left Nat.le_of_succ_le
  comments c mem := (h.comments c mem).imp_right fun ⟨ge, rest⟩ => ⟨Nat.le_of_succ_le ge, rest⟩
  tokensRise := h.tokensRise
  commentsRise := h.commentsRise
  apart := h.apart
  blank i c ge there := by
    obtain rfl | lt := Nat.eq_or_lt_of_le ge
    · intro _ _
      obtain rfl := Option.some.inj (here.symm.trans there)
      exact blank
    · exact h.blank i c lt there

section Stretch

variable (h : more.Covers file source (offset + n)) (pos : 0 < n)
  (starts : start.toNat = offset) (stops : stop.toNat = offset + n)
include h pos starts stops

/-- What is found behind a stretch starts where the stretch stops, or later. -/
theorem behind : start < stop ∧
    (∀ t ∈ more.tokens, start < t.start ∧ stop ≤ t.start) ∧
    ∀ c ∈ more.comments, start < c.start ∧ stop ≤ c.start := by
  have later {place : UInt32} (ge : offset + n ≤ place.toNat) : start < place ∧ stop ≤ place := by
    rw [UInt32.lt_iff_toNat_lt, UInt32.le_iff_toNat_le]
    omega
  exact ⟨(later (Nat.le_of_eq stops.symm)).1, fun t mem => later (h.reads t mem).1,
    fun c mem => later (h.comments c mem).2.1⟩

omit pos in
/-- A byte that is neither in the stretch nor found behind it is blank. -/
theorem blank_of_not_covered {i : Nat} {b : UInt8} (ge : offset ≤ i) (here : source[i]? = some b)
    (apart : ¬ Covered start stop i)
    (tokens : ∀ t ∈ more.tokens, ¬ Covered t.start t.stop i)
    (comments : ∀ c ∈ more.comments, ¬ Covered c.start c.stop i) : isBlank b := by
  refine h.blank i b ?_ here tokens comments
  rw [Covered] at apart
  omega

/-- A comment is put in front of what is found behind it. -/
theorem comment (inside : offset + n ≤ source.length) :
    Covers { more with comments := ⟨file, start, stop⟩ :: more.comments } file source offset where
  ending := h.ending
  reads t mem := (h.reads t mem).imp_left (Nat.le_trans (Nat.le_add_right _ _))
  comments := by
    obtain ⟨proper, -, -⟩ := h.behind pos starts stops
    rw [List.forall_mem_cons]
    refine ⟨⟨rfl, Nat.le_of_eq starts.symm, proper, stops ▸ inside⟩, fun c mem => ?_⟩
    obtain ⟨own, ge, rest⟩ := h.comments c mem
    exact ⟨own, Nat.le_trans (Nat.le_add_right _ _) ge, rest⟩
  tokensRise := h.tokensRise
  commentsRise := List.pairwise_cons.mpr ⟨(h.behind pos starts stops).2.2, h.commentsRise⟩
  apart t mem := by
    rw [List.forall_mem_cons]
    exact ⟨.inr ((h.behind pos starts stops).2.1 t mem).2, h.apart t mem⟩
  blank i b ge here tokens comments := by
    rw [List.forall_mem_cons] at comments
    exact h.blank_of_not_covered starts stops ge here comments.1 tokens comments.2

/-- A token is put in front of what is found behind it. -/
theorem token (inside : offset + n ≤ source.length) {t : Token} (kind : t.kind ≠ .eof)
    (start_eq : t.start = start) (stop_eq : t.stop = stop)
    (text : t.text = source.slice offset (offset + n)) :
    Covers { more with tokens := t :: more.tokens } file source offset := by
  subst start_eq stop_eq
  obtain ⟨proper, tokensBehind, commentsBehind⟩ := h.behind pos starts stops
  constructor
  case ending =>
    obtain ⟨before, split, each⟩ := h.ending
    refine ⟨t :: before, by rw [split, List.cons_append], ?_⟩
    exact List.forall_mem_cons.mpr ⟨⟨kind, proper⟩, each⟩
  case reads =>
    refine List.forall_mem_cons.mpr
      ⟨⟨Nat.le_of_eq starts.symm, stops ▸ inside, ?_⟩, fun u mem => ?_⟩
    · rw [starts, stops, text]
    · exact (h.reads u mem).imp_left (Nat.le_trans (Nat.le_add_right _ _))
  case comments =>
    intro c mem
    obtain ⟨own, ge, rest⟩ := h.comments c mem
    exact ⟨own, Nat.le_trans (Nat.le_add_right _ _) ge, rest⟩
  case tokensRise => exact List.pairwise_cons.mpr ⟨tokensBehind, h.tokensRise⟩
  case commentsRise => exact h.commentsRise
  case apart =>
    exact List.forall_mem_cons.mpr ⟨fun c mem => .inl (commentsBehind c mem).2, h.apart⟩
  case blank =>
    intro i b ge here tokens comments
    rw [List.forall_mem_cons] at tokens
    exact h.blank_of_not_covered starts stops ge here tokens.1 tokens.2 comments

end Stretch

end Tokens.Covers

/-- A step that finds a blank takes one byte. -/
theorem next_blank {b : UInt8} {rest : Text} {n : Nat} (h : next b rest = .ok (.blank, n)) :
    isBlank b ∧ n = 1 := by
  have le := (next_proper h).2
  have pos := Piece.next_pos h
  have takes := (Piece.fits_of_next h).takes
  generalize front : b :: rest.take (n - 1) = taken at takes
  cases takes with
  | blank start =>
    obtain ⟨rfl, nil⟩ := List.cons.inj front
    refine ⟨start, ?_⟩
    have := congrArg List.length nil
    rw [List.length_take, List.length_nil] at this
    omega

/-- A step takes bytes off what is left of a source, and leaves what stands behind them. -/
theorem left_of_next {source rest : Text} {offset n : Nat} {b : UInt8} {lexeme : Lexeme}
    (left : source.drop offset = b :: rest) (h : next b rest = .ok (lexeme, n)) :
    0 < n ∧ offset + 1 + (n - 1) = offset + n ∧ offset + n ≤ source.length ∧
      source.drop (offset + n) = rest.drop (n - 1) ∧
      b :: rest.take (n - 1) = source.slice offset (offset + n) := by
  have pos := Piece.next_pos h
  have most := (next_proper h).2
  have length : source.length - offset = rest.length + 1 := by
    rw [← List.length_drop, left, List.length_cons]
  obtain ⟨m, rfl⟩ := Nat.exists_eq_add_of_lt pos
  refine ⟨pos, by omega, by omega, ?_, ?_⟩
  · rw [← List.drop_drop, left]
    simp
  · rw [Text.slice, left]
    simp

/-- From an offset of a source on, the tokens and comments that are found cover all but blanks. -/
theorem tokensFrom_covers {file : FileId} {source : Text} (short : source.length < UInt32.size)
    {offset : Nat} {t : Text} {found : Tokens} (le : offset ≤ source.length)
    (left : source.drop offset = t) (h : tokensFrom file offset t = .ok found) :
    found.Covers file source offset := by
  have place {n : Nat} (le : n ≤ source.length) : n.toUInt32.toNat = n :=
    toNat_offset (Nat.lt_of_le_of_lt le short)
  fun_induction tokensFrom file offset t generalizing found with
  | case1 offset =>
    have here : offset = source.length :=
      Nat.le_antisymm le (List.drop_eq_nil_iff.mp left)
    cases h
    subst here
    exact .eof short
  | case2 | case3 => contradiction
  | case4 offset b rest n more cut taken ih =>
    cases h
    obtain ⟨-, eq, inside, after, -⟩ := left_of_next left taken
    rw [eq] at ih cut
    obtain ⟨blank, rfl⟩ := next_blank taken
    refine (ih inside after cut).skip ?_ blank
    rw [← List.head?_drop, left, List.head?_cons]
  | case5 offset b rest n more cut span taken =>
    rename_i ih
    cases h
    obtain ⟨pos, eq, inside, after, -⟩ := left_of_next left taken
    rw [eq] at ih cut
    exact (ih inside after cut).comment pos (place le) (place inside) inside
  | case6 offset b rest n more cut kind token taken =>
    rename_i ih
    cases h
    obtain ⟨pos, eq, inside, after, text⟩ := left_of_next left taken
    rw [eq] at ih cut
    have length : (b :: rest.take (n - 1)).length = n := by
      rw [text, Text.length_slice (Nat.le_add_right _ _) inside]
      omega
    refine (ih inside after cut).token pos (place le) (place inside) inside ?_ rfl ?_ text
    · exact fun eof => (next_proper taken).1 (congrArg Lexeme.token eof)
    · show (offset + (b :: rest.take (n - 1)).length).toUInt32 = _
      rw [length]

/-- The tokens and comments of a source cover all of it but blanks: the last token marks its end,
each token has the text where it stands, and nothing is covered twice. -/
theorem tokenize_covers {file : FileId} {source : Text} {found : Tokens}
    (short : source.length < UInt32.size) (h : tokenize file source = .ok found) :
    found.Covers file source 0 :=
  tokensFrom_covers short (Nat.zero_le _) rfl h

theorem tokenize_covers_escape :
    let source : Text := "f /**/'\\''//"
    let found : Tokens := {
      tokens := [⟨.word, "f", [], 0, 1⟩, ⟨.string, "'\\''", "'", 6, 10⟩, ⟨.eof, [], [], 12, 12⟩]
      comments := [⟨0, 2, 6⟩, ⟨0, 10, 12⟩] }
    source.length < UInt32.size ∧ tokenize 0 source = .ok found ∧ found.Covers 0 source 0 := by
  intro source found
  have short : source.length < UInt32.size := by decide
  have cut : tokenize 0 source = .ok found := by cbv
  exact ⟨short, cut, tokenize_covers short cut⟩

end TreeLint.Script
