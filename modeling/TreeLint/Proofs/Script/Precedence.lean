import Mathlib.Data.List.TakeWhile
import TreeLint.Proofs.Script.Returned
import TreeLint.Proofs.Script.Program

/-! # Operators by level

A sequence of names with binary operators between them is read by climbing: a loop takes one
operator after the other as long as they bind more tightly than a level, and for the right side of
each it climbs on from the level of that operator.  What this builds is told without climbing.  The
sequence is split at the operator of the lowest level, the last one where there are several, and
so are the sides (`Splits`); there is one way to do this (`Splits.unique`).

The loop keeps up that the operators it has taken bind no less tightly than the next one
(`Parser.iterate_climbs`), so the next one is where the longer sequence has to be split.  By
induction on the depth of the grammar all operators are taken (`Parser.ofDepth_climbs`).
-/

namespace TreeLint.Script

open Rewriting.Tracks (bind_run eat_run mem_of_operatorLevel?)

/-! ## Names and operators -/

/-- Words that an expression may begin with and that are no names there. -/
def specialWords : List Text :=
  List.map utf8 ["true", "false", "null", "this", "super", "function", "async", "class", "new",
    "typeof", "void", "delete", "await"]

/-- A word that is nothing but a name. -/
structure Name where
  token : Token
  word : token.kind = .word
  plain : token.text ∉ specialWords

/-- A binary operator with an expression on either side. -/
structure Operator where
  token : Token
  level : Nat
  known : operatorLevel? token = some level
  plain : token.text ≠ "as" ∧ token.text ≠ "satisfies"

/-- Operators with the names that follow them, as tokens. -/
def linkTokens (links : List (Operator × Name)) : List Token :=
  links.flatMap fun link => [link.1.token, link.2.token]

/-- An expression of names and operators. -/
inductive Formula where
  | name (n : Name)
  | apply (op : Operator) (left right : Formula)

namespace Formula

/-- Where the first name starts. -/
def start : Formula → UInt32
  | name n => n.token.start
  | apply _ left _ => left.start

/-- Where the last name stops. -/
def stop : Formula → UInt32
  | name n => n.token.stop
  | apply _ _ right => right.stop

end Formula

/-- The type of the node of an operator. -/
def Operator.nodeType (op : Operator) : Text :=
  if ["&&", "||", "??"].any (utf8 · == op.token.text) then "LogicalExpression"
  else "BinaryExpression"

/-! ## Splitting -/

/-- A name and operators with names after it are split at the operator of the lowest level, the
last one where there are several, and so are both sides. -/
inductive Splits : Name → List (Operator × Name) → Formula → Prop
  | name (first : Name) : Splits first [] (.name first)
  | apply {first next : Name} {op : Operator} {before after : List (Operator × Name)}
    {left right : Formula} (lowest : ∀ link ∈ before, op.level ≤ link.1.level)
    (last : ∀ link ∈ after, op.level < link.1.level) (hl : Splits first before left)
    (hr : Splits next after right) :
    Splits first (before ++ (op, next) :: after) (.apply op left right)

namespace Splits

variable {first : Name} {links : List (Operator × Name)} {f f' : Formula}

theorem start_eq (h : Splits first links f) : f.start = first.token.start := by
  induction h with
  | name => rfl
  | apply _ _ _ _ ih => exact ih

/-- There is one place to split at. -/
theorem place_unique {op op' : Operator} {next next' : Name}
    {before before' after after' : List (Operator × Name)}
    (same : before ++ (op, next) :: after = before' ++ (op', next') :: after')
    (lowest : ∀ link ∈ before, op.level ≤ link.1.level)
    (lowest' : ∀ link ∈ before', op'.level ≤ link.1.level)
    (last : ∀ link ∈ after, op.level < link.1.level)
    (last' : ∀ link ∈ after', op'.level < link.1.level) :
    before = before' ∧ op = op' ∧ next = next' ∧ after = after' := by
  rcases List.append_eq_append_iff.mp same with ⟨more, rfl, rest⟩ | ⟨more, rfl, rest⟩
  · cases more with
    | nil =>
      cases rest
      exact ⟨(List.append_nil _).symm, rfl, rfl, rfl⟩
    | cons link more =>
      obtain ⟨rfl, rfl⟩ := List.cons.inj rest
      have le := lowest' (op, next) (by simp)
      have lt := last (op', next') (by simp)
      exact absurd (Nat.lt_of_lt_of_le lt le) (Nat.lt_irrefl _)
  · cases more with
    | nil =>
      cases rest
      exact ⟨List.append_nil _, rfl, rfl, rfl⟩
    | cons link more =>
      obtain ⟨rfl, rfl⟩ := List.cons.inj rest
      have le := lowest (op', next') (by simp)
      have lt := last' (op, next) (by simp)
      exact absurd (Nat.lt_of_lt_of_le lt le) (Nat.lt_irrefl _)

theorem unique (h : Splits first links f) (h' : Splits first links f') : f = f' := by
  induction h generalizing f' with
  | name =>
    generalize nothing : ([] : List (Operator × Name)) = links at h'
    cases h' with
    | name => rfl
    | apply => simp at nothing
  | @apply first next op before after left right lowest last hl hr ihl ihr =>
    generalize whole : before ++ (op, next) :: after = links at h'
    cases h' with
    | name => simp at whole
    | apply lowest' last' hl' hr' =>
      obtain ⟨rfl, rfl, rfl, rfl⟩ := place_unique whole lowest lowest' last last'
      rw [ihl hl', ihr hr']

end Splits

namespace Formula

/-- Adds the nodes of a formula to a tree, each after those below it. -/
def write (t : Tree) : Formula → Tree × NodeId
  | name n => t.addIdentifier ⟨t.file, n.token.start, n.token.stop⟩ n.token.text none false
  | apply op left right =>
    let (t, leftId) := left.write t
    let (t, rightId) := right.write t
    t.add ⟨t.file, left.start, right.stop⟩ (.other op.nodeType [some leftId, some rightId])

end Formula

/-! ## What may follow a name -/

/-- What a name or an expression is continued with, operators and assignments aside. -/
def marks : List Text :=
  List.map utf8 [".", "?.", "[", "(", "!", "++", "--", "?", ",", "=>"]

/-- A token that does not continue what stands before it, but for an operator. -/
structure Token.Closes (t : Token) : Prop where
  marks : ∀ text ∈ marks, t.spells text = false
  assignment : t.isAssignment = false

theorem Operator.closes (op : Operator) : op.token.Closes := by
  obtain ⟨-, mem⟩ := mem_of_operatorLevel? op.known
  have apart : ∀ a ∈ operatorLevel?.levels.flatMap fun x => x.2.map utf8,
      (∀ b ∈ Script.marks, a ≠ b) ∧ ["=", "+=", "-=", "*=", "/="].any (utf8 · == a) = false := by
    decide
  obtain ⟨marks, assignment⟩ := apart _ mem
  exact ⟨fun text mark => by simp [Token.spells, marks text mark],
    by simp [Token.isAssignment, assignment]⟩

theorem Operator.level_pos (op : Operator) : 0 < op.level := by
  have levels : ∀ x ∈ operatorLevel?.levels, 0 < x.1 := by decide
  have known := op.known
  unfold operatorLevel? at known
  split at known
  · contradiction
  · obtain ⟨⟨level, operators⟩, mem, found⟩ := List.exists_of_findSome?_eq_some known
    rw [Option.ite_none_right_eq_some] at found
    cases found.2
    exact levels _ mem

theorem Name.spells_special (n : Name) {text : Text} (special : text ∈ specialWords) :
    n.token.spells text = false := by
  have other : n.token.text ≠ text := fun same => n.plain (same ▸ special)
  simp [Token.spells, other]

/-! ## Reading a name -/

theorem Cursor.peek_eq_headD (c : Cursor) : c.peek = c.rest.headD c.eof := by
  rw [Cursor.peek, Cursor.peekAt]
  cases c.rest <;> rfl

namespace Parser

variable {α : Type} {g : Grammar} {c : Cursor} {text : Text}

theorem eat_other {p q : Parser α} (other : c.peek.spells text = false) :
    (eat text >>= fun b => if b = true then p else q) c = q c := by
  rw [eat_run, other]
  rfl

theorem identifier_run (word : c.peek.kind = .word) :
    identifier c = .ok ((c.tree.addIdentifier ⟨c.tree.file, c.peek.start, c.peek.stop⟩ c.peek.text
        none false).2,
      { c with
        rest := c.rest.tail
        previousEnd := c.peek.stop
        tree := (c.tree.addIdentifier ⟨c.tree.file, c.peek.start, c.peek.stop⟩ c.peek.text
          none false).1 }) := by
  have step : c.advance = { c with rest := c.rest.tail, previousEnd := c.peek.stop } := by
    rw [Cursor.advance, if_neg (by simp [word])]
  have read : Parser.word c = .ok (c.peek, c.advance) := by
    show (if c.peek.kind == .word then advance else _ : Parser Token) c = _
    rw [word]
    rfl
  rw [identifier, bind_run read, step]
  rfl

variable {n : Name} (here : c.peek = n.token)

include here

theorem primary_run : primary g c = identifier c := by
  have special (text : Text) (mem : text ∈ specialWords) : c.peek.spells text = false :=
    here ▸ n.spells_special mem
  have word : c.peek.kind = .word := here ▸ n.word
  rw [primary, bind_run peek_run]
  simp only [word, wordExpression, special "true" (by decide), special "false" (by decide),
    special "null" (by decide), special "function" (by decide), special "async" (by decide),
    special "class" (by decide), Bool.or_self, Bool.false_and, Bool.false_eq_true, if_false]
  rw [eat_other (special _ (by decide)), eat_other (special _ (by decide))]
  rfl

omit here in
/-- A chain ends where nothing continues it. -/
theorem link_run {start : UInt32} {expr : NodeId} (closes : c.peek.Closes) :
    link g start true expr c = .ok (none, c) := by
  have other (text : Text) (mem : text ∈ marks) : c.peek.spells text = false :=
    closes.marks text mem
  rw [link, eat_other (other _ (by decide)), eat_other (other _ (by decide)),
    eat_other (other _ (by decide)), sees_run, other _ (by decide)]
  show (if (c.peek.spells "!" && !c.newlineBefore) = true then _ else pure none : Parser _) c = _
  rw [other _ (by decide)]
  rfl

/-- A name is an operand if nothing continues it. -/
theorem unary_run {next : Token} (after : c.rest.tail.headD c.eof = next) (closes : next.Closes) :
    unary g c = .ok (((Formula.name n).write c.tree).2,
      { c with
        rest := c.rest.tail
        previousEnd := n.token.stop
        tree := ((Formula.name n).write c.tree).1 }) := by
  have word : c.peek.kind = .word := here ▸ n.word
  have special (text : Text) (mem : text ∈ specialWords) : c.peek.spells text = false :=
    here ▸ n.spells_special mem
  have noPrefix : unaryType? c.peek = none := by
    have other (text : Text) (mem : text ∈ specialWords) : c.peek.text ≠ text :=
      fun same => n.plain (here ▸ same ▸ mem)
    simp [unaryType?, word, Ne.symm (other "typeof" (by decide)),
      Ne.symm (other "void" (by decide)), Ne.symm (other "delete" (by decide))]
  have read := identifier_run word
  rw [here] at read
  generalize reached : ({ c with rest := _, previousEnd := _, tree := _ } : Cursor) = c' at read
  have peek : c'.peek = next := by
    subst reached
    rw [Cursor.peek_eq_headD]
    exact after
  have left : leftHandSide g c = .ok (((Formula.name n).write c.tree).2, c') := by
    rw [leftHandSide, bind_run here_run, sees_run, special _ (by decide)]
    show (primary g >>= fun first => chain g c.peek.start true first) c = _
    rw [bind_run ((primary_run here).trans read)]
    exact improve_of_none (link_run (peek ▸ closes))
  rw [unary, bind_run peek_run]
  simp only [noPrefix]
  show (if (c.peek.spells "await" && _ && _) = true then _ else updated g c.peek.start) c = _
  rw [special _ (by decide)]
  show (leftHandSide g >>= _) c = _
  rw [bind_run left]
  show (if ((c'.peek.spells "++" || c'.peek.spells "--") && !c'.newlineBefore) = true then _
    else pure _ : Parser NodeId) c' = _
  rw [peek, closes.marks "++" (by decide), closes.marks "--" (by decide), ← reached]
  rfl

end Parser

/-! ## Climbing -/

theorem Cursor.advance_live {source : Text} {eof token : Token} {rest : List Token} {stop : UInt32}
    {t : Tree} (live : token.kind ≠ .eof) :
    Cursor.advance ⟨source, eof, token :: rest, stop, t⟩ = ⟨source, eof, rest, token.stop, t⟩ :=
  if_neg live

/-- The operators that bind more tightly than a level, up to the first that does not. -/
def tighter (level : Nat) (links : List (Operator × Name)) : List (Operator × Name) :=
  links.takeWhile fun link => level < link.1.level

/-- What is left from the first operator on that binds no more tightly than a level. -/
def looser (level : Nat) (links : List (Operator × Name)) : List (Operator × Name) :=
  links.dropWhile fun link => level < link.1.level

/-- Going on at a looser level takes up what a tighter one has left. -/
theorem tighter_looser {level level' : Nat} (le : level ≤ level') (links : List (Operator × Name)) :
    tighter level links = tighter level' links ++ tighter level (looser level' links) ∧
      looser level links = looser level (looser level' links) := by
  induction links with
  | nil => exact ⟨rfl, rfl⟩
  | cons link links ih =>
    unfold tighter looser at ih ⊢
    by_cases tight : level' < link.1.level
    · have tight' : level < link.1.level := Nat.lt_of_le_of_lt le tight
      simpa [tight, tight'] using ih
    · simp [tight]

theorem tighter_stop {level : Nat} {links : List (Operator × Name)}
    (loose : ∀ link ∈ links.head?, link.1.level ≤ level) :
    tighter level links = [] ∧ looser level links = links := by
  cases links with
  | nil => exact ⟨rfl, rfl⟩
  | cons link links =>
    have first : link.1.level ≤ level := loose link rfl
    simp [tighter, looser, first]

/-- What is left starts with an operator that binds no more tightly. -/
theorem head?_looser {level : Nat} {links : List (Operator × Name)} :
    ∀ link ∈ (looser level links).head?, link.1.level ≤ level := by
  intro link first
  have stops := List.head?_dropWhile_not (fun link : Operator × Name => level < link.1.level) links
  rw [looser, Option.mem_def] at first
  simpa [first] using stops

theorem looser_length_le (level : Nat) (links : List (Operator × Name)) :
    (looser level links).length ≤ links.length :=
  (List.dropWhile_sublist _).length_le

/-- A token that ends an expression. -/
structure Token.EndsExpression (t : Token) : Prop extends t.Closes where
  operator : operatorLevel? t = none

theorem closes_next {links : List (Operator × Name)} {tail : List Token} {eof : Token}
    (ends : (tail.headD eof).EndsExpression) : ((linkTokens links ++ tail).headD eof).Closes := by
  cases links with
  | nil => exact ends.toCloses
  | cons link links => exact link.1.closes

namespace Parser

variable {g : Grammar} {c : Cursor} {level : Nat} {start : UInt32} {left : NodeId}

theorem binaryStep_stop (loose : ∀ own, operatorLevel? c.peek = some own → own ≤ level) :
    binaryStep g level start left c = .ok (none, c) := by
  rw [binaryStep, bind_run peek_run]
  cases known : operatorLevel? c.peek with
  | none => rfl
  | some own =>
    show (if own ≤ level then pure none else _ : Parser (Option NodeId)) c = _
    rw [if_pos (loose own known)]
    rfl

theorem binaryStep_apply {op : Operator} (tight : level < op.level) {right : NodeId} {c' : Cursor}
    (run : g.binary op.level c.advance = .ok (right, c')) (here : c.peek = op.token) :
    binaryStep g level start left c =
      .ok (some (c'.tree.add ⟨c'.tree.file, start, c'.previousEnd⟩
          (.other op.nodeType [some left, some right])).2,
        { c' with
          tree := (c'.tree.add ⟨c'.tree.file, start, c'.previousEnd⟩
            (.other op.nodeType [some left, some right])).1 }) := by
  have plain : (op.token.text == utf8 "as" || op.token.text == utf8 "satisfies") = false := by
    simp [op.plain]
  rw [binaryStep, bind_run peek_run, here, op.known]
  show (if op.level ≤ level then _ else discard advance >>= fun _ =>
    if (op.token.text == utf8 "as" || op.token.text == utf8 "satisfies") = true then _
    else g.binary op.level >>= fun right => other start op.nodeType [left, right] >>= fun id =>
      pure (some id) : Parser (Option NodeId)) c = _
  have advanced : discard advance c = .ok ((), c.advance) := rfl
  rw [if_neg (Nat.not_le.mpr tight), plain, bind_run advanced, if_neg Bool.false_ne_true,
    bind_run run]
  rfl

/-- What a parser does with operators above a level where there are fewer operators than `bound`:
it splits those that bind more tightly, and leaves the others. -/
def Climbs (p : Nat → Parser NodeId) (bound : Nat) : Prop :=
  ∀ (level : Nat) (first : Name) {links : List (Operator × Name)} {tail : List Token}
    (source : Text) {eof : Token} (stop : UInt32) (t : Tree), links.length < bound →
    (tail.headD eof).EndsExpression → ∃ f, Splits first (tighter level links) f ∧
      p level ⟨source, eof, first.token :: (linkTokens links ++ tail), stop, t⟩
        = .ok ((f.write t).2,
          ⟨source, eof, linkTokens (looser level links) ++ tail, f.stop, (f.write t).1⟩)

section Loop

variable (source : Text) (t : Tree) {eof : Token} {tail : List Token} {first : Name}
  {links done : List (Operator × Name)} {f : Formula} {op : Operator}

/-- Where no operator binds more tightly, the loop ends. -/
theorem iterate_stop {k : Nat} (rounds : 0 < k)
    (loose : ∀ link ∈ links.head?, link.1.level ≤ level)
    (ends : (tail.headD eof).EndsExpression) :
    iterate (binaryStep g level start) k left ⟨source, eof, linkTokens links ++ tail, f.stop, t⟩
      = .ok (left, ⟨source, eof, linkTokens links ++ tail, f.stop, t⟩) := by
  obtain ⟨k, rfl⟩ := Nat.exists_eq_succ_of_ne_zero (Nat.ne_of_gt rounds)
  rw [iterate, bind_run (binaryStep_stop fun own known => ?_)]
  · rfl
  rw [Cursor.peek_eq_headD] at known
  cases links with
  | nil =>
    cases ends.operator.symm.trans known
  | cons link links =>
    cases link.1.known.symm.trans known
    exact loose link rfl

/-- A round takes the next operator and all that binds more tightly on its right. -/
theorem binaryStep_climbs {bound : Nat} (climbs : Climbs g.binary bound) (name : Name)
    (few : links.length < bound) (tight : level < op.level) (splits : Splits first done f)
    (lowest : ∀ link ∈ done, op.level ≤ link.1.level) (ends : (tail.headD eof).EndsExpression) :
    ∃ r, Splits first (done ++ (op, name) :: tighter op.level links) (.apply op f r) ∧
      binaryStep g level first.token.start (f.write t).2
          ⟨source, eof, linkTokens ((op, name) :: links) ++ tail, f.stop, (f.write t).1⟩
        = .ok (some ((Formula.apply op f r).write t).2,
          ⟨source, eof, linkTokens (looser op.level links) ++ tail, (Formula.apply op f r).stop,
            ((Formula.apply op f r).write t).1⟩) := by
  obtain ⟨r, splits', run⟩ := climbs op.level name source op.token.stop (f.write t).1 few ends
  refine ⟨r, .apply lowest ?_ splits splits', ?_⟩
  · intro link mem
    simpa using List.mem_takeWhile_imp mem
  · have live : op.token.kind ≠ .eof := (mem_of_operatorLevel? op.known).1
    have beyond : Cursor.advance
          ⟨source, eof, linkTokens ((op, name) :: links) ++ tail, f.stop, (f.write t).1⟩
        = ⟨source, eof, name.token :: (linkTokens links ++ tail), op.token.stop, (f.write t).1⟩ :=
      Cursor.advance_live live
    rw [← beyond] at run
    rw [binaryStep_apply tight run rfl, ← splits.start_eq]
    rfl

/-- The operators taken so far bind no less tightly than the next one, so the formula stays
split at the last of the lowest ones. -/
theorem iterate_climbs {bound : Nat} (climbs : Climbs g.binary bound) (level : Nat) {k : Nat}
    (few : links.length ≤ bound) (rounds : links.length < k) (splits : Splits first done f)
    (next : ∀ link ∈ links.head?, ∀ link' ∈ done, link.1.level ≤ link'.1.level)
    (ends : (tail.headD eof).EndsExpression) :
    ∃ f', Splits first (done ++ tighter level links) f' ∧
      iterate (binaryStep g level first.token.start) k (f.write t).2
          ⟨source, eof, linkTokens links ++ tail, f.stop, (f.write t).1⟩
        = .ok ((f'.write t).2,
          ⟨source, eof, linkTokens (looser level links) ++ tail, f'.stop, (f'.write t).1⟩) := by
  induction k generalizing done links f with
  | zero => contradiction
  | succ k ih =>
    by_cases loose : ∀ link ∈ links.head?, link.1.level ≤ level
    · obtain ⟨none, all⟩ := tighter_stop loose
      rw [none, all, List.append_nil]
      exact ⟨f, splits, iterate_stop source _ k.succ_pos loose ends⟩
    · cases links with
      | nil => simp at loose
      | cons link links =>
        obtain ⟨op, name⟩ := link
        have tight : level < op.level := by simpa using loose
        obtain ⟨r, splits', step⟩ :=
          binaryStep_climbs source t climbs name few tight splits (next (op, name) rfl) ends
        have length := looser_length_le op.level links
        rw [List.length_cons] at few rounds
        have few' : (looser op.level links).length ≤ bound := by omega
        have rounds' : (looser op.level links).length < k := by omega
        -- What was taken in this round binds more tightly than `op`, what is left does not.
        have next' : ∀ link ∈ (looser op.level links).head?,
            ∀ link' ∈ done ++ (op, name) :: tighter op.level links,
              link.1.level ≤ link'.1.level := by
          intro link mem link' taken
          have le := head?_looser link mem
          rw [List.mem_append, List.mem_cons] at taken
          obtain before | rfl | behind := taken
          · exact Nat.le_trans le (next (op, name) rfl link' before)
          · exact le
          · have lt : op.level < link'.1.level := by simpa using List.mem_takeWhile_imp behind
            exact Nat.le_of_lt (Nat.lt_of_le_of_lt le lt)
        obtain ⟨f', splits'', run⟩ := ih few' rounds' splits' next'
        obtain ⟨taken, kept⟩ := tighter_looser (Nat.le_of_lt tight) links
        have cons : tighter level ((op, name) :: links) = (op, name) :: tighter level links ∧
            looser level ((op, name) :: links) = looser level links := by
          simp [tighter, looser, tight]
        refine ⟨f', ?_, ?_⟩
        · rw [cons.1, taken]
          simpa using splits''
        · rw [iterate, bind_run step, cons.2, kept]
          exact run

/-- One more level of nesting climbs over one more operator. -/
theorem binary_climbs {bound : Nat} (climbs : Climbs g.binary bound) :
    Climbs (binary g) (bound + 1) := by
  intro level first links tail source eof stop t few ends
  let c : Cursor := ⟨source, eof, first.token :: (linkTokens links ++ tail), stop, t⟩
  have operand : unary g c = .ok (((Formula.name first).write t).2, ⟨source, eof,
      linkTokens links ++ tail, first.token.stop, ((Formula.name first).write t).1⟩) :=
    unary_run (c := c) rfl rfl (closes_next ends)
  have rounds : links.length < (linkTokens links ++ tail).length + 1 := by
    have : (linkTokens links).length = 2 * links.length := by
      simp [linkTokens, Nat.mul_comm]
    rw [List.length_append]
    omega
  obtain ⟨f, splits, run⟩ := iterate_climbs source t climbs level (Nat.le_of_lt_succ few) rounds
    (.name first) (by simp) ends
  refine ⟨f, splits, ?_⟩
  rw [binary, bind_run here_run, bind_run operand]
  exact run

theorem ofDepth_climbs (n : Nat) : Climbs (Grammar.ofDepth n).binary n := by
  induction n with
  | zero =>
    intro level first links tail source eof stop t few
    exact absurd few (Nat.not_lt_zero _)
  | succ n ih => exact binary_climbs ih

end Loop

/-- Around the operators nothing else is read. -/
theorem expression_run {first : Name} {after : List Token} {id : NodeId} {c' : Cursor}
    (rest : c.rest = first.token :: after) (closes : (after.headD c.eof).Closes)
    (run : binary g 0 c = .ok (id, c')) (ends : (c'.rest.headD c'.eof).EndsExpression) :
    expression g c = .ok (id, c') := by
  rw [← Cursor.peek_eq_headD] at ends
  have peek : c.peek = first.token := by rw [Cursor.peek_eq_headD, rest]; rfl
  have other (text : Text) (mem : text ∈ marks) : c'.peek.spells text = false :=
    ends.marks text mem
  have noArrow : arrowKind? c = .ok (none, c) := by
    have head : (c.rest.drop 0) = first.token :: after := rest
    have noStart : arrowStarts (c.rest.drop 0) = false := by
      rw [head, arrowStarts, if_pos first.word]
      cases after with
      | nil => rfl
      | cons next after =>
        simpa using closes.marks "=>" (by decide)
    rw [arrowKind?, sees_run, peek, first.spells_special (by decide)]
    show (if arrowStarts (c.rest.drop 0) = true then pure (some false) else pure none :
      Parser (Option Bool)) c = _
    rw [noStart]
    rfl
  have conditional : conditional g c = .ok (id, c') := by
    rw [Parser.conditional, bind_run here_run, bind_run run, eat_other (other _ (by decide))]
    rfl
  have assignment : assignment g c = .ok (id, c') := by
    rw [Parser.assignment, bind_run noArrow]
    dsimp only
    rw [bind_run here_run, bind_run conditional, bind_run peek_run, ends.assignment]
    rfl
  have chain : commaChain (Parser.assignment g) (c.rest.length + 1) c = .ok ([id], c') := by
    rw [commaChain, bind_run assignment, eat_other (other _ (by decide))]
    rfl
  have bound : rounds c = .ok (c.rest.length + 1, c) := rfl
  rw [expression, sequence, bind_run here_run, bind_run bound, bind_run chain]
  rfl

end Parser

/-! ## What is built -/

/-- A node that stands for a formula: it spans from the start of its first name to the end of the
last one, and its children stand for the two sides. -/
inductive Shows (t : Tree) : NodeId → Formula → Prop
  | name {id : NodeId} {node : Node} {n : Name} {place : NameId} (found : t.node? id = some node)
    (span : node.span = ⟨t.file, n.token.start, n.token.stop⟩)
    (shape : node.shape = .identifier ⟨place, none, false⟩)
    (named : t.names.list[place]? = some n.token.text) : Shows t id (.name n)
  | apply {id leftId rightId : NodeId} {node : Node} {op : Operator} {left right : Formula}
    (found : t.node? id = some node) (span : node.span = ⟨t.file, left.start, right.stop⟩)
    (shape : node.shape = .other op.nodeType [some leftId, some rightId])
    (onLeft : Shows t leftId left) (onRight : Shows t rightId right) :
    Shows t id (.apply op left right)

/-- Nodes that are added later change nothing. -/
theorem Shows.keep {t t' : Tree} (kept : t.KeptIn t') (file : t'.file = t.file) {id : NodeId}
    {f : Formula} (h : Shows t id f) : Shows t' id f := by
  induction h with
  | name found span shape named =>
    obtain ⟨node', found', span', shape'⟩ := kept.nodes found
    refine .name found' (by rw [span', span, file]) (shape'.trans shape) ?_
    obtain ⟨more, eq⟩ := kept.names
    rw [← eq, List.getElem?_append_left (List.getElem?_eq_some_iff.mp named).1, named]
  | apply found span shape _ _ onLeft onRight =>
    obtain ⟨node', found', span', shape'⟩ := kept.nodes found
    exact .apply found' (by rw [span', span, file]) (shape'.trans shape) onLeft onRight

theorem Formula.write_shows (f : Formula) (t : Tree) :
    t.KeptIn (f.write t).1 ∧ (f.write t).1.file = t.file ∧ Shows (f.write t).1 (f.write t).2 f := by
  induction f generalizing t with
  | name n =>
    let names := t.names.intern n.token.text
    obtain ⟨node, found, span, shape⟩ := Tree.exists_node?_add_new { t with names := names.1 }
      ⟨t.file, n.token.start, n.token.stop⟩ (.identifier ⟨names.2, none, false⟩)
    exact ⟨.addIdentifier _ _ _ _ _, rfl,
      .name found span shape (Names.getElem?_intern t.names n.token.text)⟩
  | apply op left right ihl ihr =>
    obtain ⟨keptl, filel, showsl⟩ := ihl t
    obtain ⟨keptr, filer, showsr⟩ := ihr (left.write t).1
    let t' := (right.write (left.write t).1).1
    let span : Span := ⟨t'.file, left.start, right.stop⟩
    let shape : Shape :=
      .other op.nodeType [some (left.write t).2, some (right.write (left.write t).1).2]
    have added : t'.KeptIn (t'.add span shape).1 := .add t' span shape
    obtain ⟨node, found, spans, shaped⟩ := Tree.exists_node?_add_new t' span shape
    refine ⟨(keptl.trans keptr).trans added, filer.trans filel, ?_⟩
    exact .apply found spans shaped ((showsl.keep keptr filer).keep added rfl)
      (showsr.keep added rfl)

/-- A sequence of names with operators between them is read as a whole, and what is built for it
is the one formula that it is split into. -/
theorem expression_splits {first : Name} {links : List (Operator × Name)} {tail : List Token}
    {c : Cursor} (rest : c.rest = first.token :: (linkTokens links ++ tail))
    (ends : (tail.headD c.eof).EndsExpression) {n : Nat} (deep : links.length ≤ n) :
    ∃ f, (∀ f', Splits first links f' ↔ f' = f) ∧
      Parser.expression (.ofDepth n) c = .ok ((f.write c.tree).2,
        { c with rest := tail, previousEnd := f.stop, tree := (f.write c.tree).1 }) ∧
      Shows (f.write c.tree).1 (f.write c.tree).2 f := by
  have climbs : Parser.Climbs (Parser.binary (.ofDepth n)) (n + 1) :=
    Parser.binary_climbs (Parser.ofDepth_climbs n)
  obtain ⟨f, splits, run⟩ :=
    climbs 0 first c.source c.previousEnd c.tree (Nat.lt_succ_of_le deep) ends
  have all : tighter 0 links = links ∧ looser 0 links = [] := by
    have tight (link : Operator × Name) : 0 < link.1.level := link.1.level_pos
    simp [tighter, looser, tight]
  rw [all.1] at splits
  rw [all.2] at run
  have here : c = ⟨c.source, c.eof, first.token :: (linkTokens links ++ tail), c.previousEnd,
      c.tree⟩ := by rw [← rest]
  rw [← here] at run
  refine ⟨f, fun f' => ⟨fun h => h.unique splits, ?_⟩, ?_, (f.write_shows c.tree).2.2⟩
  · rintro rfl
    exact splits
  · exact Parser.expression_run rest (closes_next ends) run ends

/-- A lower level is split first, and of operators on one level the last one. -/
theorem expression_splits_levels :
    let a : Name := ⟨⟨.word, "a", [], 0, 1⟩, rfl, by decide⟩
    let b : Name := ⟨⟨.word, "b", [], 3, 4⟩, rfl, by decide⟩
    let c : Name := ⟨⟨.word, "c", [], 5, 6⟩, rfl, by decide⟩
    let d : Name := ⟨⟨.word, "d", [], 7, 8⟩, rfl, by decide⟩
    let either : Operator := ⟨⟨.punctuator, "||", [], 1, 3⟩, 1, by decide, by decide⟩
    let minus : Operator := ⟨⟨.punctuator, "-", [], 4, 5⟩, 8, by decide, by decide⟩
    let minus' : Operator := ⟨⟨.punctuator, "-", [], 6, 7⟩, 8, by decide, by decide⟩
    let links := [(either, b), (minus, c), (minus', d)]
    let f : Formula :=
      .apply either (.name a) (.apply minus' (.apply minus (.name b) (.name c)) (.name d))
    let eof : Token := ⟨.eof, [], [], 8, 8⟩
    let start : Cursor := ⟨"a||b-c-d", eof, a.token :: (linkTokens links ++ [eof]), 0, Tree.empty 0⟩
    ([eof].headD start.eof).EndsExpression ∧ (∀ f', Splits a links f' ↔ f' = f) ∧
      Parser.expression (.ofDepth 3) start = .ok ((f.write start.tree).2,
        { start with rest := [eof], previousEnd := f.stop, tree := (f.write start.tree).1 }) ∧
      Shows (f.write start.tree).1 (f.write start.tree).2 f := by
  intro a b c d either minus minus' links f eof start
  have ends : ([eof].headD start.eof).EndsExpression :=
    { marks := by decide, assignment := by decide, operator := by decide }
  have rest : start.rest = a.token :: (linkTokens links ++ [eof]) := rfl
  obtain ⟨f', only, run, shows⟩ := expression_splits rest ends (n := 3) (by decide)
  have inner : Splits b ([] ++ (minus, c) :: []) (.apply minus (.name b) (.name c)) :=
    .apply (by simp) (by simp) (.name b) (.name c)
  have right : Splits b ([(minus, c)] ++ (minus', d) :: []) _ :=
    .apply (by simp [minus, minus']) (by simp) inner (.name d)
  have whole : Splits a ([] ++ (either, b) :: [(minus, c), (minus', d)]) f :=
    .apply (by simp) (by simp [either, minus, minus']) (.name a) right
  obtain rfl := (only f).mp whole
  exact ⟨ends, only, run, shows⟩

end TreeLint.Script
