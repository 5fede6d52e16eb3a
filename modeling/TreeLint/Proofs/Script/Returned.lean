import TreeLint.Proofs.Rewriting.Step
import TreeLint.Script.Parse

/-! # Where a call begins

A string literal that nothing goes on after is read as an expression on every level of the grammar
(`assignment_literal`).

An expression that turns out to be a call is one that no operator goes on with.  It is read as a
chain that begins with its first token, or it stands between parentheses that no link of a chain
follows (`callAt_of_expression`).  The other way round, where nothing goes on with it, an expression
is what is read for its operand (`expression_arrives`), and so is one between parentheses
(`unary_arrives`). -/

namespace TreeLint.Script

open Rewriting.Tracks (bind_run eat_run)

/-- No expression goes on with the token. -/
structure Token.Ends (t : Token) : Prop where
  other : ∀ text ∈ List.map utf8 [".", "?.", "[", "(", "!", "++", "--", "?"], t.spells text = false
  level : operatorLevel? t = none
  assigns : t.isAssignment = false

namespace Token

theorem not_spells_of_string {t : Token} (h : t.kind = .string) (text : Text) :
    t.spells text = false := by
  rw [Bool.eq_false_iff]
  intro spelled
  obtain kind | kind := kind_of_spells spelled <;> rw [h] at kind <;> contradiction

end Token

namespace Parser

variable {α : Type} {g : Grammar} {c c' : Cursor} {a : NodeId} {start : UInt32} {level : Nat}

theorem sees_run {text : Text} {F : Bool → Parser α} :
    (sees text >>= F) c = F (c.peek.spells text) c := rfl

theorem improve_of_none {step : NodeId → Parser (Option NodeId)} (h : step a c = .ok (none, c)) :
    improve step a c = .ok (a, c) := by
  change iterate step (c.rest.length + 1) a c = _
  rw [iterate, bind_run h]
  rfl

theorem link_of_ends {calls : Bool} (ends : c.peek.Ends) :
    link g start calls a c = .ok (none, c) := by
  have none (text : Text) (mem : text ∈ List.map utf8 [".", "?.", "[", "(", "!", "++", "--", "?"]) :=
    ends.other text mem
  simp only [link, eat_run, sees_run, none (utf8 ".") (by decide), none (utf8 "?.") (by decide),
    none (utf8 "[") (by decide), none (utf8 "(") (by decide), none (utf8 "!") (by decide),
    Bool.false_eq_true, if_false, Bool.false_and]
  rfl

theorem chain_of_ends {calls : Bool} (ends : c.peek.Ends) :
    chain g start calls a c = .ok (a, c) :=
  improve_of_none (link_of_ends ends)

theorem binaryStep_of_ends (ends : c.peek.Ends) :
    binaryStep g level start a c = .ok (none, c) := by
  rw [binaryStep, bind_run (show peek c = .ok (c.peek, c) from rfl)]
  simp only [ends.level]
  rfl

theorem here_run : here c = .ok (c.peek.start, c) := rfl

theorem peek_run : peek c = .ok (c.peek, c) := rfl

section String

variable (kind : c.peek.kind = .string) (run : literal c = .ok (a, c')) (ends : c'.peek.Ends)

include kind run ends

theorem leftHandSide_literal : leftHandSide g c = .ok (a, c') := by
  have word : c.peek.spells "new" = false := Token.not_spells_of_string kind _
  have first : primary g c = .ok (a, c') := by
    rw [primary, bind_run peek_run]
    simp only [kind]
    exact run
  rw [leftHandSide, bind_run here_run, sees_run, word]
  simp only [Bool.false_eq_true, if_false]
  rw [bind_run first]
  exact chain_of_ends ends

theorem unary_literal : unary g c = .ok (a, c') := by
  have plain : unaryType? c.peek = none := by simp [unaryType?, kind]
  have await : c.peek.spells "await" = false := Token.not_spells_of_string kind _
  have plus : c'.peek.spells "++" = false := ends.other _ (by decide)
  have minus : c'.peek.spells "--" = false := ends.other _ (by decide)
  have step : unary g c = updated g c.peek.start c := by
    rw [unary, bind_run peek_run]
    simp only [plain]
    change (if (c.peek.spells "await" && decide (c.peek.kind = .word) &&
      (c.peekAt 1).startsExpression) = true then _ else updated g c.peek.start) c = _
    rw [await]
    rfl
  rw [step, updated, bind_run (leftHandSide_literal kind run ends), sees_run, sees_run, plus, minus]
  rfl

theorem binary_literal : binary g level c = .ok (a, c') := by
  rw [binary, bind_run here_run, bind_run (unary_literal kind run ends)]
  exact improve_of_none (binaryStep_of_ends ends)

theorem conditional_literal : conditional g c = .ok (a, c') := by
  have mark : c'.peek.spells "?" = false := ends.other _ (by decide)
  rw [conditional, bind_run here_run, bind_run (binary_literal kind run ends), eat_run, mark]
  rfl

theorem assignment_literal : assignment g c = .ok (a, c') := by
  have none : arrowKind? c = .ok (none, c) := by
    have async : c.peek.spells "async" = false := Token.not_spells_of_string kind _
    have starts : arrowStarts c.rest = false := by
      cases rest : c.rest with
      | nil => rfl
      | cons t ts =>
        have peek : c.peek = t := by rw [Cursor.peek, Cursor.peekAt, rest]; rfl
        rw [peek] at kind
        have paren : t.spells "(" = false := Token.not_spells_of_string kind _
        simp [arrowStarts, kind, paren]
    change (if (c.peek.spells "async" && !(c.peekAt 1).spells "=>" &&
        arrowStarts (c.rest.drop 1)) = true then (pure (some true) : Parser (Option Bool))
      else arrowAhead 0 >>= fun found => if found = true then pure (some false) else pure none) c = _
    rw [async]
    change (if arrowStarts c.rest = true then (pure (some false) : Parser (Option Bool))
      else pure none) c = _
    rw [starts]
    rfl
  rw [assignment, bind_run none]
  simp only
  rw [bind_run here_run, bind_run (conditional_literal kind run ends), bind_run peek_run]
  simp only [ends.assigns, Bool.false_eq_true, if_false]
  rfl

end String
end Parser

open Rewriting (Arrives)
open Rewriting.Tracks (exists_of_bind)

/-! ## What parsers give -/

/-- Where the parser succeeds, its value and cursor are as told. -/
def Gives {α : Type} (p : Parser α) (Q : α → Cursor → Prop) : Prop :=
  ∀ ⦃c a c'⦄, p c = .ok (a, c') → Q a c'

namespace Gives

variable {α β : Type} {p q : Parser α} {f : α → Parser β} {Q S : α → Cursor → Prop}
  {U : β → Cursor → Prop}

theorem bind (h : ∀ a, Gives (f a) U) : Gives (p >>= f) U := by
  intro c b c'' run
  obtain ⟨a, c', -, run⟩ := exists_of_bind run
  exact h a run

theorem map {g : α → β} (h : Gives p fun a => U (g a)) : Gives (p >>= fun a => pure (g a)) U := by
  intro c b c'' run
  obtain ⟨a, c', run, eq⟩ := exists_of_bind run
  cases eq
  exact h run

theorem ite {b : Prop} [Decidable b] (yes : Gives p Q) (no : Gives q Q) :
    Gives (if b then p else q) Q := by
  split
  · exact yes
  · exact no

theorem fail {problem : Problem} : Gives (Parser.fail problem) Q := nofun

/-- What comes after a part that is read in one of two ways. -/
theorem join {b : Prop} [Decidable b] (h : ∀ a, Gives (f a) U) :
    Gives (if b then p >>= f else q >>= f) U :=
  .ite (.bind h) (.bind h)

end Gives

/-- The node is of another kind. -/
def Avoids (k : Kind) (p : Parser NodeId) : Prop :=
  Gives p fun a c => c.tree.kind? (some a) ≠ some k

namespace Parser

variable {g h : Grammar} {c c' d : Cursor} {a : NodeId} {start : UInt32}

/-- What is known of a node that has just been added. -/
theorem kind?_of_add (t : Tree) (span : Span) (shape : Shape) :
    (t.add span shape).1.kind? (some ⟨t.size⟩) = some shape.kind ∧
      (t.add span shape).1.span (some ⟨t.size⟩) = span := by
  obtain ⟨n, found, rfl, rfl⟩ := t.exists_node?_add_new span shape
  have at_node : (t.add n.span n.shape).1.deref? (some ⟨t.size⟩) = some n := found
  exact ⟨by simp [Tree.kind?, at_node, Node.kind], by simp [Tree.span, at_node]⟩

theorem node_gives {shape : Shape} : Gives (node start shape) fun a c =>
    c.tree.kind? (some a) = some shape.kind ∧ (c.tree.span (some a)).start = start := by
  intro c a c' run
  cases run
  obtain ⟨kind, span⟩ := kind?_of_add c.tree ⟨c.tree.file, start, c.previousEnd⟩ shape
  exact ⟨kind, congrArg Span.start span⟩

theorem node_avoids {shape : Shape} {k : Kind} (other : shape.kind ≠ k) :
    Avoids k (node start shape) := by
  intro c a c' run known
  rw [(node_gives run).1] at known
  exact other (Option.some.inj known)

/-! ## Calls -/

theorem other_avoids {type : Text} {children : List NodeId} :
    Avoids .callExpression (other start type children) :=
  node_avoids nofun

theorem identifier_avoids : Avoids .callExpression identifier := by
  refine .bind fun t c a c' run known => ?_
  cases run
  let named : Tree := { c.tree with names := (c.tree.names.intern t.text).1 }
  have kind := (kind?_of_add named ⟨c.tree.file, t.start, c.previousEnd⟩
    (.identifier ⟨(c.tree.names.intern t.text).2, none, false⟩)).1
  exact nomatch kind.symm.trans known

theorem literal_avoids : Avoids .callExpression literal := by
  refine .bind fun t => ?_
  cases literalKind? t with
  | none => exact .fail
  | some kind => exact .bind fun _ => node_avoids nofun

theorem function_avoids {form : FunctionForm} {isAsync : Bool} :
    Avoids .callExpression (function g form start isAsync) := by
  refine .bind fun _ => .bind fun _ => .bind fun _ => .join fun _ => ?_
  refine .bind fun _ => .bind fun _ => .bind fun _ => .bind fun _ => node_avoids ?_
  cases form <;> nofun

theorem classNode_avoids {form : ClassForm} {isAbstract : Bool} :
    Avoids .callExpression (classNode g form start isAbstract) := by
  refine .bind fun _ => .bind fun _ => .bind fun _ => .bind fun _ => .join fun _ => ?_
  let close (name superClass : Ref) (implements : List NodeId) : Parser NodeId :=
    classBody g >>= fun body => node start
      (.classNode ⟨form, name, superClass, implements.map some, some body, isAbstract⟩)
  have close_avoids {name superClass : Ref} {implements : List NodeId} :
      Avoids .callExpression (close name superClass implements) := by
    refine .bind fun _ => node_avoids ?_
    cases form <;> nofun
  have rest {name superClass : Ref} : Avoids .callExpression (eat "implements" >>= fun x =>
      if x = true then rounds >>= fun n => commaChain implemented n >>= close name superClass
      else pure [] >>= close name superClass) :=
    .bind fun _ => .ite (.bind fun _ => .bind fun _ => close_avoids) (.bind fun _ => close_avoids)
  refine .bind fun _ => .bind fun _ => .ite ?_ (.bind fun _ => rest)
  exact .bind fun _ => .bind fun _ => .bind fun _ => .bind fun _ => .bind fun _ => rest

theorem arrayLiteral_avoids : Avoids .callExpression (arrayLiteral g) :=
  .bind fun _ => .bind fun _ => node_avoids nofun

theorem objectLiteral_avoids : Avoids .callExpression (objectLiteral g) :=
  .bind fun _ => .bind fun _ => node_avoids nofun

theorem construct_avoids : Avoids .callExpression (construct g) := by
  refine .bind fun _ => .bind fun _ => .bind fun _ => .join fun _ => ?_
  exact .bind fun _ => .bind fun _ => .join fun _ => node_avoids nofun

theorem wordExpression_avoids {t : Token} : Avoids .callExpression (wordExpression g t) := by
  refine .ite literal_avoids (.bind fun _ => .ite other_avoids ?_)
  refine .bind fun _ => .ite other_avoids (.ite function_avoids (.bind fun _ => ?_))
  exact .ite (.bind fun _ => function_avoids) (.ite classNode_avoids identifier_avoids)

/-! ## Loops -/

/-- The value of a loop is the one it starts with, which no step goes on with, or that of a step. -/
theorem iterate_cases {step : NodeId → Parser (Option NodeId)} {Q : NodeId → Cursor → Prop} {n : Nat}
    {b : NodeId} (run : iterate step n a c = .ok (b, c'))
    (still : ∀ {a c c'}, step a c = .ok (none, c') → c' = c)
    (gives : ∀ a, Gives (step a) fun o c => ∀ b ∈ o, Q b c) :
    step b c' = .ok (none, c') ∧ (b = a ∧ c' = c ∨ Q b c') := by
  induction n generalizing a c with
  | zero => contradiction
  | succ n ih =>
    obtain ⟨o, c₁, first, rest⟩ := exists_of_bind run
    cases o with
    | none =>
      cases rest
      cases still first
      exact ⟨first, .inl ⟨rfl, rfl⟩⟩
    | some a₁ =>
      obtain ⟨last, ⟨rfl, rfl⟩ | known⟩ := ih rest
      · exact ⟨last, .inr (gives a first _ rfl)⟩
      · exact ⟨last, .inr known⟩

theorem improve_cases {step : NodeId → Parser (Option NodeId)} {Q : NodeId → Cursor → Prop}
    {b : NodeId} (run : improve step a c = .ok (b, c'))
    (still : ∀ {a c c'}, step a c = .ok (none, c') → c' = c)
    (gives : ∀ a, Gives (step a) fun o c => ∀ b ∈ o, Q b c) :
    step b c' = .ok (none, c') ∧ (b = a ∧ c' = c ∨ Q b c') :=
  iterate_cases run still gives

/-! ## Chains and operators that have come to their end -/

/-- A node that starts at an offset, if there is one. -/
def StartsAt (start : UInt32) (o : Option NodeId) (c : Cursor) : Prop :=
  ∀ b ∈ o, (c.tree.span (some b)).start = start

theorem node_startsAt {shape : Shape} :
    Gives (node start shape) fun b => StartsAt start (some b) := by
  intro c b c' run x mem
  cases mem
  exact (node_gives run).2

theorem link_startsAt {calls : Bool} : Gives (link g start calls a) (StartsAt start) := by
  have told {shape : Shape} :
      Gives (node start shape >>= fun b => pure (some b)) (StartsAt start) :=
    .map node_startsAt
  have optional : Gives (optionalLink g start calls a) fun b => StartsAt start (some b) := by
    refine .bind fun _ => .ite (.bind fun _ => node_startsAt) (.bind fun _ => .ite ?_ ?_)
    · exact .bind fun _ => node_startsAt
    · exact .bind fun _ => node_startsAt
  have none : Gives (pure none) (StartsAt start) := by
    intro c o c' run b mem
    cases run
    contradiction
  refine .bind fun _ => .ite (.bind fun _ => told) (.bind fun _ => .ite (.map optional) ?_)
  refine .bind fun _ => .ite (.bind fun _ => told) (.bind fun _ => .ite (.bind fun _ => told) ?_)
  exact .bind fun _ => .bind fun _ => .ite (.bind fun _ => told) none

/-- No chain goes on at the cursor. -/
structure Unlinked (c : Cursor) : Prop where
  other : ∀ text ∈ List.map utf8 [".", "?.", "[", "("], c.peek.spells text = false
  bang : (c.peek.spells "!" && !c.newlineBefore) = false

theorem gives_some {p : Parser NodeId} :
    Gives (p >>= fun b => pure (some b)) fun o _ => o ≠ none :=
  .map fun _ _ _ _ => nofun

theorem unlinked_of_link (run : link g start true a c = .ok (none, c')) : Unlinked c ∧ c' = c := by
  rw [link, eat_run] at run
  split at run
  · exact absurd rfl ((Gives.bind fun _ => .bind fun _ => gives_some) run)
  next dot =>
  simp only [Bool.false_eq_true, if_false, eat_run] at run
  split at run
  · exact absurd rfl ((Gives.bind fun _ => gives_some) run)
  next mark =>
  simp only [Bool.false_eq_true, if_false, eat_run] at run
  split at run
  · exact absurd rfl ((Gives.bind fun _ => .bind fun _ => gives_some) run)
  next bracket =>
  simp only [sees_run, Bool.and_true] at run
  split at run
  · exact absurd rfl ((Gives.bind fun _ => gives_some) run)
  next paren =>
  change (if (c.peek.spells "!" && !c.newlineBefore) = true then _ else pure none : Parser _) c = _
    at run
  split at run
  · exact absurd rfl ((Gives.bind fun _ => gives_some) run)
  next bang =>
  cases run
  refine ⟨⟨fun text mem => ?_, by simpa using bang⟩, rfl⟩
  simp only [List.map_cons, List.map_nil, List.mem_cons, List.not_mem_nil, or_false] at mem
  simp only [Bool.not_eq_true] at dot mark bracket paren
  obtain rfl | rfl | rfl | rfl := mem <;> assumption

theorem link_of_unlinked (h : Unlinked c) : link g start true a c = .ok (none, c) := by
  have other (text : Text) (mem : text ∈ List.map utf8 [".", "?.", "[", "("]) := h.other text mem
  simp only [link, eat_run, sees_run, other (utf8 ".") (by decide), other (utf8 "?.") (by decide),
    other (utf8 "[") (by decide), other (utf8 "(") (by decide), Bool.false_eq_true, if_false,
    Bool.false_and]
  change (if (c.peek.spells "!" && !c.newlineBefore) = true then _ else pure none : Parser _) c = _
  rw [h.bang]
  rfl

theorem binaryStep_avoids {level : Nat} :
    Gives (binaryStep g level start a)
      fun o c => ∀ b ∈ o, c.tree.kind? (some b) ≠ some .callExpression := by
  have told {type : Text} {children : List NodeId} :
      Gives (other start type children >>= fun b => pure (some b))
        fun o c => ∀ b ∈ o, c.tree.kind? (some b) ≠ some .callExpression := by
    refine .map fun c b c' run x mem => ?_
    cases mem
    exact other_avoids run
  refine .bind fun t => ?_
  cases operatorLevel? t with
  | none =>
    intro c o c' run b mem
    cases run
    contradiction
  | some own =>
    refine .ite (fun c o c' run b mem => ?_) (.bind fun _ => .ite (.bind fun _ => told)
      (.bind fun _ => told))
    cases run
    contradiction

theorem binaryStep_none {level : Nat} (run : binaryStep g level start a c = .ok (none, c')) :
    (∀ own ∈ operatorLevel? c.peek, own ≤ level) ∧ c' = c := by
  rw [binaryStep, bind_run peek_run] at run
  cases known : operatorLevel? c.peek with
  | none =>
    rw [known] at run
    cases run
    exact ⟨fun _ mem => absurd mem (Option.not_mem_none _), rfl⟩
  | some own =>
    simp only [known] at run
    split at run
    next le =>
      cases run
      exact ⟨fun own' mem => Option.some.inj mem ▸ le, rfl⟩
    next =>
      refine absurd rfl (Gives.bind (U := fun o _ => o ≠ none) (fun _ => .ite ?_ ?_) run)
      · exact .bind fun _ => gives_some
      · exact .bind fun _ => gives_some

theorem binaryStep_of_le {level : Nat} (le : ∀ own ∈ operatorLevel? c.peek, own ≤ level) :
    binaryStep g level start a c = .ok (none, c) := by
  rw [binaryStep, bind_run peek_run]
  cases known : operatorLevel? c.peek with
  | none => rfl
  | some own =>
    simp only
    rw [if_pos (le own known)]
    rfl

/-- No operator goes on at the cursor. -/
structure Complete (c : Cursor) : Prop where
  level : ∀ own ∈ operatorLevel? c.peek, own ≤ 0
  mark : c.peek.spells "?" = false
  assigns : c.peek.isAssignment = false
  comma : c.peek.spells "," = false

/-- The node that a parser has read last is a call. -/
def ReadsCall (p : Parser NodeId) (c : Cursor) (a : NodeId) (c' : Cursor) : Prop :=
  p c = .ok (a, c') ∧ c'.tree.kind? (some a) = some .callExpression

theorem binary_call (h : ReadsCall (binary g 0) c a c') :
    ReadsCall (unary g) c a c' ∧ ∀ own ∈ operatorLevel? c'.peek, own ≤ 0 := by
  obtain ⟨run, call⟩ := h
  rw [binary, bind_run here_run] at run
  obtain ⟨first, c₁, operand, rest⟩ := exists_of_bind run
  obtain ⟨last, ⟨rfl, rfl⟩ | other⟩ :=
    improve_cases rest (fun run => (binaryStep_none run).2) fun _ => binaryStep_avoids
  · exact ⟨⟨operand, call⟩, (binaryStep_none last).1⟩
  · exact absurd call other

theorem conditional_call (h : ReadsCall (conditional g) c a c') :
    ReadsCall (binary g 0) c a c' ∧ c'.peek.spells "?" = false := by
  obtain ⟨run, call⟩ := h
  rw [conditional, bind_run here_run] at run
  obtain ⟨first, c₁, operand, rest⟩ := exists_of_bind run
  rw [eat_run] at rest
  split at rest
  · refine absurd call (((Gives.bind fun _ => .bind fun _ => .bind fun _ => .bind fun _ => ?_) :
      Avoids .callExpression _) rest)
    exact other_avoids
  next mark =>
    cases rest
    exact ⟨⟨operand, call⟩, by simpa using mark⟩

/-- No arrow function starts at the cursor. -/
structure Arrowless (c : Cursor) : Prop where
  async : (c.peek.spells "async" && !(c.peekAt 1).spells "=>" && arrowStarts (c.rest.drop 1)) = false
  plain : arrowStarts c.rest = false

theorem arrowKind?_eq (c : Cursor) : arrowKind? c =
    (if (c.peek.spells "async" && !(c.peekAt 1).spells "=>" && arrowStarts (c.rest.drop 1)) = true
      then pure (some true) else if arrowStarts c.rest = true then pure (some false) else pure none :
        Parser (Option Bool)) c := by
  change (if _ = true then (pure (some true) : Parser (Option Bool))
    else arrowAhead 0 >>= fun found => if found = true then pure (some false) else pure none) c = _
  split
  · rfl
  · change (if arrowStarts c.rest = true then (pure (some false) : Parser (Option Bool))
      else pure none) c = _
    rfl

theorem arrowless_of_arrowKind? (run : arrowKind? c = .ok (none, c')) : Arrowless c ∧ c' = c := by
  rw [arrowKind?_eq] at run
  split at run
  · cases run
  next async =>
  split at run
  · cases run
  next plain =>
  cases run
  exact ⟨⟨by simpa using async, by simpa using plain⟩, rfl⟩

theorem arrowKind?_of_arrowless (h : Arrowless c) : arrowKind? c = .ok (none, c) := by
  rw [arrowKind?_eq, h.async, h.plain]
  rfl

theorem arrow_avoids {isAsync : Bool} : Avoids .callExpression (arrow g isAsync) := by
  have rest {start : UInt32} : Avoids .callExpression (sees "(" >>= fun x =>
      let close (params : List NodeId) : Parser NodeId := do
        let returnType ← colonType g
        discard (expect "=>")
        let isExpression := !(← sees "\x7b")
        let body ← if isExpression then g.assignment else blockStatement g
        node start (.function ⟨.arrow, none, params.map some, returnType, some body, isAsync, false,
          isExpression⟩)
      if x = true then params g >>= close else (List.singleton <$> identifier) >>= close) := by
    refine .bind fun _ => .join fun _ => .bind fun _ => .bind fun _ => .bind fun _ => .join fun _ => ?_
    exact node_avoids nofun
  exact .bind fun _ => .ite (.bind fun _ => rest) rest

theorem assignment_call (h : ReadsCall (assignment g) c a c') :
    ReadsCall (conditional g) c a c' ∧ Arrowless c ∧ c'.peek.isAssignment = false := by
  obtain ⟨run, call⟩ := h
  obtain ⟨o, c₁, ahead, rest⟩ := exists_of_bind run
  cases o with
  | some isAsync =>
    exact absurd call (arrow_avoids rest)
  | none =>
    obtain ⟨arrowless, rfl⟩ := arrowless_of_arrowKind? ahead
    obtain ⟨start, c₁, begun, rest⟩ := exists_of_bind rest
    cases begun
    obtain ⟨left, c₂, operand, rest⟩ := exists_of_bind rest
    rw [bind_run peek_run] at rest
    split at rest
    · refine absurd call ((Gives.bind (U := fun a c => c.tree.kind? (some a) ≠ some .callExpression)
        fun _ => .bind fun _ => ?_) rest)
      exact other_avoids
    next assigns =>
      cases rest
      exact ⟨⟨operand, call⟩, arrowless, by simpa using assigns⟩

theorem commaChain_ne_nil {α : Type} {item : Parser α} {n : Nat} :
    Gives (commaChain item n) fun l _ => l ≠ [] := by
  cases n with
  | zero => exact .fail
  | succ n =>
    refine .bind fun a => .bind fun more => .ite (.map fun _ _ _ _ => nofun) ?_
    intro c l c' run
    cases run
    nofun

theorem expression_call (h : ReadsCall (expression g) c a c') :
    ReadsCall (assignment g) c a c' ∧ c'.peek.spells "," = false := by
  obtain ⟨run, call⟩ := h
  rw [expression, sequence, bind_run here_run] at run
  obtain ⟨n, c₀, rounds, run⟩ := exists_of_bind run
  cases rounds
  obtain ⟨items, c₁, chain, rest⟩ := exists_of_bind run
  rw [commaChain] at chain
  obtain ⟨first, c₂, item, more⟩ := exists_of_bind chain
  rw [eat_run] at more
  split at more
  · obtain ⟨-, c₃, -, more⟩ := exists_of_bind more
    obtain ⟨l, c₄, others, last⟩ := exists_of_bind more
    cases last
    cases l with
    | nil => exact absurd rfl (commaChain_ne_nil others)
    | cons y l => exact absurd call (other_avoids rest)
  next comma =>
    cases more
    cases rest
    exact ⟨⟨item, call⟩, by simpa using comma⟩

/-! ## The first token of a call -/

/-- Nothing goes on after an operand on its line. -/
def Still (c : Cursor) : Prop :=
  ((c.peek.spells "++" || c.peek.spells "--") && !c.newlineBefore) = false

theorem updated_call (h : ReadsCall (updated g start) c a c') :
    ReadsCall (leftHandSide g) c a c' ∧ Still c' := by
  obtain ⟨run, call⟩ := h
  obtain ⟨first, c₁, operand, rest⟩ := exists_of_bind run
  change (if ((c₁.peek.spells "++" || c₁.peek.spells "--") && !c₁.newlineBefore) = true then _
    else pure first : Parser NodeId) c₁ = _ at rest
  split at rest
  · exact absurd call ((show Avoids .callExpression _ from .bind fun _ => other_avoids) rest)
  next still =>
    cases rest
    exact ⟨⟨operand, call⟩, by simpa [Still] using still⟩

theorem unary_call (h : ReadsCall (unary g) c a c') :
    ReadsCall (updated g c.peek.start) c a c' ∧ unaryType? c.peek = none ∧
      (c.peek.spells "await" && decide (c.peek.kind = .word) &&
        (c.peekAt 1).startsExpression) = false := by
  obtain ⟨run, call⟩ := h
  rw [unary, bind_run peek_run] at run
  cases known : unaryType? c.peek with
  | some type =>
    simp only [known] at run
    exact absurd call ((show Avoids .callExpression _ from .bind fun _ => .bind fun _ =>
      other_avoids) run)
  | none =>
    simp only [known] at run
    change (if _ = true then _ else updated g c.peek.start : Parser NodeId) c = _ at run
    split at run
    · refine absurd call (Gives.bind (U := fun a c => c.tree.kind? (some a) ≠ some .callExpression)
        (fun _ => .bind fun _ => ?_) run)
      exact node_avoids (show Kind.awaitExpression ≠ .callExpression by decide)
    next await => exact ⟨⟨run, call⟩, rfl, by simpa using await⟩

/-- The parenthesis that an expression is enclosed by. -/
structure Opens (t : Token) : Prop where
  kind : t.kind = .punctuator
  text : t.text = utf8 "("

/-- A call between parentheses. -/
def Enclosed (g : Grammar) (c : Cursor) (a : NodeId) (c' : Cursor) : Prop :=
  Opens c.peek ∧ ∃ c₁, ReadsCall (sequence g.assignment) c.advance a c₁ ∧ c₁.peek.spells ")" ∧
    c' = c₁.advance

theorem exists_of_discard {α : Type} {p : Parser α} {u : PUnit}
    (run : Functor.discard p c = .ok (u, c')) : ∃ a, p c = .ok (a, c') := by
  change (p >>= fun _ => pure u) c = _ at run
  obtain ⟨t, c₁, run, last⟩ := exists_of_bind run
  cases last
  exact ⟨t, run⟩

theorem expect_cases {text : Text} {t : Token} (run : expect text c = .ok (t, c')) :
    c.peek.spells text ∧ c' = c.advance := by
  change (if c.peek.spells text = true then advance else peek >>= fun t => fail (.expected text t.text) :
    Parser Token) c = _ at run
  split at run
  next found =>
    cases run
    exact ⟨found, rfl⟩
  next => cases run

theorem node_cases {shape : Shape} {id : NodeId} (run : node start shape c = .ok (id, c')) :
    id = ⟨c.tree.size⟩ ∧
      c' = { c with tree := (c.tree.add ⟨c.tree.file, start, c.previousEnd⟩ shape).1 } := by
  cases run
  exact ⟨rfl, rfl⟩

theorem expect_of_spells {text : Text} (found : c.peek.spells text) :
    expect text c = .ok (c.peek, c.advance) := by
  change (if c.peek.spells text = true then advance else _ : Parser Token) c = _
  rw [if_pos found]
  rfl

theorem primary_call (h : ReadsCall (primary g) c a c') : Enclosed g c a c' := by
  obtain ⟨run, call⟩ := h
  rw [primary, bind_run peek_run] at run
  have bracketed (other : c.peek.kind ≠ .word) (run : (eat "(" >>= fun x =>
      if x = true then sequence g.assignment >>= fun expr => Functor.discard (expect ")") >>= fun _ =>
        pure expr
      else sees "[" >>= fun x => if x = true then arrayLiteral g else sees "\x7b" >>= fun x =>
        if x = true then objectLiteral g else fail (.unexpected c.peek.text)) c = .ok (a, c')) :
      Enclosed g c a c' := by
    rw [eat_run] at run
    split at run
    next paren =>
      obtain ⟨u, c₁, opened, run⟩ := exists_of_bind run
      cases opened
      obtain ⟨expr, c₂, inner, run⟩ := exists_of_bind run
      obtain ⟨u, c₃, close, run⟩ := exists_of_bind run
      obtain ⟨t, close⟩ := exists_of_discard close
      cases run
      obtain ⟨paren', rfl⟩ := expect_cases close
      rw [Cursor.advance_tree] at call
      exact ⟨⟨(Token.kind_of_spells paren).resolve_right other, Token.text_of_spells paren⟩, c₂,
        ⟨inner, call⟩, paren', rfl⟩
    next =>
      refine absurd call (Gives.bind (U := fun a c => c.tree.kind? (some a) ≠ some .callExpression)
        (fun _ => .ite arrayLiteral_avoids (.bind fun _ => .ite objectLiteral_avoids .fail)) run)
  cases kind : c.peek.kind with
  | string | number =>
    simp only [kind] at run
    exact absurd call (literal_avoids run)
  | template =>
    simp only [kind] at run
    refine absurd call (Gives.bind (U := fun a c => c.tree.kind? (some a) ≠ some .callExpression)
        (fun _ => ?_) run)
    exact other_avoids
  | word =>
    simp only [kind] at run
    exact absurd call (wordExpression_avoids run)
  | punctuator | eof =>
    simp only [kind] at run
    exact bracketed (by simp [kind]) run

theorem startsExpression_of_spells {t : Token} {text : Text} (spelled : t.spells text)
    (mem : text ∈ List.map utf8 ["(", "[", "\x7b"]) : t.startsExpression := by
  obtain kind | kind := Token.kind_of_spells spelled
  · rw [Token.startsExpression, kind, Token.text_of_spells spelled]
    simp only [List.map_cons, List.map_nil, List.mem_cons, List.not_mem_nil, or_false] at mem
    obtain rfl | rfl | rfl := mem <;> decide
  · simp [Token.startsExpression, kind]

theorem startsExpression_of_primary (run : primary g c = .ok (a, c')) :
    c.peek.startsExpression := by
  rw [primary, bind_run peek_run] at run
  cases kind : c.peek.kind with
  | string | number | template | word => simp [Token.startsExpression, kind]
  | punctuator | eof =>
    simp only [kind] at run
    rw [eat_run] at run
    split at run
    next paren => exact startsExpression_of_spells paren (by decide)
    next =>
    simp only [Bool.false_eq_true, if_false, sees_run] at run
    split at run
    next bracket => exact startsExpression_of_spells bracket (by decide)
    next =>
    rw [sees_run] at run
    split at run
    next brace => exact startsExpression_of_spells brace (by decide)
    next => cases run

/-- The node of a call that is the first to be built where the cursor stands. -/
structure Begins (c : Cursor) (a : NodeId) (c' : Cursor) : Prop where
  start : (c'.tree.span (some a)).start = c.peek.start
  first : c.peek.spells "new" ∨ c.peek.startsExpression

theorem leftHandSide_call (h : ReadsCall (leftHandSide g) c a c') :
    Unlinked c' ∧ (Begins c a c' ∨ Enclosed g c a c') := by
  obtain ⟨run, call⟩ := h
  rw [leftHandSide, bind_run here_run, sees_run] at run
  have links {first : NodeId} {c₁ : Cursor} (rest : chain g c.peek.start true first c₁ = .ok (a, c')) :
      Unlinked c' ∧ (a = first ∧ c' = c₁ ∨ (c'.tree.span (some a)).start = c.peek.start) := by
    obtain ⟨last, known⟩ := improve_cases rest (fun run => (unlinked_of_link run).2)
      fun _ => link_startsAt
    exact ⟨(unlinked_of_link last).1, known⟩
  split at run
  next word =>
    obtain ⟨first, c₁, operand, rest⟩ := exists_of_bind run
    obtain ⟨unlinked, ⟨rfl, rfl⟩ | start⟩ := links rest
    · exact absurd call (construct_avoids operand)
    · exact ⟨unlinked, .inl ⟨start, .inl word⟩⟩
  next =>
    obtain ⟨first, c₁, operand, rest⟩ := exists_of_bind run
    obtain ⟨unlinked, ⟨rfl, rfl⟩ | start⟩ := links rest
    · exact ⟨unlinked, .inr (primary_call ⟨operand, call⟩)⟩
    · exact ⟨unlinked, .inl ⟨start, .inr (startsExpression_of_primary operand)⟩⟩

/-- An expression that has been read goes on in no way. -/
structure Finished (c : Cursor) : Prop where
  unlinked : Unlinked c
  still : Still c
  complete : Complete c

/-- An expression that turns out to be a call. -/
structure CallAt (g : Grammar) (c : Cursor) (a : NodeId) (c' : Cursor) : Prop where
  finished : Finished c'
  arrowless : Arrowless c
  operand : ReadsCall (unary g) c a c'
  cases : Begins c a c' ∨ Enclosed g c a c'

theorem callAt_of_expression (h : ReadsCall (expression g) c a c') : CallAt g c a c' := by
  obtain ⟨assignment, comma⟩ := expression_call h
  obtain ⟨conditional, arrowless, assigns⟩ := assignment_call assignment
  obtain ⟨binary, mark⟩ := conditional_call conditional
  obtain ⟨unary, level⟩ := binary_call binary
  obtain ⟨updated, -⟩ := unary_call unary
  obtain ⟨leftHandSide, still⟩ := updated_call updated
  obtain ⟨unlinked, cases⟩ := leftHandSide_call leftHandSide
  exact ⟨⟨unlinked, still, level, mark, assigns, comma⟩, arrowless, unary, cases⟩

/-! ## The other way round -/

variable {b : NodeId} {e : GrammarError}

theorem bind_error {α β : Type} {p : Parser α} {f : α → Parser β} (run : p c = .error e) :
    (p >>= f) c = .error e := by
  simp only [Bind.bind, StateT.bind, run, Except.bind]

theorem assignment_of_unary (operand : unary h d = .ok (b, c)) (arrowless : Arrowless d)
    (complete : Complete c) : assignment h d = .ok (b, c) := by
  have binary : binary h 0 d = .ok (b, c) := by
    rw [binary, bind_run here_run, bind_run operand]
    exact improve_of_none (binaryStep_of_le complete.level)
  have conditional : conditional h d = .ok (b, c) := by
    rw [conditional, bind_run here_run, bind_run binary, eat_run, complete.mark]
    rfl
  rw [assignment, bind_run (arrowKind?_of_arrowless arrowless)]
  simp only
  rw [bind_run here_run, bind_run conditional, bind_run peek_run]
  simp only [complete.assigns, Bool.false_eq_true, if_false]
  rfl

theorem expression_of_assignment (run : assignment h d = .ok (b, c))
    (comma : c.peek.spells "," = false) : expression h d = .ok (b, c) := by
  have one : commaChain (assignment h) (d.rest.length + 1) d = .ok ([b], c) := by
    rw [commaChain, bind_run run, eat_run, comma]
    rfl
  rw [expression, sequence, bind_run here_run, bind_run (show rounds d = .ok (_, d) from rfl),
    bind_run one]
  rfl

theorem expression_of_error (operand : unary h d = .error e) (arrowless : Arrowless d) :
    expression h d = .error e := by
  have binary : binary h 0 d = .error e := by
    rw [binary, bind_run here_run, bind_error operand]
  have conditional : conditional h d = .error e := by
    rw [conditional, bind_run here_run, bind_error binary]
  have assignment : assignment h d = .error e := by
    rw [assignment, bind_run (arrowKind?_of_arrowless arrowless)]
    simp only
    rw [bind_run here_run, bind_error conditional]
  rw [expression, sequence, bind_run here_run, bind_run (show rounds d = .ok (_, d) from rfl)]
  refine bind_error ?_
  rw [commaChain, bind_error assignment]

/-- Where nothing goes on after it, an expression is what is read for its operand. -/
theorem expression_arrives {Q : NodeId → Cursor → Prop} (operand : Arrives (unary h d) Q)
    (arrowless : Arrowless d) (finished : ∀ b d', Q b d' → Finished d') :
    Arrives (expression h d) Q := by
  cases run : unary h d with
  | error e =>
    rw [run] at operand
    rw [expression_of_error run arrowless]
    exact operand
  | ok out =>
    rw [run] at operand
    have complete := (finished _ _ operand).complete
    rw [expression_of_assignment (assignment_of_unary run arrowless complete) complete.comma]
    exact operand

/-- And so is one between parentheses. -/
theorem unary_arrives {Q S : NodeId → Cursor → Prop} (paren : Opens d.peek)
    (inner : Arrives (sequence h.assignment d.advance) Q)
    (closed : ∀ b d', Q b d' → d'.peek.spells ")" ∧ Finished d'.advance ∧ S b d'.advance) :
    Arrives (unary h d) S := by
  have spelled : d.peek.spells "(" = true := Token.spells_of_text (.inl paren.kind) paren.text
  have apart (text : Text) (ne : text ≠ utf8 "(") : d.peek.spells text = false := by
    rw [Bool.eq_false_iff]
    exact fun spelled => ne ((Token.text_of_spells spelled).symm.trans paren.text)
  have first : Arrives (primary h d) fun b d' => Finished d' ∧ S b d' := by
    rw [primary, bind_run peek_run]
    simp only [paren.kind]
    rw [eat_run, spelled]
    change Arrives ((sequence h.assignment >>= fun expr => Functor.discard (expect ")") >>= fun _ =>
      pure expr) d.advance) _
    refine inner.bind (f := fun expr => Functor.discard (expect ")") >>= fun _ => pure expr)
      fun b d' known => ?_
    obtain ⟨close, finished⟩ := closed b d' known
    rw [Rewriting.Tracks.expect_run, if_pos close]
    exact finished
  have chained : Arrives (leftHandSide h d) fun b d' => Finished d' ∧ S b d' := by
    rw [leftHandSide, bind_run here_run, sees_run, apart (utf8 "new") (by decide)]
    refine first.bind (f := fun b => chain h d.peek.start true b) fun b d' known => ?_
    rw [chain, improve_of_none (link_of_unlinked known.1.unlinked)]
    exact known
  have plain : unaryType? d.peek = none := by
    rw [unaryType?, paren.kind, paren.text]
    decide
  rw [unary, bind_run peek_run]
  simp only [plain]
  change Arrives ((if (d.peek.spells "await" && decide (d.peek.kind = .word) &&
    (d.peekAt 1).startsExpression) = true then _ else updated h d.peek.start : Parser NodeId) d) _
  rw [apart (utf8 "await") (by decide)]
  refine chained.bind (f := fun b => sees "++" >>= fun plus => sees "--" >>= fun minus =>
    newlineBefore >>= fun broken => if ((plus || minus) && !broken) = true then
      Functor.discard advance >>= fun _ => other d.peek.start "UpdateExpression" [b] else pure b)
    fun b d' known => ?_
  have still : ((d'.peek.spells "++" || d'.peek.spells "--") && !d'.newlineBefore) = false :=
    known.1.still
  change Arrives ((if ((d'.peek.spells "++" || d'.peek.spells "--") && !d'.newlineBefore) = true then
    _ else pure b : Parser NodeId) d') S
  rw [still]
  exact known.2

end Parser
end TreeLint.Script
