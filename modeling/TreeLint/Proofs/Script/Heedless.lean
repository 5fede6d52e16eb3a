import TreeLint.Proofs.Script.Expression

/-! # What the line break before the first token is worth

No expression looks at the line break before its first token, for the only thing that would tell
is where the token before it ends, and every expression reads a token before it looks there
(`Heedless`). -/

namespace TreeLint.Script

/-- Where such a token comes next, the parser does not ask where the last one has ended. -/
def Heedless {α : Type} (H : Token → Prop) (p : Parser α) : Prop :=
  ∀ c x, H c.peek → p { c with previousEnd := x } = p c

namespace Heedless

variable {α β : Type} {H K : Token → Prop} {p q : Parser α} {f : α → Parser β}

theorem mono (h : Heedless K p) (imp : ∀ t, H t → K t) : Heedless H p :=
  fun c x head => h c x (imp _ head)

theorem bind (h : Heedless H p) : Heedless H (p >>= f) := by
  intro c x head
  simp only [Bind.bind, StateT.bind, h c x head]

theorem map {g : α → β} (h : Heedless H p) : Heedless H (g <$> p) :=
  h.bind (f := fun a => Pure.pure (g a))

theorem discard (h : Heedless H p) : Heedless H (Functor.discard p) := h.map

theorem fail {problem : Problem} : Heedless H (Parser.fail problem : Parser α) := fun _ _ _ => rfl

theorem ite {b : Prop} [Decidable b] (yes : b → Heedless H p) (no : ¬ b → Heedless H q) :
    Heedless H (if b then p else q) := by
  split
  next h => exact yes h
  next h => exact no h

/-- What is found ahead does not hang on it either. -/
theorem look {b : Cursor → α} (h : ∀ a, Heedless H (f a)) (finds : ∀ c, p c = .ok (b c, c))
    (same : ∀ c x, b { c with previousEnd := x } = b c) : Heedless H (p >>= f) := by
  intro c x head
  simp only [Bind.bind, StateT.bind, Except.bind, finds, same]
  exact h (b c) c x head

theorem here {f : UInt32 → Parser α} (h : ∀ a, Heedless H (f a)) :
    Heedless H (Parser.here >>= f) :=
  look (b := fun c => c.peek.start) h (fun _ => rfl) fun _ _ => rfl

theorem peekAt {f : Token → Parser α} {n : Nat} (h : ∀ a, Heedless H (f a)) :
    Heedless H (Parser.peekAt n >>= f) :=
  look (b := fun c => c.peekAt n) h (fun _ => rfl) fun _ _ => rfl

theorem seesNext {f : Bool → Parser α} {text : Text} (h : ∀ a, Heedless H (f a)) :
    Heedless H (Parser.seesNext text >>= f) :=
  look (b := fun c => (c.peekAt 1).spells text) h (fun _ => rfl) fun _ _ => rfl

theorem peek {f : Token → Parser α} (h : ∀ t, H t → Heedless (· = t) (f t)) :
    Heedless H (Parser.peek >>= f) :=
  fun c x head => h c.peek head c x rfl

theorem sees {f : Bool → Parser α} {text : Text}
    (yes : Heedless (fun t => H t ∧ t.spells text) (f true)) (no : Heedless H (f false)) :
    Heedless H (Parser.sees text >>= f) := by
  intro c x head
  have split (d : Cursor) : (Parser.sees text >>= f) d = f (d.peek.spells text) d := rfl
  rw [split, split]
  cases seen : c.peek.spells text with
  | true => exact (congrFun (congrArg f seen) _).trans (yes c x ⟨head, seen⟩)
  | false => exact (congrFun (congrArg f seen) _).trans (no c x head)

theorem advance (live : ∀ t, H t → t.kind ≠ .eof) : Heedless H Parser.advance := by
  intro c x head
  have step : (Cursor.advance { c with previousEnd := x }) = c.advance := by
    have other := live c.peek head
    rw [Cursor.advance, Cursor.advance, if_neg other]
    exact if_neg other
  exact congrArg (fun c' => Except.ok (c.peek, c')) step

theorem expect {text : Text} : Heedless H (Parser.expect text) := by
  refine sees ?_ (peek fun _ _ => fail)
  exact advance fun t known => Token.kind_ne_of_spells known.2

theorem atKind {f : Bool → Parser α} {kind : TokenKind}
    (yes : Heedless (fun t => H t ∧ t.kind = kind) (f true)) (no : Heedless H (f false)) :
    Heedless H (Parser.atKind kind >>= f) := by
  intro c x head
  have split (d : Cursor) : (Parser.atKind kind >>= f) d = f (d.peek.kind == kind) d := rfl
  rw [split, split]
  cases seen : c.peek.kind == kind with
  | true => exact (congrFun (congrArg f seen) _).trans (yes c x ⟨head, eq_of_beq seen⟩)
  | false => exact (congrFun (congrArg f seen) _).trans (no c x head)

theorem word : Heedless H Parser.word := by
  refine atKind (advance fun t known => ?_) (peek fun _ _ => fail)
  simp [known.2]

theorem eat {text : Text} (no : Heedless H q) :
    Heedless H (Parser.eat text >>= fun x => if x = true then p else q) := by
  have split (d : Cursor) : (Parser.eat text >>= fun x => if x = true then p else q) d =
      (Parser.sees text >>= fun x => if x = true then Functor.discard Parser.advance >>= fun _ => p
        else q) d := by
    change (Parser.eat text >>= _) d = (if d.peek.spells text = true then _ else q) d
    have run : Parser.eat text d = (if d.peek.spells text = true then
      Functor.discard Parser.advance >>= fun _ => Pure.pure true else Pure.pure false : Parser Bool) d :=
      rfl
    simp only [Bind.bind, StateT.bind, run]
    split <;> rfl
  intro c x head
  rw [split, split]
  refine sees (H := H) (f := fun x => if x = true then Functor.discard Parser.advance >>= fun _ => p
    else q) ?_ no c x head
  exact bind (discard (advance fun t known => Token.kind_ne_of_spells known.2))

/-- Where the word is known to come next, reading it is all there is to it. -/
theorem eaten {f : Bool → Parser α} {text : Text} (known : ∀ t, H t → t.spells text) :
    Heedless H (Parser.eat text >>= f) := by
  have run (d : Cursor) (spelled : d.peek.spells text) : (Parser.eat text >>= f) d =
      (Functor.discard Parser.advance >>= fun _ => f true) d := by
    have read : Parser.eat text d = (if d.peek.spells text = true then
      Functor.discard Parser.advance >>= fun _ => Pure.pure true else Pure.pure false : Parser Bool) d :=
      rfl
    simp only [Bind.bind, StateT.bind, read, if_pos spelled]
    rfl
  intro c x head
  have live (t : Token) (head : H t) : t.kind ≠ .eof := Token.kind_ne_of_spells (known t head)
  calc (Parser.eat text >>= f) { c with previousEnd := x }
    _ = _ := run { c with previousEnd := x } (known _ head)
    _ = _ := bind (discard (advance live)) c x head
    _ = (Parser.eat text >>= f) c := (run c (known _ head)).symm

theorem rounds {f : Nat → Parser α} (h : ∀ n, Heedless H (f n)) :
    Heedless H (Parser.rounds >>= f) :=
  look (b := fun c => c.rest.length + 1) h (fun _ => rfl) fun _ _ => rfl

theorem commaItems {close : Text} {item : Parser α} {F : List α → Parser β} {n : Nat}
    (each : Heedless H item) (done : Heedless (fun t => H t ∧ t.spells close) (F [])) :
    Heedless H (Parser.commaItems close item n >>= F) := by
  cases n with
  | zero => exact fail.bind
  | succ n =>
    let more (a : α) : Parser (List α) := Parser.eat "," >>= fun x =>
      if x = true then Parser.commaItems close item n >>= fun l => Pure.pure (a :: l)
      else Pure.pure [a]
    have split : (Parser.commaItems close item (n + 1) >>= F) = Parser.sees close >>= fun x =>
        if x = true then F [] else item >>= fun a => more a >>= F := by
      change (Parser.sees close >>= fun x => if x = true then Pure.pure [] else item >>= more) >>= F = _
      rw [bind_assoc]
      congr 1
      funext x
      cases x with
      | true => rfl
      | false => exact bind_assoc _ _ _
    rw [split]
    exact sees done each.bind

end Heedless

/-! ## Expressions -/

namespace Parser

variable {g : Grammar} {H : Token → Prop} {start : UInt32}

theorem identifier_heedless : Heedless H identifier := Heedless.word.bind

theorem literal_heedless : Heedless H literal := by
  refine .peek fun t _ => ?_
  cases kind : literalKind? t with
  | none => exact .fail
  | some k =>
    refine .bind (.discard (.advance fun s same => ?_))
    exact same ▸ kind_ne_of_literalKind? kind

theorem function_heedless {form : FunctionForm} {isAsync : Bool} :
    Heedless H (function g form start isAsync) :=
  .bind (.discard .expect)

theorem classNode_heedless {form : ClassForm} {isAbstract : Bool} :
    Heedless H (classNode g form start isAbstract) :=
  .bind (.discard .expect)

theorem arrayLiteral_heedless : Heedless H (arrayLiteral g) := .bind .expect

theorem objectLiteral_heedless : Heedless H (objectLiteral g) := .bind .expect

theorem wordExpression_heedless {t : Token} (live : t.kind ≠ .eof) :
    Heedless (· = t) (wordExpression g t) := by
  refine .ite (fun _ => literal_heedless) fun _ => .eat (.eat ?_)
  refine .ite (fun _ => function_heedless) fun _ => ?_
  refine .seesNext fun next => .ite (fun _ => ?_) fun _ => .ite (fun _ => classNode_heedless) fun _ => ?_
  · exact .bind (.discard (.advance fun s same => same ▸ live))
  · exact identifier_heedless

theorem primary_heedless : Heedless H (primary g) := by
  refine .peek fun t _ => ?_
  cases kind : t.kind with
  | string | number => exact literal_heedless
  | template => exact .bind (.discard (.advance fun s same => by simp [same, kind]))
  | word => exact wordExpression_heedless (by simp [kind])
  | punctuator | eof =>
    refine .eat (.sees ?_ (.sees ?_ .fail))
    · exact arrayLiteral_heedless
    · exact objectLiteral_heedless

theorem construct_heedless : Heedless H (construct g) := .bind .expect

theorem leftHandSide_heedless : Heedless H (leftHandSide g) := by
  refine .here fun x => .sees ?_ ?_
  · exact construct_heedless.bind
  · exact primary_heedless.bind

theorem propertyKey_heedless : Heedless H (propertyKey g) := by
  refine .peek fun t _ => .ite (fun _ => literal_heedless.bind) fun _ => .eat ?_
  exact .ite (fun _ => identifier_heedless.bind) fun _ => .fail

theorem spreadOr_heedless (known : ∀ t, H t → t.spells "...") : Heedless H (spreadOr g) :=
  .here fun _ => .eaten known

theorem eatMemberWord_heedless {α : Type} {f : Option Text → Parser α}
    (h : ∀ word?, Heedless H (f word?)) : Heedless H (eatMemberWord >>= f) := by
  let found (c : Cursor) : Bool :=
    (c.peek.spells "get" || c.peek.spells "set" || c.peek.spells "async") &&
      (c.peekAt 1).startsMemberName
  let read : Parser α := advance >>= fun t => f (some t.text)
  have split (c : Cursor) : (eatMemberWord >>= f) c = (if found c then read else f none) c := by
    have run : eatMemberWord c = (if found c then advance >>= fun t => pure (some t.text)
      else pure none : Parser (Option Text)) c := rfl
    simp only [Bind.bind, StateT.bind, run]
    split <;> rfl
  intro c x head
  rw [split, split]
  change (if found c then read else f none) _ = _
  cases known : found c with
  | false => exact h none c x head
  | true =>
    simp only [found, Bool.and_eq_true, Bool.or_eq_true] at known
    have live : c.peek.kind ≠ .eof := by
      obtain ((known | known) | known) := known.1 <;> exact Token.kind_ne_of_spells known
    exact Heedless.bind (H := (· = c.peek)) (Heedless.advance fun t same => same ▸ live) c x rfl

theorem objectMember_heedless : Heedless H (objectMember g) :=
  .sees (spreadOr_heedless fun _ known => known.2) <| .here fun _ =>
    eatMemberWord_heedless fun _ => propertyKey_heedless.bind

theorem unary_heedless : Heedless H (unary g) := by
  refine .peek fun t _ => ?_
  cases type : unaryType? t with
  | some type' =>
    refine .bind (.discard (.advance fun s same => ?_))
    exact same ▸ kind_ne_of_unaryType? type
  | none =>
    refine .peekAt fun next => .ite (fun await => ?_) fun _ => leftHandSide_heedless.bind
    refine .bind (.discard (.advance fun s same => ?_))
    simp only [Bool.and_eq_true, decide_eq_true_eq] at await
    simp [same, await.1.2]

end Parser
end TreeLint.Script
