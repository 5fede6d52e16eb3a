import TreeLint.Proofs.Rewriting.Type

/-! # Functions, classes and expressions in both runs -/

namespace TreeLint.Script

namespace Near

variable {t u : Token}

theorem isAssignment (h : Near t u) : u.isAssignment = t.isAssignment := by
  cases h with
  | same => rfl
  | exported opens =>
    rw [Token.isAssignment, Token.isAssignment, opens.1]
    rfl

theorem operatorLevel? (h : Near t u) : operatorLevel? u = operatorLevel? t := by
  cases h with
  | same => rfl
  | exported opens =>
    obtain ⟨kind, text | text⟩ := opens <;>
      rw [Script.operatorLevel?, Script.operatorLevel?, kind, text] <;> decide

end Near

/-- An object literal before its node is made. -/
def Parser.objectHead (g : Grammar) : Parser (UInt32 × List NodeId) := do
  let brace ← Parser.expect "\x7b"
  let members ← Parser.commaList "\x7d" (Parser.objectMember g)
  return (brace.start, members)

theorem Parser.objectLiteral_eq (g : Grammar) : Parser.objectLiteral g =
    Parser.objectHead g >>= fun head => Parser.node head.1 (.list .object (head.2.map some)) := by
  unfold Parser.objectLiteral Parser.objectHead
  simp only [bind_assoc, pure_bind]

namespace Rewriting.Tracks

variable {R : Rewriting} {g h : Grammar} {e : Tail} {k : Manner} {H : Token → Prop} {P : Facts}
  {α : Type} {V : α → α → Facts}

variable (both : R.Abreast g h)

include both

/-! ## Functions and classes -/

theorem blockStatement : R.Tracks .near .firm H P (Parser.blockStatement g)
    (Parser.blockStatement h) R.Same := by
  refine bindToken (expect rfl) fun t x y => bind (block (both.statement.ofFree.mono rfl) rfl)
    fun l l' => ?_
  exact node (fun _ _ known => .list (Facts.refs known.2)) rfl

omit both in
/-- A name that may be missing. -/
theorem name? : R.Tracks .near .calmly H P
    (Parser.atKind .word >>= fun x => if x = true then some <$> Parser.identifier else Pure.pure
    none)
    (Parser.atKind .word >>= fun x => if x = true then some <$> Parser.identifier else Pure.pure
    none)
    (.option R.Same) := by
  refine atKind fun x => ite (fun _ => ?_) fun _ => pure fun _ _ _ => .none
  exact map identifier.ofFirm fun _ _ _ _ same => .some same

theorem function {form : FunctionForm} {start start' : UInt32} {isAsync : Bool}
    (spared : ∀ {name params type body isGenerator}, R.Spares
      (Shape.function ⟨form, name, params, type, body, isAsync, isGenerator, false⟩).kind) :
    R.Tracks .near .firm H P (Parser.function g form start isAsync)
      (Parser.function h form start' isAsync) R.Same := by
  refine skip (expect rfl) (bindSame (eaten rfl) fun isGenerator => optional name? fun a b => ?_)
  refine bind skipTypeParams fun _ _ => bind (params both) fun l l' => ?_
  refine bind (colonType both) fun type type' => bind (blockStatement both) fun i j => ?_
  refine nodeOf (fun t u known => ?_) spared
  obtain ⟨⟨⟨⟨⟨-, name⟩, -⟩, params⟩, type⟩, body⟩ := known
  exact .function name (Facts.refs params) type (.some body)

theorem methodFunction {isAsync : Bool} :
    R.Tracks .near .firm H P (Parser.methodFunction g isAsync) (Parser.methodFunction h isAsync)
      R.Same := by
  refine here fun x y => bind skipTypeParams fun _ _ => bind (params both) fun l l' => ?_
  refine bind (colonType both) fun type type' => bind (blockStatement both) fun i j => ?_
  refine node (fun t u known => ?_) rfl
  obtain ⟨⟨⟨-, params⟩, type⟩, body⟩ := known
  exact .function .none (Facts.refs params) type (.some body)

instance : Nonempty Parser.Modifiers := ⟨{}⟩

omit both in
theorem modifiers : R.Tracks .near .calmly H P Parser.modifiers Parser.modifiers
    fun a b => .of (b = a) := by
  refine improveSame rfl fun m => ?_
  let read (t : Token) : Parser (Option Parser.Modifiers) :=
    Functor.discard Parser.advance >>= fun _ => Pure.pure (some (m.note t.text))
  refine leads (fun t => decide (t.kind = .word) && Parser.memberModifiers.contains t.text)
    Token.startsMemberName read read (fun twin => twin.startsMemberName) (fun t found => ?_)
    (fun t x y found => ?_) (pure fun _ _ _ => .none) (fun _ => rfl) (fun _ => rfl) (fun _ => rfl)
    (fun _ => rfl)
  · simp only [Bool.and_eq_true, List.contains_iff_mem] at found
    exact apart_of_mem found.2 rfl
  · simp only [Bool.and_eq_true, decide_eq_true_eq] at found
    refine skip (advanceSolid fun s known => ?_) (pure fun _ _ _ => .some rfl)
    exact known.2 ▸ .of_word found.1

theorem fieldRest : R.Tracks .near .any H P (Parser.fieldRest g) (Parser.fieldRest h)
    fun a b => (Facts.option R.Same a.1 b.1).and (.option R.Same a.2 b.2) := by
  refine bind (colonType both) fun type type' => ?_
  refine optional (j := .calmly) (V := .option R.Same) ?_ fun value value' => ?_
  · refine eat (map both.assignment.anywhere.ofFirm fun _ _ _ _ same => .some same) ?_ rfl
    exact pure fun _ _ _ => .none
  · refine bind semicolon fun _ _ => pure fun _ _ known => ⟨known.1.1.2, known.1.2⟩

theorem classMember :
    R.KeepsUp .near .some (Parser.classMember g) (Parser.classMember h) R.Same := by
  refine here fun x y => bindSame modifiers fun m => ?_
  refine bind (propertyKey both) fun ⟨key, computed⟩ ⟨key', computed'⟩ => ?_
  let method (g : Grammar) (start : UInt32) (key : NodeId) (computed : Bool) (name? : Option Text) :
      Parser NodeId :=
    Parser.methodFunction g m.isAsync >>= fun value =>
      Parser.node start (.methodDefinition ⟨some key, some value,
        if (name? == some (utf8 "constructor") && m.kind == utf8 "method") = true then
          utf8 "constructor" else m.kind, computed, m.isStatic⟩)
  refine eatBind (ite nofun fun _ => ?_) (ite (fun _ => skip (eaten rfl) ?_) fun no =>
    (no rfl).elim) rfl
  all_goals
    refine seesSignature fun called => ite (fun _ => ?_) fun _ => ?_
    · refine keyName (method g x key computed) (method h y key' computed')
        (fun _ _ known => known.2.1) fun name? => ?_
      refine bind (methodFunction both) fun value value' => node ?_ rfl
      rintro t u ⟨⟨-, same, rfl⟩, value⟩
      exact .methodDefinition (.some same) (.some value)
    · refine bind (fieldRest both) fun ⟨type, value⟩ ⟨type', value'⟩ => node ?_ rfl
      rintro t u ⟨⟨-, same, rfl⟩, type, value⟩
      exact .propertyDefinition (.some same) type value

theorem classBody : R.Tracks .near .firm H P (Parser.classBody g) (Parser.classBody h) R.Same := by
  refine bindToken (expect rfl) fun t x y => ?_
  refine bind (block (V := .option R.Same) (eatSemicolon ?_ ?_) rfl) fun l l' => ?_
  · exact pure fun _ _ _ => .none
  · exact map ((classMember both).anywhere.mono rfl) fun _ _ _ _ same => .some same
  · exact node (fun _ _ known => .list (Facts.refs (Facts.filterMap known.2))) rfl

omit both in
theorem implemented : R.KeepsUp .near .firm Parser.implemented Parser.implemented R.Same := by
  refine here fun x y => bind entityName fun a b => bind skipTypeParams fun _ _ => node ?_ rfl
  exact fun _ _ known => .wrap (.some known.1.2)

/-! ## Chains -/

/-- One expression, or several that are read in sequence. -/
def sequenceOf (start : UInt32) : List NodeId → Parser NodeId
  | [a] => Pure.pure a
  | l => Parser.other start "SequenceExpression" l

omit both in
theorem sequence {assignment assignment' : Parser NodeId}
    (each : R.KeepsUp .near .firm assignment assignment' R.Same) :
    R.Tracks .near .firm H P (Parser.sequence assignment) (Parser.sequence assignment') R.Same := by
  have several {start : UInt32} {l : List NodeId} (len : l.length ≠ 1) :
      sequenceOf start l = Parser.other start "SequenceExpression" l := by
    rcases l with _ | ⟨a, _ | ⟨b, l⟩⟩
    · rfl
    · exact (len rfl).elim
    · rfl
  refine here fun x y => rounds fun n m => ?_
  refine thenStill ((commaChain each n m).pre (fun _ _ => trivial) fun _ _ h => h) fun l l' => ?_
  refine oneOr (sequenceOf x) (sequenceOf y) (fun _ _ known => known.2) (fun _ => rfl) (fun _ => rfl)
    fun l m len len' => ?_
  rw [several len, several len']
  exact .node (fun _ _ known => .other (Facts.refs known)) rfl

theorem spreadOr : R.KeepsUp .near .firm (Parser.spreadOr g) (Parser.spreadOr h) R.Same := by
  refine here fun x y => eat ?_ both.assignment.anywhere rfl
  exact bind both.assignment.anywhere fun a b => node (fun _ _ known => .wrap (.some known.2)) rfl

theorem callArguments : R.Tracks .near .firm H P (Parser.callArguments g) (Parser.callArguments h)
    (.list (.option R.Same)) := by
  refine skip (expect rfl) (map (commaList (spreadOr both) rfl).ofFirm fun l l' t u known => ?_)
  exact Facts.refs known

theorem bracketProperty : R.Tracks .near .firm H P (Parser.bracketProperty g)
    (Parser.bracketProperty h) R.Same := by
  refine bind (sequence both.assignment) fun a b => skip (expect rfl)
    (pure fun _ _ known => known.2)

theorem optionalLink {start start' : UInt32} {calls : Bool} {expr expr' : NodeId} :
    R.Tracks .near .firm H (P.and (R.Same expr expr')) (Parser.optionalLink g start calls expr)
      (Parser.optionalLink h start' calls expr') R.Same := by
  refine sees (fun paren => ite (fun _ => ?_) fun _ => eat ?_ ?_ rfl) rfl
  · refine bind (callArguments both) fun l l' => node ?_ rfl
    exact fun _ _ known => .call (.some known.1.2) known.2
  · refine bind (bracketProperty both) fun a b => node ?_ rfl
    exact fun _ _ known => .member (.some known.1.2) (.some known.2)
  · refine bind identifier fun a b => node ?_ rfl
    exact fun _ _ known => .member (.some known.1.2) (.some known.2)

theorem link {start start' : UInt32} {calls : Bool} {expr expr' : NodeId} :
    R.Tracks .near .calmly H (P.and (R.Same expr expr')) (Parser.link g start calls expr)
      (Parser.link h start' calls expr') (.option R.Same) := by
  refine eat ?_ (eat ?_ (eat ?_ (sees (fun paren => ite (fun _ => ?_) fun _ =>
    ?_) rfl) rfl) rfl) rfl
  · refine bind identifier fun a b => map (V := R.Same) (node ?_ rfl) fun _ _ _ _ same => .some same
    exact fun _ _ known => .member (.some known.1.2) (.some known.2)
  · exact map (optionalLink both).ofFirm fun _ _ _ _ same => .some same
  · refine bind (bracketProperty both) fun a b => ?_
    refine map (V := R.Same) (node ?_ rfl) fun _ _ _ _ same => .some same
    exact fun _ _ known => .member (.some known.1.2) (.some known.2)
  · refine bind (callArguments both) fun a b => ?_
    refine map (V := R.Same) (node ?_ rfl) fun _ _ _ _ same => .some same
    exact fun _ _ known => .call (.some known.1.2) known.2
  · refine sees (fun mark => newlineBefore fun broken => ite (fun found => ?_) fun _ => pure
      fun _ _ _ => .none) rfl
    rw [Bool.and_eq_true] at found
    refine skip (advanceSolid fun s known => .of_spells (known.2.trans found.1) (by decide)) ?_
    refine map (V := R.Same) (node ?_ rfl) fun _ _ _ _ same => .some same
    exact fun _ _ known => .other (.cons (.some known.2) .nil)

theorem chain {start start' : UInt32} {calls : Bool} {expr expr' : NodeId}
    (same : ∀ t u, P.holds t u → (R.Same expr expr').holds t u) :
    R.Tracks .near .calmly H P (Parser.chain g start calls expr) (Parser.chain h start' calls expr')
      R.Same :=
  improve rfl (fun _ _ => link both) same

/-! ## Primary expressions -/

theorem classNode {form : ClassForm} {start start' : UInt32} {isAbstract : Bool} :
    R.Tracks .near .firm H P (Parser.classNode g form start isAbstract)
      (Parser.classNode h form start' isAbstract) R.Same := by
  let super (g : Grammar) : Parser Ref :=
    Parser.here >>= fun superStart => g.primary >>= fun first =>
      Parser.chain g superStart false first >>= fun super =>
        Parser.skipTypeParams >>= fun _ => Pure.pure (some super)
  let heirs : Parser (List NodeId) := Parser.rounds >>= Parser.commaChain Parser.implemented
  refine skip (expect rfl) (atKind fun word => sees (fun extended => sees
    (fun implemented => ?_) rfl) rfl)
  refine join (j := .calmly) (V := .option R.Same) ?_ fun name name' => bind skipTypeParams
    fun _ _ => ?_
  · refine ite (fun _ => ?_) fun _ => pure fun _ _ _ => .none
    exact map identifier.ofFirm fun _ _ _ _ same => .some same
  refine optionalOf (j := .calmly) (V := .option R.Same) (super g) (super h) ?_
    (fun parent parent' => ?_) (by simp only [super, bind_assoc, pure_bind])
    (by simp only [super, bind_assoc, pure_bind])
  · refine eat (here fun x y => bind both.primary.anywhere fun a b => ?_)
      (pure fun _ _ _ => .none) rfl
    refine bind (chain both fun _ _ known => known.2) fun a b => bind skipTypeParams fun _ _ => ?_
    exact pure fun _ _ known => .some known.1.2
  refine optionalOf (j := .calmly) (V := .list R.Same) heirs heirs ?_ (fun l l' => ?_)
    (by simp only [heirs, bind_assoc]) (by simp only [heirs, bind_assoc])
  · refine eat (rounds fun n m => ?_) (pure fun _ _ _ => .nil) rfl
    exact ((commaChain Tracks.implemented n m).pre (fun _ _ => trivial) fun _ _ h => h).ofFirm
  · refine bind (classBody both) fun body body' => node (fun t u known => ?_) ?_
    · exact .classNode known.1.1.1.1.2 known.1.1.2 (Facts.refs known.1.2) (.some known.2)
    · cases form <;> rfl

theorem arrayLiteral : R.Tracks .near .firm H P (Parser.arrayLiteral g) (Parser.arrayLiteral h)
    R.Same := by
  refine bindToken (expect rfl) fun t x y => bind (holeyList (spreadOr both) rfl) fun l l' => ?_
  exact node (fun _ _ known => .list known.2) rfl

omit both in
theorem eatMemberWord : R.Tracks .near .calmly H P Parser.eatMemberWord Parser.eatMemberWord
    fun a b => .of (b = a) := by
  let read : Parser (Option Text) := Parser.advance >>= fun t => Pure.pure (some t.text)
  refine leads (fun t => t.spells "get" || t.spells "set" || t.spells "async")
    Token.startsMemberName (fun _ => read) (fun _ => read) (fun twin => twin.startsMemberName)
    (fun t found => ?_) (fun t x y found => ?_) (pure fun _ _ _ => rfl) (fun _ => rfl)
    (fun _ => rfl) (fun _ => rfl) (fun _ => rfl)
  · have mem : t.text ∈ [utf8 "get", utf8 "set", utf8 "async"] := by
      simp only [Bool.or_eq_true] at found
      obtain (found | found) | found := found <;> simp [Token.text_of_spells found]
    exact apart_of_mem mem rfl
  · refine bindToken (advanceSolid fun s known => ?_) fun t x y => pure fun _ _ _ => rfl
    rw [known.2]
    simp only [Bool.or_eq_true] at found
    obtain (found | found) | found := found <;> exact .of_spells found (by decide)

theorem objectMember :
    R.KeepsUp .near .firm (Parser.objectMember g) (Parser.objectMember h) R.Same := by
  refine sees_ite (spreadOr both).anywhere (here fun x y => bindSame eatMemberWord fun word? =>
    ?_) rfl
  refine bind (propertyKey both) fun ⟨key, computed⟩ ⟨key', computed'⟩ => ?_
  refine seesSignature fun called => ite (fun _ => ?_) fun _ => eat ?_ ?_ rfl
  · refine bind (methodFunction both) fun value value' => node ?_ rfl
    rintro t u ⟨⟨-, same, rfl⟩, value⟩
    exact .property (.some same) (.some value)
  · refine bind both.assignment.anywhere fun value value' => node ?_ rfl
    rintro t u ⟨⟨-, same, rfl⟩, value⟩
    exact .property (.some same) (.some value)
  · refine unlessIdentifier (φ := fun has => !has || computed) (ψ := fun has => !has || computed')
      (fun _ _ known => known.2.1) (node ?_ rfl) ?_
    · rintro t u ⟨-, same, rfl⟩
      exact .property (.some same) (.some same)
    · rintro t u ⟨-, -, rfl⟩
      rfl

theorem objectHead : R.Tracks .near .firm H P (Parser.objectHead g) (Parser.objectHead h)
    fun x y => .list R.Same x.2 y.2 := by
  refine bindToken (expect rfl) fun t x y => bind (commaList (objectMember both) rfl) fun l l' => ?_
  exact pure fun _ _ known => known.2

theorem objectLiteral (spared : R.Spares .objectExpression) :
    R.Tracks .near .firm H P (Parser.objectLiteral g) (Parser.objectLiteral h) R.Same := by
  rw [Parser.objectLiteral_eq, Parser.objectLiteral_eq]
  exact thenStill (objectHead both) fun _ _ => .nodeOf (fun _ _ known => .list (Facts.refs known.2))
    spared

theorem wordExpression {t : Token} {x y : UInt32}
    (known : ∀ s, H s → s = t.bare) :
    R.Tracks .near .firm H P (Parser.wordExpression g t)
      (Parser.wordExpression h { t with start := x, stop := y }) R.Same := by
  refine ite (fun _ => literal) fun _ => eat ?_ (eat ?_ ?_ rfl) rfl
  · exact node (fun _ _ _ => .other .nil) rfl
  · exact node (fun _ _ _ => .other .nil) rfl
  refine ite (fun _ => function both (.of rfl)) fun _ => ?_
  refine asyncFunction rfl (fun found s head => ?_) ?_ ?_
  · rw [known s head.1.1]
    exact found
  · exact function both (.of rfl)
  · exact ite (fun _ => classNode both) fun _ => identifier

theorem primary (object : R.KeepsUp .near .firm (Parser.objectLiteral g) (Parser.objectLiteral h)
      R.Same) :
    R.KeepsUp .near .firm (Parser.primary g) (Parser.primary h) R.Same := by
  refine peek rfl fun t x y => ?_
  obtain ⟨kind, text, value, start, stop⟩ := t
  cases kind with
  | string => exact literal
  | number => exact literal
  | template =>
    refine skip (advanceSolid fun s known => ?_) (node (fun _ _ _ => .other .nil) rfl)
    exact known.2 ▸ .of_kind nofun nofun
  | word => exact wordExpression (t := ⟨.word, text, value, start, stop⟩) both fun s known =>
    known.2
  | punctuator | eof =>
    refine eat ?_ (sees_ite (arrayLiteral both) (sees_ite object.anywhere fail rfl) rfl) rfl
    refine bind (sequence both.assignment) fun a b => ?_
    exact skip (expect rfl) (pure fun _ _ known => known.2)

theorem construct (object : R.KeepsUp .near .firm (Parser.objectLiteral g) (Parser.objectLiteral h)
      R.Same) :
    R.KeepsUp .near .firm (Parser.construct g) (Parser.construct h) R.Same := by
  refine bindToken (expect rfl) fun t x y => here fun x y => optional (j := .firm) (V := R.Same) ?_
    fun a b => ?_
  · exact sees_ite both.construct.anywhere (primary both object).anywhere rfl
  refine bind (chain both fun _ _ known => known.2) fun callee callee' => ?_
  refine optional (j := .calmly) (V := .list (.option R.Same)) ?_ fun l l' => node ?_ rfl
  · exact sees_ite (callArguments both).ofFirm (pure fun _ _ _ => .nil) rfl
  · exact fun _ _ known => .call (.some known.1.2) known.2

theorem leftHandSide (object : R.KeepsUp .near .firm (Parser.objectLiteral g)
      (Parser.objectLiteral h) R.Same) :
    R.KeepsUp .near .firm (Parser.leftHandSide g) (Parser.leftHandSide h) R.Same := by
  refine here fun x y => optional (j := .firm) (V := R.Same) ?_ fun a b => ?_
  · exact sees_ite (construct both object).anywhere (primary both object).anywhere rfl
  · exact ofCalm (chain both fun _ _ known => known.2)

/-! ## Operators -/

omit both in
theorem solid_of_unaryType? {t : Token} {type : Text} (known : Parser.unaryType? t = some type) :
    t.Solid := by
  unfold Parser.unaryType? at known
  split at known
  next punctuator =>
    refine ⟨by simp [punctuator], ?_⟩
    by_contra semicolon
    simp only [Token.isSemicolon, Bool.not_eq_false, Bool.and_eq_true, beq_iff_eq] at semicolon
    rw [semicolon.2] at known
    exact absurd (Option.isSome_of_eq_some known) (by decide)
  next =>
    split at known
    next word => exact .of_word (by simpa using (Bool.and_eq_true_iff.mp word).1)
    next => contradiction

theorem updated (object : R.KeepsUp .near .firm (Parser.objectLiteral g) (Parser.objectLiteral h)
      R.Same) {start start' : UInt32} :
    R.Tracks .near .firm H P (Parser.updated g start) (Parser.updated h start') R.Same := by
  refine bind (leftHandSide both object).anywhere fun a b => ?_
  refine sees (fun plus => sees (fun minus => newlineBefore fun broken => ite (fun found => ?_)
    fun _ =>
    pure fun _ _ known => known.2) rfl) rfl
  refine skip (advanceSolid fun s known => ?_) (node (fun _ _ known => .other
    (.cons (.some known.2) .nil)) rfl)
  simp only [Bool.and_eq_true, Bool.or_eq_true] at found
  obtain found | found := found.1
  · exact .of_spells (known.1.2.trans found) (by decide)
  · exact .of_spells (known.2.trans found) (by decide)

theorem unary (object : R.KeepsUp .near .firm (Parser.objectLiteral g) (Parser.objectLiteral h)
      R.Same) :
    R.KeepsUp .near .firm (Parser.unary g) (Parser.unary h) R.Same := by
  refine peek rfl fun t x y => ?_
  have moved : Parser.unaryType? { t with start := x, stop := y } = Parser.unaryType? t := rfl
  rw [moved]
  cases known : Parser.unaryType? t with
  | some type =>
    refine skip (advanceSolid fun s head => ?_) (bind both.unary.anywhere fun a b => node ?_ rfl)
    · exact head.2 ▸ solid_of_unaryType? known
    · exact fun _ _ known => .other (.cons (.some known.2) .nil)
  | none =>
    refine nextIs rfl (fun found s head => ?_) (fun _ => Twin.startsExpression) (fun found => ?_)
      (updated both object) (fun _ => rfl)
    · rw [Bool.and_eq_true] at found
      rw [head.2, Token.bare_text, Token.text_of_spells found.1]
      decide
    · refine skip (advanceSolid fun s head => ?_) (bind both.unary.anywhere fun a b => node ?_ rfl)
      · rw [Bool.and_eq_true] at found
        exact head.2 ▸ .of_spells found.1 (by decide)
      · exact fun _ _ known => .wrap (.some known.2)

omit both in
theorem mem_of_operatorLevel? {t : Token} {level : Nat} (known : operatorLevel? t = some level) :
    t.kind ≠ .eof ∧ t.text ∈ operatorLevel?.levels.flatMap fun x => x.2.map utf8 := by
  unfold operatorLevel? at known
  split at known
  · contradiction
  next kind =>
    refine ⟨fun eof => kind (by simp [eof]), ?_⟩
    obtain ⟨⟨level, operators⟩, mem, found⟩ := List.exists_of_findSome?_eq_some known
    rw [List.mem_flatMap]
    refine ⟨_, mem, ?_⟩
    simp only [Option.ite_none_right_eq_some] at found
    simpa using found.1

omit both in
theorem solid_of_operatorLevel? {t : Token} {level : Nat} (known : operatorLevel? t = some level) :
    t.Solid := by
  obtain ⟨live, mem⟩ := mem_of_operatorLevel? known
  refine ⟨live, ?_⟩
  by_contra semicolon
  simp only [Token.isSemicolon, Bool.not_eq_false, Bool.and_eq_true, beq_iff_eq] at semicolon
  rw [semicolon.2] at mem
  exact absurd mem (by decide)

theorem binaryStep {level : Nat} {start start' : UInt32} {a b : NodeId} :
    R.Tracks .near .calmly H (P.and (R.Same a b)) (Parser.binaryStep g level start a)
      (Parser.binaryStep h level start' b) (.option R.Same) := by
  let operation (g : Grammar) (start : UInt32) (left : NodeId) (own : Nat) (token : Token) :
      Parser (Option NodeId) := do
    Functor.discard Parser.advance
    if token.text == "as" || token.text == "satisfies" then
      let type ← g.typeNode
      return some (← Parser.other start "TSAsExpression" [left, type])
    let right ← g.binary own
    let logical := ["&&", "||", "??"].any (utf8 · == token.text)
    let type := if logical then utf8 "LogicalExpression" else utf8 "BinaryExpression"
    return some (← Parser.other start type [left, right])
  have split (g : Grammar) (start : UInt32) (left : NodeId) (c : Cursor) :
      Parser.binaryStep g level start left c =
        (if ((operatorLevel? c.peek).any (level < ·) && true) = true then
          operation g start left ((operatorLevel? c.peek).getD 0) c.peek else Pure.pure none)
          c := by
    rw [Parser.binaryStep, bind_run (show Parser.peek c = .ok (c.peek, c) from rfl)]
    cases operatorLevel? c.peek with
    | none => rfl
    | some own =>
      change (if own ≤ level then Pure.pure none else operation g start left own c.peek) c = _
      by_cases tight : own ≤ level
      · simp [tight, Nat.not_lt.mpr tight]
      · simp [tight, Nat.lt_of_not_le tight]
  refine leads (fun t => (operatorLevel? t).any (level < ·)) (fun _ => true)
    (fun t => operation g start a ((operatorLevel? t).getD 0) t)
    (fun t => operation h start' b ((operatorLevel? t).getD 0) t) (fun _ => rfl) (fun t found => ?_)
    (fun t x y found => ?_) (pure fun _ _ _ => .none) (split g start a) (split h start' b)
    (fun _ => rfl) (fun _ => rfl)
  · cases known : operatorLevel? t with
    | none => simp [known] at found
    | some own => exact apart_of_mem (mem_of_operatorLevel? known).2 rfl
  · cases known : operatorLevel? t with
    | none => simp [known] at found
    | some own =>
      have known' : operatorLevel? { t with start := x, stop := y } = some own := known
      rw [known']
      refine skip (advanceSolid fun s head => head.2 ▸ solid_of_operatorLevel? known) ?_
      refine ite (fun _ => ?_) fun _ => ?_
      · refine bind both.typeNode.anywhere fun i j => ?_
        refine map (V := R.Same) (node ?_ rfl) fun _ _ _ _ same => .some same
        exact fun _ _ known => .other (Facts.refs (Facts.pair known.1.2 known.2))
      · refine bind (both.binary _).anywhere fun i j => ?_
        refine map (V := R.Same) (node ?_ rfl) fun _ _ _ _ same => .some same
        exact fun _ _ known => .other (Facts.refs (Facts.pair known.1.2 known.2))

theorem binary (object : R.KeepsUp .near .firm (Parser.objectLiteral g) (Parser.objectLiteral h)
      R.Same) (level : Nat) :
    R.KeepsUp .near .firm (Parser.binary g level) (Parser.binary h level) R.Same := by
  refine here fun x y => bind (unary both object).anywhere fun a b => ?_
  exact ofCalm (improve rfl (fun a b => binaryStep both) fun _ _ known => known.2)

theorem conditional (object : R.KeepsUp .near .firm (Parser.objectLiteral g)
      (Parser.objectLiteral h) R.Same) :
    R.KeepsUp .near .firm (Parser.conditional g) (Parser.conditional h) R.Same := by
  refine here fun x y => bind (binary both object 0).anywhere fun a b => ?_
  refine eat ?_ (pure fun _ _ known => known.2) rfl
  refine bind both.assignment.anywhere fun c d => skip (expect rfl) ?_
  refine bind both.assignment.anywhere fun i j => node ?_ rfl
  exact fun _ _ known => .other (.cons (.some known.1.1.2)
    (.cons (.some known.1.2) (.cons (.some known.2) .nil)))

/-! ## Arrow functions and assignments -/

omit both in
theorem arrowKind? {A A' : Option Bool → Parser α} (reads : k.reads = true)
    (go : ∀ o, R.Tracks e k (fun t => H t ∧ (o = some true → t.spells "async")) P (A o) (A' o) V) :
    R.Tracks e k H P (Parser.arrowKind? >>= A) (Parser.arrowKind? >>= A') V := by
  let kind (c : Cursor) : Option Bool :=
    if (c.peek.spells "async" && !(c.peekAt 1).spells "=>" && arrowStarts (c.rest.drop 1)) = true
    then
      some true
    else if arrowStarts c.rest = true then some false else none
  have split (A : Option Bool → Parser α) (c : Cursor) :
      (Parser.arrowKind? >>= A) c = A (kind c) c := by
    change ((if (c.peek.spells "async" && !(c.peekAt 1).spells "=>" &&
        arrowStarts (c.rest.drop 1)) = true then Pure.pure (some true)
      else Parser.arrowAhead 0 >>= fun found =>
        if found = true then Pure.pure (some false) else Pure.pure none :
          Parser (Option Bool)) >>= A) c = _
    simp only [kind]
    split
    · rfl
    · change ((if arrowStarts c.rest = true then Pure.pure (some false) else Pure.pure none :
        Parser (Option Bool)) >>= A) c = _
      split <;> rfl
  refine look kind kind (S := (· = ·)) (κ := fun _ => k)
    (G := fun o t => H t ∧ (o = some true → t.spells "async")) (split A) (split A')
    (fun c d beside _ _ strong => ?_) (fun x _ same => by subst same; exact go x)
    (fun c head => ⟨head, fun found => ?_⟩) (fun _ => rfl) (fun _ => k.implies_self)
  · have same := strong reads
    have spells : d.peek.spells "async" = c.peek.spells "async" := Token.spells_of_bare same _
    simp only [kind, spells, beside.arrow same]
    cases async : c.peek.spells "async" with
    | false => rfl
    | true =>
      have twin := beside.peekAt_one same (by rw [Token.text_of_spells async]; decide)
      have next : (d.peekAt 1).spells "=>" = (c.peekAt 1).spells "=>" := twin.spells (by decide)
      rw [next, beside.asyncArrow same async]
  · simp only [kind] at found
    split at found
    next async =>
      simp only [Bool.and_eq_true] at async
      exact async.1.1
    next =>
      split at found <;> contradiction

theorem arrow {isAsync : Bool} (async : isAsync = true → ∀ t, H t → t.spells "async") :
    R.Tracks .near .firm H P (Parser.arrow g isAsync) (Parser.arrow h isAsync) R.Same := by
  refine here fun x y => ?_
  have solid (s : Token) (known : H s) (found : isAsync = true) : s.Solid :=
    .of_spells (async found s known) (by decide)
  refine ite (fun found => skip (advanceSolid fun s known => solid s known found) ?_) fun _ => ?_
  all_goals
    refine optional (j := .firm) (V := .list R.Same) ?_ fun l l' => ?_
    · refine sees_ite (params both) (map identifier fun _ _ _ _ same => .cons same .nil) rfl
    refine bind (colonType both) fun type type' => skip (expect rfl) (sees (fun brace => ?_) rfl)
    refine join (j := .firm) (V := R.Same) ?_ fun body body' => node (fun _ _ known => ?_) rfl
    · exact ite (fun _ => both.assignment.anywhere) fun _ => blockStatement both
    · exact .function .none (Facts.refs known.1.1.2) known.1.2 (.some known.2)

omit both in
theorem solid_of_isAssignment {t : Token} (known : t.isAssignment = true) : t.Solid := by
  simp only [Token.isAssignment, Bool.and_eq_true, beq_iff_eq] at known
  refine ⟨by simp [known.1], ?_⟩
  by_contra semicolon
  simp only [Token.isSemicolon, Bool.not_eq_false, Bool.and_eq_true, beq_iff_eq] at semicolon
  rw [semicolon.2] at known
  exact absurd known.2 (by decide)

theorem assignment (object : R.KeepsUp .near .firm (Parser.objectLiteral g)
      (Parser.objectLiteral h) R.Same) :
    R.KeepsUp .near .firm (Parser.assignment g) (Parser.assignment h) R.Same := by
  refine arrowKind? rfl fun o => ?_
  cases o with
  | some isAsync =>
    exact arrow both fun known t head => head.2 (by rw [known])
  | none =>
    refine here fun x y => bind (conditional both object).anywhere fun a b => ?_
    refine finds_ite Token.isAssignment (skip (advanceSolid fun s known => ?_) ?_)
      (pure fun _ _ known => known.2) Near.isAssignment (fun _ => rfl) (fun _ => rfl) (fun _ => rfl)
    · exact solid_of_isAssignment known.2
    · refine bind both.assignment.anywhere fun i j => node ?_ rfl
      exact fun _ _ known => .other (Facts.refs (Facts.pair known.1.2 known.2))

end Rewriting.Tracks
end TreeLint.Script
