import TreeLint.Proofs.Rewriting.Step

/-! # Leaves, bindings and types in both runs -/

namespace TreeLint.Script

/-- The parsers of one grammar keep up with those of another. -/
structure Rewriting.Abreast (R : Rewriting) (g h : Grammar) : Prop where
  typeNode : R.KeepsUp .near .firm g.typeNode h.typeNode R.Same
  postfixType : R.KeepsUp .near .firm g.postfixType h.postfixType R.Same
  bindingTarget : R.KeepsUp .near .firm g.bindingTarget h.bindingTarget R.Same
  primary : R.KeepsUp .near .firm g.primary h.primary R.Same
  construct : R.KeepsUp .near .firm g.construct h.construct R.Same
  unary : R.KeepsUp .near .firm g.unary h.unary R.Same
  binary : ∀ level, R.KeepsUp .near .firm (g.binary level) (h.binary level) R.Same
  assignment : R.KeepsUp .near .firm g.assignment h.assignment R.Same
  statement : R.KeepsUp .free .some g.statement h.statement R.Same

namespace Rewriting.Tracks

variable {R : Rewriting} {g h : Grammar} {e : Tail} {k : Manner} {H : Token → Prop} {P : Facts}
  {α : Type} {V : α → α → Facts}

/-! ## Leaves -/

theorem identifier : R.Tracks .near .firm H P Parser.identifier Parser.identifier R.Same := by
  refine bindToken word fun t x y => ?_
  exact identifierNode fun _ _ _ => .none

theorem solid_of_literalKind? {t : Token} {kind : LiteralKind}
    (known : Parser.literalKind? t = some kind) : t.Solid := by
  unfold Parser.literalKind? at known
  split at known
  next string => exact .of_kind (by simp [string]) (by simp [string])
  split at known
  next number => exact .of_kind (by simp [number]) (by simp [number])
  split at known
  next bool =>
    obtain spelled | spelled := Bool.or_eq_true_iff.mp bool
    · exact .of_spells spelled (by decide)
    · exact .of_spells spelled (by decide)
  split at known
  next null => exact .of_spells null (by decide)
  · contradiction

theorem literal : R.Tracks .near .firm H P Parser.literal Parser.literal R.Same := by
  refine peek rfl fun t x y => ?_
  have moved : Parser.literalKind? { t with start := x, stop := y } = Parser.literalKind? t := rfl
  rw [moved]
  cases known : Parser.literalKind? t with
  | none => exact fail
  | some kind =>
    refine skip (advanceSolid fun s head => ?_) (node (fun _ _ _ => .literal) rfl)
    rw [head.2]
    exact solid_of_literalKind? known

theorem stringLiteral : R.Tracks .near .firm H P Parser.stringLiteral Parser.stringLiteral R.Same :=
  atKind fun x => by
    cases x with
    | true => exact literal
    | false => exact stop

theorem entityName : R.Tracks .near .firm H P Parser.entityName Parser.entityName R.Same := by
  refine here fun x y => bind identifier fun a b => ?_
  refine ofCalm (improve rfl (fun a b => ?_) fun _ _ known => known.2)
  refine eat ?_ (pure fun _ _ _ => .none) rfl
  refine bind identifier fun c d => ?_
  refine map (V := R.Same) (node (fun _ _ known => .pair (.some known.1.2) (.some known.2)) rfl) ?_
  exact fun _ _ _ _ same => .some same

theorem skipAngles (n m depth : Nat) :
    R.KeepsUp .near .firm (Parser.skipAngles n depth) (Parser.skipAngles m depth)
      fun _ _ => .none := by
  induction n generalizing m depth with
  | zero => exact fail
  | succ n ih =>
    have round : ∀ m, R.KeepsUp .near .firm (Parser.skipAngles (n + 1) depth)
        (Parser.skipAngles (m + 1) depth) fun _ _ => .none := fun m => by
      refine atKind fun ended => ?_
      cases ended with
      | true => exact fun _ _ _ ran => nomatch ran
      | false =>
        refine advanced rfl (fun t live => by simpa using live.2) fun t x y _ => ?_
        refine ite (fun _ => (ih _ _).anywhere.ofFirm) fun _ => ite (fun closes => ?_) fun _ =>
          (ih _ _).anywhere.ofFirm
        have solid := Token.Solid.of_spells closes (by decide)
        exact ite (fun _ => mono (j := .calmly) (pure fun _ _ _ => trivial) (by rw [solid.2]; rfl))
          fun _ =>
          (ih _ _).anywhere.ofFirm
    cases m with
    | zero => exact (round 0).exhausted
    | succ m => exact round m

theorem skipTypeParams :
    R.Tracks .near .calmly H P Parser.skipTypeParams Parser.skipTypeParams fun _ _ => .none := by
  refine sees_ite (rounds fun n m => ?_) (pure fun _ _ _ => trivial) rfl
  exact (skipAngles n m 0).anywhere.ofFirm

/-! ## Bindings -/

/-- The same property key, computed or not in both runs. -/
def sameKey (R : Rewriting) (a b : NodeId × Bool) : Facts := (R.Same a.1 b.1).and (.of (b.2 = a.2))

variable (both : R.Abreast g h)

include both

theorem colonType : R.Tracks .near .calmly H P (Parser.colonType g) (Parser.colonType h)
    (.option R.Same) := by
  refine eat ?_ (pure fun _ _ _ => .none) rfl
  exact map both.typeNode.anywhere.ofFirm fun _ _ _ _ same => .some same

theorem propertyKey : R.Tracks .near .firm H P (Parser.propertyKey g) (Parser.propertyKey h)
    (sameKey R) := by
  have single {H : Token → Prop} {p p' : Parser NodeId}
      (read : R.Tracks .near .firm H P p p' R.Same) :
      R.Tracks .near .firm H P (p >>= fun id => Pure.pure (id, false))
        (p' >>= fun id => Pure.pure (id, false)) (sameKey R) :=
    thenStill read fun _ _ => .pure fun _ _ known => ⟨known.2, rfl⟩
  refine peek rfl fun t x y => ite (fun _ => single literal) fun _ => eat ?_ ?_ rfl
  · refine bind both.assignment.anywhere fun a b => ?_
    exact skip (expect rfl) (pure fun _ _ known => ⟨known.2, rfl⟩)
  · refine ite (fun _ => ?_) fun _ => ?_
    · exact single identifier
    · exact fail

theorem bindingElement {target target' : Parser NodeId}
    (each : R.KeepsUp .near .firm target target' R.Same) :
    R.KeepsUp .near .firm (Parser.bindingElement g target) (Parser.bindingElement h target')
      R.Same := by
  refine here fun x y => bind each fun a b => eat ?_ (pure fun _ _ known => known.2) rfl
  refine bind both.assignment.anywhere fun c d => ?_
  exact node (fun _ _ known => .pair (.some known.1.2) (.some known.2)) rfl

theorem objectPatternItem :
    R.KeepsUp .near .firm (Parser.objectPatternItem g) (Parser.objectPatternItem h) R.Same := by
  refine here fun x y => eat ?_ ?_ rfl
  · exact bind identifier fun a b => node (fun _ _ known => .wrap (.some known.2)) rfl
  refine bind (propertyKey both) fun ⟨key, computed⟩ ⟨key', computed'⟩ => eat ?_ ?_ rfl
  · refine bind (bindingElement both both.bindingTarget).anywhere fun a b => node ?_ rfl
    rintro t u ⟨⟨-, same, rfl⟩, same'⟩
    exact .property (.some same) (.some same')
  · refine sees (fun default => ?_) rfl
    refine unlessIdentifier (φ := fun has => default || !has) (ψ := fun has => default || !has)
      (fun _ _ known => known.2.1) (node ?_ rfl) (fun _ _ _ => rfl)
    rintro t u ⟨-, same, rfl⟩
    exact .property (.some same) (.some same)

theorem arrayPatternItem :
    R.KeepsUp .near .firm (Parser.arrayPatternItem g) (Parser.arrayPatternItem h) R.Same := by
  refine here fun x y => eat ?_ ?_ rfl
  · exact bind both.bindingTarget.anywhere fun a b => node
      (fun _ _ known => .wrap (.some known.2)) rfl
  · exact (bindingElement both both.bindingTarget).anywhere

theorem bindingTarget :
    R.KeepsUp .near .firm (Parser.bindingTarget g) (Parser.bindingTarget h) R.Same := by
  refine here fun x y => eat ?_ (eat ?_ ?_ rfl) rfl
  · refine bind (commaList (objectPatternItem both) rfl) fun l l' => ?_
    exact skip (colonType both) (node (fun _ _ known => .list (Facts.refs known.2)) rfl)
  · refine bind (holeyList (arrayPatternItem both) rfl) fun l l' => ?_
    exact skip (colonType both) (node (fun _ _ known => .list known.2) rfl)
  · refine bindToken word fun t x y => bindSame (eaten rfl) fun optional => ?_
    refine bind (colonType both) fun type type' => ?_
    exact identifierNode fun _ _ known => known.2

omit both in
theorem skipModifiers :
    R.Tracks .near .calmly H P Parser.skipModifiers Parser.skipModifiers fun _ _ => .none := by
  refine discard (V := .list fun _ _ => .none) (many rfl ?_)
  let read : Parser (Option Unit) := Functor.discard Parser.advance >>= fun _ => Pure.pure (some ())
  refine leads (fun t => decide (t.kind = .word) && Parser.paramModifiers.contains t.text)
    (fun t => t.kind == .word) (fun _ => read) (fun _ => read) (fun twin => twin.kind_beq _)
    (fun t found => ?_)
    (fun t x y found => ?_) (pure fun _ _ _ => .none) (fun _ => rfl) (fun _ => rfl) (fun _ => rfl)
    (fun _ => rfl)
  · simp only [Bool.and_eq_true, List.contains_iff_mem] at found
    exact apart_of_mem found.2 rfl
  · simp only [Bool.and_eq_true, decide_eq_true_eq] at found
    refine thenStill (discard (advanceSolid fun s known => ?_)) fun _ _ => .pure fun _ _ _ =>
      .some trivial
    exact known.2 ▸ .of_word found.1

theorem param : R.KeepsUp .near .firm (Parser.param g) (Parser.param h) R.Same := by
  refine bind skipModifiers fun _ _ => here fun x y => eat ?_ ?_ rfl
  · exact bind (bindingTarget both).anywhere fun a b => node
      (fun _ _ known => .wrap (.some known.2)) rfl
  · exact (bindingElement both (bindingTarget both)).anywhere

theorem params : R.Tracks .near .firm H P (Parser.params g) (Parser.params h) (.list R.Same) :=
  skip (expect rfl) (commaList (param both) rfl).ofFirm

/-! ## Types -/

theorem typeArgs : R.Tracks .near .calmly H P (Parser.typeArgs g) (Parser.typeArgs h)
    (.list R.Same) :=
  eat (commaList both.typeNode rfl).ofFirm (pure fun _ _ _ => .nil) rfl

omit both in
theorem memberSeparator : R.Tracks .near .any H P Parser.memberSeparator Parser.memberSeparator
    fun _ _ => .none :=
  eatSemicolon (pure fun _ _ _ => trivial) (discard (mono (eaten rfl) rfl))

theorem signature : R.Tracks .near .some H P (Parser.signature g) (Parser.signature h)
    (.list R.Same) := by
  refine bind skipTypeParams fun _ _ => bind (params both) fun l l' => ?_
  refine bind (colonType both) fun a b => bind memberSeparator fun _ _ => pure ?_
  exact fun _ _ known => Facts.append known.1.1.2 (Facts.toList known.1.2)

omit both in
theorem seesSignature {F F' : Bool → Parser α} (go : ∀ x, R.Tracks e k H P (F x) (F' x) V) :
    R.Tracks e k H P (Parser.seesSignature >>= F) (Parser.seesSignature >>= F') V :=
  finds (fun t => t.spells "(" || t.spells "<")
    (fun x => (go x).pre (fun _ h => h.1) fun _ _ h => h) (fun near => by
      rw [near.spells (by decide), near.spells (by decide)]) (fun _ => rfl) (fun _ => rfl)
        (fun _ => rfl)

theorem keyedTypeMember {start start' : UInt32} {isReadonly : Bool} :
    R.Tracks .near .some H P (Parser.keyedTypeMember g start isReadonly)
      (Parser.keyedTypeMember h start' isReadonly) R.Same := by
  refine bind (propertyKey both) fun ⟨key, computed⟩ ⟨key', computed'⟩ => ?_
  refine bindSame (eaten rfl) fun optional => seesSignature fun called => ite (fun _ => ?_) fun _ =>
    ?_
  · refine bind (signature both) fun l l' => node ?_ rfl
    exact fun _ _ known => .other (Facts.refs (.cons known.1.2.1 known.2))
  · refine bind (colonType both) fun a b => bind memberSeparator fun _ _ => node ?_ rfl
    rintro t u ⟨⟨⟨-, same, rfl⟩, type⟩, -⟩
    exact .propertySignature (.some same) type

omit both in
theorem eatReadonly :
    R.Tracks .near .calmly H P Parser.eatReadonly Parser.eatReadonly fun a b => .of (b = a) := by
  refine leads (fun t => t.spells "readonly") Token.startsMemberName
    (fun _ => Parser.eat "readonly") (fun _ => Parser.eat "readonly")
    (fun twin => twin.startsMemberName) (fun t found => ?_) (fun t x y found => ?_)
    (pure fun _ _ _ => rfl) (fun _ => rfl) (fun _ => rfl) (fun _ => rfl) (fun _ => rfl)
  · rw [Token.text_of_spells found]
    decide
  · have both : R.Tracks .near .firm (fun s => H s ∧ s = t.bare) P
        (Parser.eat "readonly" >>= Pure.pure) (Parser.eat "readonly" >>= Pure.pure)
        fun a b => .of (b = a) := by
      refine eatBind (pure fun _ _ _ => rfl) (never fun s known => ?_) rfl
      rw [known.1.2, Token.bare_spells, found] at known
      exact Bool.noConfusion known.2
    simpa only [bind_pure] using both

omit both in
/-- Whether an index signature starts here. -/
theorem indexAhead {A A' B B' : Parser α} (reads : k.reads = true)
    (yes : R.Tracks e k H P A A' V) (no : R.Tracks e k H P B B' V) :
    R.Tracks e k H P
      (Parser.sees "[" >>= fun x => Parser.peekAt 1 >>= fun t => Parser.peekAt 2 >>= fun u =>
        if (x && t.kind == .word && u.spells ":") = true then A else B)
      (Parser.sees "[" >>= fun x => Parser.peekAt 1 >>= fun t => Parser.peekAt 2 >>= fun u =>
        if (x && t.kind == .word && u.spells ":") = true then A' else B') V := by
  let ahead (c : Cursor) : Bool :=
    c.peek.spells "[" && (c.peekAt 1).kind == .word && (c.peekAt 2).spells ":"
  refine look ahead ahead (A := fun x => if x = true then A else B)
    (B := fun x => if x = true then A' else B') (S := (· = ·)) (κ := fun _ => k)
    (G := fun _ => H) (fun _ => rfl) (fun _ => rfl) (fun c d beside _ _ strong => ?_)
    (fun x _ same => by subst same; exact ite (fun _ => yes) fun _ => no) (fun _ head => head)
    (fun _ => rfl) (fun _ => k.implies_self)
  have same := strong reads
  have spells : d.peek.spells "[" = c.peek.spells "[" := Token.spells_of_bare same _
  simp only [ahead, spells]
  cases bracket : c.peek.spells "[" with
  | false => rfl
  | true =>
    have twin := beside.peekAt_one same (by rw [Token.text_of_spells bracket]; decide)
    have kind : ((d.peekAt 1).kind == .word) = ((c.peekAt 1).kind == .word) := twin.kind_beq .word
    rw [kind]
    cases word : (c.peekAt 1).kind == .word with
    | false => rfl
    | true => rw [beside.peekAt_two same (.inl bracket) (eq_of_beq word) (by decide)]

theorem typeMember :
    R.KeepsUp .near .some (Parser.typeMember g) (Parser.typeMember h) R.Same := by
  refine here fun x y => bindSame eatReadonly fun isReadonly => ?_
  refine indexAhead rfl ?_ (seesSignature fun called => ?_)
  · refine skip (expect rfl) (bind (bindingTarget both).anywhere fun a b => skip (expect rfl) ?_)
    refine bind (colonType both) fun i j => bind memberSeparator fun _ _ => node ?_ rfl
    exact fun _ _ known => .other (Facts.refs (.cons known.1.1.2 (Facts.toList known.1.2)))
  · refine ite (fun _ => bind (signature both) fun l l' => node ?_ rfl) fun _ => keyedTypeMember
      both
    exact fun _ _ known => .other (Facts.refs known.2)

theorem typeMembers {form : ListForm} (ok : R.Spares form.kind) :
    R.Tracks .near .firm H P (Parser.typeMembers g form) (Parser.typeMembers h form) R.Same := by
  refine bindToken (expect rfl) fun t x y => bind (block ((typeMember both).mono rfl) rfl)
    fun l l' => ?_
  exact nodeOf (fun _ _ known => .list (Facts.refs known.2)) ok

theorem parenthesizedType {start start' : UInt32} :
    R.Tracks .near .firm H P (Parser.parenthesizedType g start) (Parser.parenthesizedType h start')
      R.Same := by
  refine arrowAhead rfl fun x => ite (fun _ => ?_) fun _ => ?_
  · refine bind (params both) fun l l' => skip (expect rfl)
      (bind both.typeNode.anywhere fun a b => ?_)
    exact node (fun _ _ known => .other (Facts.refs (Facts.append known.1.2
      (.cons known.2 .nil)))) rfl
  · refine skip (expect rfl) (bind both.typeNode.anywhere fun a b => ?_)
    exact skip (expect rfl) (pure fun _ _ known => known.2)

theorem namedType {start start' : UInt32} (word : ∀ t, H t → t.kind = .word) :
    R.Tracks .near .firm H P (Parser.namedType g start) (Parser.namedType h start') R.Same := by
  refine eat ?_ (eat ?_ ?_ rfl) rfl
  · refine bind entityName fun a b => ?_
    exact node (fun _ _ known => .other (.cons (.some known.2) .nil)) rfl
  · refine bind both.postfixType.anywhere fun a b => ?_
    exact node (fun _ _ known => .other (.cons (.some known.2) .nil)) rfl
  · refine peek rfl fun t x y => ite (fun _ => ?_) fun _ => ?_
    · refine skip (advanceSolid fun s known => .of_word (word s known.1.1.1)) ?_
      exact node (fun _ _ _ => .keyword) rfl
    · refine bind entityName fun a b => bind (typeArgs both) fun l l' => ?_
      exact node (fun _ _ known => .typeReference (.some known.1.2) (Facts.refs known.2)) rfl

theorem primaryType :
    R.KeepsUp .near .firm (Parser.primaryType g) (Parser.primaryType h) R.Same := by
  refine peek rfl fun t x y => ite (fun _ => ?_) fun _ => sees_ite ?_
    (eat ?_ (sees_ite ?_ ?_ rfl) rfl) rfl
  · exact bind literal fun a b => node (fun _ _ known => .wrap (.some known.2)) rfl
  · exact typeMembers both (.of rfl)
  · refine bind (commaList both.typeNode rfl) fun l l' => ?_
    exact node (fun _ _ known => .other (Facts.refs known.2)) rfl
  · exact parenthesizedType both
  · refine ite (fun word => namedType both fun s known => ?_) fun _ => fail
    exact known.1.1.1.2 ▸ word

theorem postfixType :
    R.KeepsUp .near .firm (Parser.postfixType g) (Parser.postfixType h) R.Same := by
  refine here fun x y => bind (primaryType both) fun a b => ?_
  refine ofCalm (improve rfl (fun a b => ?_) fun _ _ known => known.2)
  refine sees (fun bracket => newlineBefore fun broken => ite (fun _ => skip (expect rfl) ?_)
    fun _ => ?_) rfl
  · refine eat ?_ ?_ rfl
    · refine map (V := R.Same) (node (fun _ _ known => .wrap (.some known.2)) rfl) ?_
      exact fun _ _ _ _ same => .some same
    · refine bind both.typeNode.anywhere fun i j => skip (expect rfl) ?_
      refine map (V := R.Same) (node (fun _ _ known => .other
        (Facts.refs (Facts.pair known.1.2 known.2))) rfl) ?_
      exact fun _ _ _ _ same => .some same
  · exact pure fun _ _ _ => .none

omit both in
theorem operands {operator : Text} {operand operand' : Parser NodeId}
    (each : R.KeepsUp .near .firm operand operand' R.Same)
    (ok : (discerns .calmly operator && operator != utf8 ";") = true) :
    R.KeepsUp .near .firm (Parser.operands operator operand) (Parser.operands operator operand')
      (.list R.Same) := by
  refine skip (eaten ok) (bind each.anywhere fun a b => ?_)
  refine bind (j := .calmly) (V := .list R.Same) (many rfl ?_) fun l l' => ?_
  · exact eat (map each.anywhere.ofFirm fun _ _ _ _ same => .some same) (pure fun _ _ _ => .none) ok
  · exact pure fun _ _ known => .cons known.1.2 known.2

omit both in
/-- One node stands for itself, and several for a node that has them all. -/
theorem oneOr (F F' : List NodeId → Parser NodeId) {l l' : List NodeId}
    (same : ∀ t u, P.holds t u → (Facts.list R.Same l l').holds t u)
    (one : ∀ a, F [a] = Pure.pure a) (one' : ∀ a, F' [a] = Pure.pure a)
    (more : ∀ l m : List NodeId, l.length ≠ 1 → m.length ≠ 1 →
      R.Still (.list R.Same l m) (F l) (F' m) R.Same) :
    R.Still P (F l) (F' l') R.Same := by
  have base (m : List NodeId) (len : l.length = m.length) :
      R.Still (.list R.Same l m) (F l) (F' m) R.Same := by
    by_cases single : l.length = 1
    · obtain ⟨a, rfl⟩ := List.length_eq_one_iff.mp single
      obtain ⟨b, rfl⟩ := List.length_eq_one_iff.mp (len.symm.trans single)
      rw [one, one']
      exact .pure fun _ _ known => by cases known; assumption
    · exact more _ _ single (len ▸ single)
  by_cases len : l.length = l'.length
  · exact (base l' len).pre same
  · exact (base l rfl).vacuous fun t u known => len (same t u known).length_eq

omit both in
theorem joined {start start' : UInt32} {form : ListForm} {l l' : List NodeId}
    (ok : R.Spares form.kind) (same : ∀ t u, P.holds t u → (Facts.list R.Same l l').holds t u) :
    R.Still P (Parser.joined start form l) (Parser.joined start' form l') R.Same := by
  have several {start : UInt32} {l : List NodeId} (len : l.length ≠ 1) :
      Parser.joined start form l = Parser.node start (.list form (l.map some)) := by
    rcases l with _ | ⟨a, _ | ⟨b, l⟩⟩
    · rfl
    · exact (len rfl).elim
    · rfl
  refine oneOr (Parser.joined start form) (Parser.joined start' form) same (fun _ => rfl)
    (fun _ => rfl) fun l m len len' => ?_
  rw [several len, several len']
  exact .nodeOf (fun _ _ known => .list (Facts.refs known)) ok

theorem intersectionType :
    R.KeepsUp .near .firm (Parser.intersectionType g) (Parser.intersectionType h) R.Same := by
  refine here fun x y => thenStill (operands (postfixType both) rfl) fun l l' => ?_
  exact joined (.of rfl) fun _ _ known => known.2

theorem typeNode : R.KeepsUp .near .firm (Parser.typeNode g) (Parser.typeNode h) R.Same := by
  refine here fun x y => thenStill (operands (intersectionType both) rfl) fun l l' => ?_
  exact joined (.of rfl) fun _ _ known => known.2

end Rewriting.Tracks
end TreeLint.Script
