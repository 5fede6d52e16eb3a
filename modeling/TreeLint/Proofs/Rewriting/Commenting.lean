import TreeLint.Proofs.Rewriting.Insertion
import TreeLint.Proofs.Script.Quoting
import TreeLint.Proofs.Script.Returned

/-! # Reading comments

A property `comment` with a string and a comma after it, put in before the properties of an object,
are cut into the tokens they are made of, and are read as such a property
(`objectMember_comment`). -/

namespace TreeLint

/-- A property `comment` that is a string with a value. -/
def Tree.IsComment (u : Tree) (p : NodeId) (value : Text) : Prop :=
  ∃ key string, u.property? (some p) = some ⟨some key, some string, "init", false, false, false⟩ ∧
    u.isIdentifier (some key) "comment" ∧
      ∃ raw, u.literal? (some string) = some ⟨.string, value, raw⟩

theorem Tree.IsComment.lasting {u u' : Tree} {p : NodeId} {value : Text} (h : u.IsComment p value)
    (grow : u.KeptIn u') : u'.IsComment p value := by
  obtain ⟨key, string, property, named, raw, literal⟩ := h
  exact ⟨key, string, grow.part? property, grow.isIdentifier (by decide) named, raw,
    grow.part? literal⟩

/-- An object that has come to have a comment before its properties. -/
def commenting (value : NodeId → Text) : Change where
  Between Q t u a b := t.kind? (some a) = some .objectExpression ∧
    u.kind? (some b) = some .objectExpression ∧ ∃ p rest, u.items (some b) = some p :: rest ∧
      u.IsComment p (value a) ∧ List.Forall₂ (Option.Rel Q) (t.items (some a)) rest
  mono := by
    rintro Q Q' t u a b ⟨kind, kind', p, rest, items, comment, related⟩ weaker
    refine ⟨kind, kind', p, rest, items, comment, related.imp fun r r' same => ?_⟩
    cases same with
    | none => exact .none
    | some same => exact .some (weaker _ _ same)
  lasting := by
    rintro Q t t' u u' a b ⟨kind, kind', p, rest, items, comment, related⟩ grow grow'
    refine ⟨grow.kind? kind, grow'.kind? kind', p, rest, ?_, comment.lasting grow', ?_⟩
    · rw [grow'.items_eq kind', items]
    · rwa [grow.items_eq kind]
  kind := by
    rintro Q t u a b ⟨kind, kind', -⟩
    exact ⟨_, by decide, kind, kind'⟩

namespace Script

open Text (byte)

/-! ## What is put in -/

/-- A text that can stand between single quotes as it is. -/
def Plain (value : Text) : Prop := byte '\'' ∉ value ∧ byte '\\' ∉ value ∧ 10 ∉ value

def quoted (value : Text) : Text := byte '\'' :: (value ++ [byte '\''])

theorem stringValue_quoted {value : Text} (plain : Plain value) :
    stringValue (quoted value) = value := by
  have body : ((quoted value).drop 1).dropLast = value := by simp [quoted]
  rw [stringValue]
  simp only [body, List.contains_eq_mem, plain.2.1, decide_false, Bool.not_false, if_true]

theorem stringLength_quoted {value : Text} (plain : Plain value) :
    stringLength (byte '\'') (value ++ [byte '\'']) = .ok (value.length + 1) := by
  have read := stringLength_escaped (.inl rfl) plain.2.2
  rwa [Quoted.escaped_of_not_mem plain.2.1 plain.1] at read

/-- The property and the comma after it. -/
def Piece.comment (value : Text) : List Piece :=
  [⟨.token .word, "comment"⟩, ⟨.token .punctuator, ":"⟩, ⟨.blank, " "⟩,
    ⟨.token .string, quoted value⟩, ⟨.token .punctuator, ","⟩, ⟨.blank, " "⟩]

namespace Token

def commentWord : Token := (Token.ofText .word "comment" 0).bare
def colon : Token := (Token.ofText .punctuator ":" 0).bare
def comma : Token := (Token.ofText .punctuator "," 0).bare
def quotedString (value : Text) : Token := (Token.ofText .string (quoted value) 0).bare

end Token

theorem Piece.seenBefore_comment (value : Text) (s : Seen) :
    seenBefore (comment value) s = [⟨.commentWord, s.broken⟩, ⟨.colon, false⟩,
      ⟨.quotedString value, false⟩, ⟨.comma, false⟩, { s with broken := false }.bare] := by
  rfl

theorem Piece.cut_comment {value : Text} (plain : Plain value) {r : List Piece} (cut : Cut r) :
    Cut (comment value ++ r) := by
  have colon : Closed ⟨.token .punctuator, ":"⟩ := closed_punctuator (by decide) (by decide)
  have comma : Closed ⟨.token .punctuator, ","⟩ := closed_punctuator (by decide) (by decide)
  have string (after : Text) : Fits ⟨.token .string, quoted value⟩ after := by
    refine fits_iff.mpr (.string (.inl rfl) ?_)
    rw [stringLength_quoted plain, List.length_append, List.length_singleton]
  exact .cons (fits_word (by decide) (by decide) rfl) <| .cons (colon _) <|
    .cons (closed_space _) <| .cons (string _) <| .cons (comma _) <| .cons (closed_space _) cut

theorem Piece.first_comment (value : Text) : byte '.' ∉ (joined (comment value)).head? := by
  have first : (joined (comment value)).head? = some (byte 'c') := rfl
  rw [first]
  decide

/-! ## Reading it -/

open TreeLint.Script.Parser
open Rewriting (Arrives)
open Rewriting.Tracks (bind_run eat_run exists_of_bind)

theorem Token.Ends.of_bare {t : Token} (h : t.bare.Ends) : t.Ends := ⟨h.other, h.level, h.assigns⟩

theorem Token.ends_comma : Token.Ends .comma where
  other := by decide
  level := by decide
  assigns := by decide

theorem Cursor.advance_previousEnd (d : Cursor) (live : d.peek.kind ≠ .eof) :
    d.advance.previousEnd = d.peek.stop := by
  rw [Cursor.advance, if_neg live]

theorem Cursor.advance_withTree (d : Cursor) (tree : Tree) :
    Cursor.advance { d with tree } = { d.advance with tree } := by
  rw [Cursor.advance, Cursor.advance]
  split <;> split <;> first | rfl | contradiction

/-- A cursor at the property and the comma after it. -/
structure Cursor.AtComment (d : Cursor) (value : Text) : Prop where
  word : d.peek.bare = .commentWord
  colon : d.advance.peek.bare = .colon
  string : d.advance.advance.peek.bare = .quotedString value
  comma : d.advance.advance.advance.peek.bare = .comma

namespace Parser

variable {g : Grammar} {d : Cursor} {value : Text} {t u : Token} {start : UInt32}

theorem spells_of_bare {text : Text} (same : t.bare = u) : t.spells text = u.spells text := by
  rw [← same]
  rfl

/-- What is known of an identifier that has just been added. -/
theorem isIdentifier_add (t : Tree) (span : Span) (name : Text) :
    (t.addIdentifier span name none false).1.isIdentifier (some ⟨t.size⟩) name := by
  let named : Tree := { t with names := (t.names.intern name).1 }
  obtain ⟨n, found, -, shape⟩ := named.exists_node?_add_new span
    (.identifier ⟨(t.names.intern name).2, none, false⟩)
  have at_node : (t.addIdentifier span name none false).1.deref? (some ⟨t.size⟩) = some n := found
  have interned : (t.addIdentifier span name none false).1.names.get (t.names.intern name).2
      = name := by
    have kept : (t.addIdentifier span name none false).1.names = (t.names.intern name).1 := rfl
    simp [kept, Names.get, Names.getElem?_intern]
  simp [Tree.isIdentifier, Tree.hasKind, Tree.kind?, Tree.name, Tree.identifier?, Tree.part?,
    at_node, Node.kind, shape, Shape.kind, interned]

theorem identifier_word (word : d.peek.kind = .word) : ∃ tree,
    identifier d = .ok (⟨d.tree.size⟩, { d.advance with tree }) ∧ d.tree.KeptIn tree ∧
      tree.isIdentifier (some ⟨d.tree.size⟩) d.peek.text := by
  have read : Parser.word d = .ok (d.peek, d.advance) := by
    change (if decide (d.peek.kind = .word) = true then advance else _ : Parser Token) d = _
    rw [word]
    rfl
  let span : Span := ⟨d.advance.tree.file, d.peek.start, d.advance.previousEnd⟩
  have run : identifier d = .ok (⟨d.advance.tree.size⟩,
      { d.advance with tree := (d.advance.tree.addIdentifier span d.peek.text none false).1 }) := by
    rw [identifier, bind_run read]
    rfl
  rw [d.advance_tree] at run
  exact ⟨_, run, .addIdentifier _ _ _ _ _, isIdentifier_add _ _ _⟩

theorem literal_string (kind : d.peek.kind = .string) : ∃ tree,
    literal d = .ok (⟨d.tree.size⟩, { d.advance with tree }) ∧ d.tree.KeptIn tree ∧
      tree.literal? (some ⟨d.tree.size⟩) = some ⟨.string, d.peek.value, d.peek.text⟩ := by
  have known : literalKind? d.peek = some .string := by rw [literalKind?, if_pos kind]
  let span : Span := ⟨d.advance.tree.file, d.peek.start, d.advance.previousEnd⟩
  let shape : Shape := .literal ⟨.string, d.peek.value, d.peek.text⟩
  have run : literal d = .ok (⟨d.advance.tree.size⟩,
      { d.advance with tree := (d.advance.tree.add span shape).1 }) := by
    rw [literal, bind_run peek_run]
    simp only [known]
    rfl
  rw [d.advance_tree] at run
  obtain ⟨n, found, -, shaped⟩ := d.tree.exists_node?_add_new span shape
  have at_node : (d.tree.add span shape).1.deref? (some ⟨d.tree.size⟩) = some n := found
  refine ⟨_, run, .add _ _ _, ?_⟩
  simp [Tree.literal?, Tree.part?, at_node, shaped, shape]

theorem propertyKey_word (word : d.peek.kind = .word) (bracket : d.peek.spells "[" = false) : ∃ tree,
    propertyKey g d = .ok ((⟨d.tree.size⟩, false), { d.advance with tree }) ∧ d.tree.KeptIn tree ∧
      tree.isIdentifier (some ⟨d.tree.size⟩) d.peek.text := by
  obtain ⟨tree, run, kept, named⟩ := identifier_word word
  refine ⟨tree, ?_, kept, named⟩
  rw [propertyKey, bind_run peek_run]
  simp only [word, reduceCtorEq, or_self, if_false]
  rw [eat_run, bracket]
  simp only [Bool.false_eq_true, if_false, if_true]
  rw [bind_run run]
  rfl

/-- What is read after the colon. -/
theorem value_comment (string : d.peek.bare = .quotedString value)
    (comma : d.advance.peek.bare = .comma) {key : NodeId}
    (named : d.tree.isIdentifier (some key) "comment") (plain : Plain value) (m : Nat) :
    Arrives (((Grammar.ofDepth m).assignment >>= fun string => node start
      (.property ⟨some key, some string, "init", false, false, false⟩)) d) fun p d' =>
        (∃ tree, d' = { d.advance with tree }) ∧ d.tree.KeptIn d'.tree ∧
          d'.tree.IsComment p value := by
  cases m with
  | zero => rfl
  | succ m =>
    have kind : d.peek.kind = .string := congrArg Token.kind string
    have read : d.peek.value = value :=
      (congrArg Token.value string).trans (stringValue_quoted plain)
    obtain ⟨tree, run, kept, literal⟩ := literal_string kind
    have ends : d.advance.peek.Ends := .of_bare (comma ▸ Token.ends_comma)
    let span : Span := ⟨tree.file, start, d.advance.previousEnd⟩
    let shape : Shape := .property ⟨some key, some ⟨d.tree.size⟩, "init", false, false, false⟩
    have assignment : (Grammar.ofDepth (m + 1)).assignment d = _ :=
      assignment_literal kind run ends
    have whole : ((Grammar.ofDepth (m + 1)).assignment >>= fun string => node start
        (.property ⟨some key, some string, "init", false, false, false⟩)) d
        = .ok (⟨tree.size⟩, { d.advance with tree := (tree.add span shape).1 }) :=
      (bind_run assignment).trans rfl
    rw [whole]
    have grown : tree.KeptIn (tree.add span shape).1 := .add _ _ _
    obtain ⟨n, found, -, shaped⟩ := tree.exists_node?_add_new span shape
    have at_node : (tree.add span shape).1.deref? (some ⟨tree.size⟩) = some n := found
    refine ⟨⟨_, rfl⟩, kept.trans grown, key, ⟨d.tree.size⟩, ?_, ?_, _, grown.part? (read ▸ literal)⟩
    · simp [Tree.property?, Tree.part?, at_node, shaped, shape]
    · exact (kept.trans grown).isIdentifier (by decide) named

/-- The property is read up to the comma. -/
theorem objectMember_comment (h : d.AtComment value) (plain : Plain value) (m : Nat) :
    Arrives (objectMember (.ofDepth m) d) fun p d' => (∃ tree,
      d' = { d.advance.advance.advance with tree }) ∧ d.tree.KeptIn d'.tree ∧
        d'.tree.IsComment p value := by
  have spells (text : Text) : d.peek.spells text = Token.commentWord.spells text :=
    spells_of_bare h.word
  have none : eatMemberWord d = .ok (none, d) := by
    change (if ((d.peek.spells "get" || d.peek.spells "set" || d.peek.spells "async") && _) = true
      then _ else _ : Parser (Option Text)) d = _
    rw [spells, spells, spells]
    rfl
  obtain ⟨tree, key, kept, named⟩ := propertyKey_word (g := .ofDepth m) (d := d)
    (congrArg Token.kind h.word) (spells _)
  rw [objectMember, sees_run, spells]
  change Arrives ((here >>= fun start => eatMemberWord >>= fun word? => propertyKey (.ofDepth m) >>=
    fun x => _) d) _
  rw [bind_run here_run, bind_run none, bind_run key]
  have colon := h.colon
  have string := h.string
  have comma := h.comma
  generalize d.advance = d₁ at *
  let e : Cursor := { d₁ with tree }
  have spells₁ (text : Text) : e.peek.spells text = Token.colon.spells text :=
    spells_of_bare colon
  have signature : seesSignature e = .ok (false, e) := by
    change (pure (e.peek.spells "(" || e.peek.spells "<") : Parser Bool) e = _
    rw [spells₁, spells₁]
    rfl
  change Arrives ((seesSignature >>= fun called => _) e) _
  rw [bind_run signature]
  simp only [Bool.false_eq_true, if_false]
  rw [eat_run, spells₁]
  change Arrives (((Grammar.ofDepth m).assignment >>= fun string => node d.peek.start
    (.property ⟨some ⟨d.tree.size⟩, some string, "init", false, false, false⟩)) e.advance) _
  have next : e.advance = { d₁.advance with tree } := Cursor.advance_withTree _ _
  rw [next]
  generalize d₁.advance = d₂ at *
  have text : d.peek.text = utf8 "comment" := congrArg Token.text h.word
  refine (value_comment (d := { d₂ with tree }) string ?_ (text ▸ named) plain m).post ?_
  · rw [Cursor.advance_withTree]
    exact comma
  · rintro p d' ⟨⟨tree', rfl⟩, kept', comment⟩
    rw [Cursor.advance_withTree]
    exact ⟨⟨tree', rfl⟩, kept.trans kept', comment⟩

/-- What is read after the first of some items. -/
def commaRest (close : Text) (item : Parser NodeId) (n : Nat) (a : NodeId) :
    Parser (List NodeId) := do
  let more ← (do if ← eat "," then commaItems close item n else return [])
  discard (expect close)
  return a :: more

theorem commaList_cons {close : Text} {item : Parser NodeId}
    (unclosed : d.peek.spells close = false) :
    commaList close item d = (item >>= commaRest close item d.rest.length) d := by
  change (commaItems close item (d.rest.length + 1) >>= fun items =>
    Functor.discard (expect close) >>= fun _ => pure items) d = _
  rw [commaItems, bind_assoc, sees_run, unclosed]
  simp only [Bool.false_eq_true, if_false, bind_assoc]
  refine congrArg (fun f => (item >>= f) d) (funext fun p => ?_)
  rw [commaRest, bind_assoc]
  refine congrArg (eat "," >>= ·) (funext fun x => ?_)
  cases x <;> simp

/-- The list of properties with one more before the others. -/
theorem commaList_comment (h : d.AtComment value) (plain : Plain value) (m : Nat)
    {Q : List NodeId → Cursor → Prop}
    (others : ∀ p k tree, d.tree.KeptIn tree → tree.IsComment p value →
      Arrives ((commaItems "\x7d" (objectMember (.ofDepth m)) k >>= fun items =>
        Functor.discard (expect "\x7d") >>= fun _ => pure items)
          { d.advance.advance.advance.advance with tree }) fun l d' => Q (p :: l) d') :
    Arrives (commaList "\x7d" (objectMember (.ofDepth m)) d) Q := by
  let item : Parser NodeId := objectMember (.ofDepth m)
  rw [commaList_cons (spells_of_bare h.word)]
  refine (objectMember_comment h plain m).bind (f := commaRest _ item _) fun p d' known => ?_
  obtain ⟨⟨tree, rfl⟩, kept, comment⟩ := known
  have comma := h.comma
  have others := others p d.rest.length tree kept comment
  generalize d.advance.advance.advance = d₃ at *
  have spells : Cursor.peek { d₃ with tree } |>.spells "," := spells_of_bare comma
  rw [commaRest, bind_assoc, eat_run, if_pos spells]
  change Arrives ((commaItems "\x7d" item d.rest.length >>= fun l =>
    Functor.discard (expect "\x7d") >>= fun _ => pure (p :: l)) (Cursor.advance { d₃ with tree })) _
  rw [Cursor.advance_withTree]
  have joined : (commaItems "\x7d" item d.rest.length >>= fun l =>
        Functor.discard (expect "\x7d") >>= fun _ => pure (p :: l))
      = (commaItems "\x7d" item d.rest.length >>= fun items =>
        Functor.discard (expect "\x7d") >>= fun _ => pure items) >>= fun l => pure (p :: l) := by
    simp
  rw [joined]
  exact others.bind (f := fun l => pure (p :: l)) fun l d' known => known

end Parser

end Script
end TreeLint
