import TreeLint.Proofs.Rewriting.Script
import TreeLint.Proofs.Tree.Tour

/-! # One program

Whatever the parsers of a script add to its tree stands below the program: no node among it is
another program, and no identifier is without a name, for the words of a script are not empty
(`Shape.Inner`).  A parser that is put together from others keeps this where they do, so the
instances of `Inner` follow the grammar, and the depth of the grammar is taken by induction
(`Grammar.ofDepth_inner`).  The program that goes on top in the end is then the only one
(`Built.eq_root`).
-/

namespace TreeLint

/-- A shape that may stand below a program: no other program, and no identifier without a
name. -/
def Shape.Inner (names : Names) : Shape → Prop
  | .program _ => False
  | .identifier i => names.get i.name ≠ []
  | _ => True

namespace Shape

/-- Neither a program nor an identifier. -/
@[reducible] def isPlain : Shape → Bool
  | .program _ | .identifier _ => false
  | _ => true

theorem inner_of_isPlain {s : Shape} (h : s.isPlain = true) (names : Names) : s.Inner names := by
  cases s with
  | program | identifier => contradiction
  | _ => trivial

/-- The kind of such a shape tells that it is no program, and whether it is an identifier. -/
theorem Inner.kind {s : Shape} {names : Names} (h : s.Inner names) : s.kind ≠ .program ∧
    (s.kind = .identifier → ∃ i, s = .identifier i ∧ names.get i.name ≠ []) := by
  cases s with
  | program p => contradiction
  | identifier i => exact ⟨nofun, fun _ => ⟨i, rfl, h⟩⟩
  | importSpecifier x | classNode x | function x | call x =>
    rcases x with ⟨⟨⟩⟩ <;> exact ⟨nofun, nofun⟩
  | list form _ | wrap form _ | pair form _ _ => cases form <;> exact ⟨nofun, nofun⟩
  | _ => exact ⟨nofun, nofun⟩

/-- Names are only added, so a shape does not lose its name. -/
theorem Inner.keep {s : Shape} {names names' : Names} (h : s.Inner names)
    (more : names.list <+: names'.list) : s.Inner names' := by
  cases s with
  | identifier i =>
    obtain ⟨new, eq⟩ := more
    simp only [Inner, Names.get, List.getD_eq_getElem?_getD, ← eq] at h ⊢
    by_cases known : i.name < names.list.length
    · rwa [List.getElem?_append_left known]
    · exact absurd (by simp [List.getElem?_eq_none (Nat.le_of_not_lt known)]) h
  | _ => exact h

end Shape

namespace Script

/-! ## Parsers -/

/-- What is found true by computation. -/
class Holds (b : Bool) : Prop where
  holds : b = true

instance : Holds true := ⟨rfl⟩

/-- All nodes built so far for a file may stand below a program, and the words that are still
to be read are not empty. -/
structure Cursor.Inner (file : FileId) (c : Cursor) : Prop where
  file : c.tree.file = file
  nodes : ∀ {id n}, c.tree.node? id = some n → n.shape.Inner c.tree.names
  words : ∀ t ∈ c.rest, t.kind = .word → t.text ≠ []
  eof : c.eof.kind = .eof

/-- A parser that adds to a tree only what may stand below a program. -/
class Inner {α : Type} (p : Parser α) : Prop where
  keep : ∀ {file c a c'}, p c = .ok (a, c') → c.Inner file → c'.Inner file

namespace Cursor.Inner

variable {file : FileId} {c : Cursor}

theorem peek (h : c.Inner file) (word : c.peek.kind = .word) : c.peek.text ≠ [] := by
  unfold Cursor.peek peekAt at word ⊢
  cases rest : c.rest with
  | nil => simp [rest, h.eof] at word
  | cons t ts =>
    rw [rest] at word
    exact h.words t (rest ▸ List.mem_cons_self) word

theorem advance (h : c.Inner file) : c.advance.Inner file := by
  unfold Cursor.advance
  split
  · exact h
  · exact ⟨h.file, h.nodes, fun t mem => h.words t (List.mem_of_mem_tail mem), h.eof⟩

theorem add (h : c.Inner file) {span : Span} {shape : Shape} (inner : shape.Inner c.tree.names) :
    Cursor.Inner file { c with tree := (c.tree.add span shape).1 } := by
  refine ⟨h.file, fun {id n} found => ?_, h.words, h.eof⟩
  obtain ⟨-, -, same⟩ | ⟨old, found', -, same, -⟩ := Tree.node?_of_add found
  · exact same ▸ inner
  · exact same ▸ h.nodes found'

theorem intern (h : c.Inner file) (name : Text) :
    Cursor.Inner file { c with tree := { c.tree with names := (c.tree.names.intern name).1 } } :=
  ⟨h.file, fun found => (h.nodes found).keep (Tree.KeptIn.intern c.tree.names name), h.words,
    h.eof⟩

end Cursor.Inner

open Rewriting.Tracks (exists_of_bind)

section Inner

open TreeLint.Script.Parser

variable {α β : Type} {p : Parser α} {f : α → Parser β}

theorem Inner.bind (h : Inner p) (h' : ∀ a, Inner (f a)) : Inner (p >>= f) := by
  refine ⟨fun run inner => ?_⟩
  obtain ⟨a, c', first, second⟩ := exists_of_bind run
  exact (h' a).keep second (h.keep first inner)

instance [Inner p] [∀ a, Inner (f a)] : Inner (p >>= f) := .bind inferInstance inferInstance

instance (priority := low) [Looks p] : Inner p := by
  refine ⟨fun {file c a c'} run inner => ?_⟩
  obtain ⟨b, same⟩ := Looks.look (p := p) c
  cases same.symm.trans run
  exact inner

instance [Inner p] {g : α → β} : Inner (g <$> p) :=
  Inner.bind (f := fun a => pure (g a)) inferInstance inferInstance

instance [Inner p] : Inner (discard p) := inferInstanceAs (Inner (_ <$> p))

instance {problem : Problem} : Inner (fail problem : Parser α) := ⟨nofun⟩

instance {b : Prop} [Decidable b] {q : Parser α} [Inner p] [Inner q] :
    Inner (if b then p else q) := by
  split <;> infer_instance

instance : Inner advance := by
  refine ⟨fun run inner => ?_⟩
  cases run
  exact inner.advance

instance {text : Text} : Inner (eat text) := by unfold eat; infer_instance

instance {text : Text} : Inner (expect text) := by unfold expect; infer_instance

instance : Inner word := by unfold word; infer_instance

instance : Inner semicolon := by unfold semicolon; infer_instance

instance {start : UInt32} : Looks (spanFrom start) := ⟨fun _ => ⟨_, rfl⟩⟩

instance : Looks rounds := by unfold rounds; infer_instance

instance : Looks here := by unfold here; infer_instance

instance {start : UInt32} {shape : Shape} [plain : Holds shape.isPlain] :
    Inner (node start shape) := by
  refine ⟨fun run inner => ?_⟩
  cases run
  exact inner.add (Shape.inner_of_isPlain plain.holds _)

instance {start : UInt32} {type : Text} {children : List NodeId} :
    Inner (other start type children) := by
  unfold other
  infer_instance

theorem Inner.identifierNode {start : UInt32} {name : Text} {ofType : Ref} {optional : Bool}
    (named : name ≠ []) : Inner (identifierNode start name ofType optional) := by
  refine ⟨fun {file c a c'} run inner => ?_⟩
  cases run
  refine (inner.intern name).add ?_
  show (c.tree.names.intern name).1.get (c.tree.names.intern name).2 ≠ []
  rwa [Names.get, List.getD_eq_getElem?_getD, Names.getElem?_intern]

/-- The words that are read are not empty. -/
theorem Inner.word {f : Token → Parser α} (h : ∀ t, t.text ≠ [] → Inner (f t)) :
    Inner (word >>= f) := by
  refine ⟨fun {file c a c''} run inner => ?_⟩
  obtain ⟨t, c', first, second⟩ := exists_of_bind run
  have split : Parser.word c = (if c.peek.kind == .word then advance
    else peek >>= fun t => fail (.expectedIdentifier t.text) : Parser Token) c := rfl
  rw [split] at first
  split at first
  next known =>
    cases first
    exact (h _ (inner.peek (eq_of_beq known))).keep second inner.advance
  · cases first

instance : Inner identifier := by
  unfold identifier
  exact .word fun t named => .identifierNode named

/-! ### Repetition -/

instance {step : Parser (Option α)} [Inner step] {n : Nat} : Inner (collect step n) := by
  induction n with
  | zero => unfold collect; infer_instance
  | succ n ih =>
    unfold collect
    refine .bind inferInstance fun o => ?_
    cases o <;> infer_instance

instance {step : Parser (Option α)} [Inner step] : Inner (many step) := by
  unfold many
  infer_instance

instance {step : α → Parser (Option α)} [∀ a, Inner (step a)] {n : Nat} {a : α} :
    Inner (iterate step n a) := by
  induction n generalizing a with
  | zero => unfold iterate; infer_instance
  | succ n ih =>
    unfold iterate
    refine .bind inferInstance fun o => ?_
    cases o <;> infer_instance

instance {step : α → Parser (Option α)} [∀ a, Inner (step a)] {a : α} :
    Inner (improve step a) := by
  unfold improve
  infer_instance

instance {close : Text} {item : Parser α} [Inner item] {n : Nat} :
    Inner (commaItems close item n) := by
  induction n with
  | zero => unfold commaItems; infer_instance
  | succ n ih => unfold commaItems; infer_instance

instance {close : Text} {item : Parser α} [Inner item] : Inner (commaList close item) := by
  unfold commaList
  infer_instance

instance {item : Parser α} [Inner item] {n : Nat} : Inner (commaChain item n) := by
  induction n with
  | zero => unfold commaChain; infer_instance
  | succ n ih => unfold commaChain; infer_instance

instance {close : Text} {item : Parser NodeId} [Inner item] {n : Nat} :
    Inner (holeyItems close item n) := by
  induction n with
  | zero => unfold holeyItems; infer_instance
  | succ n ih => unfold holeyItems; infer_instance

instance {close : Text} {item : Parser NodeId} [Inner item] : Inner (holeyList close item) := by
  unfold holeyList
  infer_instance

instance {close : Text} {unterminated : Problem} {item : Parser α} [Inner item] :
    Inner (block close unterminated item) := by
  unfold block
  infer_instance

/-! ### Leaves -/

instance : Inner literal := by
  unfold literal
  refine .bind inferInstance fun t => ?_
  split <;> infer_instance

instance : Inner stringLiteral := by unfold stringLiteral; infer_instance

instance : Inner entityName := by unfold entityName; infer_instance

instance {fuel depth : Nat} : Inner (skipAngles fuel depth) := by
  induction fuel generalizing depth with
  | zero => unfold skipAngles; infer_instance
  | succ fuel ih => unfold skipAngles; infer_instance

instance : Inner skipTypeParams := by unfold skipTypeParams; infer_instance

end Inner

/-! ## The grammar -/

/-- A grammar whose places of recursion add only what may stand below a program. -/
class Grammar.Inner (g : Grammar) : Prop where
  typeNode : Script.Inner g.typeNode
  postfixType : Script.Inner g.postfixType
  bindingTarget : Script.Inner g.bindingTarget
  primary : Script.Inner g.primary
  construct : Script.Inner g.construct
  unary : Script.Inner g.unary
  binary : ∀ level, Script.Inner (g.binary level)
  assignment : Script.Inner g.assignment
  statement : Script.Inner g.statement

attribute [instance] Grammar.Inner.typeNode Grammar.Inner.postfixType Grammar.Inner.bindingTarget
  Grammar.Inner.primary Grammar.Inner.construct Grammar.Inner.unary Grammar.Inner.binary
  Grammar.Inner.assignment Grammar.Inner.statement

namespace Parser

-- One search goes through the whole of a function.
set_option synthInstance.maxSize 2000

variable {g : Grammar} [g.Inner] {start : UInt32}

/-! ### Bindings -/

instance : Inner (colonType g) := by unfold colonType; infer_instance

instance : Inner (propertyKey g) := by unfold propertyKey; infer_instance

instance {target : Parser NodeId} [Inner target] : Inner (bindingElement g target) := by
  unfold bindingElement
  infer_instance

instance : Inner (objectPatternItem g) := by unfold objectPatternItem; infer_instance

instance : Inner (arrayPatternItem g) := by unfold arrayPatternItem; infer_instance

instance : Inner (bindingTarget g) := by
  unfold bindingTarget
  refine .bind inferInstance fun start => .bind inferInstance fun brace => ?_
  split
  · infer_instance
  refine .bind inferInstance fun bracket => ?_
  split
  · infer_instance
  refine .word fun t named => ?_
  refine .bind inferInstance fun optional => .bind inferInstance fun ofType => ?_
  exact .identifierNode named

instance : Inner skipModifiers := by unfold skipModifiers; infer_instance

instance : Inner (param g) := by unfold param; infer_instance

instance : Inner (params g) := by unfold params; infer_instance

/-! ### Types -/

instance : Inner (typeArgs g) := by unfold typeArgs; infer_instance

instance : Inner memberSeparator := by unfold memberSeparator; infer_instance

instance : Inner (signature g) := by unfold signature; infer_instance

instance : Looks seesSignature := by unfold seesSignature; infer_instance

instance {isReadonly : Bool} : Inner (keyedTypeMember g start isReadonly) := by
  unfold keyedTypeMember
  infer_instance

instance : Inner eatReadonly := by unfold eatReadonly; infer_instance

instance : Inner (typeMember g) := by unfold typeMember; infer_instance

instance {form : ListForm} : Inner (typeMembers g form) := by unfold typeMembers; infer_instance

instance : Inner (parenthesizedType g start) := by unfold parenthesizedType; infer_instance

instance : Inner (namedType g start) := by unfold namedType; infer_instance

instance : Inner (primaryType g) := by unfold primaryType; infer_instance

instance : Inner (postfixType g) := by unfold postfixType; infer_instance

instance {operator : Text} {operand : Parser NodeId} [Inner operand] :
    Inner (operands operator operand) := by
  unfold operands
  infer_instance

instance {form : ListForm} {types : List NodeId} : Inner (joined start form types) := by
  unfold joined
  split <;> infer_instance

instance : Inner (intersectionType g) := by unfold intersectionType; infer_instance

instance : Inner (typeNode g) := by unfold typeNode; infer_instance

/-! ### Functions and classes -/

instance : Inner (blockStatement g) := by unfold blockStatement; infer_instance

instance {form : FunctionForm} {isAsync : Bool} : Inner (function g form start isAsync) := by
  unfold function
  infer_instance

instance {isAsync : Bool} : Inner (methodFunction g isAsync) := by
  unfold methodFunction
  infer_instance

instance : Inner modifiers := by unfold modifiers; infer_instance

instance : Inner (fieldRest g) := by unfold fieldRest; infer_instance

instance : Inner (classMember g) := by unfold classMember; infer_instance

instance : Inner (classBody g) := by unfold classBody; infer_instance

instance : Inner implemented := by unfold implemented; infer_instance

/-! ### Expressions -/

instance {p : Parser NodeId} [Inner p] : Inner (sequence p) := by
  unfold sequence
  refine .bind inferInstance fun start => .bind inferInstance fun bound => ?_
  refine .bind inferInstance fun items => ?_
  split <;> infer_instance

instance : Inner (spreadOr g) := by unfold spreadOr; infer_instance

instance : Inner (callArguments g) := by unfold callArguments; infer_instance

instance : Inner (bracketProperty g) := by unfold bracketProperty; infer_instance

instance {calls : Bool} {expr : NodeId} : Inner (optionalLink g start calls expr) := by
  unfold optionalLink
  infer_instance

instance {calls : Bool} {expr : NodeId} : Inner (link g start calls expr) := by
  unfold link
  infer_instance

instance {calls : Bool} {expr : NodeId} : Inner (chain g start calls expr) := by
  unfold chain
  infer_instance

instance {form : ClassForm} {isAbstract : Bool} : Inner (classNode g form start isAbstract) := by
  unfold classNode
  refine .bind inferInstance fun _ => .bind inferInstance fun isWord => ?_
  refine .bind inferInstance fun isExtends => .bind inferInstance fun isImplements => ?_
  extract_lets named rest
  have (name : Ref) : Inner (rest name) := by
    unfold rest
    refine .bind inferInstance fun _ => .bind inferInstance fun extended => ?_
    split <;> infer_instance
  infer_instance

instance : Inner (arrayLiteral g) := by unfold arrayLiteral; infer_instance

instance : Inner eatMemberWord := by unfold eatMemberWord; infer_instance

instance : Inner (objectMember g) := by unfold objectMember; infer_instance

instance : Inner (objectLiteral g) := by unfold objectLiteral; infer_instance

instance {token : Token} : Inner (wordExpression g token) := by
  unfold wordExpression
  infer_instance

instance : Inner (primary g) := by
  unfold primary
  refine .bind inferInstance fun token => ?_
  split <;> infer_instance

instance : Inner (construct g) := by unfold construct; infer_instance

instance : Inner (leftHandSide g) := by unfold leftHandSide; infer_instance

instance : Inner (updated g start) := by unfold updated; infer_instance

instance : Inner (unary g) := by
  unfold unary
  refine .bind inferInstance fun token => ?_
  split <;> infer_instance

instance {level : Nat} {left : NodeId} : Inner (binaryStep g level start left) := by
  unfold binaryStep
  refine .bind inferInstance fun token => ?_
  split <;> infer_instance

instance {level : Nat} : Inner (binary g level) := by unfold binary; infer_instance

instance : Inner (conditional g) := by unfold conditional; infer_instance

instance : Looks arrowKind? := by unfold arrowKind?; infer_instance

instance {isAsync : Bool} : Inner (arrow g isAsync) := by unfold arrow; infer_instance

instance : Inner (assignment g) := by
  unfold assignment
  refine .bind inferInstance fun kind? => ?_
  split <;> infer_instance

/-! ### Statements -/

instance : Inner (expression g) := by unfold expression; infer_instance

instance : Looks typeImportAhead := by unfold typeImportAhead; infer_instance

instance : Inner moduleReference := by unfold moduleReference; infer_instance

instance : Inner importSpecifier := by unfold importSpecifier; infer_instance

instance {specifiers : List NodeId} {typeOnly : Bool} :
    Inner (importFrom start specifiers typeOnly) := by
  unfold importFrom
  infer_instance

instance : Inner bracedImports := by unfold bracedImports; infer_instance

instance : Inner defaultImport? := by unfold defaultImport?; infer_instance

instance : Inner importSpecifiers := by
  unfold importSpecifiers
  refine .bind inferInstance fun default? => ?_
  split <;> infer_instance

instance {exported : Bool} : Inner (importDeclaration start exported) := by
  unfold importDeclaration
  infer_instance

instance : Inner exportSpecifier := by unfold exportSpecifier; infer_instance

instance : Inner (defaultExport g) := by unfold defaultExport; infer_instance

instance : Inner (exportAll start) := by unfold exportAll; infer_instance

instance : Inner (exportList start) := by unfold exportList; infer_instance

instance : Inner (exportDeclaration g) := by unfold exportDeclaration; infer_instance

instance : Inner (interfaceHeritage g) := by unfold interfaceHeritage; infer_instance

instance : Inner (interfaceDeclaration g start) := by unfold interfaceDeclaration; infer_instance

instance : Inner (typeAlias g start) := by unfold typeAlias; infer_instance

instance : Inner (declarator g) := by unfold declarator; infer_instance

instance : Inner (variableDeclaration g start) := by unfold variableDeclaration; infer_instance

instance : Inner (ifStatement g) := by unfold ifStatement; infer_instance

instance : Inner (catchClause g) := by unfold catchClause; infer_instance

instance : Inner (tryStatement g) := by unfold tryStatement; infer_instance

instance : Inner (returnStatement g) := by unfold returnStatement; infer_instance

instance : Inner (throwStatement g) := by unfold throwStatement; infer_instance

instance : Inner (whileStatement g) := by unfold whileStatement; infer_instance

instance {token : Token} : Inner (keywordStatement? g token) := by
  unfold keywordStatement?
  split
  · infer_instance
  refine .bind inferInstance fun next => ?_
  split <;> infer_instance

instance : Inner (statement g) := by
  unfold statement
  refine .bind inferInstance fun token => .bind inferInstance fun known? => ?_
  split <;> infer_instance

instance : Inner (statements g) := by unfold statements; infer_instance

end Parser

namespace Grammar

theorem exhausted_inner : exhausted.Inner := by
  unfold exhausted
  constructor <;> intros <;> infer_instance

theorem Inner.deeper {g : Grammar} [g.Inner] : g.deeper.Inner := by
  unfold Grammar.deeper
  constructor <;> intros <;> infer_instance

theorem ofDepth_inner (n : Nat) : (ofDepth n).Inner := by
  induction n with
  | zero => exact exhausted_inner
  | succ n ih => exact ih.deeper

end Grammar

/-! ## Scripts -/

/-- No word is empty. -/
theorem words_of_tokensFrom {file : FileId} {offset : Nat} {text : Text} {found : Tokens}
    (cut : tokensFrom file offset text = .ok found) :
    ∀ t ∈ found.tokens, t.kind = .word → t.text ≠ [] := by
  fun_induction tokensFrom file offset text generalizing found with
  | case1 offset =>
    cases cut
    simp [Token.ofText]
  | case2 | case3 => contradiction
  | case4 offset b rest length more rec taken ih =>
    cases cut
    exact ih rec
  | case5 offset b rest length more rec span taken =>
    rename_i ih
    cases cut
    exact fun t mem => ih rec t mem
  | case6 offset b rest length more rec kind token taken =>
    rename_i ih
    cases cut
    intro t mem
    obtain rfl | mem := List.mem_cons.mp mem
    · exact fun _ => List.cons_ne_nil _ _
    · exact ih rec t mem

/-- What is known of the tree of a script: it has no defect, and below its root nothing is out
of place. -/
structure Built (file : FileId) (t : Tree) : Prop where
  file : t.file = file
  fine : t.defect? = none
  inner : ∀ {id n}, t.node? id = some n → some id = t.root ∨ n.shape.Inner t.names

theorem defect?_of_build {file : FileId} {source : Text} {found : Tokens} {t : Tree}
    (built : build file source found = .ok t) : t.defect? = none := by
  unfold build at built
  dsimp only at built
  split at built
  · contradiction
  · split at built
    · contradiction
    next fine =>
      rw [← Except.ok.inj built]
      exact fine

theorem built_of_parseSource {file : FileId} {source : Text} {t : Tree}
    (parsed : parseSource file source = .ok t) : Built file t := by
  unfold parseSource at parsed
  cases cut : tokenize file source with
  | error e => simp [cut] at parsed
  | ok tokens =>
    rw [cut] at parsed
    have fine := defect?_of_build parsed
    obtain ⟨body, c, span, run, rfl⟩ := build_eq_ok parsed
    have start : (tokens.cursor file source).Inner file :=
      ⟨rfl, fun found => by simp [Tokens.cursor, Tree.empty, Tree.node?] at found,
        words_of_tokensFrom cut, rfl⟩
    have := Grammar.ofDepth_inner (tokens.tokens.length + 1)
    have inner : c.Inner file := Inner.keep run start
    refine ⟨inner.file, fine, fun {id n} found => ?_⟩
    obtain ⟨rfl, -⟩ | ⟨old, found', -, same, -⟩ :=
      Tree.node?_of_add (show (c.tree.add _ (.program _)).1.node? id = some n from found)
    · exact .inl rfl
    · exact .inr (same ▸ inner.nodes found')

theorem built_of_parse {files : FileSet} {id : FileId} {t : Tree}
    (parsed : parse files id = .ok t) : Built id t := by
  unfold parse at parsed
  split at parsed
  · contradiction
  next f known =>
    split at parsed
    next u outcome => exact Except.ok.inj parsed ▸ built_of_parseSource outcome
    · contradiction

theorem parse_of_parseSource {files : FileSet} {id : FileId} {f : File} {t : Tree}
    (known : files.get? id = some f) (parsed : parseSource id f.content = .ok t) :
    parse files id = .ok t := by
  simp only [parse, known, parsed]

/-- A text that is read as a script. -/
structure Reading (file : FileId) (source : Text) (found : Tokens) (t : Tree) : Prop where
  short : source.length < UInt32.size
  cut : tokenize file source = .ok found
  parsed : parseSource file source = .ok t
  climbing : t.Climbing
  delimits : ∀ {id n}, t.node? id = some n → some id ≠ t.root →
    (found.stream file source).Delimits n.span

theorem exists_reading {files : FileSet} {id : FileId} {f : File} {t : Tree}
    (known : files.get? id = some f) (short : f.content.length < UInt32.size)
    (parsed : parse files id = .ok t) : ∃ found, Reading id f.content found t := by
  simp only [parse, known] at parsed
  obtain ⟨e, -, outcome⟩ | ⟨e, outcome, -⟩ | ⟨found, u, cut, outcome, steps, spans⟩ :=
    parseSource_outcome id short
  · simp [outcome] at parsed
  · simp [outcome] at parsed
  · rw [outcome] at parsed
    obtain rfl : u = t := Except.ok.inj parsed
    exact ⟨found, short, cut, outcome, (Tree.Climbing.empty id).steps steps, spans.spans⟩

/-- A node other than the program lies within the text. -/
theorem Reading.within {file : FileId} {source : Text} {found : Tokens} {t : Tree}
    (h : Reading file source found t) {id : NodeId} {k : Kind} (known : t.hasKind (some id) k)
    (inner : k ≠ .program) : (t.span (some id)).file = file ∧
      (t.span (some id)).start < (t.span (some id)).stop ∧
      (t.span (some id)).stop.toNat ≤ source.length := by
  obtain ⟨n, found_, kind⟩ := Tree.hasKind_iff.mp known
  have other : some id ≠ t.root := by
    obtain ⟨root, b, planted⟩ := Tree.exists_planted (built_of_parseSource h.parsed).fine
    rw [planted.at_root]
    rintro ⟨⟩
    obtain ⟨m, found', program⟩ := Tree.hasKind_iff.mp planted.program
    cases found_.symm.trans found'
    exact inner (kind.symm.trans program)
  have delimits := h.delimits found_ other
  obtain ⟨last, mem, live, stop⟩ := delimits.last
  have limit := UInt32.le_iff_toNat_le.mp ((tokenize_ordered h.short h.cut).stop_le mem live)
  rw [Tree.span_of_node? found_]
  exact ⟨delimits.file, delimits.proper, stop ▸ toNat_offset h.short ▸ limit⟩

namespace Built

variable {file : FileId} {t : Tree}

/-- The root is the only program. -/
theorem eq_root (h : Built file t) {id : NodeId} (program : t.hasKind (some id) .program) :
    some id = t.root := by
  obtain ⟨n, found, kind⟩ := Tree.hasKind_iff.mp program
  exact (h.inner found).resolve_right fun inner => inner.kind.1 kind

/-- No identifier is without a name. -/
theorem name_ne_nil (h : Built file t) {r : Ref} (identifier : t.hasKind r .identifier) :
    t.name r ≠ [] := by
  cases r with
  | none => simp [Tree.hasKind, Tree.kind?, Tree.deref?] at identifier
  | some id =>
    obtain ⟨n, found, kind⟩ := Tree.hasKind_iff.mp identifier
    obtain top | inner := h.inner found
    · obtain ⟨root, b, planted⟩ := Tree.exists_planted h.fine
      obtain ⟨m, found', program⟩ := Tree.hasKind_iff.mp planted.program
      rw [planted.at_root, Option.some.injEq] at top
      subst top
      cases found.symm.trans found'
      cases kind.symm.trans program
    · obtain ⟨i, shape, named⟩ := inner.kind.2 kind
      simpa [Tree.name, Tree.identifier?, Tree.part?, Tree.deref?, found, shape] using named

end Built

end Script

/-! ## The program of a node -/

namespace Tree

variable {t : Tree} {root id : NodeId} {b : Branch}

/-- The way up from a node below the root goes by the root. -/
theorem Planted.root_mem (h : t.Planted root b) (leads : t.Leads root id) {above : List NodeId}
    (up : t.Ancestry id above) : id = root ∨ root ∈ above := by
  induction leads generalizing above with
  | refl => exact .inl rfl
  | tail leads step ih =>
    obtain ⟨n, found, child⟩ := step
    have parent := h.parent_child leads found child
    cases up with
    | top orphan => simp [parent] at orphan
    | step up more =>
      cases parent.symm.trans up
      obtain rfl | mem := ih more
      · exact .inr List.mem_cons_self
      · exact .inr (List.mem_cons_of_mem _ mem)

theorem Planted.ancestry (h : t.Planted root b) (leads : t.Leads root id) :
    t.Ancestry id (t.ancestors (some id)) := by
  have entered : id ∈ t.walk.filterMap Visit.entered? := by
    rw [h.walk_eq_tour, Branch.entered_tour]
    exact h.mem_ids_iff.mpr leads
  obtain ⟨v, mem, enters⟩ := List.mem_filterMap.mp entered
  cases v with
  | leave other => contradiction
  | enter other =>
    cases enters
    obtain ⟨before, after, split⟩ := List.append_of_mem mem
    have traces := h.walk_traces
    rw [split] at traces
    obtain ⟨opened, -, up, deep⟩ := traces.opened_at
    rwa [ancestors, up.ancestorsWithin_eq (Nat.le_of_lt deep)]

end Tree

/-- In a script every node below the root belongs to the program at the root. -/
theorem Script.Built.enclosingProgram_eq {file : FileId} {t : Tree} (h : Built file t)
    {root id : NodeId} (at_root : t.root = some root) (leads : t.Leads root id) :
    t.enclosingProgram (some id) = t.root := by
  obtain ⟨top, b, planted⟩ := Tree.exists_planted h.fine
  cases at_root.symm.trans planted.at_root
  unfold Tree.enclosingProgram
  split
  next program => exact h.eq_root program
  next other =>
    have mem := (planted.root_mem leads (planted.ancestry leads)).resolve_left fun same =>
      other (same ▸ planted.program)
    unfold Tree.closest
    cases found : (t.ancestors (some id)).find? fun p =>
        [Kind.program].any (t.hasKind (some p)) with
    | none =>
      have none := List.find?_eq_none.mp found root mem
      simp [planted.program] at none
    | some p =>
      have program := List.find?_some found
      exact h.eq_root (by simpa using program)

end TreeLint
