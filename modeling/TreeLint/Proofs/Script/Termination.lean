import Mathlib
import TreeLint.Proofs.Script.Program

/-! # Bounded recursion

The recursion of the grammar is unrolled level by level, and a parser stops where it runs out of
levels, or a loop out of rounds.  More levels change nothing where there were enough (`Deepens`,
the instances of which follow the grammar), and there are enough if there are as many as tokens
(`Grammar.ofDepth_sound`).  So the depth of the recursion is bounded by the number of tokens.

Between two entries into the recursion the functions of the grammar call only those defined before
them.  What is left to show is that recursion does not enter again where it is: nothing changes
when all its entries are closed for as long as no token has been read (`Grammar.Descends`).  The
loops read tokens as well, for each item of a list (`Item.moves`) and in each round that
finds something (`Round.reads`).
-/

namespace TreeLint.Script

open Rewriting.Tracks (eat_run exists_of_bind mem_of_operatorLevel?)

/-! ## Depth -/

/-- A run that stopped for want of depth: of levels of nesting, or of rounds of a loop. -/
def TooDeep {α : Type} (r : Except GrammarError α) : Prop :=
  ∃ e, r = .error e ∧ e.problem = .tooDeep

/-- Where the first parser does not want depth the second one does the same; and the first one
never goes back. -/
class Deepens {α : Type} (p q : Parser α) : Prop where
  same : ∀ c, TooDeep (p c) ∨ q c = p c
  forth : ∀ {c a c'}, p c = .ok (a, c') → c'.eof = c.eof ∧ c'.rest.length ≤ c.rest.length

section Deepens

open TreeLint.Script.Parser

variable {α β : Type} {p q : Parser α} {f f' : α → Parser β}

theorem Deepens.bind (h : Deepens p q) (h' : ∀ a, Deepens (f a) (f' a)) :
    Deepens (p >>= f) (q >>= f') where
  same c := by
    simp only [Bind.bind, StateT.bind, Except.bind]
    obtain ⟨e, run, deep⟩ | eq := h.same c
    · exact .inl ⟨e, by rw [run], deep⟩
    · rw [eq]
      cases p c with
      | error e => exact .inr rfl
      | ok out => exact (h' out.1).same out.2
  forth run := by
    obtain ⟨a, c', first, second⟩ := exists_of_bind run
    obtain ⟨eof, le⟩ := h.forth first
    obtain ⟨eof', le'⟩ := (h' a).forth second
    exact ⟨eof'.trans eof, Nat.le_trans le' le⟩

instance [Deepens p q] [∀ a, Deepens (f a) (f' a)] : Deepens (p >>= f) (q >>= f') :=
  .bind inferInstance inferInstance

/-- A parser that needs no depth is compared with itself. -/
theorem Deepens.self (forth : ∀ {c a c'}, p c = .ok (a, c') →
    c'.eof = c.eof ∧ c'.rest.length ≤ c.rest.length) : Deepens p p :=
  ⟨fun _ => .inr rfl, forth⟩

instance (priority := low) [Looks p] : Deepens p p := by
  refine .self fun {c a c'} run => ?_
  obtain ⟨b, same⟩ := Looks.look (p := p) c
  cases same.symm.trans run
  exact ⟨rfl, Nat.le_refl _⟩

instance [Deepens p q] {g : α → β} : Deepens (g <$> p) (g <$> q) :=
  inferInstanceAs (Deepens (p >>= fun a => pure (g a)) (q >>= fun a => pure (g a)))

instance [Deepens p q] : Deepens (discard p) (discard q) :=
  inferInstanceAs (Deepens (_ <$> p) (_ <$> q))

instance {problem : Problem} : Deepens (fail problem : Parser α) (fail problem) := .self nofun

theorem Deepens.exhausted : Deepens (fail .tooDeep) p := ⟨fun _ => .inl ⟨_, rfl, rfl⟩, nofun⟩

instance {b : Prop} [Decidable b] {p' q' : Parser α} [Deepens p q] [Deepens p' q'] :
    Deepens (if b then p else p') (if b then q else q') := by
  split <;> infer_instance

theorem Cursor.advance_forth (c : Cursor) :
    c.advance.eof = c.eof ∧ c.advance.rest.length ≤ c.rest.length := by
  rw [Cursor.advance]
  split
  · exact ⟨rfl, Nat.le_refl _⟩
  · exact ⟨rfl, by simp⟩

instance : Deepens advance advance := by
  refine .self fun {c a c'} run => ?_
  cases run
  exact c.advance_forth

instance {text : Text} : Deepens (eat text) (eat text) := by unfold eat; infer_instance

instance {text : Text} : Deepens (expect text) (expect text) := by unfold expect; infer_instance

instance : Deepens word word := by unfold word; infer_instance

instance : Deepens semicolon semicolon := by unfold semicolon; infer_instance

instance {start : UInt32} {shape : Shape} : Deepens (node start shape) (node start shape) := by
  refine .self fun {c a c'} run => ?_
  cases run
  exact ⟨rfl, Nat.le_refl _⟩

instance {start : UInt32} {type : Text} {children : List NodeId} :
    Deepens (other start type children) (other start type children) := by
  unfold other
  infer_instance

instance {start : UInt32} {name : Text} {ofType : Ref} {optional : Bool} :
    Deepens (identifierNode start name ofType optional)
      (identifierNode start name ofType optional) := by
  refine .self fun {c a c'} run => ?_
  cases run
  exact ⟨rfl, Nat.le_refl _⟩

instance : Deepens identifier identifier := by unfold identifier; infer_instance

/-! ### Repetition -/

instance {step step' : Parser (Option α)} [Deepens step step'] {n : Nat} :
    Deepens (collect step n) (collect step' n) := by
  induction n with
  | zero => unfold collect; infer_instance
  | succ n ih =>
    unfold collect
    refine .bind inferInstance fun o => ?_
    cases o <;> infer_instance

instance {step step' : Parser (Option α)} [Deepens step step'] :
    Deepens (many step) (many step') := by
  unfold many
  infer_instance

instance {step step' : α → Parser (Option α)} [∀ a, Deepens (step a) (step' a)] {n : Nat}
    {a : α} : Deepens (iterate step n a) (iterate step' n a) := by
  induction n generalizing a with
  | zero => unfold iterate; infer_instance
  | succ n ih =>
    unfold iterate
    refine .bind inferInstance fun o => ?_
    cases o <;> infer_instance

instance {step step' : α → Parser (Option α)} [∀ a, Deepens (step a) (step' a)] {a : α} :
    Deepens (improve step a) (improve step' a) := by
  unfold improve
  infer_instance

instance {close : Text} [Deepens p q] {n : Nat} :
    Deepens (commaItems close p n) (commaItems close q n) := by
  induction n with
  | zero => unfold commaItems; infer_instance
  | succ n ih => unfold commaItems; infer_instance

instance {close : Text} [Deepens p q] : Deepens (commaList close p) (commaList close q) := by
  unfold commaList
  infer_instance

instance [Deepens p q] {n : Nat} : Deepens (commaChain p n) (commaChain q n) := by
  induction n with
  | zero => unfold commaChain; infer_instance
  | succ n ih => unfold commaChain; infer_instance

instance {close : Text} {item item' : Parser NodeId} [Deepens item item'] {n : Nat} :
    Deepens (holeyItems close item n) (holeyItems close item' n) := by
  induction n with
  | zero => unfold holeyItems; infer_instance
  | succ n ih => unfold holeyItems; infer_instance

instance {close : Text} {item item' : Parser NodeId} [Deepens item item'] :
    Deepens (holeyList close item) (holeyList close item') := by
  unfold holeyList
  infer_instance

instance {close : Text} {unterminated : Problem} [Deepens p q] :
    Deepens (block close unterminated p) (block close unterminated q) := by
  unfold block
  infer_instance

/-! ### Leaves -/

instance : Deepens literal literal := by
  unfold literal
  refine .bind inferInstance fun t => ?_
  split <;> infer_instance

instance : Deepens stringLiteral stringLiteral := by unfold stringLiteral; infer_instance

instance : Deepens entityName entityName := by unfold entityName; infer_instance

instance {fuel depth : Nat} : Deepens (skipAngles fuel depth) (skipAngles fuel depth) := by
  induction fuel generalizing depth with
  | zero => unfold skipAngles; infer_instance
  | succ fuel ih => unfold skipAngles; infer_instance

instance : Deepens skipTypeParams skipTypeParams := by unfold skipTypeParams; infer_instance

end Deepens

/-! ## The grammar -/

/-- A grammar whose places of recursion go deeper than those of another. -/
class Grammar.Deepens (g g' : Grammar) : Prop where
  typeNode : Script.Deepens g.typeNode g'.typeNode
  postfixType : Script.Deepens g.postfixType g'.postfixType
  bindingTarget : Script.Deepens g.bindingTarget g'.bindingTarget
  primary : Script.Deepens g.primary g'.primary
  construct : Script.Deepens g.construct g'.construct
  unary : Script.Deepens g.unary g'.unary
  binary : ∀ level, Script.Deepens (g.binary level) (g'.binary level)
  assignment : Script.Deepens g.assignment g'.assignment
  statement : Script.Deepens g.statement g'.statement

attribute [instance] Grammar.Deepens.typeNode Grammar.Deepens.postfixType
  Grammar.Deepens.bindingTarget Grammar.Deepens.primary Grammar.Deepens.construct
  Grammar.Deepens.unary Grammar.Deepens.binary Grammar.Deepens.assignment Grammar.Deepens.statement

namespace Parser

-- One search goes through the whole of a function, in both grammars.
set_option synthInstance.maxSize 2000

variable {g g' : Grammar} [g.Deepens g'] {start : UInt32}

/-! ### Bindings -/

instance : Deepens (colonType g) (colonType g') := by unfold colonType; infer_instance

instance : Deepens (propertyKey g) (propertyKey g') := by unfold propertyKey; infer_instance

instance {p q : Parser NodeId} [Deepens p q] :
    Deepens (bindingElement g p) (bindingElement g' q) := by
  unfold bindingElement
  infer_instance

instance : Deepens (objectPatternItem g) (objectPatternItem g') := by
  unfold objectPatternItem
  infer_instance

instance : Deepens (arrayPatternItem g) (arrayPatternItem g') := by
  unfold arrayPatternItem
  infer_instance

instance : Deepens (bindingTarget g) (bindingTarget g') := by unfold bindingTarget; infer_instance

instance : Deepens skipModifiers skipModifiers := by unfold skipModifiers; infer_instance

instance : Deepens (param g) (param g') := by unfold param; infer_instance

instance : Deepens (params g) (params g') := by unfold params; infer_instance

/-! ### Types -/

instance : Deepens (typeArgs g) (typeArgs g') := by unfold typeArgs; infer_instance

instance : Deepens memberSeparator memberSeparator := by unfold memberSeparator; infer_instance

instance : Deepens (signature g) (signature g') := by unfold signature; infer_instance

instance {isReadonly : Bool} :
    Deepens (keyedTypeMember g start isReadonly) (keyedTypeMember g' start isReadonly) := by
  unfold keyedTypeMember
  infer_instance

instance : Deepens eatReadonly eatReadonly := by unfold eatReadonly; infer_instance

instance : Deepens (typeMember g) (typeMember g') := by unfold typeMember; infer_instance

instance {form : ListForm} : Deepens (typeMembers g form) (typeMembers g' form) := by
  unfold typeMembers
  infer_instance

instance : Deepens (parenthesizedType g start) (parenthesizedType g' start) := by
  unfold parenthesizedType
  infer_instance

instance : Deepens (namedType g start) (namedType g' start) := by unfold namedType; infer_instance

instance : Deepens (primaryType g) (primaryType g') := by unfold primaryType; infer_instance

instance : Deepens (postfixType g) (postfixType g') := by unfold postfixType; infer_instance

instance {operator : Text} {p q : Parser NodeId} [Deepens p q] :
    Deepens (operands operator p) (operands operator q) := by
  unfold operands
  infer_instance

instance {form : ListForm} {types : List NodeId} :
    Deepens (joined start form types) (joined start form types) := by
  unfold joined
  split <;> infer_instance

instance : Deepens (intersectionType g) (intersectionType g') := by
  unfold intersectionType
  infer_instance

instance : Deepens (typeNode g) (typeNode g') := by unfold typeNode; infer_instance

/-! ### Functions and classes -/

instance : Deepens (blockStatement g) (blockStatement g') := by
  unfold blockStatement
  infer_instance

instance {form : FunctionForm} {isAsync : Bool} :
    Deepens (function g form start isAsync) (function g' form start isAsync) := by
  unfold function
  infer_instance

instance {isAsync : Bool} : Deepens (methodFunction g isAsync) (methodFunction g' isAsync) := by
  unfold methodFunction
  infer_instance

instance : Deepens modifiers modifiers := by unfold modifiers; infer_instance

instance : Deepens (fieldRest g) (fieldRest g') := by unfold fieldRest; infer_instance

instance : Deepens (classMember g) (classMember g') := by unfold classMember; infer_instance

instance : Deepens (classBody g) (classBody g') := by unfold classBody; infer_instance

instance : Deepens implemented implemented := by unfold implemented; infer_instance

/-! ### Expressions -/

instance {p q : Parser NodeId} [Deepens p q] : Deepens (sequence p) (sequence q) := by
  unfold sequence
  refine .bind inferInstance fun start => .bind inferInstance fun bound => ?_
  refine .bind inferInstance fun items => ?_
  split <;> infer_instance

instance : Deepens (spreadOr g) (spreadOr g') := by unfold spreadOr; infer_instance

instance : Deepens (callArguments g) (callArguments g') := by unfold callArguments; infer_instance

instance : Deepens (bracketProperty g) (bracketProperty g') := by
  unfold bracketProperty
  infer_instance

instance {calls : Bool} {expr : NodeId} :
    Deepens (optionalLink g start calls expr) (optionalLink g' start calls expr) := by
  unfold optionalLink
  infer_instance

instance {calls : Bool} {expr : NodeId} :
    Deepens (link g start calls expr) (link g' start calls expr) := by
  unfold link
  infer_instance

instance {calls : Bool} {expr : NodeId} :
    Deepens (chain g start calls expr) (chain g' start calls expr) := by
  unfold chain
  infer_instance

instance {form : ClassForm} {isAbstract : Bool} :
    Deepens (classNode g form start isAbstract) (classNode g' form start isAbstract) := by
  unfold classNode
  refine .bind inferInstance fun _ => .bind inferInstance fun isWord => ?_
  refine .bind inferInstance fun isExtends => .bind inferInstance fun isImplements => ?_
  extract_lets named rest rest'
  have (name : Ref) : Deepens (rest name) (rest' name) := by
    unfold rest rest'
    refine .bind inferInstance fun _ => .bind inferInstance fun extended => ?_
    extract_lets body body'
    have (super : Ref) : Deepens (body super) (body' super) := by
      unfold body body'
      infer_instance
    infer_instance
  infer_instance

instance : Deepens (arrayLiteral g) (arrayLiteral g') := by unfold arrayLiteral; infer_instance

instance : Deepens eatMemberWord eatMemberWord := by unfold eatMemberWord; infer_instance

instance : Deepens (objectMember g) (objectMember g') := by unfold objectMember; infer_instance

instance : Deepens (objectLiteral g) (objectLiteral g') := by unfold objectLiteral; infer_instance

instance {token : Token} : Deepens (wordExpression g token) (wordExpression g' token) := by
  unfold wordExpression
  infer_instance

instance : Deepens (primary g) (primary g') := by
  unfold primary
  refine .bind inferInstance fun token => ?_
  split <;> infer_instance

instance : Deepens (construct g) (construct g') := by unfold construct; infer_instance

instance : Deepens (leftHandSide g) (leftHandSide g') := by unfold leftHandSide; infer_instance

instance : Deepens (updated g start) (updated g' start) := by unfold updated; infer_instance

instance : Deepens (unary g) (unary g') := by
  unfold unary
  refine .bind inferInstance fun token => ?_
  split <;> infer_instance

instance {level : Nat} {left : NodeId} :
    Deepens (binaryStep g level start left) (binaryStep g' level start left) := by
  unfold binaryStep
  refine .bind inferInstance fun token => ?_
  split <;> infer_instance

instance {level : Nat} : Deepens (binary g level) (binary g' level) := by
  unfold binary
  infer_instance

instance : Deepens (conditional g) (conditional g') := by unfold conditional; infer_instance

instance {isAsync : Bool} : Deepens (arrow g isAsync) (arrow g' isAsync) := by
  unfold arrow
  infer_instance

instance : Deepens (assignment g) (assignment g') := by
  unfold assignment
  refine .bind inferInstance fun kind? => ?_
  split <;> infer_instance

/-! ### Statements -/

instance : Deepens (expression g) (expression g') := by unfold expression; infer_instance

instance : Deepens moduleReference moduleReference := by unfold moduleReference; infer_instance

instance : Deepens importSpecifier importSpecifier := by unfold importSpecifier; infer_instance

instance {specifiers : List NodeId} {typeOnly : Bool} :
    Deepens (importFrom start specifiers typeOnly) (importFrom start specifiers typeOnly) := by
  unfold importFrom
  infer_instance

instance : Deepens bracedImports bracedImports := by unfold bracedImports; infer_instance

instance : Deepens defaultImport? defaultImport? := by unfold defaultImport?; infer_instance

instance : Deepens importSpecifiers importSpecifiers := by
  unfold importSpecifiers
  refine .bind inferInstance fun default? => ?_
  split <;> infer_instance

instance {exported : Bool} :
    Deepens (importDeclaration start exported) (importDeclaration start exported) := by
  unfold importDeclaration
  infer_instance

instance : Deepens exportSpecifier exportSpecifier := by unfold exportSpecifier; infer_instance

instance : Deepens (defaultExport g) (defaultExport g') := by unfold defaultExport; infer_instance

instance : Deepens (exportAll start) (exportAll start) := by unfold exportAll; infer_instance

instance : Deepens (exportList start) (exportList start) := by unfold exportList; infer_instance

instance : Deepens (exportDeclaration g) (exportDeclaration g') := by
  unfold exportDeclaration
  infer_instance

instance : Deepens (interfaceHeritage g) (interfaceHeritage g') := by
  unfold interfaceHeritage
  infer_instance

instance : Deepens (interfaceDeclaration g start) (interfaceDeclaration g' start) := by
  unfold interfaceDeclaration
  infer_instance

instance : Deepens (typeAlias g start) (typeAlias g' start) := by unfold typeAlias; infer_instance

instance : Deepens (declarator g) (declarator g') := by unfold declarator; infer_instance

instance : Deepens (variableDeclaration g start) (variableDeclaration g' start) := by
  unfold variableDeclaration
  infer_instance

instance : Deepens (ifStatement g) (ifStatement g') := by unfold ifStatement; infer_instance

instance : Deepens (catchClause g) (catchClause g') := by unfold catchClause; infer_instance

instance : Deepens (tryStatement g) (tryStatement g') := by unfold tryStatement; infer_instance

instance : Deepens (returnStatement g) (returnStatement g') := by
  unfold returnStatement
  infer_instance

instance : Deepens (throwStatement g) (throwStatement g') := by
  unfold throwStatement
  infer_instance

instance : Deepens (whileStatement g) (whileStatement g') := by
  unfold whileStatement
  infer_instance

instance {token : Token} : Deepens (keywordStatement? g token) (keywordStatement? g' token) := by
  unfold keywordStatement?
  split
  · infer_instance
  refine .bind inferInstance fun next => ?_
  split <;> infer_instance

instance : Deepens (statement g) (statement g') := by
  unfold statement
  refine .bind inferInstance fun token => .bind inferInstance fun known? => ?_
  split <;> infer_instance

instance : Deepens (statements g) (statements g') := by unfold statements; infer_instance

end Parser

namespace Grammar

variable {g g' : Grammar} {s : Stream} {n m : Nat}

/-- Where the first grammar stops the second may go on. -/
theorem exhausted_deepens (g : Grammar) : exhausted.Deepens g := by
  constructor <;> intros <;> exact .exhausted

theorem Deepens.deeper [g.Deepens g'] : g.deeper.Deepens g'.deeper := by
  unfold Grammar.deeper
  constructor <;> intros <;> infer_instance

/-- More levels change nothing where there are enough. -/
theorem ofDepth_deepens (le : n ≤ m) : (ofDepth n).Deepens (ofDepth m) := by
  induction n generalizing m with
  | zero => exact exhausted_deepens _
  | succ n ih =>
    cases m with
    | zero => contradiction
    | succ m =>
      have := ih (Nat.le_of_succ_le_succ le)
      exact Deepens.deeper

/-! ## Places of recursion -/

/-- The places where recursion enters again. -/
inductive Place where
  | typeNode
  | postfixType
  | bindingTarget
  | primary
  | construct
  | unary
  | binary (level : Nat)
  | assignment
  | statement

def enter (g : Grammar) : Place → Parser NodeId
  | .typeNode => g.typeNode
  | .postfixType => g.postfixType
  | .bindingTarget => g.bindingTarget
  | .primary => g.primary
  | .construct => g.construct
  | .unary => g.unary
  | .binary level => g.binary level
  | .assignment => g.assignment
  | .statement => g.statement

theorem Deepens.enter (h : g.Deepens g') (place : Place) :
    Script.Deepens (g.enter place) (g'.enter place) := by
  cases place <;> unfold Grammar.enter <;> infer_instance

theorem Sound.enter (h : g.Sound s n) (place : Place) : Yields s n (g.enter place) := by
  cases place with
  | typeNode => exact h.typeNode
  | postfixType => exact h.postfixType
  | bindingTarget => exact h.bindingTarget
  | primary => exact h.primary
  | construct => exact h.construct
  | unary => exact h.unary
  | binary level => exact h.binary level
  | assignment => exact h.assignment
  | statement => exact h.statement

end Grammar

/-- A parser that gives up where more than so many tokens are left. -/
def Parser.within {α : Type} (n : Nat) (p : Parser α) : Parser α := fun c =>
  if c.rest.length ≤ n then p c else .error (c.errorHere .tooDeep)

/-- A grammar whose places of recursion must not be entered with more than so many tokens left. -/
def Grammar.within (n : Nat) (g : Grammar) : Grammar where
  typeNode := Parser.within n g.typeNode
  postfixType := Parser.within n g.postfixType
  bindingTarget := Parser.within n g.bindingTarget
  primary := Parser.within n g.primary
  construct := Parser.within n g.construct
  unary := Parser.within n g.unary
  binary level := Parser.within n (g.binary level)
  assignment := Parser.within n g.assignment
  statement := Parser.within n g.statement

section Within

variable {α : Type} {p q : Parser α} {s : Stream} {n m : Nat}

instance [Deepens p q] : Deepens (Parser.within n p) q where
  same c := by
    unfold Parser.within
    split
    · exact Deepens.same c
    · exact .inl ⟨_, rfl, rfl⟩
  forth {c a c'} run := by
    unfold Parser.within at run
    split at run
    · exact Deepens.forth q run
    · contradiction

theorem Moves.mono {reads : α → Nat} {nodes : α → List NodeId} (h : Moves s m p reads nodes)
    (le : n ≤ m) : Moves s n p reads nodes := by
  refine .of_row fun c₀ => ?_
  have row : Runs (Row s n c₀ 0 []) p fun a => Row s n c₀ (0 + reads a) ([] ++ nodes a) :=
    h.call le
  simpa using row

theorem Moves.within {reads : α → Nat} {nodes : α → List NodeId} (h : Moves s m p reads nodes)
    (le : n ≤ m) : Moves s n (Parser.within n p) reads nodes := by
  rintro c₀ c ⟨rfl, stands⟩
  rw [Parser.within, if_pos stands.bound]
  exact h.mono le c c ⟨rfl, stands⟩

theorem Grammar.within_deepens {g : Grammar} [g.Deepens g] : (g.within n).Deepens g := by
  unfold Grammar.within
  constructor <;> intros <;> infer_instance

theorem Grammar.Sound.within {g : Grammar} (h : g.Sound s m) (le : n ≤ m) :
    (g.within n).Sound s n where
  typeNode := h.typeNode.within le
  postfixType := h.postfixType.within le
  bindingTarget := h.bindingTarget.within le
  primary := h.primary.within le
  construct := h.construct.within le
  unary := h.unary.within le
  binary level := (h.binary level).within le
  assignment := h.assignment.within le
  statement := h.statement.within le

end Within

/-! ## Rounds of loops -/

/-- Where such a token comes next, the parser reads a token before it gives such an answer. -/
def Reads {α : Type} (H : Token → Prop) (A : α → Prop) (p : Parser α) : Prop :=
  ∀ c a c', c.eof.kind = .eof → H c.peek → p c = .ok (a, c') → A a →
    c'.rest.length < c.rest.length

namespace Reads

open TreeLint.Script.Parser

variable {α β : Type} {H : Token → Prop} {A : β → Prop} {p : Parser α} {q q' : Parser β}
  {f : α → Parser β}

/-- What is read first has been read whatever comes after it. -/
theorem first (h : Reads H (fun _ => True) p) [∀ a, Deepens (f a) (f a)] : Reads H A (p >>= f) := by
  intro c b c'' eof head run _
  obtain ⟨a, c', first, second⟩ := exists_of_bind run
  exact Nat.lt_of_le_of_lt (Deepens.forth (f a) second).2 (h c a c' eof head first trivial)

theorem discard {A : PUnit → Prop} (h : Reads H (fun _ => True) p) :
    Reads H A (Functor.discard p) :=
  first (f := fun _ => pure _) h

theorem look [Looks p] (h : ∀ a, Reads H A (f a)) : Reads H A (p >>= f) := by
  intro c b c'' eof head run answer
  obtain ⟨a, c', first, second⟩ := exists_of_bind run
  obtain ⟨a', same⟩ := Looks.look (p := p) c
  cases same.symm.trans first
  exact h a c b c'' eof head second answer

theorem peek {f : Token → Parser β} (h : ∀ t, H t → Reads (· = t) A (f t)) :
    Reads H A (Parser.peek >>= f) := by
  intro c b c'' eof head run answer
  obtain ⟨a, c', first, second⟩ := exists_of_bind run
  cases first
  exact h _ head c b c'' eof rfl second answer

theorem sees {text : Text} {f : Bool → Parser β}
    (yes : Reads (fun t => H t ∧ t.spells text) A (f true)) (no : Reads H A (f false)) :
    Reads H A (Parser.sees text >>= f) := by
  intro c b c'' eof head run answer
  obtain ⟨a, c', first, second⟩ := exists_of_bind run
  cases first
  cases seen : c.peek.spells text with
  | true =>
    rw [seen] at second
    exact yes c b c'' eof ⟨head, seen⟩ second answer
  | false =>
    rw [seen] at second
    exact no c b c'' eof head second answer

theorem ite {b : Prop} [Decidable b] (yes : b → Reads H A q) (no : ¬ b → Reads H A q') :
    Reads H A (if b then q else q') := by
  split
  next h => exact yes h
  next h => exact no h

theorem fail {problem : Problem} : Reads H A (Parser.fail problem) := by
  intro c a c' _ _ run
  cases run

theorem none {H : Token → Prop} : Reads H (fun o : Option β => o.isSome) (pure Option.none) := by
  intro c a c' _ _ run answer
  cases run
  contradiction

theorem advance {A : Token → Prop} (live : ∀ t, H t → t.kind ≠ .eof) :
    Reads H A Parser.advance := by
  intro c a c' eof head run _
  cases run
  have other := live _ head
  show c.advance.rest.length < c.rest.length
  rw [Cursor.advance, if_neg other]
  cases rest : c.rest with
  | nil => simp [Cursor.peek, Cursor.peekAt, rest, eof] at other
  | cons t ts => simp

theorem expect {text : Text} {A : Token → Prop} : Reads H A (Parser.expect text) := by
  unfold Parser.expect
  refine sees (advance fun t seen => Token.kind_ne_of_spells seen.2) (look fun t => fail)

theorem eat {text : Text} [Deepens q q] (no : Reads H A q') :
    Reads H A (Parser.eat text >>= fun b => if b = true then q else q') := by
  intro c b c' eof head run answer
  rw [eat_run] at run
  refine sees (f := fun b => if b = true then Functor.discard Parser.advance >>= fun _ => q else q')
    ?_ no c b c' eof head run answer
  exact first (discard (advance fun t seen => Token.kind_ne_of_spells seen.2))

end Reads

namespace Parser

/-- One more part of a qualified name. -/
def qualifier (start : UInt32) (name : NodeId) : Parser (Option NodeId) := do
  if ← eat "." then
    let right ← identifier
    return some (← node start (.pair .qualifiedName (some name) (some right)))
  else return none

theorem entityName_eq : entityName = (do
    let start ← here
    let first ← identifier
    improve (qualifier start) first) :=
  rfl

/-- One more array or index bracket after a type. -/
def brackets (g : Grammar) (start : UInt32) (type : NodeId) : Parser (Option NodeId) := do
  if (← sees "[") && !(← newlineBefore) then
    discard (expect "[")
    if ← eat "]" then return some (← node start (.wrap .arrayType (some type)))
    let index ← g.typeNode
    discard (expect "]")
    return some (← other start "TSIndexedAccessType" [type, index])
  else return none

theorem postfixType_eq (g : Grammar) : postfixType g = (do
    let start ← here
    let first ← primaryType g
    improve (brackets g start) first) :=
  rfl

/-- One more modifier of a class member. -/
def modifier (m : Modifiers) : Parser (Option Modifiers) := do
  let token ← peek
  if token.kind = .word && memberModifiers.contains token.text
      && (← peekAt 1).startsMemberName then
    discard advance
    return some (m.note token.text)
  else return none

theorem modifiers_eq : modifiers = improve modifier {} := rfl

/-- One more modifier of a parameter. -/
def paramModifier : Parser (Option Unit) := do
  let token ← peek
  if token.kind = .word && paramModifiers.contains token.text && (← peekAt 1).kind == .word then
    discard advance
    return some ()
  else return none

theorem skipModifiers_eq : skipModifiers = discard (many paramModifier) := rfl

/-- One more operand after an operator. -/
def operand (operator : Text) (p : Parser NodeId) : Parser (Option NodeId) := do
  if ← eat operator then return some (← p) else return none

theorem operands_eq (operator : Text) (p : Parser NodeId) : operands operator p = (do
    discard (eat operator)
    let first ← p
    let more ← many (operand operator p)
    return first :: more) :=
  rfl

end Parser

/-- One round of a loop that goes on as long as the round finds something. -/
inductive Round (g : Grammar) : {α : Type} → Parser (Option α) → Prop
  | qualifier (start : UInt32) (name : NodeId) : Round g (Parser.qualifier start name)
  | brackets (start : UInt32) (type : NodeId) : Round g (Parser.brackets g start type)
  | modifier (m : Parser.Modifiers) : Round g (Parser.modifier m)
  | paramModifier : Round g Parser.paramModifier
  | intersected (operator : Text) : Round g (Parser.operand operator (Parser.postfixType g))
  | united (operator : Text) : Round g (Parser.operand operator (Parser.intersectionType g))
  | link (start : UInt32) (calls : Bool) (expr : NodeId) : Round g (Parser.link g start calls expr)
  | operator (level : Nat) (start : UInt32) (left : NodeId) :
    Round g (Parser.binaryStep g level start left)

namespace Parser

set_option synthInstance.maxSize 2000

variable {g : Grammar} [g.Deepens g] {α : Type} {H : Token → Prop}

theorem callArguments_reads {A : List Ref → Prop} : Reads H A (callArguments g) := by
  unfold callArguments
  exact .first (.discard .expect)

theorem link_reads {start : UInt32} {calls : Bool} {expr : NodeId} :
    Reads H (fun o => o.isSome) (link g start calls expr) := by
  unfold link
  have bang {H : Token → Prop} : Reads H (fun o => o.isSome) (do
      if (← sees "!") && !(← newlineBefore) then
        discard advance
        return some (← other start "TSNonNullExpression" [expr])
      else return none) := by
    refine .sees ?_ ?_
    · refine .look fun broken => .ite (fun _ => ?_) fun _ => .none
      exact .first (.discard (.advance fun t seen => Token.kind_ne_of_spells seen.2))
    · exact .look fun broken => .none
  refine .eat (.eat (.eat (.sees ?_ ?_)))
  · exact .ite (fun _ => .first callArguments_reads) fun _ => bang
  · exact bang

theorem binaryStep_reads {level : Nat} {start : UInt32} {left : NodeId} :
    Reads H (fun o => o.isSome) (binaryStep g level start left) := by
  unfold binaryStep
  refine .peek fun token _ => ?_
  split
  · exact .none
  next own known =>
    refine .ite (fun _ => .none) fun _ => .first (.discard (.advance ?_))
    rintro _ rfl
    exact (mem_of_operatorLevel? known).1

theorem brackets_reads {start : UInt32} {type : NodeId} :
    Reads H (fun o => o.isSome) (brackets g start type) := by
  unfold brackets
  exact .look fun seen => .look fun broken =>
    .ite (fun _ => .first (.discard .expect)) fun _ => .none

theorem modifier_reads {m : Modifiers} : Reads H (fun o => o.isSome) (modifier m) := by
  unfold modifier
  refine .peek fun token _ => .look fun next => .ite (fun word => ?_) fun _ => .none
  refine .first (.discard (.advance ?_))
  rintro _ rfl eof
  simp [eof] at word

theorem paramModifier_reads : Reads H (fun o => o.isSome) paramModifier := by
  unfold paramModifier
  refine .peek fun token _ => .look fun next => .ite (fun word => ?_) fun _ => .none
  refine .first (.discard (.advance ?_))
  rintro _ rfl eof
  simp [eof] at word

end Parser

/-- A round that finds something has read a token, whatever stands there. -/
theorem Round.reads {g : Grammar} [g.Deepens g] {α : Type} {step : Parser (Option α)}
    (h : Round g step) : Reads (fun _ => True) (fun o => o.isSome) step := by
  cases h with
  | qualifier => exact .eat .none
  | brackets => exact Parser.brackets_reads
  | modifier => exact Parser.modifier_reads
  | paramModifier => exact Parser.paramModifier_reads
  | intersected | united => exact .eat .none
  | link => exact Parser.link_reads
  | operator => exact Parser.binaryStep_reads

/-! ## Items of lists -/

namespace Parser

/-- An item of a list, or a token that stands in its place. -/
def itemOr (stray : Text) (item : Parser NodeId) : Parser Ref := do
  if ← eat stray then return none
  return some (← item)

theorem classBody_eq (g : Grammar) : classBody g = (do
    let brace ← expect "\x7b"
    let members ← block "\x7d" .unterminatedClassBody (itemOr ";" (classMember g))
    node brace.start (.list .classBody ((members.filterMap id).map some))) :=
  rfl

theorem holeyItems_succ (close : Text) (item : Parser NodeId) (n : Nat) :
    holeyItems close item (n + 1) = (do
      if ← sees close then return []
      let a ← itemOr "," item
      if a.isNone then return none :: (← holeyItems close item n)
      if ← eat "," then return a :: (← holeyItems close item n)
      return [a]) := by
  conv => lhs; unfold holeyItems
  simp only [itemOr, bind_assoc]
  refine congrArg (sees close >>= ·) (funext fun closed => ?_)
  cases closed with
  | true => rfl
  | false =>
    refine congrArg (eat "," >>= ·) (funext fun hole => ?_)
    cases hole with
    | true => rfl
    | false => simp

/-- A token of type parameters, which are only read past. -/
def skipped : Parser Token := do
  if ← atKind .eof then fail .unterminatedTypeParameters
  advance

theorem skipAngles_succ (n depth : Nat) : skipAngles (n + 1) depth = (do
    let token ← skipped
    if token.spells "<" then skipAngles n (depth + 1)
    else if token.spells ">" then
      if depth ≤ 1 then return () else skipAngles n (depth - 1)
    else skipAngles n depth) := by
  conv => lhs; unfold skipAngles
  simp only [skipped, bind_assoc]
  refine congrArg (atKind .eof >>= ·) (funext fun ended => ?_)
  cases ended with
  | true => rfl
  | false => simp

theorem skipped_moves {s : Stream} {n : Nat} :
    Moves s n skipped (fun _ => 1) fun _ => [] := by
  unfold skipped
  refine .of_row fun c₀ => .atKind ?_ ?_
  · exact .stop Problem.noConfusion
  · exact Runs.advance.post fun _ _ row => row

theorem itemOr_moves {s : Stream} {n : Nat} {stray : Text} {item : Parser NodeId}
    (h : Yields s n item) : Moves s n (itemOr stray item) (fun _ => 1) Option.toList := by
  unfold itemOr
  refine .of_row fun c₀ => .eat (.pure fun _ row => row) ?_
  exact h.andThen (by omega) fun a => .pure fun _ row => row

end Parser

/-- What a list holds, with commas between its items or without, up to a token that closes the
list or as long as there are commas.  Type parameters are a list of tokens. -/
inductive Item (g : Grammar) : {α : Type} → Parser α → Prop
  | statement : Item g g.statement
  | importSpecifier : Item g Parser.importSpecifier
  | exportSpecifier : Item g Parser.exportSpecifier
  | objectPattern : Item g (Parser.objectPatternItem g)
  | arrayPattern : Item g (Parser.itemOr "," (Parser.arrayPatternItem g))
  | param : Item g (Parser.param g)
  | type : Item g g.typeNode
  | skipped : Item g Parser.skipped
  | typeMember : Item g (Parser.typeMember g)
  | classMember : Item g (Parser.itemOr ";" (Parser.classMember g))
  | implemented : Item g Parser.implemented
  | interfaceHeritage : Item g (Parser.interfaceHeritage g)
  | declarator : Item g (Parser.declarator g)
  | argument : Item g (Parser.spreadOr g)
  | element : Item g (Parser.itemOr "," (Parser.spreadOr g))
  | objectMember : Item g (Parser.objectMember g)
  | expression : Item g (Parser.assignment g)
  | innerExpression : Item g g.assignment

/-- No item of a list is empty. -/
theorem Item.moves {g : Grammar} {s : Stream} {n : Nat} (sound : g.Sound s n) {α : Type}
    {item : Parser α} (h : Item g item) : ∃ nodes, Moves s n item (fun _ => 1) nodes := by
  have le := Nat.le_succ n
  cases h with
  | statement => exact ⟨_, sound.statement⟩
  | importSpecifier => exact ⟨_, Parser.importSpecifier_yields⟩
  | exportSpecifier => exact ⟨_, Parser.exportSpecifier_yields⟩
  | objectPattern => exact ⟨_, Parser.objectPatternItem_yields sound⟩
  | arrayPattern => exact ⟨_, Parser.itemOr_moves (Parser.arrayPatternItem_yields sound)⟩
  | param => exact ⟨_, (Parser.param_yields sound).mono le⟩
  | type => exact ⟨_, sound.typeNode⟩
  | skipped => exact ⟨_, Parser.skipped_moves⟩
  | typeMember => exact ⟨_, (Parser.typeMember_yields sound).mono le⟩
  | classMember => exact ⟨_, (Parser.itemOr_moves (Parser.classMember_yields sound)).mono le⟩
  | implemented => exact ⟨_, Parser.implemented_yields⟩
  | interfaceHeritage => exact ⟨_, (Parser.interfaceHeritage_yields sound).mono le⟩
  | declarator => exact ⟨_, (Parser.declarator_yields sound).mono le⟩
  | argument => exact ⟨_, Parser.spreadOr_yields sound⟩
  | element => exact ⟨_, Parser.itemOr_moves (Parser.spreadOr_yields sound)⟩
  | objectMember => exact ⟨_, Parser.objectMember_yields sound⟩
  | expression => exact ⟨_, (Parser.assignment_yields sound).mono le⟩
  | innerExpression => exact ⟨_, sound.assignment⟩

/-! ## Termination -/

/-- A run that ends with an answer and fewer tokens to read, or at a problem of the script. -/
def Ends {α : Type} (c : Cursor) (out : Except GrammarError (α × Cursor)) : Prop :=
  ¬ TooDeep out ∧ ∀ a c', out = .ok (a, c') → c'.rest.length < c.rest.length

theorem ends_of_moves {s : Stream} {n : Nat} {α : Type} {p : Parser α} {nodes : α → List NodeId}
    (h : Moves s n p (fun _ => 1) nodes) {c : Cursor} (stands : Stands s n c) : Ends c (p c) := by
  have runs := h c c ⟨rfl, stands⟩
  constructor
  · rintro ⟨e, run, deep⟩
    rw [run] at runs
    exact runs.2 deep
  · intro a c' run
    rw [run] at runs
    obtain ⟨read, one, passes⟩ := runs.2.passes
    have one : 1 ≤ read.length := one
    rw [passes.rest, List.length_append]
    omega

/-- At a place of recursion, and where `c` stands: how the recursion runs from there. -/
structure Grammar.Descends (place : Place) (c : Cursor)
    (out : Except GrammarError (NodeId × Cursor)) : Prop where
  ends : Ends c out
  /-- As many levels of nesting as there are tokens left are enough, and more change nothing. -/
  bounded : ∀ n, c.rest.length ≤ n → (ofDepth n).enter place c = out
  /-- Recursion enters again only when there are fewer tokens left. -/
  descends : ∀ n, c.rest.length ≤ n + 1 →
    ((ofDepth n).within (c.rest.length - 1)).deeper.enter place c = out

namespace Grammar

variable {s : Stream} {n : Nat} {c : Cursor}

theorem exists_descends (stands : Stands s n c) (place : Place) : ∃ out, Descends place c out := by
  -- What counts is the number of tokens that are left.
  obtain ⟨k, length⟩ := Nat.exists_eq_succ_of_ne_zero
    (mt List.length_eq_zero_iff.mp stands.ordered.ne_nil)
  have here : Stands s (k + 1) c := { stands with bound := Nat.le_of_eq length }
  have ends := ends_of_moves ((ofDepth_sound (k + 1)).enter place) here
  have bounded (m : Nat) (le : c.rest.length ≤ m) :
      (ofDepth m).enter place c = (ofDepth (k + 1)).enter place c := by
    rw [length] at le
    exact (((ofDepth_deepens le).enter place).same c).resolve_left ends.1
  refine ⟨_, ends, bounded, fun m le => ?_⟩
  rw [length, Nat.succ_sub_one]
  have shallow : k ≤ m := by omega
  -- The guarded recursion does not want depth, so it does what the recursion without guard does.
  have guarded := ends_of_moves (((ofDepth_sound m).within shallow).deeper.enter place) here
  have : (ofDepth m).Deepens (ofDepth m) := ofDepth_deepens (Nat.le_refl m)
  have : ((ofDepth m).within k).Deepens (ofDepth m) := within_deepens
  have deeper : ((ofDepth m).within k).deeper.Deepens (ofDepth m).deeper := .deeper
  have same := (deeper.enter place).same c
  exact (same.resolve_left guarded.1).symm.trans (bounded (m + 1) le)

end Grammar

/-- Reading the tokens of a script comes to an end, and as many levels of nesting as there are
tokens are enough for it. -/
theorem statements_bounded {file : FileId} {source : Text} {found : Tokens}
    (short : source.length < UInt32.size) (cut : tokenize file source = .ok found) :
    ∃ out, ¬ TooDeep out ∧ ∀ n, found.tokens.length ≤ n →
      Parser.statements (.ofDepth n) (found.cursor file source) = out := by
  have stands : Stands (found.stream file source) found.tokens.length (found.cursor file source) :=
    ⟨Nat.le_refl _, tokenize_ordered short cut, fun _ mem => mem, rfl, Tree.settled_empty _ file⟩
  have runs := Parser.statements_moves (Grammar.ofDepth_sound found.tokens.length) _ _
    ⟨rfl, stands⟩
  have conclusive : ¬ TooDeep
      (Parser.statements (.ofDepth found.tokens.length) (found.cursor file source)) := by
    rintro ⟨e, run, deep⟩
    rw [run] at runs
    exact runs.2 deep
  refine ⟨_, conclusive, fun n le => ?_⟩
  have := Grammar.ofDepth_deepens le
  exact (Deepens.same (p := Parser.statements (.ofDepth found.tokens.length)) _).resolve_left
    conclusive

/-- How the parser runs on the tokens of a script. -/
structure Tokens.Parsable (found : Tokens) (file : FileId) (source : Text) : Prop where
  /-- Reading all of them comes to an end, and as many levels of nesting as there are tokens are
  enough for it. -/
  ends : ∃ out, ¬ TooDeep out ∧ ∀ n, found.tokens.length ≤ n →
    Parser.statements (.ofDepth n) (found.cursor file source) = out
  /-- Wherever a parser stands among them, recursion descends. -/
  descends : ∀ {n c}, Stands (found.stream file source) n c → ∀ place,
    ∃ out, Grammar.Descends place c out
  /-- No list goes on without reading a token for each of its items, or for what stands in the
  place of one. -/
  items : ∀ {n c}, Stands (found.stream file source) n c →
    ∀ {α : Type} {item : Parser α}, Item (.ofDepth n) item → Ends c (item c)
  /-- No loop goes on without reading a token in each of its rounds. -/
  rounds : ∀ {n} {α : Type} {step : Parser (Option α)}, Round (.ofDepth n) step →
    ∀ c a c', c.eof.kind = .eof → step c = .ok (some a, c') → c'.rest.length < c.rest.length

/-- On the tokens of any script the parser comes to an end: every way back into its recursion and
every round of a loop takes a token, and otherwise it goes down from one function to the next. -/
theorem tokenize_parsable {file : FileId} {source : Text} {found : Tokens}
    (short : source.length < UInt32.size) (cut : tokenize file source = .ok found) :
    found.Parsable file source where
  ends := statements_bounded short cut
  descends := Grammar.exists_descends
  items {n _} stands _ _ item := by
    obtain ⟨_, moves⟩ := item.moves (Grammar.ofDepth_sound n)
    exact ends_of_moves moves stands
  rounds {n _ _} round c a c' eof run := by
    have : (Grammar.ofDepth n).Deepens (.ofDepth n) := Grammar.ofDepth_deepens (Nat.le_refl n)
    exact round.reads c (some a) c' eof trivial run rfl

theorem tokenize_parsable_unclosed :
    let source : Text := "f(["
    ∃ found, source.length < UInt32.size ∧ tokenize 0 source = .ok found ∧
      found.Parsable 0 source := by
  intro source
  have short : source.length < UInt32.size := by decide
  have cut : tokenize 0 source = .ok {
      tokens := [⟨.word, "f", [], 0, 1⟩, ⟨.punctuator, "(", [], 1, 2⟩, ⟨.punctuator, "[", [], 2, 3⟩,
        ⟨.eof, [], [], 3, 3⟩]
      comments := [] } := by cbv
  exact ⟨_, short, cut, tokenize_parsable short cut⟩

end TreeLint.Script
