import TreeLint.Script.Token
import TreeLint.Tree.Basic

/-! # Reading tokens

A parser moves over the tokens of a script, builds nodes on the way and stops at the
first problem.  A node spans from the token it started with to the end of the last
token read. -/

namespace TreeLint.Script

/-- Why tokens do not form a script.  `found` is the text of the offending token. -/
inductive Problem where
  | expected (text found : Text)
  | expectedIdentifier (found : Text)
  | expectedString (found : Text)
  | expectedLiteral (found : Text)
  | expectedPropertyName (found : Text)
  | expectedType (found : Text)
  | unexpected (found : Text)
  | unterminatedTypeParameters
  | unterminatedTypeMembers
  | unterminatedBlock
  | unterminatedClassBody
  | expectedImportEquals
  | expectedColon
  | expectedDeclaration
  | unsupportedPatternMember
  | tryWithoutHandler
  /-- More nesting than there are tokens; no script leads here. -/
  | tooDeep
  deriving DecidableEq, Repr

def Problem.message : Problem → Text
  | expected text found =>
    "expected " ++ Quoted.encode text ++ ", found " ++ Quoted.encode found
  | expectedIdentifier found => "expected identifier, found " ++ Quoted.encode found
  | expectedString found => "expected string, found " ++ Quoted.encode found
  | expectedLiteral found => "expected literal, found " ++ Quoted.encode found
  | expectedPropertyName found => "expected property name, found " ++ Quoted.encode found
  | expectedType found => "expected type, found " ++ Quoted.encode found
  | unexpected found => "unexpected " ++ Quoted.encode found
  | unterminatedTypeParameters => "unterminated type parameters"
  | unterminatedTypeMembers => "unterminated type members"
  | unterminatedBlock => "unterminated block"
  | unterminatedClassBody => "unterminated class body"
  | expectedImportEquals => "expected import equals declaration"
  | expectedColon => "expected ':' after property key"
  | expectedDeclaration => "expected declaration after export"
  | unsupportedPatternMember => "unsupported object pattern member"
  | tryWithoutHandler => "try without catch or finally"
  | tooDeep => "nesting too deep"

/-- A problem with the line and column of the token it was found at, and the tree that had
been built until then. -/
structure GrammarError where
  line : Nat
  column : Nat
  problem : Problem
  tree : Tree
  deriving Repr

def GrammarError.message (e : GrammarError) : Text :=
  Text.decimal e.line ++ ":" ++ Text.decimal e.column ++ ": " ++ e.problem.message

/-- Where a parser stands, and the tree it has built so far. -/
structure Cursor where
  source : Text
  /-- The token that marks the end, which is read again and again there. -/
  eof : Token
  /-- The tokens still to be read. -/
  rest : List Token
  /-- Where the last token read ends. -/
  previousEnd : UInt32
  tree : Tree
  deriving Repr, Inhabited

/-- Reads tokens and builds nodes, or stops at a problem. -/
abbrev Parser := StateT Cursor (Except GrammarError)

namespace Cursor

def peekAt (c : Cursor) (n : Nat) : Token := c.rest.getD n c.eof

def peek (c : Cursor) : Token := c.peekAt 0

def errorHere (c : Cursor) (problem : Problem) : GrammarError :=
  let before := c.source.take c.peek.start.toNat
  { line := 1 + before.count 10
    column := 1 + (before.reverse.takeWhile (· != 10)).length
    problem
    tree := c.tree }

/-- The cursor after its next token; at the end it stays. -/
def advance (c : Cursor) : Cursor :=
  if c.peek.kind = .eof then c
  else { c with rest := c.rest.tail, previousEnd := c.peek.stop }

/-- Whether a line break separates the next token from the one before. -/
def newlineBefore (c : Cursor) : Bool :=
  (c.source.slice c.previousEnd.toNat c.peek.start.toNat).contains 10

end Cursor

namespace Parser

def fail {α : Type} (problem : Problem) : Parser α :=
  fun c => .error (c.errorHere problem)

def peek : Parser Token := return (← get).peek

def peekAt (n : Nat) : Parser Token := return (← get).peekAt n

def here : Parser UInt32 := return (← peek).start

def atKind (kind : TokenKind) : Parser Bool := return (← peek).kind == kind

/-- Whether the next token is the given word or punctuator. -/
def sees (text : Text) : Parser Bool := return (← peek).spells text

/-- Whether the token after the next is the given word or punctuator. -/
def seesNext (text : Text) : Parser Bool := return (← peekAt 1).spells text

def advance : Parser Token := do
  let token ← peek
  modify Cursor.advance
  return token

/-- Reads the given word or punctuator if it comes next. -/
def eat (text : Text) : Parser Bool := do
  if ← sees text then
    discard advance
    return true
  else
    return false

/-- Reads the given word or punctuator, which has to come next. -/
def expect (text : Text) : Parser Token := do
  if ← sees text then advance
  else fail (.expected text (← peek).text)

def word : Parser Token := do
  if ← atKind .word then advance
  else fail (.expectedIdentifier (← peek).text)

/-- Reads the end of a statement, which may be left out. -/
def semicolon : Parser Unit := discard (eat ";")

def newlineBefore : Parser Bool := return (← get).newlineBefore

/-- The span from an offset to the end of the last token read. -/
def spanFrom (start : UInt32) : Parser Span := do
  let c ← get
  return ⟨c.tree.file, start, c.previousEnd⟩

/-- Adds a node that spans from an offset to the end of the last token read. -/
def node (start : UInt32) (shape : Shape) : Parser NodeId := do
  let span ← spanFrom start
  modifyGet fun c =>
    let (tree, id) := c.tree.add span shape
    (id, { c with tree })

def identifierNode (start : UInt32) (name : Text) (ofType : Ref) (optional : Bool) :
    Parser NodeId := do
  let span ← spanFrom start
  modifyGet fun c =>
    let (tree, id) := c.tree.addIdentifier span name ofType optional
    (id, { c with tree })

def other (start : UInt32) (type : Text) (children : List NodeId) : Parser NodeId :=
  node start (.other type (children.map some))

/-! ## Repetition

Every round of a loop reads a token or ends the loop, so there are at most as many
rounds as tokens. -/

/-- A bound for the rounds of a loop that starts here. -/
def rounds : Parser Nat := return (← get).rest.length + 1

/-- Runs a step until it answers nothing, and collects its answers. -/
def collect {α : Type} (step : Parser (Option α)) : Nat → Parser (List α)
  | 0 => fail .tooDeep
  | n + 1 => do
    match ← step with
    | none => return []
    | some a => return a :: (← collect step n)

def many {α : Type} (step : Parser (Option α)) : Parser (List α) := do
  collect step (← rounds)

def iterate {α : Type} (step : α → Parser (Option α)) : Nat → α → Parser α
  | 0, _ => fail .tooDeep
  | n + 1, a => do
    match ← step a with
    | none => return a
    | some b => iterate step n b

def improve {α : Type} (step : α → Parser (Option α)) (a : α) : Parser α := do
  iterate step (← rounds) a

/-- Items with a comma after each but possibly the last, up to the closing token. -/
def commaItems {α : Type} (close : Text) (item : Parser α) : Nat → Parser (List α)
  | 0 => fail .tooDeep
  | n + 1 => do
    if ← sees close then return []
    let a ← item
    if ← eat "," then return a :: (← commaItems close item n)
    return [a]

/-- Items with a comma after each but possibly the last, and the closing token. -/
def commaList {α : Type} (close : Text) (item : Parser α) : Parser (List α) := do
  let items ← commaItems close item (← rounds)
  discard (expect close)
  return items

def commaChain {α : Type} (item : Parser α) : Nat → Parser (List α)
  | 0 => fail .tooDeep
  | n + 1 => do
    let a ← item
    if ← eat "," then return a :: (← commaChain item n)
    return [a]

/-- Items that need no comma between holes: a comma where an item could stand is a
hole. -/
def holeyItems (close : Text) (item : Parser NodeId) : Nat → Parser (List Ref)
  | 0 => fail .tooDeep
  | n + 1 => do
    if ← sees close then return []
    if ← eat "," then return none :: (← holeyItems close item n)
    let a ← item
    if ← eat "," then return some a :: (← holeyItems close item n)
    return [some a]

def holeyList (close : Text) (item : Parser NodeId) : Parser (List Ref) := do
  let items ← holeyItems close item (← rounds)
  discard (expect close)
  return items

/-- Items up to the closing token, without separators; the end of the text before it
is a problem. -/
def block {α : Type} (close : Text) (unterminated : Problem) (item : Parser α) :
    Parser (List α) := do
  let items ← many do
    if ← sees close then return none
    if ← atKind .eof then fail unterminated
    return some (← item)
  discard (expect close)
  return items

end Parser

/-! ## Looking ahead -/

/-- What follows the bracket that closes the first open one. -/
def afterMatching? (depth : Nat) : List Token → Option (List Token)
  | [] => none
  | t :: ts =>
    if t.spells "(" || t.spells "[" || t.spells "\x7b" then afterMatching? (depth + 1) ts
    else if t.spells ")" || t.spells "]" || t.spells "\x7d" then
      if depth ≤ 1 then some ts else afterMatching? (depth - 1) ts
    else afterMatching? depth ts

/-- Whether an arrow follows what may be a type, before anything that ends it. -/
def arrowAfterType (depth : Nat) : List Token → Bool
  | [] => false
  | t :: ts =>
    if t.kind = .eof then false
    else if t.spells "(" || t.spells "[" || t.spells "\x7b" then arrowAfterType (depth + 1) ts
    else if t.spells ")" || t.spells "]" || t.spells "\x7d" then
      if depth = 0 then false else arrowAfterType (depth - 1) ts
    else if (t.spells "," || t.spells ";") && depth = 0 then false
    else if t.spells "=>" && depth = 0 then true
    else arrowAfterType depth ts

/-- Whether an arrow function or function type starts here: a word and an arrow, or a
bracket and, after the one that closes it, an arrow or a type and an arrow. -/
def arrowStarts : List Token → Bool
  | [] => false
  | t :: ts =>
    if t.kind = .word then ts.head?.any (·.spells "=>")
    else if !t.spells "(" then false
    else
      match afterMatching? 0 (t :: ts) with
      | some (next :: more) =>
        next.spells "=>" || (next.spells ":" && arrowAfterType 0 more)
      | _ => false

def Token.startsMemberName (t : Token) : Bool :=
  t.kind == .word || t.kind == .string || t.kind == .number || t.spells "["

namespace Parser

def arrowAhead (n : Nat) : Parser Bool := return arrowStarts ((← get).rest.drop n)

/-! ## Leaves -/

def identifier : Parser NodeId := do
  let token ← word
  identifierNode token.start token.text none false

def literalKind? (t : Token) : Option LiteralKind :=
  if t.kind = .string then some .string
  else if t.kind = .number then
    if t.text.endsWith "n" then some .bigint else some .number
  else if t.spells "true" || t.spells "false" then some .boolean
  else if t.spells "null" then some .null
  else none

def literal : Parser NodeId := do
  let token ← peek
  match literalKind? token with
  | none => fail (.expectedLiteral token.text)
  | some kind =>
    discard advance
    let value := if kind = .string then token.value else token.text
    node token.start (.literal ⟨kind, value, token.text⟩)

def stringLiteral : Parser NodeId := do
  if ← atKind .string then literal
  else fail (.expectedString (← peek).text)

def entityName : Parser NodeId := do
  let start ← here
  let first ← identifier
  improve (fun name => do
    if ← eat "." then
      let right ← identifier
      return some (← node start (.pair .qualifiedName (some name) (some right)))
    else return none) first

/-- Reads past type parameters, counting angle brackets. -/
def skipAngles : (fuel depth : Nat) → Parser Unit
  | 0, _ => fail .tooDeep
  | fuel + 1, depth => do
    if ← atKind .eof then fail .unterminatedTypeParameters
    let token ← advance
    if token.spells "<" then skipAngles fuel (depth + 1)
    else if token.spells ">" then
      if depth ≤ 1 then return () else skipAngles fuel (depth - 1)
    else skipAngles fuel depth

def skipTypeParams : Parser Unit := do
  if ← sees "<" then skipAngles (← rounds) 0

end Parser
end TreeLint.Script
