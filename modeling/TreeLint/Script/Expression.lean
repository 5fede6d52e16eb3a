import TreeLint.Script.Body

/-! # Expressions

From the loosest to the tightest: sequences, assignments and arrow functions,
conditionals, binary operators by level, unary operators, chains of calls and member
accesses, and primary expressions. -/

namespace TreeLint.Script

def operatorLevel? (t : Token) : Option Nat :=
  if t.kind ≠ .punctuator ∧ t.kind ≠ .word then none
  else levels.findSome? fun (level, operators) =>
    if operators.any (utf8 · == t.text) then some level else none
where
  levels : List (Nat × List String) := [
    (1, ["??", "||"]), (2, ["&&"]), (3, ["|"]), (4, ["^"]), (5, ["&"]),
    (6, ["==", "!=", "===", "!=="]),
    (7, ["<", ">", "<=", ">=", "instanceof", "in", "as", "satisfies"]),
    (8, ["+", "-"]), (9, ["*", "/", "%"])]

def Token.isAssignment (t : Token) : Bool :=
  t.kind == .punctuator && ["=", "+=", "-=", "*=", "/="].any (utf8 · == t.text)

def Token.startsExpression (t : Token) : Bool :=
  match t.kind with
  | .word | .string | .number | .template => true
  | .punctuator =>
    ["(", "[", "\x7b", "!", "-", "+", "~", "++", "--"].any (utf8 · == t.text)
  | .eof => false

namespace Parser

def sequence (assignment : Parser NodeId) : Parser NodeId := do
  let start ← here
  match ← commaChain assignment (← rounds) with
  | [expr] => return expr
  | items => other start "SequenceExpression" items

def spreadOr (g : Grammar) : Parser NodeId := do
  let start ← here
  if ← eat "..." then
    let argument ← g.assignment
    node start (.wrap .spread (some argument))
  else g.assignment

def callArguments (g : Grammar) : Parser (List Ref) := do
  discard (expect "(")
  return (← commaList ")" (spreadOr g)).map some

/-- The bracketed property of a member access, after its opening bracket. -/
def bracketProperty (g : Grammar) : Parser NodeId := do
  let property ← sequence g.assignment
  discard (expect "]")
  return property

def optionalLink (g : Grammar) (start : UInt32) (calls : Bool) (expr : NodeId) :
    Parser NodeId := do
  if (← sees "(") && calls then
    let args ← callArguments g
    node start (.call ⟨.call, some expr, args, true⟩)
  else if ← eat "[" then
    let property ← bracketProperty g
    node start (.member ⟨some expr, some property, true, true⟩)
  else
    let property ← identifier
    node start (.member ⟨some expr, some property, false, true⟩)

def link (g : Grammar) (start : UInt32) (calls : Bool) (expr : NodeId) :
    Parser (Option NodeId) := do
  if ← eat "." then
    let property ← identifier
    return some (← node start (.member ⟨some expr, some property, false, false⟩))
  else if ← eat "?." then return some (← optionalLink g start calls expr)
  else if ← eat "[" then
    let property ← bracketProperty g
    return some (← node start (.member ⟨some expr, some property, true, false⟩))
  else if (← sees "(") && calls then
    let args ← callArguments g
    return some (← node start (.call ⟨.call, some expr, args, false⟩))
  else if (← sees "!") && !(← newlineBefore) then
    discard advance
    return some (← other start "TSNonNullExpression" [expr])
  else return none

/-- Member accesses and, where they are allowed, calls after an expression. -/
def chain (g : Grammar) (start : UInt32) (calls : Bool) (expr : NodeId) : Parser NodeId :=
  improve (link g start calls) expr

def classNode (g : Grammar) (form : ClassForm) (start : UInt32) (isAbstract : Bool) :
    Parser NodeId := do
  discard (expect "class")
  let named := (← atKind .word) && !(← sees "extends") && !(← sees "implements")
  let name : Ref ← if named then some <$> identifier else pure none
  skipTypeParams
  let superClass : Ref ←
    if ← eat "extends" then
      let superStart ← here
      let super ← chain g superStart false (← g.primary)
      skipTypeParams
      pure (some super)
    else pure none
  let implements ← if ← eat "implements" then commaChain implemented (← rounds) else pure []
  let body ← classBody g
  node start
    (.classNode ⟨form, name, superClass, implements.map some, some body, isAbstract⟩)

def arrayLiteral (g : Grammar) : Parser NodeId := do
  let bracket ← expect "["
  let items ← holeyList "]" (spreadOr g)
  node bracket.start (.list .array items)

/-- Reads `get`, `set` or `async` when a member name follows it. -/
def eatMemberWord : Parser (Option Text) := do
  if ((← sees "get") || (← sees "set") || (← sees "async"))
      && (← peekAt 1).startsMemberName then
    return some (← advance).text
  else return none

/-- One property of an object literal, a spread one included. -/
def objectMember (g : Grammar) : Parser NodeId := do
  if ← sees "..." then spreadOr g
  else
    let start ← here
    let word? ← eatMemberWord
    let isAsync := word? == some (utf8 "async")
    let kind := if isAsync then utf8 "init" else word?.getD "init"
    let (key, computed) ← propertyKey g
    if ← seesSignature then
      let value ← methodFunction g isAsync
      node start (.property ⟨some key, some value, kind, computed, false, kind == "init"⟩)
    else if ← eat ":" then
      let value ← g.assignment
      node start (.property ⟨some key, some value, kind, computed, false, false⟩)
    else if !(← get).tree.hasKind (some key) .identifier || computed then fail .expectedColon
    else node start (.property ⟨some key, some key, kind, computed, true, false⟩)

def objectLiteral (g : Grammar) : Parser NodeId := do
  let brace ← expect "\x7b"
  let members ← commaList "\x7d" (objectMember g)
  node brace.start (.list .object (members.map some))

def wordExpression (g : Grammar) (token : Token) : Parser NodeId := do
  if token.spells "true" || token.spells "false" || token.spells "null" then literal
  else if ← eat "this" then other token.start "ThisExpression" []
  else if ← eat "super" then other token.start "Super" []
  else if token.spells "function" then function g .expression token.start false
  else if token.spells "async" && (← seesNext "function") then
    discard advance
    function g .expression token.start true
  else if token.spells "class" then classNode g .expression token.start false
  else identifier

def primary (g : Grammar) : Parser NodeId := do
  let token ← peek
  match token.kind with
  | .string | .number => literal
  | .template =>
    discard advance
    other token.start "TemplateLiteral" []
  | .word => wordExpression g token
  | .punctuator | .eof =>
    if ← eat "(" then
      let expr ← sequence g.assignment
      discard (expect ")")
      return expr
    else if ← sees "[" then arrayLiteral g
    else if ← sees "\x7b" then objectLiteral g
    else fail (.unexpected token.text)

def construct (g : Grammar) : Parser NodeId := do
  let keyword ← expect "new"
  let calleeStart ← here
  let first ← if ← sees "new" then g.construct else primary g
  let callee ← chain g calleeStart false first
  let args ← if ← sees "(" then callArguments g else pure []
  node keyword.start (.call ⟨.construct, some callee, args, false⟩)

def leftHandSide (g : Grammar) : Parser NodeId := do
  let start ← here
  let first ← if ← sees "new" then construct g else primary g
  chain g start true first

/-- The node type of an operator that stands before its operand. -/
def unaryType? (t : Token) : Option Text :=
  if t.kind = .punctuator then
    if ["!", "-", "+", "~"].any (utf8 · == t.text) then some "UnaryExpression"
    else if ["++", "--"].any (utf8 · == t.text) then some "UpdateExpression"
    else none
  else if t.kind = .word && ["typeof", "void", "delete"].any (utf8 · == t.text) then
    some "UnaryExpression"
  else none

/-- A left-hand side with a possible `++` or `--` after it on the same line. -/
def updated (g : Grammar) (start : UInt32) : Parser NodeId := do
  let expr ← leftHandSide g
  if ((← sees "++") || (← sees "--")) && !(← newlineBefore) then
    discard advance
    other start "UpdateExpression" [expr]
  else return expr

def unary (g : Grammar) : Parser NodeId := do
  let token ← peek
  match unaryType? token with
  | some type =>
    discard advance
    let argument ← g.unary
    other token.start type [argument]
  | none =>
    if token.spells "await" && token.kind = .word && (← peekAt 1).startsExpression then
      discard advance
      let argument ← g.unary
      node token.start (.wrap .await (some argument))
    else updated g token.start

/-- One more operator and its right operand, if the operator binds more tightly than
the level. -/
def binaryStep (g : Grammar) (level : Nat) (start : UInt32) (left : NodeId) :
    Parser (Option NodeId) := do
  let token ← peek
  match operatorLevel? token with
  | none => return none
  | some own =>
    if own ≤ level then return none
    discard advance
    if token.text == "as" || token.text == "satisfies" then
      let type ← g.typeNode
      return some (← other start "TSAsExpression" [left, type])
    let right ← g.binary own
    let logical := ["&&", "||", "??"].any (utf8 · == token.text)
    let type := if logical then utf8 "LogicalExpression" else utf8 "BinaryExpression"
    return some (← other start type [left, right])

/-- Operators that bind more tightly than the level, applied from left to right. -/
def binary (g : Grammar) (level : Nat) : Parser NodeId := do
  let start ← here
  let first ← unary g
  improve (binaryStep g level start) first

def conditional (g : Grammar) : Parser NodeId := do
  let start ← here
  let test ← binary g 0
  if ← eat "?" then
    let consequent ← g.assignment
    discard (expect ":")
    let alternate ← g.assignment
    other start "ConditionalExpression" [test, consequent, alternate]
  else return test

/-- Whether an arrow function comes next, and whether it is asynchronous. -/
def arrowKind? : Parser (Option Bool) := do
  if (← sees "async") && !(← seesNext "=>") && (← arrowAhead 1) then return some true
  else if ← arrowAhead 0 then return some false
  else return none

def arrow (g : Grammar) (isAsync : Bool) : Parser NodeId := do
  let start ← here
  if isAsync then discard advance
  let params ← if ← sees "(" then params g else List.singleton <$> identifier
  let returnType ← colonType g
  discard (expect "=>")
  let isExpression := !(← sees "\x7b")
  let body ← if isExpression then g.assignment else blockStatement g
  node start
    (.function ⟨.arrow, none, params.map some, returnType, some body, isAsync, false,
      isExpression⟩)

def assignment (g : Grammar) : Parser NodeId := do
  match ← arrowKind? with
  | some isAsync => arrow g isAsync
  | none =>
    let start ← here
    let left ← conditional g
    if (← peek).isAssignment then
      discard advance
      let right ← g.assignment
      other start "AssignmentExpression" [left, right]
    else return left

end Parser
end TreeLint.Script
