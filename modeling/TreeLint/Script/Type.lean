import TreeLint.Script.Binding

/-! # Types -/

namespace TreeLint.Script.Parser

def typeKeywords : List Text :=
  List.map utf8 ["string", "number", "boolean", "any", "unknown", "void", "never", "undefined",
    "object", "symbol", "bigint", "null"]

/-- Type arguments between angle brackets, none if there are no brackets. -/
def typeArgs (g : Grammar) : Parser (List NodeId) := do
  if ← eat "<" then commaList ">" g.typeNode else return []

def memberSeparator : Parser Unit := do
  if !(← eat ";") then discard (eat ",")

def signature (g : Grammar) : Parser (List NodeId) := do
  skipTypeParams
  let params ← params g
  let result ← colonType g
  memberSeparator
  return params ++ result.toList

def seesSignature : Parser Bool := return (← sees "(") || (← sees "<")

def keyedTypeMember (g : Grammar) (start : UInt32) (isReadonly : Bool) : Parser NodeId := do
  let (key, computed) ← propertyKey g
  let optional ← eat "?"
  if ← seesSignature then
    let parts ← signature g
    other start "TSMethodSignature" (key :: parts)
  else
    let ofType ← colonType g
    memberSeparator
    node start (.propertySignature ⟨some key, ofType, computed, optional, isReadonly⟩)

/-- Reads the word `readonly` when a member name follows it. -/
def eatReadonly : Parser Bool := do
  if (← sees "readonly") && (← peekAt 1).startsMemberName then eat "readonly"
  else return false

def typeMember (g : Grammar) : Parser NodeId := do
  let start ← here
  let isReadonly ← eatReadonly
  if (← sees "[") && (← peekAt 1).kind == .word && (← peekAt 2).spells ":" then
    discard (expect "[")
    let param ← bindingTarget g
    discard (expect "]")
    let ofType ← colonType g
    memberSeparator
    other start "TSIndexSignature" (param :: ofType.toList)
  else if ← seesSignature then
    let parts ← signature g
    other start "TSCallSignatureDeclaration" parts
  else keyedTypeMember g start isReadonly

/-- The members of an interface body or type literal, between braces. -/
def typeMembers (g : Grammar) (form : ListForm) : Parser NodeId := do
  let brace ← expect "\x7b"
  let members ← block "\x7d" .unterminatedTypeMembers (typeMember g)
  node brace.start (.list form (members.map some))

def parenthesizedType (g : Grammar) (start : UInt32) : Parser NodeId := do
  if ← arrowAhead 0 then
    let params ← params g
    discard (expect "=>")
    let result ← g.typeNode
    other start "TSFunctionType" (params ++ [result])
  else
    discard (expect "(")
    let type ← g.typeNode
    discard (expect ")")
    return type

def namedType (g : Grammar) (start : UInt32) : Parser NodeId := do
  if ← eat "typeof" then
    let name ← entityName
    other start "TSTypeQuery" [name]
  else if ← eat "keyof" then
    let type ← g.postfixType
    other start "TSTypeOperator" [type]
  else
    let token ← peek
    if typeKeywords.contains token.text then
      discard advance
      node start (.keyword token.text)
    else
      let name ← entityName
      let args ← typeArgs g
      node start (.typeReference ⟨some name, args.map some⟩)

def primaryType (g : Grammar) : Parser NodeId := do
  let token ← peek
  let start := token.start
  if token.kind = .string ∨ token.kind = .number ∨ token.spells "true" ∨ token.spells "false" then
    let value ← literal
    node start (.wrap .literalType (some value))
  else if ← sees "\x7b" then typeMembers g .typeLiteral
  else if ← eat "[" then
    let items ← commaList "]" g.typeNode
    other start "TSTupleType" items
  else if ← sees "(" then parenthesizedType g start
  else if token.kind = .word then namedType g start
  else fail (.expectedType token.text)

/-- A type followed by any number of array and index brackets. -/
def postfixType (g : Grammar) : Parser NodeId := do
  let start ← here
  let first ← primaryType g
  improve (fun type => do
    if (← sees "[") && !(← newlineBefore) then
      discard (expect "[")
      if ← eat "]" then return some (← node start (.wrap .arrayType (some type)))
      let index ← g.typeNode
      discard (expect "]")
      return some (← other start "TSIndexedAccessType" [type, index])
    else return none) first

/-- Operands joined by an operator, which may also stand before the first one. -/
def operands (operator : Text) (operand : Parser NodeId) : Parser (List NodeId) := do
  discard (eat operator)
  let first ← operand
  let more ← many do
    if ← eat operator then return some (← operand) else return none
  return first :: more

/-- The list node of several operands, or the operand when there is one only. -/
def joined (start : UInt32) (form : ListForm) : List NodeId → Parser NodeId
  | [type] => return type
  | types => node start (.list form (types.map some))

def intersectionType (g : Grammar) : Parser NodeId := do
  let start ← here
  joined start .intersection (← operands "&" (postfixType g))

def typeNode (g : Grammar) : Parser NodeId := do
  let start ← here
  joined start .union (← operands "|" (intersectionType g))

end TreeLint.Script.Parser
