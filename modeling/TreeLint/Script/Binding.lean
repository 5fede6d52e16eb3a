import TreeLint.Script.Cursor

/-! # Bindings and parameters

The grammar is recursive in several places.  A `Grammar` holds the parsers for the
places where recursion enters again; each parser below takes one and calls it only
after reading a token, so the nesting is bounded by the number of tokens. -/

namespace TreeLint.Script

/-- The parsers that recursion enters through. -/
structure Grammar where
  typeNode : Parser NodeId
  postfixType : Parser NodeId
  bindingTarget : Parser NodeId
  primary : Parser NodeId
  construct : Parser NodeId
  unary : Parser NodeId
  /-- Operators that bind more tightly than the given level. -/
  binary : Nat → Parser NodeId
  assignment : Parser NodeId
  statement : Parser NodeId

namespace Parser

def colonType (g : Grammar) : Parser Ref := do
  if ← eat ":" then return some (← g.typeNode) else return none

def propertyKey (g : Grammar) : Parser (NodeId × Bool) := do
  let token ← peek
  if token.kind = .string ∨ token.kind = .number then return (← literal, false)
  if ← eat "[" then
    let key ← g.assignment
    discard (expect "]")
    return (key, true)
  if token.kind = .word then return (← identifier, false)
  fail (.expectedPropertyName token.text)

def bindingElement (g : Grammar) (target : Parser NodeId) : Parser NodeId := do
  let start ← here
  let left ← target
  if ← eat "=" then
    let default ← g.assignment
    node start (.pair .assignmentPattern (some left) (some default))
  else return left

def objectPatternItem (g : Grammar) : Parser NodeId := do
  let start ← here
  if ← eat "..." then
    let name ← identifier
    node start (.wrap .rest (some name))
  else
    let (key, computed) ← propertyKey g
    if ← eat ":" then
      let value ← bindingElement g g.bindingTarget
      node start (.property ⟨some key, some value, "init", computed, false, false⟩)
    else if (← sees "=") || !(← get).tree.hasKind (some key) .identifier then
      fail .unsupportedPatternMember
    else node start (.property ⟨some key, some key, "init", computed, true, false⟩)

def arrayPatternItem (g : Grammar) : Parser NodeId := do
  let start ← here
  if ← eat "..." then
    let target ← g.bindingTarget
    node start (.wrap .rest (some target))
  else bindingElement g g.bindingTarget

/-- An identifier, which may be optional and annotated, or a pattern, whose type is
read but not kept. -/
def bindingTarget (g : Grammar) : Parser NodeId := do
  let start ← here
  if ← eat "\x7b" then
    let items ← commaList "\x7d" (objectPatternItem g)
    discard (colonType g)
    node start (.list .objectPattern (items.map some))
  else if ← eat "[" then
    let items ← holeyList "]" (arrayPatternItem g)
    discard (colonType g)
    node start (.list .arrayPattern items)
  else
    let name ← word
    let optional ← eat "?"
    let ofType ← colonType g
    identifierNode start name.text ofType optional

def paramModifiers : List Text :=
  List.map utf8 ["public", "private", "protected", "readonly", "override"]

def skipModifiers : Parser Unit := do
  discard <| many do
    let token ← peek
    if token.kind = .word && paramModifiers.contains token.text
        && (← peekAt 1).kind == .word then
      discard advance
      return some ()
    else return none

def param (g : Grammar) : Parser NodeId := do
  skipModifiers
  let start ← here
  if ← eat "..." then
    let target ← bindingTarget g
    node start (.wrap .rest (some target))
  else bindingElement g (bindingTarget g)

def params (g : Grammar) : Parser (List NodeId) := do
  discard (expect "(")
  commaList ")" (param g)

end Parser
end TreeLint.Script
