import TreeLint.Script.Type

/-! # Functions and classes -/

namespace TreeLint.Script.Parser

def blockStatement (g : Grammar) : Parser NodeId := do
  let brace ← expect "\x7b"
  let body ← block "\x7d" .unterminatedBlock g.statement
  node brace.start (.list .block (body.map some))

def function (g : Grammar) (form : FunctionForm) (start : UInt32) (isAsync : Bool) :
    Parser NodeId := do
  discard (expect "function")
  let isGenerator ← eat "*"
  let name : Ref ← if ← atKind .word then some <$> identifier else pure none
  skipTypeParams
  let params ← params g
  let returnType ← colonType g
  let body ← blockStatement g
  node start
    (.function ⟨form, name, params.map some, returnType, some body, isAsync, isGenerator, false⟩)

/-- The parameters and body of a method, which form a function of their own. -/
def methodFunction (g : Grammar) (isAsync : Bool) : Parser NodeId := do
  let start ← here
  skipTypeParams
  let params ← params g
  let returnType ← colonType g
  let body ← blockStatement g
  node start
    (.function ⟨.expression, none, params.map some, returnType, some body, isAsync, false, false⟩)

/-- What the words before a class member say about it. -/
structure Modifiers where
  isStatic : Bool := false
  isReadonly : Bool := false
  isAsync : Bool := false
  kind : Text := "method"

def memberModifiers : List Text :=
  List.map utf8 ["public", "private", "protected", "static", "readonly", "abstract", "declare",
    "override", "async", "get", "set"]

def Modifiers.note (m : Modifiers) (word : Text) : Modifiers :=
  if word == "static" then { m with isStatic := true }
  else if word == "readonly" then { m with isReadonly := true }
  else if word == "async" then { m with isAsync := true }
  else if word == "get" || word == "set" then { m with kind := word }
  else m

/-- Reads the modifiers of a class member: each is followed by a further name. -/
def modifiers : Parser Modifiers :=
  improve (fun m => do
    let token ← peek
    if token.kind = .word && memberModifiers.contains token.text
        && (← peekAt 1).startsMemberName then
      discard advance
      return some (m.note token.text)
    else return none) {}

/-- A type after a colon and a value after an equals sign, both optional. -/
def fieldRest (g : Grammar) : Parser (Ref × Ref) := do
  let ofType ← colonType g
  let value : Ref ← if ← eat "=" then some <$> g.assignment else pure none
  semicolon
  return (ofType, value)

def classMember (g : Grammar) : Parser NodeId := do
  let start ← here
  let m ← modifiers
  let (key, computed) ← propertyKey g
  if !(← eat "?") then discard (eat "!")
  if ← seesSignature then
    let named := (← get).tree.keyName? (some key) == some (utf8 "constructor")
    let kind := if named && m.kind == "method" then utf8 "constructor" else m.kind
    let value ← methodFunction g m.isAsync
    node start (.methodDefinition ⟨some key, some value, kind, computed, m.isStatic⟩)
  else
    let (ofType, value) ← fieldRest g
    node start
      (.propertyDefinition ⟨some key, ofType, value, computed, m.isStatic, m.isReadonly⟩)

/-- The members of a class between braces; stray semicolons say nothing. -/
def classBody (g : Grammar) : Parser NodeId := do
  let brace ← expect "\x7b"
  let members ← block "\x7d" .unterminatedClassBody do
    if ← eat ";" then return none
    return some (← classMember g)
  node brace.start (.list .classBody ((members.filterMap id).map some))

def implemented : Parser NodeId := do
  let start ← here
  let name ← entityName
  skipTypeParams
  node start (.wrap .implements (some name))

end TreeLint.Script.Parser
