import TreeLint.Script.Expression

/-! # Statements and declarations -/

namespace TreeLint.Script.Parser

def expression (g : Grammar) : Parser NodeId := sequence (assignment g)

/-! ## Imports -/

def typeImportAhead : Parser Bool := do
  if !(← sees "type") then return false
  let next ← peekAt 1
  return next.spells "\x7b" || next.spells "*"
    || (next.kind == .word && next.text != "from" && !(← peekAt 2).spells ",")

def moduleReference : Parser NodeId := do
  if (← sees "require") && (← seesNext "(") then
    let start ← here
    discard advance
    discard (expect "(")
    let source ← stringLiteral
    discard (expect ")")
    node start (.wrap .moduleReference (some source))
  else entityName

def importSpecifier : Parser NodeId := do
  let start ← here
  let typed := (← sees "type") && (← peekAt 1).kind == .word && !(← seesNext "as")
  if typed then discard advance
  let imported ← identifier
  let localName ← if ← eat "as" then identifier else pure imported
  node start (.importSpecifier ⟨.named, some imported, some localName, typed⟩)

def importFrom (start : UInt32) (specifiers : List NodeId) (typeOnly : Bool) :
    Parser NodeId := do
  discard (expect "from")
  let source ← stringLiteral
  semicolon
  node start (.importDeclaration ⟨specifiers.map some, some source, typeOnly⟩)

/-- A namespace import or the named ones between braces, if either is there. -/
def bracedImports : Parser (List NodeId) := do
  let start ← here
  if ← eat "*" then
    discard (expect "as")
    let name ← identifier
    return [← node start (.importSpecifier ⟨.star, none, some name, false⟩)]
  else if ← eat "\x7b" then commaList "\x7d" importSpecifier
  else return []

def defaultImport? : Parser (Option NodeId) := do
  if (← atKind .word) && !(← sees "from") then
    let name ← identifier
    let span := (← get).tree.span (some name)
    some <$> node span.start (.importSpecifier ⟨.default, none, some name, false⟩)
  else return none

def importSpecifiers : Parser (List NodeId) := do
  match ← defaultImport? with
  | none => bracedImports
  | some name => if ← eat "," then return name :: (← bracedImports) else return [name]

/-- A declaration that starts with `import`; only an import-equals declaration can be
exported. -/
def importDeclaration (start : UInt32) (exported : Bool) : Parser NodeId := do
  discard (expect "import")
  let typeOnly ← typeImportAhead
  if typeOnly then discard advance
  if ← atKind .string then
    let source ← literal
    semicolon
    node start (.importDeclaration ⟨[], some source, false⟩)
  else if (← atKind .word) && (← seesNext "=") then
    let name ← identifier
    discard (expect "=")
    let reference ← moduleReference
    semicolon
    node start (.importEquals ⟨some name, some reference, typeOnly, exported⟩)
  else if exported then fail .expectedImportEquals
  else importFrom start (← importSpecifiers) typeOnly

/-! ## Exports -/

def exportSpecifier : Parser NodeId := do
  let start ← here
  let localName ← identifier
  let exported ← if ← eat "as" then identifier else pure localName
  node start (.exportSpecifier ⟨some localName, some exported⟩)

def defaultExport (g : Grammar) : Parser NodeId := do
  let start ← here
  if ← sees "function" then function g .declaration start false
  else if (← sees "async") && (← seesNext "function") then
    discard advance
    function g .declaration start true
  else if ← sees "class" then classNode g .declaration start false
  else
    let expr ← assignment g
    semicolon
    return expr

def exportAll (start : UInt32) : Parser NodeId := do
  let name? ← if ← eat "as" then some <$> identifier else pure none
  discard (expect "from")
  let source ← stringLiteral
  semicolon
  other start "ExportAllDeclaration" (name?.toList ++ [source])

def exportList (start : UInt32) : Parser NodeId := do
  let typeOnly ← eat "type"
  discard (expect "\x7b")
  let specifiers ← commaList "\x7d" exportSpecifier
  let source : Ref ← if ← eat "from" then some <$> stringLiteral else pure none
  semicolon
  node start (.exportNamed ⟨none, specifiers.map some, source, typeOnly⟩)

/-- Whether a kind of declaration can be exported where it stands. -/
def isExportable (k? : Option Kind) : Bool :=
  match k? with
  | some .functionDeclaration | some .classDeclaration | some .variableDeclaration
  | some .tsInterfaceDeclaration | some .tsTypeAliasDeclaration => true
  | _ => false

def exportDeclaration (g : Grammar) : Parser NodeId := do
  let start := (← expect "export").start
  if ← sees "import" then importDeclaration start true
  else if ← eat "default" then
    let target ← defaultExport g
    node start (.wrap .exportDefault (some target))
  else if ← eat "*" then exportAll start
  else if (← sees "\x7b") || ((← sees "type") && (← seesNext "\x7b")) then exportList start
  else
    let declaration ← g.statement
    if !isExportable ((← get).tree.kind? (some declaration)) then fail .expectedDeclaration
    node start (.exportNamed ⟨some declaration, [], none, false⟩)

/-! ## Other declarations -/

def interfaceHeritage (g : Grammar) : Parser NodeId := do
  let start ← here
  let name ← entityName
  let args ← typeArgs g
  other start "TSInterfaceHeritage" (name :: args)

def interfaceDeclaration (g : Grammar) (start : UInt32) : Parser NodeId := do
  discard (expect "interface")
  let name ← identifier
  skipTypeParams
  let heritage ← if ← eat "extends" then commaChain (interfaceHeritage g) (← rounds) else pure []
  let body ← typeMembers g .interfaceBody
  node start (.interface ⟨some name, heritage.map some, some body⟩)

def typeAlias (g : Grammar) (start : UInt32) : Parser NodeId := do
  discard (expect "type")
  let name ← identifier
  skipTypeParams
  discard (expect "=")
  let type ← typeNode g
  semicolon
  node start (.typeAlias (some name) (some type))

def declarator (g : Grammar) : Parser NodeId := do
  let start ← here
  let target ← bindingTarget g
  let init : Ref ← if ← eat "=" then some <$> assignment g else pure none
  node start (.variableDeclarator (some target) init)

def variableDeclaration (g : Grammar) (start : UInt32) : Parser NodeId := do
  let keyword ← advance
  let declarators ← commaChain (declarator g) (← rounds)
  semicolon
  node start (.variableDeclaration ⟨keyword.text, declarators.map some, false⟩)

/-! ## Statements -/

def ifStatement (g : Grammar) : Parser NodeId := do
  let start := (← expect "if").start
  discard (expect "(")
  let test ← expression g
  discard (expect ")")
  let consequent ← g.statement
  let alternate : Ref ← if ← eat "else" then some <$> g.statement else pure none
  node start (.ifStatement (some test) (some consequent) alternate)

def catchClause (g : Grammar) : Parser NodeId := do
  let start := (← expect "catch").start
  let param : Ref ←
    if ← eat "(" then
      let target ← bindingTarget g
      discard (expect ")")
      pure (some target)
    else pure none
  let body ← blockStatement g
  node start (.catchClause param (some body))

def tryStatement (g : Grammar) : Parser NodeId := do
  let start := (← expect "try").start
  let body ← blockStatement g
  let handler : Ref ← if ← sees "catch" then some <$> catchClause g else pure none
  let finalizer : Ref ← if ← eat "finally" then some <$> blockStatement g else pure none
  if handler.isNone && finalizer.isNone then fail .tryWithoutHandler
  node start (.tryStatement (some body) handler finalizer)

def returnStatement (g : Grammar) : Parser NodeId := do
  let start := (← expect "return").start
  let ends := (← sees ";") || (← sees "\x7d") || (← atKind .eof) || (← newlineBefore)
  let argument : Ref ← if ends then pure none else some <$> expression g
  semicolon
  node start (.wrap .returnStatement argument)

def throwStatement (g : Grammar) : Parser NodeId := do
  let start := (← expect "throw").start
  let argument ← expression g
  semicolon
  other start "ThrowStatement" [argument]

def whileStatement (g : Grammar) : Parser NodeId := do
  let start := (← expect "while").start
  discard (expect "(")
  let test ← expression g
  discard (expect ")")
  let body ← g.statement
  other start "WhileStatement" [test, body]

def keywordStatement? (g : Grammar) (token : Token) : Parser (Option NodeId) := do
  if token.kind ≠ .word then return none
  let start := token.start
  let next ← peekAt 1
  match token.text.toString?.getD "" with
  | "import" =>
    if next.spells "(" || next.spells "." then return none
    else some <$> importDeclaration start false
  | "export" => some <$> exportDeclaration g
  | "function" => some <$> function g .declaration start false
  | "async" =>
    if next.spells "function" then
      discard advance
      some <$> function g .declaration start true
    else return none
  | "class" => some <$> classNode g .declaration start false
  | "abstract" =>
    if next.spells "class" then
      discard advance
      some <$> classNode g .declaration start true
    else return none
  | "interface" =>
    if next.kind = .word then some <$> interfaceDeclaration g start else return none
  | "type" =>
    let third ← peekAt 2
    if next.kind = .word && (third.spells "=" || third.spells "<") then
      some <$> typeAlias g start
    else return none
  | "const" | "let" | "var" =>
    if next.kind = .word || next.spells "\x7b" || next.spells "[" then
      some <$> variableDeclaration g start
    else return none
  | "if" => some <$> ifStatement g
  | "try" => some <$> tryStatement g
  | "return" => some <$> returnStatement g
  | "throw" => some <$> throwStatement g
  | "while" => some <$> whileStatement g
  | _ => return none

def statement (g : Grammar) : Parser NodeId := do
  let token ← peek
  match ← keywordStatement? g token with
  | some id => return id
  | none =>
    if ← sees "\x7b" then blockStatement g
    else if ← eat ";" then other token.start "EmptyStatement" []
    else
      let expr ← expression g
      semicolon
      node token.start (.wrap .expressionStatement (some expr))

end TreeLint.Script.Parser
