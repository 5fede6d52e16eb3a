import TreeLint.Text

/-! # Kinds of syntax nodes

The set of kinds is closed: every ESTree node type that a rule looks at has a kind
of its own, all keyword types share one, and every other type is `other`. -/

namespace TreeLint

inductive Kind where
  | program | importDeclaration | importSpecifier | importDefaultSpecifier
  | importNamespaceSpecifier | tsImportEqualsDeclaration | tsExternalModuleReference
  | exportNamedDeclaration | exportDefaultDeclaration | exportSpecifier | classDeclaration
  | classExpression | classBody | tsClassImplements | propertyDefinition | methodDefinition
  | functionDeclaration | variableDeclaration | variableDeclarator | tsInterfaceDeclaration
  | tsInterfaceBody | tsTypeAliasDeclaration | blockStatement | expressionStatement
  | returnStatement | ifStatement | tryStatement | catchClause | identifier | literal
  | functionExpression | arrowFunctionExpression | objectExpression | property | spreadElement
  | arrayExpression | callExpression | newExpression | memberExpression | awaitExpression
  | objectPattern | arrayPattern | assignmentPattern | restElement | tsTypeReference
  | tsQualifiedName | tsTypeLiteral | tsPropertySignature | tsIntersectionType | tsUnionType
  | tsArrayType | tsLiteralType | tsKeyword | other
  deriving DecidableEq, Repr, Inhabited

inductive Category where
  | modular | declaration | statement | expression | pattern | type | other
  deriving DecidableEq, Repr, Inhabited

namespace Category

def name : Category → String
  | modular => "module"
  | declaration => "declaration"
  | statement => "statement"
  | expression => "expression"
  | pattern => "pattern"
  | type => "type"
  | other => "other"

/-- All categories, in the order of their numbers from one on. -/
def all : List Category := [modular, declaration, statement, expression, pattern, type, other]

end Category

namespace Kind

/-- All kinds, in the order of their numbers from one on. -/
def all : List Kind := [
  program, importDeclaration, importSpecifier, importDefaultSpecifier,
  importNamespaceSpecifier, tsImportEqualsDeclaration, tsExternalModuleReference,
  exportNamedDeclaration, exportDefaultDeclaration, exportSpecifier, classDeclaration,
  classExpression, classBody, tsClassImplements, propertyDefinition, methodDefinition,
  functionDeclaration, variableDeclaration, variableDeclarator, tsInterfaceDeclaration,
  tsInterfaceBody, tsTypeAliasDeclaration, blockStatement, expressionStatement,
  returnStatement, ifStatement, tryStatement, catchClause, identifier, literal,
  functionExpression, arrowFunctionExpression, objectExpression, property, spreadElement,
  arrayExpression, callExpression, newExpression, memberExpression, awaitExpression,
  objectPattern, arrayPattern, assignmentPattern, restElement, tsTypeReference,
  tsQualifiedName, tsTypeLiteral, tsPropertySignature, tsIntersectionType, tsUnionType,
  tsArrayType, tsLiteralType, tsKeyword, other]

/-- The name of a kind is the node type it stands for. -/
def name : Kind → String
  | program => "Program"
  | importDeclaration => "ImportDeclaration"
  | importSpecifier => "ImportSpecifier"
  | importDefaultSpecifier => "ImportDefaultSpecifier"
  | importNamespaceSpecifier => "ImportNamespaceSpecifier"
  | tsImportEqualsDeclaration => "TSImportEqualsDeclaration"
  | tsExternalModuleReference => "TSExternalModuleReference"
  | exportNamedDeclaration => "ExportNamedDeclaration"
  | exportDefaultDeclaration => "ExportDefaultDeclaration"
  | exportSpecifier => "ExportSpecifier"
  | classDeclaration => "ClassDeclaration"
  | classExpression => "ClassExpression"
  | classBody => "ClassBody"
  | tsClassImplements => "TSClassImplements"
  | propertyDefinition => "PropertyDefinition"
  | methodDefinition => "MethodDefinition"
  | functionDeclaration => "FunctionDeclaration"
  | variableDeclaration => "VariableDeclaration"
  | variableDeclarator => "VariableDeclarator"
  | tsInterfaceDeclaration => "TSInterfaceDeclaration"
  | tsInterfaceBody => "TSInterfaceBody"
  | tsTypeAliasDeclaration => "TSTypeAliasDeclaration"
  | blockStatement => "BlockStatement"
  | expressionStatement => "ExpressionStatement"
  | returnStatement => "ReturnStatement"
  | ifStatement => "IfStatement"
  | tryStatement => "TryStatement"
  | catchClause => "CatchClause"
  | identifier => "Identifier"
  | literal => "Literal"
  | functionExpression => "FunctionExpression"
  | arrowFunctionExpression => "ArrowFunctionExpression"
  | objectExpression => "ObjectExpression"
  | property => "Property"
  | spreadElement => "SpreadElement"
  | arrayExpression => "ArrayExpression"
  | callExpression => "CallExpression"
  | newExpression => "NewExpression"
  | memberExpression => "MemberExpression"
  | awaitExpression => "AwaitExpression"
  | objectPattern => "ObjectPattern"
  | arrayPattern => "ArrayPattern"
  | assignmentPattern => "AssignmentPattern"
  | restElement => "RestElement"
  | tsTypeReference => "TSTypeReference"
  | tsQualifiedName => "TSQualifiedName"
  | tsTypeLiteral => "TSTypeLiteral"
  | tsPropertySignature => "TSPropertySignature"
  | tsIntersectionType => "TSIntersectionType"
  | tsUnionType => "TSUnionType"
  | tsArrayType => "TSArrayType"
  | tsLiteralType => "TSLiteralType"
  | tsKeyword => "TSKeyword"
  | other => "Other"

/-- The number of a kind; zero is left for the absence of a node. -/
def number (k : Kind) : Nat := all.idxOf k + 1

def ofNumber? (n : Nat) : Option Kind := if n == 0 then none else all[n - 1]?

/-- Whether a node type is that of a keyword such as `string`. -/
def isKeywordType (type : Text) : Bool :=
  type.length > 9 && type.startsWith "TS" && type.endsWith "Keyword"

def typed : List Kind := all.filter fun k => k != tsKeyword && k != other

def ofType (type : Text) : Kind :=
  match typed.find? fun k => utf8 k.name == type with
  | some k => k
  | none => if isKeywordType type then tsKeyword else other

def isFunction (k : Kind) : Bool :=
  k == functionDeclaration || k == functionExpression || k == arrowFunctionExpression

def isClass (k : Kind) : Bool := k == classDeclaration || k == classExpression

/-- The category of a kind.  The numbers of one category are consecutive. -/
def category (k : Kind) : Category :=
  if k.number ≤ exportSpecifier.number then .modular
  else if k.number ≤ tsTypeAliasDeclaration.number then .declaration
  else if k.number ≤ catchClause.number then .statement
  else if k.number ≤ awaitExpression.number then .expression
  else if k.number ≤ restElement.number then .pattern
  else if k.number ≤ tsKeyword.number then .type
  else .other

end Kind
end TreeLint
