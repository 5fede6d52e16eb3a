import TreeLint.Source.Span
import TreeLint.Tree.Kind

/-! # Syntax nodes

A node has a span, a link to its parent and a shape.  The shape fixes the kind and
holds what is particular to it, the references to the children included.  A
reference may be absent: optional parts are, and so are holes in lists. -/

namespace TreeLint

/-- The place of a node in the table of its tree. -/
structure NodeId where
  index : Nat
  deriving DecidableEq, Repr, Inhabited

/-- A reference to a node that may be absent. -/
abbrev Ref := Option NodeId

namespace NodeId

/-- Nodes are shown by numbers counted from one. -/
def number (id : NodeId) : Nat := id.index + 1

/-- The node shown by a number; zero shows the absence of a node. -/
def ofNumber (n : Nat) : Ref := if n == 0 then none else some ⟨n - 1⟩

end NodeId

def Ref.number (r : Ref) : Nat := match r with
  | some id => id.number
  | none => 0

abbrev NameId := Nat

structure Program where
  body : List Ref
  comments : List Span
  deriving DecidableEq, Repr, Inhabited

structure ImportDeclaration where
  specifiers : List Ref
  source : Ref
  typeOnly : Bool
  deriving DecidableEq, Repr, Inhabited

inductive ImportForm where
  | named | default | star
  deriving DecidableEq, Repr, Inhabited

/-- One import specifier.  Only a named one has an imported name, which is the same
node as the local name unless the import renames. -/
structure ImportSpecifier where
  form : ImportForm
  imported : Ref
  localName : Ref
  typeOnly : Bool
  deriving DecidableEq, Repr, Inhabited

/-- A declaration `import name = reference`. -/
structure ImportEquals where
  name : Ref
  reference : Ref
  typeOnly : Bool
  exported : Bool
  deriving DecidableEq, Repr, Inhabited

structure ExportNamed where
  declaration : Ref
  specifiers : List Ref
  source : Ref
  typeOnly : Bool
  deriving DecidableEq, Repr, Inhabited

/-- One export specifier; the two names are the same node unless the export renames. -/
structure ExportSpecifier where
  localName : Ref
  exported : Ref
  deriving DecidableEq, Repr, Inhabited

inductive ClassForm where
  | declaration | expression
  deriving DecidableEq, Repr, Inhabited

structure ClassNode where
  form : ClassForm
  name : Ref
  superClass : Ref
  implements : List Ref
  body : Ref
  isAbstract : Bool
  deriving DecidableEq, Repr, Inhabited

structure PropertyDefinition where
  key : Ref
  ofType : Ref
  value : Ref
  computed : Bool
  isStatic : Bool
  isReadonly : Bool
  deriving DecidableEq, Repr, Inhabited

structure MethodDefinition where
  key : Ref
  value : Ref
  kind : Text
  computed : Bool
  isStatic : Bool
  deriving DecidableEq, Repr, Inhabited

inductive FunctionForm where
  | declaration | expression | arrow
  deriving DecidableEq, Repr, Inhabited

structure FunctionNode where
  form : FunctionForm
  name : Ref
  params : List Ref
  returnType : Ref
  body : Ref
  isAsync : Bool
  isGenerator : Bool
  /-- The body of an arrow function is an expression. -/
  isExpression : Bool
  deriving DecidableEq, Repr, Inhabited

structure VariableDeclaration where
  kind : Text
  declarations : List Ref
  declare : Bool
  deriving DecidableEq, Repr, Inhabited

structure InterfaceNode where
  name : Ref
  heritage : List Ref
  body : Ref
  deriving DecidableEq, Repr, Inhabited

/-- An identifier.  The span of an annotated one covers its type. -/
structure Identifier where
  name : NameId
  ofType : Ref
  optional : Bool
  deriving DecidableEq, Repr, Inhabited

inductive LiteralKind where
  | string | number | boolean | null | regexp | bigint
  deriving DecidableEq, Repr, Inhabited

def LiteralKind.name : LiteralKind → String
  | string => "string"
  | number => "number"
  | boolean => "boolean"
  | null => "null"
  | regexp => "regexp"
  | bigint => "bigint"

/-- A literal with its value and its text, so that a fix can keep the quotes. -/
structure Literal where
  kind : LiteralKind
  value : Text
  raw : Text
  deriving DecidableEq, Repr, Inhabited

/-- A property; key and value of a shorthand one are the same node. -/
structure Property where
  key : Ref
  value : Ref
  kind : Text
  computed : Bool
  shorthand : Bool
  method : Bool
  deriving DecidableEq, Repr, Inhabited

inductive CallForm where
  | call | construct
  deriving DecidableEq, Repr, Inhabited

structure Call where
  form : CallForm
  callee : Ref
  arguments : List Ref
  optional : Bool
  deriving DecidableEq, Repr, Inhabited

structure Member where
  object : Ref
  property : Ref
  computed : Bool
  optional : Bool
  deriving DecidableEq, Repr, Inhabited

structure TypeReference where
  name : Ref
  arguments : List Ref
  deriving DecidableEq, Repr, Inhabited

structure PropertySignature where
  key : Ref
  ofType : Ref
  computed : Bool
  optional : Bool
  isReadonly : Bool
  deriving DecidableEq, Repr, Inhabited

/-- The kinds of node that are nothing but an ordered list. -/
inductive ListForm where
  | classBody | interfaceBody | block | object | array | objectPattern | arrayPattern
  | typeLiteral | intersection | union
  deriving DecidableEq, Repr, Inhabited

/-- The kinds of node with one optional child. -/
inductive WrapForm where
  | moduleReference | exportDefault | implements | expressionStatement | returnStatement
  | spread | await | rest | arrayType | literalType
  deriving DecidableEq, Repr, Inhabited

/-- The kinds of node with a left and a right child. -/
inductive PairForm where
  | assignmentPattern | qualifiedName
  deriving DecidableEq, Repr, Inhabited

/-- What is particular to the kind of a node. -/
inductive Shape where
  | program (p : Program)
  | importDeclaration (d : ImportDeclaration)
  | importSpecifier (s : ImportSpecifier)
  | importEquals (d : ImportEquals)
  | exportNamed (d : ExportNamed)
  | exportSpecifier (s : ExportSpecifier)
  | classNode (c : ClassNode)
  | propertyDefinition (d : PropertyDefinition)
  | methodDefinition (d : MethodDefinition)
  | function (f : FunctionNode)
  | variableDeclaration (d : VariableDeclaration)
  | variableDeclarator (target init : Ref)
  | interface (d : InterfaceNode)
  | typeAlias (name type : Ref)
  | ifStatement (test consequent alternate : Ref)
  | tryStatement (block handler finalizer : Ref)
  | catchClause (param body : Ref)
  | identifier (i : Identifier)
  | literal (l : Literal)
  | property (p : Property)
  | call (c : Call)
  | member (m : Member)
  | typeReference (r : TypeReference)
  | propertySignature (s : PropertySignature)
  | keyword (name : Text)
  | list (form : ListForm) (items : List Ref)
  | wrap (form : WrapForm) (target : Ref)
  | pair (form : PairForm) (left right : Ref)
  | other (type : Text) (children : List Ref)
  deriving DecidableEq, Repr, Inhabited

def ListForm.kind : ListForm → Kind
  | classBody => .classBody
  | interfaceBody => .tsInterfaceBody
  | block => .blockStatement
  | object => .objectExpression
  | array => .arrayExpression
  | objectPattern => .objectPattern
  | arrayPattern => .arrayPattern
  | typeLiteral => .tsTypeLiteral
  | intersection => .tsIntersectionType
  | union => .tsUnionType

def ListForm.all : List ListForm :=
  [classBody, interfaceBody, block, object, array, objectPattern, arrayPattern, typeLiteral,
    intersection, union]

def WrapForm.kind : WrapForm → Kind
  | moduleReference => .tsExternalModuleReference
  | exportDefault => .exportDefaultDeclaration
  | implements => .tsClassImplements
  | expressionStatement => .expressionStatement
  | returnStatement => .returnStatement
  | spread => .spreadElement
  | await => .awaitExpression
  | rest => .restElement
  | arrayType => .tsArrayType
  | literalType => .tsLiteralType

def WrapForm.all : List WrapForm :=
  [moduleReference, exportDefault, implements, expressionStatement, returnStatement, spread,
    await, rest, arrayType, literalType]

def PairForm.kind : PairForm → Kind
  | assignmentPattern => .assignmentPattern
  | qualifiedName => .tsQualifiedName

namespace Shape

def kind : Shape → Kind
  | program _ => .program
  | importDeclaration _ => .importDeclaration
  | importSpecifier s =>
    match s.form with
    | .named => .importSpecifier
    | .default => .importDefaultSpecifier
    | .star => .importNamespaceSpecifier
  | importEquals _ => .tsImportEqualsDeclaration
  | exportNamed _ => .exportNamedDeclaration
  | exportSpecifier _ => .exportSpecifier
  | classNode c =>
    match c.form with
    | .declaration => .classDeclaration
    | .expression => .classExpression
  | propertyDefinition _ => .propertyDefinition
  | methodDefinition _ => .methodDefinition
  | function f =>
    match f.form with
    | .declaration => .functionDeclaration
    | .expression => .functionExpression
    | .arrow => .arrowFunctionExpression
  | variableDeclaration _ => .variableDeclaration
  | variableDeclarator _ _ => .variableDeclarator
  | interface _ => .tsInterfaceDeclaration
  | typeAlias _ _ => .tsTypeAliasDeclaration
  | ifStatement _ _ _ => .ifStatement
  | tryStatement _ _ _ => .tryStatement
  | catchClause _ _ => .catchClause
  | identifier _ => .identifier
  | literal _ => .literal
  | property _ => .property
  | call c =>
    match c.form with
    | .call => .callExpression
    | .construct => .newExpression
  | member _ => .memberExpression
  | typeReference _ => .tsTypeReference
  | propertySignature _ => .tsPropertySignature
  | keyword _ => .tsKeyword
  | list form _ => form.kind
  | wrap form _ => form.kind
  | pair form _ _ => form.kind
  | other _ _ => .other

/-- The references to the children, in the order the parts are written in. -/
def refs : Shape → List Ref
  | program p => p.body
  | importDeclaration d => d.specifiers ++ [d.source]
  | importSpecifier s => [s.imported, s.localName]
  | importEquals d => [d.name, d.reference]
  | exportNamed d => d.declaration :: d.specifiers ++ [d.source]
  | exportSpecifier s => [s.localName, s.exported]
  | classNode c => c.name :: c.superClass :: c.implements ++ [c.body]
  | propertyDefinition d => [d.key, d.ofType, d.value]
  | methodDefinition d => [d.key, d.value]
  | function f => f.name :: f.params ++ [f.returnType, f.body]
  | variableDeclaration d => d.declarations
  | variableDeclarator target init => [target, init]
  | interface d => d.name :: d.heritage ++ [d.body]
  | typeAlias name type => [name, type]
  | ifStatement test consequent alternate => [test, consequent, alternate]
  | tryStatement block handler finalizer => [block, handler, finalizer]
  | catchClause param body => [param, body]
  | identifier i => [i.ofType]
  | literal _ => []
  | property p => [p.key, p.value]
  | call c => c.callee :: c.arguments
  | member m => [m.object, m.property]
  | typeReference r => r.name :: r.arguments
  | propertySignature s => [s.key, s.ofType]
  | keyword _ => []
  | list _ items => items
  | wrap _ target => [target]
  | pair _ left right => [left, right]
  | other _ children => children

/-- The parts that are given a new node as their parent, as they are handed over when it is
added: holes stay in lists, and other parts are left out where they are missing. -/
def adopted : Shape → List Ref
  | program p => p.body
  | importDeclaration d => d.specifiers ++ present [d.source]
  | importSpecifier s => present [s.imported, s.localName]
  | importEquals d => present [d.name, d.reference]
  | exportNamed d => present [d.declaration] ++ d.specifiers ++ present [d.source]
  | exportSpecifier s => present [s.localName, s.exported]
  | classNode c => present [c.name, c.superClass] ++ c.implements ++ present [c.body]
  | propertyDefinition d => present [d.key, d.ofType, d.value]
  | methodDefinition d => present [d.key, d.value]
  | function f => present [f.name] ++ f.params ++ present [f.returnType, f.body]
  | variableDeclaration d => d.declarations
  | variableDeclarator target init => present [target, init]
  | interface d => present [d.name] ++ d.heritage ++ present [d.body]
  | typeAlias name type => present [name, type]
  | ifStatement test consequent alternate => present [test, consequent, alternate]
  | tryStatement block handler finalizer => present [block, handler, finalizer]
  | catchClause param body => present [param, body]
  | identifier i => present [i.ofType]
  | literal _ => []
  | property p => present [p.key, p.value]
  | call c => present [c.callee] ++ c.arguments
  | member m => present [m.object, m.property]
  | typeReference r => present [r.name] ++ r.arguments
  | propertySignature s => present [s.key, s.ofType]
  | keyword _ => []
  | list _ items => items
  | wrap _ target => present [target]
  | pair _ left right => present [left, right]
  | other _ children => children
where
  present (refs : List Ref) : List Ref := refs.filter Option.isSome

end Shape

/-- Lists the present references; of equal neighbours only the first is kept, since
two parts may share one node. -/
def Ref.compact : List Ref → List NodeId
  | refs => (refs.filterMap id).foldr keep []
where
  keep (id : NodeId) : List NodeId → List NodeId
    | [] => [id]
    | next :: rest => if id = next then next :: rest else id :: next :: rest

structure Node where
  span : Span
  parent : Ref
  shape : Shape
  deriving DecidableEq, Repr, Inhabited

namespace Node

def kind (n : Node) : Kind := n.shape.kind

def children (n : Node) : List NodeId := Ref.compact n.shape.refs

end Node
end TreeLint
