import TreeLint.Document.Error
import TreeLint.Json.Reader
import TreeLint.Source.FileSet
import TreeLint.Text.Case

/-! # Decoding a document

A document is an ESTree program in JSON.  Ranges count UTF-16 units and become byte
spans.  Two fields with the same range, as in a shorthand property, are one node.
A node type without a kind of its own keeps every node among its fields as a child.
A tree that was decoded is well-formed; that is checked at the end. -/

namespace TreeLint.Document

abbrev Fields := List (Text × Json)

def Fields.value? (o : Fields) (key : Text) : Option Json := o.lookup key

/-- Where decoding happens: the file, and the offsets of its source. -/
structure Setting where
  file : FileId
  index : Utf16Index

/-- A fault, and the tree that had been built until it was found. -/
structure Failure where
  fault : Fault
  tree : Tree

abbrev Decoder := ReaderT Setting (StateT Tree (Except Failure))

def fail {α : Type} (fault : Fault) : Decoder α := fun _ tree => .error ⟨fault, tree⟩

/-! ## Plain fields -/

/-- A text field, empty when absent or no text. -/
def text (o : Fields) (key : Text) : Text := ((o.value? key).bind Json.text?).getD []

def typeOf (o : Fields) : Text := text o "type"

/-- A truth field, false when absent. -/
def flag (o : Fields) (key : Text) : Bool :=
  match o.value? key with
  | some (.bool b) => b
  | _ => false

/-- The fields of a node: an object with a type and a range. -/
def node? : Json → Option Fields
  | .object o =>
    match Fields.value? o "type", Fields.value? o "range" with
    | some (.string _), some (.array _) => some o
    | _, _ => none
  | _ => none

def nodeField? (o : Fields) (key : Text) : Option Fields := (o.value? key).bind node?

/-! ## Ranges -/

/-- The digits of a number as a machine integer.  Digits are read from the left, so a
number that grows too large is noticed before a later point or exponent. -/
def machineInt (digits : Text) : Except NumberFault Int :=
  let (negative, body) := match digits with
    | 45 :: rest => (true, rest)
    | _ => (false, digits)
  let whole := body.takeWhile Text.isDigit
  let n := Text.digitsValue whole
  if n ≥ UInt64.size then .error .tooLarge
  else if whole.length < body.length then .error .notInteger
  else if negative then if n > UInt64.size / 2 then .error .tooLarge else .ok (-(n : Int))
  else if n ≥ UInt64.size / 2 then .error .tooLarge
  else .ok n

def offset (v : Json) : Decoder UInt32 := do
  match v with
  | .number digits =>
    match machineInt digits with
    | .error fault => fail (.offsetNotInteger digits fault)
    | .ok n =>
      if n < 0 ∨ n ≥ UInt32.size then fail (.offsetNotWord n)
      else
        let index := (← read).index
        match index.byteOffset? n.toNat with
        | some b => return b.toUInt32
        | none => fail (.offsetOutside index n.toNat)
  | _ => fail (.offsetNotNumber v)

def span (o : Fields) : Decoder Span := do
  match o.value? "range" with
  | some (.array [first, last]) =>
    let start ← offset first
    let stop ← offset last
    if start > stop then fail (.invertedRange (typeOf o) start.toNat stop.toNat)
    return ⟨(← read).file, start, stop⟩
  | _ => fail (.missingRange (typeOf o))

/-- Whether two range entries are equal, which only plain values can be asked. -/
def sameEntry? : Json → Json → Option Bool
  | .null, .null => some true
  | .bool a, .bool b => some (a == b)
  | .number a, .number b => some (a == b)
  | .string a, .string b => some (a == b)
  | .array _, .array _ => none
  | .object _, .object _ => none
  | _, _ => some false

def sameRange (o : Fields) (first second : Text) : Decoder Bool :=
  match nodeField? o first, nodeField? o second with
  | some a, some b =>
    match a.value? "range", b.value? "range" with
    | some (.array [a0, a1]), some (.array [b0, b1]) =>
      match sameEntry? a0 b0 with
      | none => fail .incomparable
      | some false => return false
      | some true =>
        match sameEntry? a1 b1 with
        | none => fail .incomparable
        | some same => return same
    | _, _ => return false
  | _, _ => return false

/-! ## Children -/

abbrev NodeDecoder := Fields → Decoder NodeId

def child (decode : NodeDecoder) (o : Fields) (key : Text) : Decoder Ref := do
  match o.value? key with
  | none | some .null => return none
  | some v =>
    match node? v with
    | some n => return some (← decode n)
    | none => fail (.fieldNotNode (typeOf o) key)

/-- The item of a list field at an index; a null item is a hole. -/
def item (decode : NodeDecoder) (o : Fields) (key : Text) (i : Nat) (v : Json) : Decoder Ref :=
  match v with
  | .null => return none
  | v =>
    match node? v with
    | some n => return some (← decode n)
    | none => fail (.itemNotNode (typeOf o) key i)

def items (decode : NodeDecoder) (o : Fields) (key : Text) : Nat → List Json →
    Decoder (List Ref)
  | _, [] => return []
  | i, v :: vs => do return (← item decode o key i v) :: (← items decode o key (i + 1) vs)

/-- A list field; anything but a list counts as empty. -/
def list (decode : NodeDecoder) (o : Fields) (key : Text) : Decoder (List Ref) :=
  match o.value? key with
  | some (.array vs) => items decode o key 0 vs
  | _ => return []

/-- A type field, without the node that wraps a type after a colon. -/
def typeField (decode : NodeDecoder) (o : Fields) (key : Text) : Decoder Ref := do
  match nodeField? o key with
  | none => return none
  | some n =>
    if typeOf n == "TSTypeAnnotation" then child decode n "typeAnnotation"
    else return some (← decode n)

def typeArguments (decode : NodeDecoder) (o : Fields) : Decoder (List Ref) :=
  match nodeField? o "typeArguments" with
  | some n => list decode n "params"
  | none =>
    match nodeField? o "typeParameters" with
    | some n => list decode n "params"
    | none => return []

/-! ## Nodes -/

def add (span : Span) (shape : Shape) : Decoder NodeId := do
  let (tree, id) := (← get).add span shape
  set tree
  return id

def literal (o : Fields) : Literal :=
  let raw := text o "raw"
  if (o.value? "regex").isSome then ⟨.regexp, raw, raw⟩
  else
    match o.value? "bigint", o.value? "value" with
    | some (.string digits), _ => ⟨.bigint, digits, raw⟩
    | _, some (.string value) => ⟨.string, value, raw⟩
    | _, some (.number _) => ⟨.number, raw, raw⟩
    | _, some (.bool _) => ⟨.boolean, raw, raw⟩
    | _, _ => ⟨.null, "null", raw⟩

def keywordName (type : Text) : Text :=
  Text.lower ((type.withoutHead "TS").withoutTail "Keyword")

/-- The key of a shorthand property whose value has been decoded: a default follows
the key inside the value. -/
def shorthandKey (value : Ref) : Decoder Ref := do
  match (← get).deref? value with
  | some ⟨_, _, .pair _ left _⟩ => return left
  | _ => return value

def keyAndValue (decode : NodeDecoder) (o : Fields) : Decoder (Ref × Ref) := do
  if ← sameRange o "key" "value" then
    let key ← child decode o "key"
    return (key, key)
  else if flag o "shorthand" then
    let value ← child decode o "value"
    return (← shorthandKey value, value)
  else
    let key ← child decode o "key"
    let value ← child decode o "value"
    return (key, value)

/-- The second name of a specifier: the same node as the first unless it has a range
of its own. -/
def secondName (decode : NodeDecoder) (o : Fields) (key : Text) (localName : Ref) :
    Decoder Ref := do
  if ← sameRange o key "local" then return localName else child decode o key

def plainFields : List Text :=
  List.map utf8 ["type", "range", "loc", "parent", "comments", "tokens"]

/-- A node among the fields of another, with its span. -/
structure Candidate where
  span : Span
  node : Fields

def candidates : List Json → Decoder (List Candidate)
  | [] => return []
  | v :: vs => do
    match node? v with
    | some n =>
      let s ← span n
      return ⟨s, n⟩ :: (← candidates vs)
    | none => candidates vs

/-- The values of the fields that may hold children, lists opened, in the order of
the field names. -/
def fieldValues (o : Fields) : List Json :=
  let kept := (o.filter fun (key, _) => !plainFields.contains key).mergeSort
    fun a b => a.1.atMost b.1
  kept.flatMap fun
    | (_, .array vs) => vs
    | (_, v) => [v]

/-- Outer nodes before those inside them, and otherwise by place. -/
def Candidate.before (a b : Candidate) : Bool :=
  a.span.start < b.span.start || (a.span.start == b.span.start && a.span.stop ≥ b.span.stop)

/-- The candidates that do not start before the end of one kept earlier. -/
def apart (previous? : Option UInt32) : List Candidate → List Candidate
  | [] => []
  | c :: cs =>
    if previous?.any (c.span.start < ·) then apart previous? cs
    else c :: apart (some c.span.stop) cs

def otherNode (decode : NodeDecoder) (o : Fields) : Decoder NodeId := do
  let found ← candidates (fieldValues o)
  let children ← (apart none (found.mergeSort Candidate.before)).mapM fun c => decode c.node
  add (← span o) (.other (typeOf o) (children.map some))

def listField : ListForm → Text
  | .classBody | .interfaceBody | .block => "body"
  | .object | .objectPattern => "properties"
  | .array | .arrayPattern => "elements"
  | .typeLiteral => "members"
  | .intersection | .union => "types"

def wrapField : WrapForm → Text
  | .moduleReference | .implements | .expressionStatement => "expression"
  | .exportDefault => "declaration"
  | .returnStatement | .spread | .await | .rest => "argument"
  | .arrayType => "elementType"
  | .literalType => "literal"

def listNode (decode : NodeDecoder) (form : ListForm) (o : Fields) : Decoder NodeId := do
  let s ← span o
  add s (.list form (← list decode o (listField form)))

def wrapNode (decode : NodeDecoder) (form : WrapForm) (o : Fields) : Decoder NodeId := do
  let s ← span o
  add s (.wrap form (← child decode o (wrapField form)))

def pairNode (decode : NodeDecoder) (form : PairForm) (o : Fields) : Decoder NodeId := do
  let left ← child decode o "left"
  let s ← span o
  add s (.pair form left (← child decode o "right"))

def importDeclaration (decode : NodeDecoder) (o : Fields) : Decoder NodeId := do
  let specifiers ← list decode o "specifiers"
  let source ← child decode o "source"
  add (← span o) (.importDeclaration ⟨specifiers, source, text o "importKind" == "type"⟩)

def namedImport (decode : NodeDecoder) (o : Fields) : Decoder NodeId := do
  let localName ← child decode o "local"
  let imported ← secondName decode o "imported" localName
  add (← span o)
    (.importSpecifier ⟨.named, imported, localName, text o "importKind" == "type"⟩)

def wholeImport (decode : NodeDecoder) (form : ImportForm) (o : Fields) : Decoder NodeId := do
  let s ← span o
  add s (.importSpecifier ⟨form, none, ← child decode o "local", false⟩)

def importEquals (decode : NodeDecoder) (o : Fields) : Decoder NodeId := do
  let name ← child decode o "id"
  let reference ← child decode o "moduleReference"
  add (← span o)
    (.importEquals ⟨name, reference, text o "importKind" == "type", flag o "isExport"⟩)

def exportNamed (decode : NodeDecoder) (o : Fields) : Decoder NodeId := do
  let declaration ← child decode o "declaration"
  let specifiers ← list decode o "specifiers"
  let source ← child decode o "source"
  add (← span o)
    (.exportNamed ⟨declaration, specifiers, source, text o "exportKind" == "type"⟩)

def exportSpecifier (decode : NodeDecoder) (o : Fields) : Decoder NodeId := do
  let localName ← child decode o "local"
  let exported ← secondName decode o "exported" localName
  add (← span o) (.exportSpecifier ⟨localName, exported⟩)

def classNode (decode : NodeDecoder) (form : ClassForm) (o : Fields) : Decoder NodeId := do
  let name ← child decode o "id"
  let superClass ← child decode o "superClass"
  let implements ← list decode o "implements"
  let body ← child decode o "body"
  add (← span o) (.classNode ⟨form, name, superClass, implements, body, flag o "abstract"⟩)

def propertyDefinition (decode : NodeDecoder) (o : Fields) : Decoder NodeId := do
  let key ← child decode o "key"
  let ofType ← typeField decode o "typeAnnotation"
  let value ← child decode o "value"
  add (← span o)
    (.propertyDefinition
      ⟨key, ofType, value, flag o "computed", flag o "static", flag o "readonly"⟩)

def methodDefinition (decode : NodeDecoder) (o : Fields) : Decoder NodeId := do
  let s ← span o
  let key ← child decode o "key"
  let value ← child decode o "value"
  add s (.methodDefinition ⟨key, value, text o "kind", flag o "computed", flag o "static"⟩)

def functionNode (decode : NodeDecoder) (form : FunctionForm) (o : Fields) :
    Decoder NodeId := do
  let name ← child decode o "id"
  let params ← list decode o "params"
  let returnType ← typeField decode o "returnType"
  let body ← child decode o "body"
  add (← span o)
    (.function ⟨form, name, params, returnType, body, flag o "async", flag o "generator",
      flag o "expression"⟩)

def variableDeclaration (decode : NodeDecoder) (o : Fields) : Decoder NodeId := do
  let s ← span o
  let declarations ← list decode o "declarations"
  add s (.variableDeclaration ⟨text o "kind", declarations, flag o "declare"⟩)

def variableDeclarator (decode : NodeDecoder) (o : Fields) : Decoder NodeId := do
  let target ← child decode o "id"
  let s ← span o
  add s (.variableDeclarator target (← child decode o "init"))

def interfaceNode (decode : NodeDecoder) (o : Fields) : Decoder NodeId := do
  let name ← child decode o "id"
  let heritage ← list decode o "extends"
  let s ← span o
  add s (.interface ⟨name, heritage, ← child decode o "body"⟩)

def typeAlias (decode : NodeDecoder) (o : Fields) : Decoder NodeId := do
  let name ← child decode o "id"
  let s ← span o
  add s (.typeAlias name (← child decode o "typeAnnotation"))

def ifStatement (decode : NodeDecoder) (o : Fields) : Decoder NodeId := do
  let test ← child decode o "test"
  let consequent ← child decode o "consequent"
  let s ← span o
  add s (.ifStatement test consequent (← child decode o "alternate"))

def tryStatement (decode : NodeDecoder) (o : Fields) : Decoder NodeId := do
  let block ← child decode o "block"
  let handler ← child decode o "handler"
  let s ← span o
  add s (.tryStatement block handler (← child decode o "finalizer"))

def catchClause (decode : NodeDecoder) (o : Fields) : Decoder NodeId := do
  let param ← child decode o "param"
  let s ← span o
  add s (.catchClause param (← child decode o "body"))

def identifier (decode : NodeDecoder) (o : Fields) : Decoder NodeId := do
  let s ← span o
  let ofType ← typeField decode o "typeAnnotation"
  let (tree, id) := (← get).addIdentifier s (text o "name") ofType (flag o "optional")
  set tree
  return id

def propertyNode (decode : NodeDecoder) (o : Fields) : Decoder NodeId := do
  let (key, value) ← keyAndValue decode o
  add (← span o)
    (.property ⟨key, value, text o "kind", flag o "computed", flag o "shorthand",
      flag o "method"⟩)

def callNode (decode : NodeDecoder) (form : CallForm) (o : Fields) : Decoder NodeId := do
  let callee ← child decode o "callee"
  let s ← span o
  let args ← list decode o "arguments"
  add s (.call ⟨form, callee, args, flag o "optional"⟩)

def memberNode (decode : NodeDecoder) (o : Fields) : Decoder NodeId := do
  let object ← child decode o "object"
  let s ← span o
  let property ← child decode o "property"
  add s (.member ⟨object, property, flag o "computed", flag o "optional"⟩)

def typeReference (decode : NodeDecoder) (o : Fields) : Decoder NodeId := do
  let name ← child decode o "typeName"
  let s ← span o
  add s (.typeReference ⟨name, ← typeArguments decode o⟩)

def propertySignature (decode : NodeDecoder) (o : Fields) : Decoder NodeId := do
  let s ← span o
  let key ← child decode o "key"
  let ofType ← typeField decode o "typeAnnotation"
  add s
    (.propertySignature
      ⟨key, ofType, flag o "computed", flag o "optional", flag o "readonly"⟩)

def nodeWith (decode : NodeDecoder) (o : Fields) : Decoder NodeId := do
  match Kind.ofType (typeOf o) with
  | .program => fail .nestedProgram
  | .importDeclaration => importDeclaration decode o
  | .importSpecifier => namedImport decode o
  | .importDefaultSpecifier => wholeImport decode .default o
  | .importNamespaceSpecifier => wholeImport decode .star o
  | .tsImportEqualsDeclaration => importEquals decode o
  | .tsExternalModuleReference => wrapNode decode .moduleReference o
  | .exportNamedDeclaration => exportNamed decode o
  | .exportDefaultDeclaration => wrapNode decode .exportDefault o
  | .exportSpecifier => exportSpecifier decode o
  | .classDeclaration => classNode decode .declaration o
  | .classExpression => classNode decode .expression o
  | .classBody => listNode decode .classBody o
  | .tsClassImplements => wrapNode decode .implements o
  | .propertyDefinition => propertyDefinition decode o
  | .methodDefinition => methodDefinition decode o
  | .functionDeclaration => functionNode decode .declaration o
  | .functionExpression => functionNode decode .expression o
  | .arrowFunctionExpression => functionNode decode .arrow o
  | .variableDeclaration => variableDeclaration decode o
  | .variableDeclarator => variableDeclarator decode o
  | .tsInterfaceDeclaration => interfaceNode decode o
  | .tsInterfaceBody => listNode decode .interfaceBody o
  | .tsTypeAliasDeclaration => typeAlias decode o
  | .blockStatement => listNode decode .block o
  | .expressionStatement => wrapNode decode .expressionStatement o
  | .returnStatement => wrapNode decode .returnStatement o
  | .ifStatement => ifStatement decode o
  | .tryStatement => tryStatement decode o
  | .catchClause => catchClause decode o
  | .identifier => identifier decode o
  | .literal => add (← span o) (.literal (literal o))
  | .objectExpression => listNode decode .object o
  | .property => propertyNode decode o
  | .spreadElement => wrapNode decode .spread o
  | .arrayExpression => listNode decode .array o
  | .callExpression => callNode decode .call o
  | .newExpression => callNode decode .construct o
  | .memberExpression => memberNode decode o
  | .awaitExpression => wrapNode decode .await o
  | .objectPattern => listNode decode .objectPattern o
  | .arrayPattern => listNode decode .arrayPattern o
  | .assignmentPattern => pairNode decode .assignmentPattern o
  | .restElement => wrapNode decode .rest o
  | .tsTypeReference => typeReference decode o
  | .tsQualifiedName => pairNode decode .qualifiedName o
  | .tsTypeLiteral => listNode decode .typeLiteral o
  | .tsPropertySignature => propertySignature decode o
  | .tsIntersectionType => listNode decode .intersection o
  | .tsUnionType => listNode decode .union o
  | .tsArrayType => wrapNode decode .arrayType o
  | .tsLiteralType => wrapNode decode .literalType o
  | .tsKeyword => add (← span o) (.keyword (keywordName (typeOf o)))
  | .other => otherNode decode o

/-- Decodes a node with at most the given depth of nodes below it. -/
def nodeWithin : Nat → NodeDecoder
  | 0, _ => fail .tooDeep
  | depth + 1, o => nodeWith (nodeWithin depth) o

/-- The spans of comments; entries that are no objects are passed over. -/
def comments : List Json → Decoder (List Span)
  | [] => return []
  | .object o :: vs => do return (← span o) :: (← comments vs)
  | _ :: vs => comments vs

def program (o : Fields) : Decoder Unit := do
  let body ← list (nodeWithin maxDepth) o "body"
  let comments ← match o.value? "comments" with
    | some (.array vs) => comments vs
    | _ => pure []
  let s ← span o
  modify fun t => (t.addProgram s ⟨body, comments⟩).1

def decode (files : FileSet) (id : FileId) (document : Text) : Except Error Tree :=
  match files.get? id with
  | none => .error (.unknownFile id)
  | some f =>
    match Json.read document with
    | .error e => .error (.notJson f.path e)
    | .ok (.object o) =>
      if typeOf o != "Program" then .error (.notProgram f.path)
      else
        match (program o).run ⟨id, .ofText f.content⟩ |>.run (Tree.empty id) with
        | .error failure => .error (.invalid f.path failure.fault)
        | .ok (_, tree) =>
          match tree.defect? with
          | some d => .error (.invalid f.path (.malformed tree d))
          | none => .ok tree
    | .ok _ => .error (.notProgram f.path)

end TreeLint.Document
