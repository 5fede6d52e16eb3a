import TreeLint.Rule.Basic

/-! # Required properties of event classes

The generated Itly library declares its events as classes.  Each of them has to
declare a key in its field `properties`: in a type literal of the field's intersection
type, in the object it is initialised with, or in the interface the intersection type
refers to. -/

namespace TreeLint.Rule.EventProperty

def libraryPath : Text := "itly/index.ts"

def implementsEvent (t : Tree) (c : ClassNode) : Bool :=
  c.implements.any fun i => t.isIdentifier (t.target i) "Event"

/-- The first field of a class whose key is the identifier `properties`. -/
def properties? (t : Tree) (c : ClassNode) : Option (Ref × PropertyDefinition) :=
  (t.items c.body).findSome? fun member =>
    match t.propertyDefinition? member with
    | some d => if !d.computed && t.isIdentifier d.key "properties" then some (member, d) else none
    | none => none

/-- Whether an intersection type has a type literal that declares the key. -/
def typeDeclares (t : Tree) (type : Ref) (key : Text) : Bool :=
  t.hasKind type .tsIntersectionType && (t.items type).any fun member =>
    t.hasKind member .tsTypeLiteral && (t.items member).any fun sig =>
      (t.propertySignature? sig).any fun s => !s.computed && t.keyName? s.key == some key

def objectDeclares (t : Tree) (value : Ref) (key : Text) : Bool :=
  t.hasKind value .objectExpression && (t.items value).any fun item =>
    (t.property? item).any fun p => !p.computed && t.keyName? p.key == some key

/-- The name of the first type an intersection type refers to, if it is a plain
identifier. -/
def referredInterface? (t : Tree) (type : Ref) : Option Text :=
  if !t.hasKind type .tsIntersectionType then none
  else
    match (t.items type).findSome? t.typeReference? with
    | some r => if t.hasKind r.name .identifier then some (t.name r.name) else none
    | none => none

/-- The first exported interface of a name at the top level of a program. -/
def exportedInterface? (t : Tree) (program : Ref) (name : Text) : Option InterfaceNode :=
  let body := ((t.program? program).map Program.body).getD []
  body.findSome? fun statement =>
    match t.exportNamed? statement with
    | some d =>
      match t.interface? d.declaration with
      | some i => if t.isIdentifier i.name name then some i else none
      | none => none
    | none => none

def interfaceDeclares (t : Tree) (i : InterfaceNode) (key : Text) : Bool :=
  (t.items i.body).any fun member =>
    (t.propertySignature? member).any fun s => !s.computed && t.isIdentifier s.key key

/-- Whether the field `properties` declares the key; with `viaInterface` an interface
may declare it, too. -/
def declares (t : Tree) (key : Text) (viaInterface : Bool) (field : Ref)
    (d : PropertyDefinition) : Bool :=
  typeDeclares t d.ofType key || objectDeclares t d.value key
    || viaInterface && (match referredInterface? t d.ofType with
      | some name =>
        !name.isEmpty && (exportedInterface? t (t.enclosingProgram field) name).any fun i =>
          interfaceDeclares t i key
      | none => false)

def classFindings (c : Context) (key : Text) (viaInterface : Bool) (id : NodeId) :
    List Finding :=
  let t := c.tree
  let span := t.span (some id)
  if !c.file.path.endsWith libraryPath then [⟨span, "invalidFile", [], none⟩]
  else
    match t.class? (some id) with
    | none => []
    | some cls =>
      let declared := (properties? t cls).any fun (field, d) => declares t key viaInterface field d
      if !implementsEvent t cls || declared then []
      else [⟨span, "missingRequiredItlyProperty", [("eventName", t.name cls.name)], none⟩]

def rule (name description key missing : Text) (viaInterface : Bool) : Rule where
  name := name
  description := description
  type := .problem
  fixable := false
  recommended := false
  messages := [
    ("invalidFile", name ++ " should only be enabled for the generated Itly library"),
    ("missingRequiredItlyProperty", "\x7b\x7b eventName \x7d\x7d is missing the " ++ missing)]
  create c := .ok (.onEnter c.tree .classDeclaration fun id =>
    .ok (classFindings c key viaInterface id))

end EventProperty

def requireItlyConstant : Rule :=
  EventProperty.rule "require-itly-constant" "Enforces itly constant is set in Iteratively" "itly"
    "Iteratively property group" false

def requireItlyEventSource : Rule :=
  EventProperty.rule "require-itly-event-source"
    "Enforces itly eventSource is set in Iteratively" "eventSource"
    "Event Source property group, please update the Event at data.amplitude.com/snyk" true

end TreeLint.Rule
