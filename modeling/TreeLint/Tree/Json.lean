import TreeLint.Json
import TreeLint.Tree.Basic

/-! # Trees as JSON

A full view of a tree for inspection: every node of the table with its kind, span,
parent, children and the parts of its shape.  References are shown by number, zero
for none. -/

namespace TreeLint

def Ref.json (r : Ref) : Json := .nat r.number

def Ref.listJson (rs : List Ref) : Json := .array (rs.map Ref.json)

namespace Shape

def fields (names : Names) (text : Text → Json) : Shape → List (Text × Json)
  | program p => [("body", Ref.listJson p.body)]
  | importDeclaration d =>
    [("specifiers", Ref.listJson d.specifiers), ("source", d.source.json),
      ("type_only", .bool d.typeOnly)]
  | importSpecifier s =>
    [("imported", s.imported.json), ("local", s.localName.json), ("type_only", .bool s.typeOnly)]
  | importEquals d =>
    [("id", d.name.json), ("ref", d.reference.json), ("type_only", .bool d.typeOnly),
      ("exported", .bool d.exported)]
  | exportNamed d =>
    [("declaration", d.declaration.json), ("specifiers", Ref.listJson d.specifiers),
      ("source", d.source.json), ("type_only", .bool d.typeOnly)]
  | exportSpecifier s => [("local", s.localName.json), ("exported", s.exported.json)]
  | classNode c =>
    [("id", c.name.json), ("super", c.superClass.json),
      ("implements", Ref.listJson c.implements), ("body", c.body.json),
      ("abstract", .bool c.isAbstract)]
  | propertyDefinition d =>
    [("key", d.key.json), ("type", d.ofType.json), ("value", d.value.json),
      ("computed", .bool d.computed), ("static", .bool d.isStatic),
      ("readonly", .bool d.isReadonly)]
  | methodDefinition d =>
    [("key", d.key.json), ("value", d.value.json), ("kind", text d.kind),
      ("computed", .bool d.computed), ("static", .bool d.isStatic)]
  | function f =>
    [("id", f.name.json), ("params", Ref.listJson f.params), ("return", f.returnType.json),
      ("body", f.body.json), ("async", .bool f.isAsync), ("generator", .bool f.isGenerator),
      ("expression", .bool f.isExpression)]
  | variableDeclaration d =>
    [("kind", text d.kind), ("declarations", Ref.listJson d.declarations),
      ("declare", .bool d.declare)]
  | variableDeclarator target init => [("id", target.json), ("init", init.json)]
  | interface d =>
    [("id", d.name.json), ("extends", Ref.listJson d.heritage), ("body", d.body.json)]
  | typeAlias name type => [("id", name.json), ("type", type.json)]
  | ifStatement test consequent alternate =>
    [("test", test.json), ("consequent", consequent.json), ("alternate", alternate.json)]
  | tryStatement block handler finalizer =>
    [("block", block.json), ("handler", handler.json), ("finalizer", finalizer.json)]
  | catchClause param body => [("param", param.json), ("body", body.json)]
  | identifier i =>
    [("name", text (names.get i.name)), ("type", i.ofType.json), ("optional", .bool i.optional)]
  | literal l =>
    [("kind", .string l.kind.name), ("value", text l.value), ("raw", text l.raw)]
  | property p =>
    [("key", p.key.json), ("value", p.value.json), ("kind", text p.kind),
      ("computed", .bool p.computed), ("shorthand", .bool p.shorthand),
      ("method", .bool p.method)]
  | call c =>
    [("callee", c.callee.json), ("arguments", Ref.listJson c.arguments),
      ("optional", .bool c.optional)]
  | member m =>
    [("object", m.object.json), ("property", m.property.json), ("computed", .bool m.computed),
      ("optional", .bool m.optional)]
  | typeReference r => [("name", r.name.json), ("args", Ref.listJson r.arguments)]
  | propertySignature s =>
    [("key", s.key.json), ("type", s.ofType.json), ("computed", .bool s.computed),
      ("optional", .bool s.optional), ("readonly", .bool s.isReadonly)]
  | keyword name => [("name", text name)]
  | list _ [] => []
  | list _ items => [("items", Ref.listJson items)]
  | wrap _ none => []
  | wrap _ target => [("target", target.json)]
  | pair _ left right => [("left", left.json), ("right", right.json)]
  | other type children => [("type", text type), ("children", Ref.listJson children)]

end Shape

namespace Tree

def comments (t : Tree) : List Span := ((t.program? t.root).map Program.comments).getD []

def rangeJson (s : Span) : Json := .array [.nat s.start.toNat, .nat s.stop.toNat]

def nodeJson (t : Tree) (text : Text → Json) (id : NodeId) (n : Node) : Json :=
  .object [("id", .nat id.number), ("kind", .string n.kind.name), ("span", rangeJson n.span),
    ("parent", n.parent.json),
    ("children", .array (n.children.map fun c => .nat c.number)),
    ("fields", .object (n.shape.fields t.names text))]

def fieldsJson (t : Tree) (text : Text → Json) : List (Text × Json) :=
  [("root", t.root.json), ("names", .array (t.names.list.map text)),
    ("comments", .array (t.comments.map rangeJson)),
    ("nodes", .array (t.nodes.toList.zipIdx.map fun (n, i) => t.nodeJson text ⟨i⟩ n))]

end Tree
end TreeLint
