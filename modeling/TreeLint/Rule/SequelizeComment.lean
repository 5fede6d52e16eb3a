import TreeLint.Rule.Basic

/-! # Comments on queries

The options of a Sequelize finder need a property `comment`, so that a query can be
traced back to the code that made it. -/

namespace TreeLint.Rule

/-- The property of a member expression that is written with a dot. -/
def dottedProperty? (t : Tree) (r : Ref) : Option Text :=
  match t.member? r with
  | some m =>
    if !m.computed && t.hasKind m.property .identifier then some (t.name m.property) else none
  | none => none

namespace SequelizeComment

def finders : List Text := List.map utf8 ["findAll", "findOne", "findOrCreate"]

def pathEnd (path : Text) : Text :=
  let parts := Text.splitByte Path.slash path
  Text.join "/" (parts.drop (parts.length - 3))

/-- Whether an object literal has a property whose key is the identifier. -/
def hasIdentifierKey (t : Tree) (object : Ref) (name : Text) : Bool :=
  (t.items object).any fun item => (t.property? item).any fun p => t.isIdentifier p.key name

/-- The name of a route: the method of the router and the path, for a call of the router
with a path and a handler. -/
def routeName? (t : Tree) (r : Ref) : Option Text :=
  match t.call? r with
  | some ⟨.call, callee, [path, _], _⟩ =>
    match t.member? callee, t.literal? path with
    | some m, some literal =>
      if t.isIdentifier m.object "router" && t.hasKind m.property .identifier then
        some (t.name m.property ++ ":" ++ literal.value)
      else none
    | _, _ => none
  | _ => none

/-- The name a node gives to the code inside it, if it gives one: a declared function,
the variable an arrow function is bound to, a route, or a method. -/
def scopeName? (t : Tree) (id : NodeId) : Option Text :=
  let r : Ref := some id
  match t.kind? r with
  | some .functionDeclaration => some (((t.function? r).map fun f => t.name f.name).getD [])
  | some .arrowFunctionExpression =>
    let parent := t.parent r
    match t.declared? parent with
    | some target =>
      if t.hasKind target .identifier then some (t.name target) else routeName? t parent
    | none => routeName? t parent
  | some .methodDefinition =>
    match t.methodDefinition? r with
    | some d => if t.hasKind d.key .identifier then some (t.name d.key) else none
    | none => none
  | _ => none

/-- The name of the code a node belongs to; empty for none. -/
def enclosingName (t : Tree) (id : NodeId) : Text :=
  ((id :: t.ancestors (some id)).findSome? (scopeName? t)).getD []

/-- The edit that adds a comment to the object of options.  An object without
properties is only replaced when nothing stands between its braces. -/
def commentEdit? (c : Context) (object : Ref) (name : Text) : Option Edit :=
  let text : Text := "comment: '" ++ pathEnd c.file.path ++ ":" ++ name ++ "', "
  let span := c.tree.span object
  match c.tree.items object with
  | first :: _ => some (.insertBefore (c.tree.span first) text)
  | [] => if span.length == 2 then some (.replace span ("\x7b" ++ text ++ "\x7d")) else none

def callFindings (c : Context) (id : NodeId) : List Finding :=
  let t := c.tree
  match t.call? (some id) with
  | some ⟨_, callee, [object], _⟩ =>
    let isFinder := (dottedProperty? t callee).any finders.contains
    if !isFinder || !t.hasKind object .objectExpression || hasIdentifierKey t object "comment" then
      []
    else
      let name := enclosingName t id
      let edit? := if name.isEmpty then none else commentEdit? c object name
      [{ span := t.span (some id)
         messageId := "requiresComment"
         data := []
         fix := edit?.bind fun e => (Fix.compose "add query comment" [e]).toOption }]
  | _ => []

end SequelizeComment

def sequelizeComment : Rule where
  name := "sequelize-comment"
  description := "Require a comment on Sequelize finder calls"
  type := .problem
  fixable := true
  recommended := true
  messages := [("requiresComment", "The `comment` property is required")]
  create c := .ok (.onEnter c.tree .callExpression fun id =>
    .ok (SequelizeComment.callFindings c id))

end TreeLint.Rule
