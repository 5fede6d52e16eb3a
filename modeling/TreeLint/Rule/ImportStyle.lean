import TreeLint.Rule.Basic
import TreeLint.Specifier

/-! # Styles of import

An import of the form `import x = require('m')` is reported, and turned into a
named import where a pair of local name and module lists it.  Where the options ask
for it, namespace imports are reported too and turned into that form. -/

namespace TreeLint.Rule.ImportStyle

/-- A local name and the module it comes from. -/
structure Pair where
  localName : Text
  path : Text
  deriving DecidableEq, Repr, Inhabited

/-- Decides whether a namespace import is offered a fix, from its target, its local
name and the pairs of the options. -/
abbrev Matcher := Specifier.Target → Text → List Pair → Bool

def acceptAll : Matcher := fun _ _ _ => true

/-- A pair from a table; what the table leaves out is empty. -/
def pair : Toml.Decoder Pair
  | key, .table t => do
    let text (name : Text) : Except Toml.Mismatch Text :=
      match Toml.Table.field? t name with
      | some (written, v) => Toml.Decoder.text (key ++ [written]) v
      | none => .ok []
    return ⟨← text "local", ← text "path"⟩
  | key, v => .error (.noTable key "rules.ImportPair" v.typeName)

structure Settings where
  /-- Pairs whose imports become named imports. -/
  toNamed : List Pair
  /-- Pairs for namespace imports, which are left alone without them. -/
  fromNamespace : Option (List Pair)

def settings (o : Options) : Except Text Settings := do
  let toNamed ← o.decode "requireToNamed" (.list pair)
  let fromNamespace ← o.decode "wildNsToRequire" (.list pair)
  return ⟨toNamed.getD [], fromNamespace⟩

/-- A finding that replaces a whole declaration, if there is something to put there. -/
def finding (t : Tree) (id : NodeId) (title : Text) (replacement? : Option Text) : Finding :=
  { span := t.span (some id)
    messageId := "useRegularImport"
    data := []
    fix := replacement?.bind fun text =>
      (Fix.compose title [.replace (t.span (some id)) text]).toOption }

/-- What is found at an import declaration: the import of a whole namespace. -/
def namespaceFindings (c : Context) (accepts : Matcher) (pairs : List Pair) (id : NodeId) :
    List Finding :=
  let t := c.tree
  match t.importDeclaration? (some id) with
  | some ⟨[spec], source, _⟩ =>
    match t.importSpecifier? spec, t.stringValue? source, t.literal? source with
    | some ⟨.star, _, some l, _⟩, some path, some literal =>
      let name := t.name (some l)
      let target := Specifier.classify c.absoluteDir path
      [finding t id "use require import"
        (if accepts target name pairs then
          some ("import " ++ name ++ " = require(" ++ literal.raw ++ ");")
        else none)]
    | _, _, _ => []
  | _ => []

def equalsFindings (c : Context) (pairs : List Pair) (id : NodeId) : List Finding :=
  let t := c.tree
  match t.importEquals? (some id) with
  | none => []
  | some d =>
    if !t.hasKind d.reference .tsExternalModuleReference then []
    else
      match t.literal? (t.target d.reference) with
      | none => []
      | some literal =>
        let name := t.name d.name
        [finding t id "use named import"
          (if pairs.any fun p => p.localName == name && p.path == literal.value then
            some ("import \x7b " ++ name ++ " \x7d from " ++ literal.raw ++ ";")
          else none)]

def visitor (c : Context) (accepts : Matcher) (s : Settings) : Visitor where
  step memory
    | .enter id =>
      match c.tree.kind? (some id) with
      | some .importDeclaration =>
        match s.fromNamespace with
        | some pairs => .ok (memory, namespaceFindings c accepts pairs id)
        | none => .ok (memory, [])
      | some .tsImportEqualsDeclaration => .ok (memory, equalsFindings c s.toNamed id)
      | _ => .ok (memory, [])
    | .leave _ => .ok (memory, [])

end ImportStyle

/-- Modern forms of import, with the given choice of namespace imports to change. -/
def importStyleWith (accepts : ImportStyle.Matcher) : Rule where
  name := "import-style"
  description := "Prefer modern import forms for configured modules"
  type := .problem
  fixable := true
  recommended := true
  messages := [("useRegularImport", "Modern import style available")]
  create c := do return ImportStyle.visitor c accepts (← ImportStyle.settings c.options)

def importStyle : Rule := importStyleWith ImportStyle.acceptAll

end TreeLint.Rule
