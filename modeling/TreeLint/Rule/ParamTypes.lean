import TreeLint.Regex.Parse
import TreeLint.Rule.Basic
import TreeLint.Specifier

/-! # Types of parameters

Parameters of function declarations need a type.  Which names need one is given by
patterns, and so are the types to add and the modules to import them from. -/

namespace TreeLint.Rule.ParamTypes

structure TypeFix where
  pattern : Regex
  importFrom : Text
  typeName : Text

structure Settings where
  required : List Regex
  excluded : List Regex
  fixes : List TypeFix

def wholeName (pattern : Text) : Except Text Regex :=
  match Regex.parse ("^(?:" ++ pattern ++ ")$") with
  | .ok r => .ok r
  | .error e => .error ("pattern " ++ Quoted.encode pattern ++ ": " ++ e.message)

def typeFix (c : Context) (pattern : Text) (entry : List Text) : Except Text TypeFix := do
  match entry with
  | [importPath, typeName] =>
    let regex ← wholeName pattern
    let importFrom ←
      if importPath.startsWith "." then
        match Specifier.relativeTo c.absoluteDir (Path.append c.cwd importPath) with
        | .ok path => Except.ok path
        | .error m => .error ("fixes[" ++ Quoted.encode pattern ++ "]: " ++ m)
      else .ok importPath
    return ⟨regex, importFrom, typeName⟩
  | _ =>
    .error ("fixes[" ++ Quoted.encode pattern ++ "]: want [importPath, typeName], got "
      ++ Text.decimal entry.length ++ " values")

def settings (c : Context) : Except Text Settings := do
  let texts : Toml.Decoder (List Text) := .list .text
  let required ← c.options.decode "required" texts
  let excluded ← c.options.decode "excluded" texts
  let fixes ← c.options.decode "fixes" (.map? texts)
  let required ← (required.getD [utf8 ".*"]).mapM wholeName
  let excluded ← (excluded.getD []).mapM wholeName
  let fixes := ((fixes.bind id).getD []).mergeSort fun a b => a.1.atMost b.1
  let fixes ← fixes.mapM fun (pattern, entry) => typeFix c pattern entry
  return ⟨required, excluded, fixes⟩

/-- The names a program imports by name from other modules. -/
def importedNames (t : Tree) (id : NodeId) : List Text :=
  let body := ((t.program? (some id)).map Program.body).getD []
  body.flatMap fun statement =>
    match t.importDeclaration? statement with
    | some d => d.specifiers.filterMap fun s =>
        match t.importSpecifier? s with
        | some ⟨.named, imported, _, _⟩ => some (t.name imported)
        | _ => none
    | none => []

/-- The fix that gives a parameter its type, with an import of the type unless it is
imported already. -/
def fix (t : Tree) (param : Ref) (f : TypeFix) (imported : Memory) : Option Fix :=
  let addImport : List Edit :=
    if imported.contains f.typeName then []
    else [.insertBefore (t.span t.root)
      ("import type \x7b " ++ f.typeName ++ " \x7d from '" ++ f.importFrom ++ "';\n")]
  (Fix.compose "add parameter type"
    (addImport ++ [.insertAfter (t.span param) (": " ++ f.typeName)])).toOption

/-- What is found at one parameter of the function `id`, and the imported names
afterwards. -/
def paramFindings (t : Tree) (s : Settings) (id : NodeId) (imported : Memory) (param : Ref) :
    Memory × List Finding :=
  match t.identifier? param with
  | none => (imported, [])
  | some i =>
    let name := t.name param
    if i.ofType.isSome || !s.required.any (·.isMatch name) || s.excluded.any (·.isMatch name) then
      (imported, [])
    else
      let typeFix? := s.fixes.find? (·.pattern.isMatch name)
      let fix? := typeFix?.bind fun f => fix t param f imported
      let imported := match typeFix?, fix? with
        | some f, some _ => f.typeName :: imported
        | _, _ => imported
      (imported, [⟨t.span (some id), "mustBeTyped", [], fix?⟩])

def paramsFindings (t : Tree) (s : Settings) (id : NodeId) (imported : Memory) :
    List Ref → Memory × List Finding
  | [] => (imported, [])
  | p :: ps =>
    let (imported, found) := paramFindings t s id imported p
    let (imported, more) := paramsFindings t s id imported ps
    (imported, found ++ more)

def visitor (t : Tree) (s : Settings) : Visitor where
  step imported
    | .enter id =>
      match t.kind? (some id) with
      | some .program => .ok (importedNames t id ++ imported, [])
      | some .functionDeclaration =>
        .ok (paramsFindings t s id imported (((t.function? (some id)).map (·.params)).getD []))
      | _ => .ok (imported, [])
    | .leave _ => .ok (imported, [])

end ParamTypes

def paramTypes : Rule where
  name := "param-types"
  description := "Require explicit parameter types on function declarations"
  type := .problem
  fixable := true
  recommended := true
  messages := [("mustBeTyped", "Explicitly specifying a type is required for this parameter.")]
  create c := do return ParamTypes.visitor c.tree (← ParamTypes.settings c)

end TreeLint.Rule
