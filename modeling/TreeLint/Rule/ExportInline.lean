import TreeLint.Rule.Basic

/-! # Exporting functions inline

A function named in a local list of exports is better exported where it is declared,
and an empty list of exports is not needed in a module that has another mark of one. -/

namespace TreeLint.Rule.ExportInline

/-- Whether a statement exports everything of another module. -/
def isExportAll (t : Tree) (r : Ref) : Bool := t.otherType? r == some "ExportAllDeclaration"

/-- Whether a statement makes its file a module. -/
def isModuleMark (t : Tree) (r : Ref) : Bool :=
  match t.kind? r with
  | some .importDeclaration | some .tsImportEqualsDeclaration | some .exportNamedDeclaration
  | some .exportDefaultDeclaration => true
  | _ => isExportAll t r

/-- The top-level function declaration of a name, the first where there are several. -/
def functionNamed? (t : Tree) (body : List Ref) (name : Text) : Option Ref :=
  body.find? fun s =>
    t.hasKind s .functionDeclaration && !name.isEmpty
      && (t.function? s).any fun f => t.name f.name == name

/-- A span extended over the comma that follows it, with blanks between them. -/
def withComma (content : Text) (span : Span) : Span :=
  let rest := content.drop span.stop.toNat
  let blanks := rest.takeWhile fun b => b == 32 || b == 9 || b == 13 || b == 10
  match rest.drop blanks.length with
  | 44 :: _ => { span with stop := (span.stop.toNat + blanks.length + 1).toUInt32 }
  | _ => span

/-- The finding for one exported name, if it names a function of the file. -/
def specifierFinding? (c : Context) (body : List Ref) (r : Ref) (s : ExportSpecifier) :
    Option Finding :=
  let t := c.tree
  if t.name s.localName != t.name s.exported then none
  else
    (functionNamed? t body (t.name s.localName)).map fun f =>
      { span := t.span r
        messageId := "mustBeInline"
        data := []
        fix := (Fix.compose "export inline"
          [.delete (withComma c.file.content (t.span r)),
            .insertBefore (t.span f) "export "]).toOption }

/-- The finding for one item of a list of exports, which has to be a name. -/
def itemFinding? (c : Context) (body : List Ref) (r s : Ref) : Except Fault (Option Finding) :=
  match c.tree.exportSpecifier? s with
  | some spec => .ok (specifierFinding? c body s spec)
  | none => .error (.noExportSpecifier r)

def statementFindings (c : Context) (body : List Ref) (r : Ref) : Except Fault (List Finding) :=
  let t := c.tree
  match t.exportNamed? r with
  | none => .ok []
  | some d =>
    if d.declaration.isSome || d.source.isSome then .ok []
    else if d.specifiers.isEmpty then
      if (body.filter (isModuleMark t)).length > 1 then
        .ok [{ span := t.span r
               messageId := "unnecessaryEmptyExport"
               data := []
               fix := (Fix.compose "remove empty export" [.delete (t.span r)]).toOption }]
      else .ok []
    else do
      let found ← d.specifiers.mapM (itemFinding? c body r)
      return found.filterMap id

def programFindings (c : Context) (id : NodeId) : Except Fault (List Finding) := do
  let body := ((c.tree.program? (some id)).map Program.body).getD []
  return (← body.mapM (statementFindings c body)).flatten

end ExportInline

def exportInline : Rule where
  name := "export-inline"
  description := "Export functions at their declaration"
  type := .suggestion
  fixable := true
  recommended := true
  messages := [
    ("mustBeInline", "Export the function where it is declared"),
    ("unnecessaryEmptyExport", "Empty export list is unnecessary in a module")]
  create c := .ok (.onEnter c.tree .program (ExportInline.programFindings c))

end TreeLint.Rule
