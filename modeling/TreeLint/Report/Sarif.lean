import TreeLint.Report.Json

/-! # The report in SARIF

The Static Analysis Results Interchange Format, version 2.1.0.  Paths are relative to
the base directory of the file set. -/

namespace TreeLint.Report.Sarif

open TreeLint (Json)
open Report.Json (optionalText optionalList)

structure RuleInfo where
  id : Text
  description : Text
  helpUri : Text
  deriving Inhabited

structure RunInfo where
  tool : Text
  version : Text
  informationUri : Text
  /-- The arguments of the command line, where they are known. -/
  arguments : Option (List Text)
  rules : List RuleInfo
  deriving Inhabited

def message (t : Text) : Json := .object [("text", .string t)]

def level (s : Severity) : Text :=
  if s = .error then "error" else if s = .warning then "warning" else "note"

def artifact (files : FileSet) (f : File) : Json :=
  .object [("uri", .string (path files .relative f))]

def region (files : FileSet) (span : Span) : Json :=
  let (start, stop) := files.resolve span
  .object [("startLine", .nat start.line.toNat), ("startColumn", .nat start.column.toNat),
    ("endLine", .nat stop.line.toNat), ("endColumn", .nat stop.column.toNat),
    ("byteOffset", .nat span.start.toNat), ("byteLength", .nat span.length.toNat)]

/-- The place of a span, with a text of its own where it has one. -/
def location? (files : FileSet) (span : Span) (text? : Option Text) : Option Json :=
  (files.get? span.file).map fun f =>
    .record [[("physicalLocation",
        .object [("artifactLocation", artifact files f), ("region", region files span)])],
      text?.toList.map fun t => (utf8 "message", message t)]

def replacement (files : FileSet) (e : Edit) : Json :=
  .record [[("deletedRegion", region files e.span)],
    if e.newText.isEmpty then [] else [("insertedContent", message e.newText)]]

def editedFiles (edits : List Edit) : List FileId :=
  (edits.map (·.span.file)).eraseDups.mergeSort fun a b => a ≤ b

/-- A fix with its edits by file; edits of unknown files are left out. -/
def fix (files : FileSet) (f : Fix) : Json :=
  let changes := (editedFiles f.edits).filterMap fun id =>
    (files.get? id).map fun file =>
      Json.object [("artifactLocation", artifact files file),
        ("replacements",
          .array ((f.edits.filter (·.span.file == id)).map (replacement files)))]
  .object [("description", message f.title),
    ("artifactChanges", if changes.isEmpty then .null else .array changes)]

/-- The place of a rule in the list of rules; the last of those with the same id. -/
def ruleIndex? (rules : List RuleInfo) (id : Text) : Option Nat :=
  ((rules.zipIdx.filter fun (r, _) => r.id == id).getLast?).map (·.2)

def result (files : FileSet) (rules : List RuleInfo) (d : Diagnostic) : Json :=
  let rule : List (Text × Json) := match ruleIndex? rules d.rule with
    | some i => optionalText "ruleId" d.rule ++ [(utf8 "ruleIndex", .nat i)]
    | none => optionalText "ruleId" d.code
  let fixes := d.fixes.filterMap fun f =>
    match f.resolve with
    | .ok f => if f.edits.isEmpty then none else some (fix files f)
    | .error _ => none
  .record [rule, [("level", .string (level d.severity)), ("message", message d.message)],
    optionalList "locations" (location? files d.primary none).toList,
    optionalList "relatedLocations"
      (d.notes.filterMap fun n => location? files n.span (some n.message)),
    optionalList "fixes" fixes]

def ruleDescription (r : RuleInfo) : Json :=
  .record [[("id", .string r.id)],
    if r.description.isEmpty then [] else [("shortDescription", message r.description)],
    optionalText "helpUri" r.helpUri]

/-- The whole report of a run that was successful or not. -/
def report (files : FileSet) (info : RunInfo) (successful : Bool) (ds : List Diagnostic) :
    Json :=
  let tool := Json.object [("driver", .record [[("name", .string info.tool)],
    optionalText "version" info.version,
    optionalText "informationUri" info.informationUri,
    optionalList "rules" (info.rules.map ruleDescription)])]
  let invocations := info.arguments.toList.map fun args =>
    Json.record [optionalList "arguments" (args.map .string),
      [("executionSuccessful", .bool successful)]]
  let run := Json.record [[("tool", tool)], optionalList "invocations" invocations,
    [("results", .array (ds.map (result files info.rules)))]]
  .object [("$schema", .string "https://json.schemastore.org/sarif-2.1.0.json"),
    ("version", .string "2.1.0"), ("runs", .array [run])]

def render (files : FileSet) (info : RunInfo) (successful : Bool) (ds : List Diagnostic) :
    Text :=
  (report files info successful ds).report

end TreeLint.Report.Sarif
