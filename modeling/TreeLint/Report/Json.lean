import TreeLint.Json.Writer
import TreeLint.Report.Basic
import TreeLint.Report.Preview

/-! # The report as JSON

Fields that are empty are left out, except where a reader relies on them. -/

namespace TreeLint.Report.Json

open TreeLint (Json)

structure Settings where
  /-- Lines and columns are shown beside offsets. -/
  positions : Bool
  style : PathStyle
  /-- The most diagnostics that are shown; zero or less for all. -/
  max : Int
  notes : Bool
  fixes : Bool
  previews : Bool
  deriving Inhabited

def optionalText (name : Text) (t : Text) : List (Text × Json) :=
  if t.isEmpty then [] else [(name, .string t)]

def optionalNumber (name : Text) (n : UInt32) : List (Text × Json) :=
  if n == 0 then [] else [(name, .nat n.toNat)]

def optionalList (name : Text) (items : List Json) : List (Text × Json) :=
  if items.isEmpty then [] else [(name, .array items)]

def location (files : FileSet) (s : Settings) (span : Span) : Json :=
  let file := match files.get? span.file with
    | some f => path files s.style f
    | none => []
  let (start, stop) := files.resolve span
  .record [[("file", .string file), ("start_byte", .nat span.start.toNat),
      ("end_byte", .nat span.stop.toNat)],
    if s.positions then
      optionalNumber "start_line" start.line ++ optionalNumber "start_col" start.column
        ++ optionalNumber "end_line" stop.line ++ optionalNumber "end_col" stop.column
    else []]

def note (files : FileSet) (s : Settings) (n : Note) : Json :=
  .object [("message", .string n.message), ("location", location files s n.span)]

def edit (files : FileSet) (s : Settings) (e : Edit) : Json :=
  let preview := match s.previews, Preview.ofEdit files e with
    | true, .ok p => p
    | _, _ => ⟨[], []⟩
  .record [[("location", location files s e.span), ("new_text", .string e.newText)],
    optionalText "old_text" e.oldText,
    optionalList "before_lines" (preview.before.map .string),
    optionalList "after_lines" (preview.after.map .string)]

/-- A fix; one that does not resolve says why and has no edits. -/
def fix (files : FileSet) (s : Settings) (f : Fix) : Json :=
  let (f, error?) := f.resolution
  .record [optionalText "id" f.id,
    [("title", .string f.title), ("kind", .string f.kind.name),
      ("applicability", .string f.applicability.name)],
    if f.preferred then [("is_preferred", .bool true)] else [],
    match error? with
    | some e => optionalText "build_error" e.message
    | none => optionalList "edits" (f.edits.map (edit files s))]

def diagnostic (files : FileSet) (s : Settings) (d : Diagnostic) : Json :=
  let data := d.data.mergeSort fun a b => a.1.atMost b.1
  .record [[("severity", .string d.severity.name), ("code", .string d.code)],
    optionalText "rule" d.rule,
    optionalText "message_id" d.messageId,
    [("message", .string d.message)],
    if data.isEmpty then [] else [("data", .object (data.map fun (k, v) => (k, .string v)))],
    [("location", location files s d.primary)],
    optionalList "notes" (if s.notes then d.notes.map (note files s) else []),
    optionalList "fixes" (if s.fixes then (listed d.fixes).map (fix files s) else [])]

def limited (s : Settings) (ds : List Diagnostic) : List Diagnostic :=
  if 0 < s.max then ds.take s.max.toNat else ds

def report (files : FileSet) (s : Settings) (ds : List Diagnostic) : Json :=
  let ds := limited s ds
  .object [("diagnostics", .array (ds.map (diagnostic files s))), ("count", .nat ds.length)]

def render (files : FileSet) (s : Settings) (ds : List Diagnostic) : Text :=
  (report files s ds).report

end TreeLint.Report.Json
