import TreeLint.Report.Basic
import TreeLint.Text.Blank

/-! # The report with one line per diagnostic -/

namespace TreeLint.Report.Short

def severityWord (s : Severity) : Text :=
  if s = .error then "error" else if s = .warning then "warning" else "info"

/-- A message on one line: every line break becomes a blank. -/
def oneLine (message : Text) : Text := Text.trim (unbroken message)
where
  unbroken : Text → Text
    | [] => []
    | 13 :: 10 :: rest => 32 :: unbroken rest
    | b :: rest => (if b == 13 || b == 10 then 32 else b) :: unbroken rest

def line (files : FileSet) (style : PathStyle) (word code : Text) (span : Span)
    (message : Text) : Text :=
  match location? files style span with
  | some place => word ++ " " ++ code ++ " " ++ place ++ " " ++ oneLine message ++ "\n"
  | none => []

def diagnostic (files : FileSet) (style : PathStyle) (notes : Bool) (d : Diagnostic) : Text :=
  line files style (severityWord d.severity) d.code d.primary d.message
    ++ (if notes then d.notes.flatMap fun n => line files style "note" d.code n.span n.message
      else [])

def render (files : FileSet) (style : PathStyle) (notes : Bool) (ds : List Diagnostic) : Text :=
  ds.flatMap (diagnostic files style notes)

end TreeLint.Report.Short
