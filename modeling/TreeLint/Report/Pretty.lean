import TreeLint.Report.Basic
import TreeLint.Report.Preview
import TreeLint.Report.Style
import TreeLint.Text.Width

/-! # The report for people

Each diagnostic is shown with its place and message, the line it is on with a mark
under it, and as wanted its notes and fixes. -/

namespace TreeLint.Report.Pretty

structure Settings where
  color : Bool
  /-- How many lines to show around the line of a diagnostic. -/
  context : Nat
  style : PathStyle
  /-- The most cells a source line takes; zero for no limit. -/
  width : Nat
  notes : Bool
  fixes : Bool
  previews : Bool
  deriving Inhabited

def pathStyle : Style := [.bold]
def codeStyle : Style := [.magenta]
def gutterStyle : Style := [.blue]
def markStyle : Style := [.red, .bold]
def noteStyle : Style := [.cyan]
def fixStyle : Style := [.green]
def removedStyle : Style := [.red]
def addedStyle : Style := [.green]

def severityStyle (s : Severity) : Style :=
  if s = .error then [.red, .bold] else if s = .warning then [.yellow, .bold] else [.cyan, .bold]

/-- Blanks as wide as a text; tabs stay, so that what follows lines up. -/
def blanks (t : Text) : Text :=
  (Utf8.pieces t).flatMap fun p =>
    if p.code == 9 then [9] else List.replicate (Text.charWidth p.code) 32

/-- The offset of a column in a line.  Columns count from one and can lie past the end of their
line; where counting them has wrapped, a column is zero and its offset comes before the line. -/
def columnOffset (line : Text) (column : UInt32) : Int :=
  min ((column.toNat : Int) - 1) line.length

def beforeColumn? (line : Text) (column : UInt32) : Option Text :=
  line.slice? 0 (max (columnOffset line column) 0)

/-- How many cells to mark after the part of a line that comes before a span: up to the end of
the span if that is on the same line, to the end of the line if it is on a later one, at least
one. -/
def markWidth? (line before : Text) (start stop : Position) : Option Nat :=
  let atLeastOne (marked : Text) : Nat := max (Text.width marked) 1
  if stop.line == start.line && start.column < stop.column then
    (line.slice? before.length (columnOffset line stop.column)).map atLeastOne
  else if start.line < stop.line then (line.slice? before.length line.length).map atLeastOne
  else some 1

def mark (width : Nat) : Text := "^" ++ Text.times (width - 1) "~"

def lineRange (f : File) (context : Nat) (line : UInt32) : Nat × Nat :=
  (if context < line.toNat then line.toNat - context else 1,
    min (line.toNat + context) f.lineCount.toNat)

def numberedRow (s : Settings) (f : File) (gutter n : Nat) : Text :=
  let line := f.line n.toUInt32
  let shown := if s.width == 0 then line else Text.clip "…" s.width line
  " " ++ gutterStyle.paint s.color (Text.padLeft gutter (Text.decimal n) ++ " |") ++ " " ++ shown

/-- The row under a line: blanks as wide as the part of the line before a span, and the mark. -/
def markRow (s : Settings) (gutter : Nat) (before : Text) (width : Nat) : Text :=
  " " ++ gutterStyle.paint s.color (Text.padLeft (gutter + 2) "|") ++ " "
    ++ blanks before ++ markStyle.paint s.color (mark width)

/-- The rows for a line of a snippet: the line, and the mark if the span starts on it. -/
def lineRows? (s : Settings) (f : File) (gutter : Nat) (start stop : Position) (n : Nat) :
    Option (List Text) :=
  if n == start.line.toNat then do
    let line := f.line n.toUInt32
    let before ← beforeColumn? line start.column
    let width ← markWidth? line before start stop
    return [numberedRow s f gutter n, markRow s gutter before width]
  else some [numberedRow s f gutter n]

/-- The lines around a span, with a mark under the line it starts on, unless a part of a line is
asked for that is not there. -/
def snippet? (s : Settings) (f : File) (span : Span) : Option Text :=
  if f.content.isEmpty then some []
  else
    let start := f.position span.start
    let stop := f.position span.stop
    let (first, last) := lineRange f s.context start.line
    let gutter := (Text.decimal last).length
    ((List.range' first (last + 1 - first)).mapM (lineRows? s f gutter start stop)).map fun rows =>
      rows.flatten.flatMap (· ++ "\n")

def location (files : FileSet) (s : Settings) (span : Span) : Text :=
  (location? files s.style span).getD "<unknown>"

def note (files : FileSet) (s : Settings) (n : Note) : Text :=
  "  " ++ noteStyle.paint s.color "note:" ++ " " ++ location files s n.span ++ ": "
    ++ n.message ++ "\n"

def preview (s : Settings) (p : Preview) : Text :=
  let line (style : Style) (sign : Text) (t : Text) : Text :=
    "      " ++ style.paint s.color (sign ++ t) ++ "\n"
  "    preview:\n" ++ p.before.flatMap (line removedStyle "- ")
    ++ p.after.flatMap (line addedStyle "+ ")

def edit (files : FileSet) (s : Settings) (e : Edit) : Text :=
  "    " ++ location files s e.span ++ " apply=" ++ Quoted.encode e.newText ++ "\n"
    ++ (match s.previews, Preview.ofEdit files e with
      | true, .ok p => preview s p
      | _, _ => [])

def fix (files : FileSet) (s : Settings) (f : Fix) (number : Nat) : Text :=
  let (f, error?) := f.resolution
  let applicability : Text := f.applicability.name
  "  " ++ fixStyle.paint s.color ("fix #" ++ Text.decimal number ++ ": " ++ f.title)
    ++ (if f.id.isEmpty then " (" ++ applicability ++ ")"
      else " (id=" ++ f.id ++ ", " ++ applicability ++ ")")
    ++ "\n"
    ++ (match error? with
      | some e => "    unavailable: " ++ e.message ++ "\n"
      | none => f.edits.flatMap (edit files s))

def diagnostic (files : FileSet) (s : Settings) (d : Diagnostic) : Text :=
  pathStyle.paint s.color (location files s d.primary) ++ ": "
    ++ (severityStyle d.severity).paint s.color d.severity.name ++ " "
    ++ codeStyle.paint s.color d.code ++ ": " ++ d.message ++ "\n"
    ++ (match files.get? d.primary.file with
      | some f => (snippet? s f d.primary).getD []
      | none => [])
    ++ (if s.notes then d.notes.flatMap (note files s) else [])
    ++ (if s.fixes || s.previews then
        ((listed d.fixes).zipIdx 1).flatMap fun (f, i) => fix files s f i
      else [])

/-- The whole report, with a blank line between diagnostics. -/
def render (files : FileSet) (s : Settings) (ds : List Diagnostic) : Text :=
  Text.join "\n" (ds.map (diagnostic files s))

end TreeLint.Report.Pretty
