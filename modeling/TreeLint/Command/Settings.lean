import TreeLint.Command.Basic
import TreeLint.Report.Basic
import TreeLint.Text.Blank

/-! # What flags ask for -/

namespace TreeLint.Command

/-! ## Colour -/

def useColor (env : Environment) (fs : Flags) : Except Text Bool :=
  let value := fs.text "color"
  if value == "on" || value == "always" then .ok true
  else if value == "off" || value == "never" then .ok false
  else if value == "auto" || value.isEmpty then .ok env.terminal
  else
    .error ("invalid --color value " ++ Quoted.encode value ++ " (expected auto|on|off)")

/-! ## The progress view -/

/-- Whether the progress of a run is shown. -/
inductive ProgressMode where
  | auto | on | off
  deriving DecidableEq, Repr, Inhabited

namespace ProgressMode

def number : ProgressMode → Nat
  | auto => 0
  | on => 1
  | off => 2

def read (value : Text) : Except Text ProgressMode :=
  let key := Text.lower (Text.trim value)
  if key.isEmpty || key == "auto" then .ok auto
  else if key == "on" then .ok on
  else if key == "off" then .ok off
  else .error ("invalid --ui value " ++ Quoted.encode value ++ " (expected auto|on|off)")

/-- Unless it is said, progress is shown to people at a terminal. -/
def isShown (m : ProgressMode) (terminal unattended : Bool) : Bool :=
  match m with
  | auto => !unattended && terminal
  | on => true
  | off => false

end ProgressMode

/-! ## Linting -/

structure LintSettings where
  targets : List Text
  /-- The rules to run; none for those of the configuration. -/
  only : List Text
  /-- What is appended to find a tree; empty for what the configuration says. -/
  treeSuffix : Text
  useCache : Bool
  /-- The most diagnostics to show. -/
  limit : Int
  deriving Repr

def LintSettings.read (fs : Flags) (args : List Text) : Except Text LintSettings :=
  let jobs := fs.int "jobs"
  if jobs < 0 then .error ("--jobs must not be negative, got " ++ Text.decimalInt jobs)
  else .ok {
    targets := if args.isEmpty then [utf8 "."] else args
    only := fs.list "rule"
    treeSuffix := fs.text "ast-suffix"
    useCache := !fs.isOn "no-cache"
    limit := fs.int "max-diagnostics" }

inductive ReportFormat where
  | pretty | json | sarif | short
  deriving DecidableEq, Repr, Inhabited

def ReportFormat.read (name : Text) : Except Text ReportFormat :=
  if name == "pretty" then .ok pretty
  else if name == "json" then .ok json
  else if name == "sarif" then .ok sarif
  else if name == "short" then .ok short
  else .error ("unknown format: " ++ name)

structure ReportSettings where
  format : ReportFormat
  /-- Only errors are reported. -/
  quiet : Bool
  color : Bool
  notes : Bool
  suggestions : Bool
  previews : Bool
  style : PathStyle
  context : Int

def ReportSettings.read (env : Environment) (fs : Flags) : Except Text ReportSettings := do
  let format ← ReportFormat.read (fs.text "format")
  let mode := fs.text "path-mode"
  let (style, known) := PathStyle.read mode
  if !known then
    .error ("invalid --path-mode value " ++ Quoted.encode mode
      ++ " (expected auto|absolute|relative|basename)")
  let color ← useColor env fs
  return {
    format
    quiet := fs.isOn "quiet"
    color
    notes := fs.isOn "with-notes"
    suggestions := fs.isOn "suggest"
    previews := fs.isOn "preview"
    style
    context := fs.int "context" }

/-! ## Timings -/

def timingsFormat (fs : Flags) : Except Text (Option Bool) :=
  let format := fs.text "timings-format"
  if !fs.isOn "timings" then .ok none
  else if format == "text" then .ok (some false)
  else if format == "json" then .ok (some true)
  else
    .error ("invalid --timings-format value " ++ Quoted.encode format ++ " (expected text|json)")

/-! ## Traces -/

def tracesToFile (output : Text) : Bool := !output.isEmpty && output != "-"

/-- The tracer that flags ask for, and the disk with the file it writes to.  An output
without a level asks for the phases. -/
def tracer (env : Environment) (fs : Flags) : Except Text (Trace.Tracer × Disk) := do
  let output := fs.text "trace"
  let some level := Trace.Level.ofName? (fs.text "trace-level")
    | .error ("invalid trace level: " ++ Trace.Level.invalid (fs.text "trace-level"))
  let level := if level == .off && !output.isEmpty then .phase else level
  if level == .off then return (.none, env.disk)
  let some mode := Trace.Mode.ofName? (fs.text "trace-mode")
    | .error ("invalid trace mode: " ++ Trace.Mode.invalid (fs.text "trace-mode"))
  let some format := Trace.Format.ofName? (fs.text "trace-format")
    | .error ("invalid trace format: " ++ Trace.Format.invalid (fs.text "trace-format"))
  let t := Trace.Tracer.new level mode format output (fs.int "trace-ring-size")
  let t := { t with start := env.now }
  if t.stream.isSome && tracesToFile output then
    match env.disk.create output with
    | .ok disk => return (t, disk)
    | .error f => .error ("failed to create tracer: open trace output: " ++ f.message)
  else return (t, env.disk)

end TreeLint.Command
