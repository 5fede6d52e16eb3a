import TreeLint.Command.Plan
import TreeLint.Report.Pretty
import TreeLint.Report.Sarif
import TreeLint.Report.Short

/-! # The command that lints -/

namespace TreeLint.Command

def summaryLine (r : Run.Result) : Text :=
  let count (s : Severity) : Text := Text.decimal (r.bag.items.countP (·.severity == s))
  Text.decimal r.results.length ++ " file(s) linted, " ++ count .error ++ " error(s), "
    ++ count .warning ++ " warning(s)\n"

def runInfo (build : Build) (entries : List Entry) (args : List Text) :
    Report.Sarif.RunInfo where
  tool := programName
  version := build.shown.version
  informationUri := []
  arguments := some (utf8 "lint" :: args)
  rules := entries.map fun e => ⟨e.rule.name, e.rule.description, []⟩

def report (build : Build) (s : ReportSettings) (entries : List Entry) (args : List Text)
    (r : Run.Result) : Text :=
  let ds := r.bag.items
  let fixes := s.suggestions || s.previews
  match s.format with
  | .pretty =>
    Report.Pretty.render r.files
        ⟨s.color, s.context.toNat, s.style, 0, s.notes, fixes, s.previews⟩ ds
      ++ (if ds.isEmpty then [] else utf8 "\n") ++ summaryLine r
  | .short => Report.Short.render r.files s.style s.notes ds
  | .json => Report.Json.render r.files ⟨true, s.style, 0, s.notes, fixes, s.previews⟩ ds
  | .sarif => Report.Sarif.render r.files (runInfo build entries args) (!r.bag.hasErrors) ds

/-- The result with only its errors, if nothing else is to be reported. -/
def quieted (quiet : Bool) (r : Run.Result) : Run.Result :=
  if quiet then { r with bag := r.bag.filter fun d => d.severity.isError } else r

def droppedNote (s : ReportSettings) (r : Run.Result) : Text :=
  if 0 < r.dropped && s.format == .pretty then
    Text.decimal r.dropped ++ " more diagnostic(s) not shown (--max-diagnostics)\n"
  else []

def lintOutput (env : Environment) (fs : Flags) (s : ReportSettings) (args : List Text)
    (p : Plan) (r : Run.Result) : Output :=
  let r := quieted s.quiet r
  let out : Output :=
    { stdout := report env.build s p.settings.entries args r
      stderr := droppedNote s r
      log := []
      disk := p.diskAfter r
      failure? := none }
  match timings fs r with
  | .error m => { out with failure? := some (.message m) }
  | .ok log =>
    { out with log, failure? := if r.hasErrors then some .diagnostics else none }

def runLint (env : Environment) (disk : Disk) (fs : Flags) (args : List Text)
    (t : Trace.Tracer) : Output × Trace.Tracer :=
  let asked : Except Text (LintSettings × ReportSettings) := do
    let s ← LintSettings.read fs args
    let r ← ReportSettings.read env fs
    let _ ← ProgressMode.read (fs.text "ui")
    return (s, r)
  match asked with
  | .error m => (.failed disk m, t)
  | .ok (s, r) =>
    match Plan.make env disk fs s with
    | .error m => (.failed disk m, tracePlan t env.now none)
    | .ok p =>
      let t := tracePlan t env.now (some p)
      if p.files.isEmpty then
        ({ Output.printed p.disk [] with stderr := "No TypeScript files found.\n" }, t)
      else
        match p.run with
        | .error e => (.failed p.disk ("lint failed: " ++ e.message), t)
        | .ok result =>
          (lintOutput env fs r args p result, traceRun t env.now result)

end TreeLint.Command
