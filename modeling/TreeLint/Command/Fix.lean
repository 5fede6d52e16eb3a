import TreeLint.Command.Plan
import TreeLint.Fix.Apply
import TreeLint.Report.Fixes

/-! # The command that fixes -/

namespace TreeLint.Command

def fixMode (fs : Flags) : Except Text Fix.Mode :=
  let id := fs.text "id"
  let all := fs.isOn "all"
  let once := fs.isOn "once"
  if !id.isEmpty && (all || once) then .error "--id cannot be combined with --all or --once"
  else if all && once then .error "--all and --once are mutually exclusive"
  else if !id.isEmpty then .ok (.byId id)
  else .ok (if all then .all else .once)

/-- Applies the fixes of a run and reports on them.  Unless it is only tried out, the
changed files are written. -/
def fixOutput (fs : Flags) (mode : Fix.Mode) (dryRun : Bool) (disk : Disk) (r : Run.Result) :
    Output :=
  let o := Fix.applyAll r.files r.bag.items mode dryRun
  let (disk, failure?) := if dryRun then (disk, none) else Fix.saveAll disk o.changes
  let error? : Option Report.Fixes.PassError := match failure? with
    | some f => some (.other ("write " ++ f.path ++ ": " ++ f.message))
    | none => o.error?.map .ofApply
  let changes := o.changes.map (.ofChange dryRun)
  let (text, left?) := Report.Fixes.render o.applied changes o.skipped error?
  match left?, dryRun with
  | some m, _ => ⟨text, [], [], disk, some (.message m)⟩
  | none, true => .printed disk (text ++ Report.Fixes.contents changes)
  | none, false =>
    match timings fs r with
    | .ok log => (Output.printed disk text).withLog log
    | .error m => ⟨text, [], [], disk, some (.message m)⟩

/-- Lints the targets and applies fixes to them.  A fix is asked for by its id only in
a single file, since ids are those of a file. -/
def runFix (env : Environment) (disk : Disk) (fs : Flags) (args : List Text)
    (t : Trace.Tracer) : Output × Trace.Tracer :=
  let asked : Except Text (Fix.Mode × LintSettings) := do
    let mode ← fixMode fs
    let s ← LintSettings.read fs args
    return (mode, { s with limit := 0 })
  match asked with
  | .error m => (.failed disk m, t)
  | .ok (mode, s) =>
    match Plan.make env disk fs s with
    | .error m => (.failed disk m, tracePlan t env.now none)
    | .ok p =>
      let t := tracePlan t env.now (some p)
      if !(fs.text "id").isEmpty && p.files.length != 1 then
        (.failed p.disk ("fix: --id can only be used with a single file, got "
          ++ Text.decimal p.files.length), t)
      else
        match p.run with
        | .error e => (.failed p.disk ("fix: lint failed: " ++ e.message), t)
        | .ok r =>
          (fixOutput fs mode (fs.isOn "dry-run") (p.diskAfter r) r, traceRun t env.now r)

end TreeLint.Command
