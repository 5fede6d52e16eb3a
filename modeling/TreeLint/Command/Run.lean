import TreeLint.Command.Completion
import TreeLint.Command.Fix
import TreeLint.Command.Lint
import TreeLint.Report.About

/-! # Running a command -/

namespace TreeLint.Command

/-- What is said of a format that is not among those of a list. -/
def unsupportedFormat (format : Text) : Text :=
  "unsupported format " ++ Quoted.encode format ++ " (must be pretty or json)"

def runRules (disk : Disk) (fs : Flags) : Output :=
  let format := fs.text "format"
  if format == "json" then .printed disk (Report.Rules.json Rule.all)
  else if format == "pretty" then .printed disk (Report.Rules.table Rule.all)
  else .failed disk (unsupportedFormat format)

def runVersion (env : Environment) (disk : Disk) (fs : Flags) : Output :=
  let format := fs.text "format"
  let full := fs.isOn "full"
  let info := Report.Version.Info.ofBuild env.build (fs.isOn "hash" || full)
    (fs.isOn "date" || full)
  if Text.lower format == "json" then .printed disk (Report.Version.json info)
  else if Text.lower format == "pretty" then
    match useColor env fs with
    | .error m => .failed disk m
    | .ok color => .printed disk (Report.Version.pretty color info)
  else .failed disk (unsupportedFormat format)

def usage : Text :=
  let lines : List Text := Name.all.map fun n => "  " ++ n.text ++ "\n"
  "Usage:\n  " ++ programName ++ " [command]\n\nAvailable Commands:\n" ++ lines.flatten

def Name.run (n : Name) (env : Environment) (disk : Disk) (fs : Flags) (args : List Text)
    (t : Trace.Tracer) : Output × Trace.Tracer :=
  match n with
  | lint => runLint env disk fs args t
  | fix => runFix env disk fs args t
  | rules => (runRules disk fs, t)
  | version => (runVersion env disk fs, t)

def Output.withTrace (o : Output) (output : Text) (t : Trace.Tracer) : Output :=
  if t.stream.isNone then o
  else if tracesToFile output then
    { o with disk := (o.disk.write output t.written.flatten).toOption.getD o.disk }
  else o.withLog t.written.flatten

def unexpectedArgument (arg place : Text) : Text :=
  "unknown command " ++ Quoted.encode arg ++ " for " ++ Quoted.encode place

/-- Does something after the flags all commands have are looked at. -/
def withCommonFlags (env : Environment) (fs : Flags)
    (work : Disk → Trace.Tracer → Output × Trace.Tracer) : Output :=
  match useColor env fs with
  | .error m => .failed env.disk m
  | .ok _ =>
    match tracer env fs with
    | .error m => .failed env.disk m
    | .ok (t, disk) =>
      let (o, t) := work disk t
      o.withTrace (fs.text "trace") t

def runRequest (env : Environment) (described : Bool) (args : List Text) : Output :=
  match args.getLast? with
  | none => .failed env.disk "requires at least 1 arg(s), only received 0"
  | some typed =>
    let found := complete args.dropLast typed
    { Output.printed env.disk (found.list described) with stderr := found.remark }

/-- Does what a call is addressed to, when its flags have been read.  There is no script for
any shell: a shell that sends requests needs none. -/
def Target.run (target : Target) (env : Environment) (fs : Flags) (args : List Text) : Output :=
  match target, args with
  | program, _ =>
    if fs.isOn "version" then
      .printed env.disk (programName ++ " version " ++ env.build.shown.version ++ "\n")
    else .printed env.disk usage
  | command .version, arg :: _ =>
    .failed env.disk (unexpectedArgument arg (programName ++ " " ++ target.name))
  | script _, arg :: _ =>
    .failed env.disk (unexpectedArgument arg (programName ++ " completion " ++ target.name))
  | command n, _ => withCommonFlags env fs fun disk t => n.run env disk fs args t
  | help, _ => withCommonFlags env fs fun disk t => (.printed disk usage, t)
  | script _, [] => withCommonFlags env fs fun disk t => (.printed disk [], t)
  | completion, _ => .printed env.disk usage
  | request described, _ => runRequest env described args

/-- Reads the flags of a call.  A request holds the arguments of another call, and its
own are not looked for. -/
def Target.read (target : Target) (args : List Text) : Except ArgumentError (Flags × List Text) :=
  match target with
  | request _ => .ok (target.flags, args)
  | _ => target.flags.readAll args

def run (env : Environment) (args : List Text) : Output :=
  let (target, args) := Target.ofArguments args
  match strayArgument? target args with
  | some typed => .failed env.disk (unknownCommand typed)
  | none =>
    match target.read args with
    | .error e => .failed env.disk e.message
    | .ok (fs, args) =>
      if fs.isOn "help" then .printed env.disk usage else target.run env fs args

end TreeLint.Command
