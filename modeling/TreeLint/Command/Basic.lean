import TreeLint.Command.Flag
import TreeLint.Disk
import TreeLint.Trace.Tracer
import TreeLint.Version

/-! # Commands

A command sees the arguments it is called with and its surroundings, and gives what it
prints, the disk as it leaves it, and whether it failed. -/

namespace TreeLint.Command

structure Environment where
  disk : Disk
  build : Build
  /-- The folder that caches are kept in. -/
  cacheHome : Text
  /-- The output goes to a terminal. -/
  terminal : Bool
  /-- The command runs without anybody watching. -/
  unattended : Bool
  now : Trace.Moment

inductive Failure where
  /-- It has printed diagnostics that are errors. -/
  | diagnostics
  | message (t : Text)
  deriving DecidableEq, Repr

/-- What a command leaves behind. -/
structure Output where
  stdout : Text
  stderr : Text
  /-- What is told beside the output of the command: timings and traces. -/
  log : Text
  disk : Disk
  failure? : Option Failure

namespace Output

def printed (disk : Disk) (stdout : Text) : Output := ⟨stdout, [], [], disk, none⟩

def failed (disk : Disk) (message : Text) : Output := ⟨[], [], [], disk, some (.message message)⟩

def withLog (o : Output) (t : Text) : Output := { o with log := o.log ++ t }

end Output

inductive Name where
  | lint | fix | rules | version
  deriving DecidableEq, Repr, Inhabited

namespace Name

def all : List Name := [lint, fix, rules, version]

def text : Name → Text
  | lint => "lint"
  | fix => "fix"
  | rules => "rules"
  | version => "version"

def about : Name → Text
  | lint => "Lint TypeScript sources"
  | fix => "Apply available fixes to TypeScript sources"
  | rules => "List the available rules"
  | version => "Show airtight build fingerprints and rule set size"

end Name

def commonFlags : Flags := [
  .text "color" "auto" "colorize output (auto|on|off)",
  .switch "timings" "show timing information",
  .text "timings-format" "text" "timing output format (text|json)",
  .int "max-diagnostics" 64 0 "maximum number of diagnostics to show (0=all)",
  .text "config" [] "path to .airtight.toml (default: search upwards from the first target)",
  .text "trace" [] "trace output file (- for stderr)",
  .text "trace-level" "off" "trace level (off|error|phase|file|debug)",
  .text "trace-mode" "stream" "trace storage mode (stream|ring|both)",
  .text "trace-format" "auto" "trace format (auto|text|ndjson)",
  .int "trace-ring-size" 64 4096 "events kept in ring mode"]

def helpFlag (name : Text) : Flag := (Flag.switch "help" ("help for " ++ name)).withLetter 'h'

def versionFlag : Flag := (Flag.switch "version" ("version for " ++ programName)).withLetter 'v'

def lintingFlags : Flags := [
  .list "rule" "run only the named rules (repeatable, comma-separated)",
  .int "jobs" 64 0 "max parallel workers (0=config or auto)",
  .text "ast-suffix" [] "suffix of the ESTree JSON next to each source (default .ast.json)",
  .switch "no-cache" "disable the on-disk result cache"]

def Name.ownFlags : Name → Flags
  | lint => lintingFlags ++ [
    .text "format" "pretty" "output format (pretty|json|sarif|short)",
    .switch "with-notes" "include diagnostic notes in output",
    .switch "suggest" "include fix suggestions in output",
    .switch "preview" "preview fix edits in output",
    .text "path-mode" "auto" "how paths are shown (auto|absolute|relative|basename)",
    .int "context" 8 1 "source lines shown around each diagnostic",
    .text "ui" "auto" "progress view (auto|on|off)",
    .switch "quiet" "report errors only"]
  | fix => lintingFlags ++ [
    .switch "all" "apply all non-conflicting fixes",
    .switch "once" "apply the first available fix (default)",
    .text "id" [] "apply fix with a specific identifier",
    .switch "dry-run" "print the fixed sources instead of writing them"]
  | rules => [.text "format" "pretty" "output format (pretty|json)"]
  | version => [
    .switch "hash" "include git commit hash",
    .switch "date" "include build timestamp",
    .switch "full" "show every recorded bit of build metadata",
    .text "format" "pretty" "output format (pretty|json)"]

end TreeLint.Command
