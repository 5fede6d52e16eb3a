import TreeLint.Diagnostic.Severity
import TreeLint.Disk
import TreeLint.Path.Glob
import TreeLint.Rule.Options
import TreeLint.Sha256
import TreeLint.Text.Quoted

/-! # Configuration

A configuration names the rules to run with their severities and options, and how
sources are found.  It is read from a TOML document that may hold nothing else. -/

namespace TreeLint

structure RuleConfig where
  name : Text
  /-- The rule is turned off. -/
  off : Bool
  severity : Severity
  options : Options
  deriving Inhabited, Repr

structure Config where
  /-- The file it was read from; empty for defaults. -/
  path : Text
  /-- The directory it governs. -/
  root : Text
  /-- How many files to work on at a time; zero for as many as there are processors. -/
  jobs : Int
  /-- What is appended to the path of a source to find its syntax tree. -/
  treeSuffix : Text
  /-- Patterns of directory names to skip. -/
  ignore : List Text
  /-- Sorted by name; none for the recommended rules. -/
  rules : List RuleConfig
  /-- The digest of the document; zero for defaults. -/
  digest : Text
  deriving Inhabited, Repr

namespace Config

def fileName : Text := ".airtight.toml"

def default (root : Text) : Config :=
  { path := []
    root := root
    jobs := 0
    treeSuffix := ".ast.json"
    ignore := List.map utf8 ["node_modules", ".git", "dist", "build"]
    rules := []
    digest := List.replicate 32 0 }

/-- Why a configuration cannot be used. -/
inductive Error where
  | syntaxError (e : Toml.SyntaxError)
  | mismatch (document : Toml.Document) (m : Toml.Mismatch)
  | unknownKeys (keys : List Toml.Key)
  | negativeJobs (jobs : Int)
  | severity (rule name : Text)
  | optionsNoTable (rule kind : Text)
  deriving Repr

namespace Error

def message : Error → Text
  | syntaxError e => "failed to parse TOML: " ++ e.message
  | mismatch d m => "failed to parse TOML: " ++ m.message d
  | unknownKeys keys => "unknown keys: " ++ Text.join ", " (keys.map Toml.Key.written)
  | negativeJobs jobs => "jobs must not be negative, got " ++ Text.decimalInt jobs
  | severity rule name => "[rules." ++ rule ++ "]: " ++ Severity.unknown name
  | optionsNoTable rule kind =>
    "[rules." ++ rule ++ "]: options must be a table, got " ++ Text.lower kind

/-- Whether the document itself is at fault, rather than what it says. -/
def isToml : Error → Bool
  | syntaxError _ | mismatch _ _ => true
  | _ => false

end Error

structure RuleTable where
  severity : Text
  options : Option Toml.Table

/-- The document as it was written. -/
structure Raw where
  jobs : Int
  treeSuffix : Text
  ignore : List Text
  rules : List (Text × RuleTable)

open Toml (Decoder Key)

/-- Decodes the entry of a table that belongs to a field, if there is one. -/
def field {α : Type} (key : Key) (t : Toml.Table) (name : Text) (decoder : Decoder α)
    (absent : α) : Except Toml.Mismatch α :=
  match t.field? name with
  | some (written, v) => decoder (key ++ [written]) v
  | none => .ok absent

def ruleTable : Decoder RuleTable
  | key, .table t => do
    let severity ← field key t "severity" Decoder.text []
    let options := match Toml.Table.field? t "options" with
      | some (_, .table o) => some o
      | _ => none
    return ⟨severity, options⟩
  | key, v => .error (.noTable key "config.ruleTable" v.typeName)

def raw (t : Toml.Table) : Except Toml.Mismatch Raw := do
  let jobs ← field [] t "jobs" Decoder.int 0
  let treeSuffix ← field [] t "ast_suffix" Decoder.text []
  let ignore ← field [] t "ignore" (Decoder.list Decoder.text) []
  let rules ← field [] t "rules" (Decoder.map? ruleTable) none
  return ⟨jobs, treeSuffix, ignore, rules.getD []⟩

/-- Whether a key is one that decoding looks at: a field of the configuration, a rule,
a field of a rule, or anything in the options of a rule. -/
def isKnown (root : Toml.Table) (key : Key) : Bool :=
  let isField (names : List String) (name : Text) : Bool :=
    names.any fun n => Toml.matchesField n name
  match key with
  | [top] => isField ["jobs", "ast_suffix", "ignore", "rules"] top
  | [rules, rule] => Toml.matchesField "rules" rules && reaches [rules, rule]
  | [rules, rule, name] =>
    Toml.matchesField "rules" rules && reaches [rules, rule, name]
        && isField ["severity", "options"] name
      || rules == "rules" && name == "options"
  | rules :: _ :: name :: _ => rules == "rules" && name == "options"
  | [] => false
where
  /-- Only fields of tables are looked at, not those of tables under a double header. -/
  reaches (key : Key) : Bool := root.defines key

def ruleConfig (d : Toml.Document) (name : Text) (t : RuleTable) : Except Error RuleConfig := do
  let off := Text.lower (Text.trim t.severity) == "off"
  let severity ←
    if off then .ok Severity.error
    else match Severity.ofName? t.severity with
      | some s => .ok s
      | none => .error (.severity name t.severity)
  let key : Key := [utf8 "rules", name, utf8 "options"]
  if d.root.defines key then
    match d.info? key, t.options with
    | some ⟨.table, _⟩, some o => return ⟨name, off, severity, ⟨d, key, o⟩⟩
    | info?, _ => .error (.optionsNoTable name ((info?.map (·.kind.name)).getD []))
  else return ⟨name, off, severity, .empty⟩

/-- Reads a configuration; where it comes from is left open. -/
def parse (t : Text) : Except Error Config := do
  let d ← (Toml.Document.read t).mapError .syntaxError
  let raw ← match raw d.root with
    | .ok r => Except.ok r
    | .error m => .error (.mismatch d m)
  let unknown := d.keys.filter fun key => !isKnown d.root key
  if !unknown.isEmpty then .error (.unknownKeys unknown)
  if raw.jobs < 0 then .error (.negativeJobs raw.jobs)
  let named := raw.rules.mergeSort fun a b => a.1.atMost b.1
  let rules ← named.mapM fun (name, table) => ruleConfig d name table
  let start := default []
  return { start with
    jobs := raw.jobs
    treeSuffix := if raw.treeSuffix.isEmpty then start.treeSuffix else raw.treeSuffix
    ignore := if d.root.defines [utf8 "ignore"] then raw.ignore else start.ignore
    rules
    digest := Sha256.digest t }

def ignores (c : Config) (name : Text) : Bool :=
  c.ignore.any fun pattern => Glob.isMatch pattern name

/-! ## Finding the configuration

The configuration of a folder is the file with the configuration's name in that folder
or in the nearest one above it.  Where there is none, the defaults hold. -/

/-- Why no configuration file is found. -/
inductive FindError where
  | notFound
  /-- It cannot be told whether there is one at a path. -/
  | unclear (candidate : Text) (f : Disk.Failure)
  deriving DecidableEq, Repr

def FindError.message : FindError → Text
  | notFound => "no " ++ fileName ++ " found"
  | unclear candidate f => "failed to stat " ++ Quoted.encode candidate ++ ": " ++ f.message

/-- Looks in a folder and in those above it.  A folder is given by the names that lead
to it, the innermost first. -/
def findFrom (d : Disk) (names : List Text) : Except FindError Text :=
  let candidate := Path.append (Path.ofComponents true names.reverse) fileName
  match d.stat candidate with
  | .ok _ => .ok candidate
  | .error f =>
    if f.cause != .notFound then .error (.unclear candidate f)
    else match names with
      | [] => .error .notFound
      | _ :: above => findFrom d above

/-- The folder of a path: the path itself if it leads to one. -/
def folderOf (d : Disk) (path : Text) : Text :=
  let p := Path.absolute d.cwd path
  if d.isFolder p then p else Path.dir p

def find (d : Disk) (start : Text) : Except FindError Text :=
  findFrom d (Path.components (folderOf d start)).reverse

/-- Why a configuration file cannot be used. -/
inductive LoadError where
  | find (e : FindError)
  | read (f : Disk.Failure)
  | invalid (path : Text) (e : Error)

def LoadError.message : LoadError → Text
  | find e => e.message
  | read f => f.message
  | invalid path e => path ++ ": " ++ e.message

def load (d : Disk) (path : Text) : Except LoadError Config := do
  let text ← (d.read path).mapError .read
  let c ← (parse text).mapError (.invalid path)
  let file := Path.absolute d.cwd path
  return { c with path := file, root := Path.dir file }

/-- The configuration that governs a path, or the defaults. -/
def discover (d : Disk) (start : Text) : Except LoadError Config :=
  match find d start with
  | .ok path => load d path
  | .error .notFound => .ok (default (folderOf d start))
  | .error e => .error (.find e)

end Config
end TreeLint
