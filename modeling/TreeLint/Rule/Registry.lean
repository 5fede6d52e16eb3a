import TreeLint.Config
import TreeLint.Rule.EventProperty
import TreeLint.Rule.ExportInline
import TreeLint.Rule.ImportStyle
import TreeLint.Rule.ParamTypes
import TreeLint.Rule.ReturnAwait
import TreeLint.Rule.UnboundedConcurrency

/-! # The rules there are

Rules are known by name.  A configuration picks some of them, gives each a severity
and options, and so makes the entries of a lint run. -/

namespace TreeLint

namespace Rule

def all : List Rule := [
  exportInline, importStyle, paramTypes, requireItlyConstant, requireItlyEventSource,
  returnAwait, sequelizeComment, unboundedConcurrency]

def find? (name : Text) : Option Rule := all.find? (·.name == name)

def unknown (name : Text) : Text := "rules: unknown rule: " ++ name

end Rule

/-- A rule that runs, with its severity and options. -/
structure Entry where
  rule : Rule
  severity : Severity
  options : Options

namespace Entry

def recommended : List Entry :=
  (Rule.all.filter (·.recommended)).map fun r => ⟨r, .error, .empty⟩

/-- The entry of a rule picked by name, as the configuration has it. -/
def picked (configured : List RuleConfig) (name : Text) : Except Text Entry :=
  match Rule.find? name with
  | none => .error (Rule.unknown name)
  | some r =>
    match configured.find? (·.name == name) with
    | some c => .ok ⟨r, c.severity, c.options⟩
    | none => .ok ⟨r, .error, .empty⟩

def configured (file : Text) (c : RuleConfig) : Except Text Entry :=
  match Rule.find? c.name with
  | some r => .ok ⟨r, c.severity, c.options⟩
  | none => .error (file ++ ": " ++ Rule.unknown c.name)

/-- The entries of a run.  Rules that are picked by name run even if they are turned
off; otherwise the configured rules run that are not, or the recommended ones where
none is configured. -/
def resolve (config? : Option Config) (only : List Text) : Except Text (List Entry) :=
  let rules := (config?.map Config.rules).getD []
  let file := match config? with
    | some c => if c.path.isEmpty then Config.fileName else c.path
    | none => Config.fileName
  if !only.isEmpty then (distinct [] only).mapM (picked rules)
  else if rules.isEmpty then .ok recommended
  else (rules.filter (!·.off)).mapM (configured file)
where
  /-- The first occurrences in a list. -/
  distinct (seen : List Text) : List Text → List Text
    | [] => []
    | n :: ns => if seen.contains n then distinct seen ns else n :: distinct (n :: seen) ns

end Entry
end TreeLint
