import TreeLint.Diagnostic.Basic
import TreeLint.Rule.Options
import TreeLint.Source.File
import TreeLint.Tree.Walk

/-! # Rules

A rule looks at one file at a time.  It is set up with the file and its options, and
is then told of every step of one walk over the tree.  What it has to remember between
steps are names, which it is handed back at the next step. -/

namespace TreeLint

inductive RuleType where
  | problem | suggestion
  deriving DecidableEq, Repr, Inhabited

def RuleType.name : RuleType → Text
  | problem => "problem"
  | suggestion => "suggestion"

/-- What a rule sees of the file. -/
structure Context where
  tree : Tree
  file : File
  cwd : Text
  options : Options
  deriving Inhabited

namespace Context

/-- The path of the file as seen from the working directory, if there is one. -/
def absolutePath (c : Context) : Text :=
  if Path.isAbsolute c.file.path || c.cwd.isEmpty then Path.clean c.file.path
  else Path.append c.cwd c.file.path

/-- The directory of the file as seen from the working directory. -/
def absoluteDir (c : Context) : Text := Path.dir c.absolutePath

def dir (c : Context) : Text := Path.dir c.file.path

def text (c : Context) (r : Ref) : Text := c.file.text (c.tree.span r)

end Context

/-- A violation a rule has found.  The message is the rule's template for the id,
filled with the data. -/
structure Finding where
  span : Span
  messageId : Text
  data : Template.Data
  fix : Option Fix
  deriving Repr, Inhabited

/-- A tree that a rule cannot cope with. -/
inductive Fault where
  /-- A list of exported names holds something that is no export specifier. -/
  | noExportSpecifier (statement : Ref)
  deriving DecidableEq, Repr

/-- The names a rule remembers while a file is walked. -/
abbrev Memory := List Text

/-- A rule that is set up for a file. -/
structure Visitor where
  /-- What the rule finds at a step, and what it remembers from then on. -/
  step : Memory → Visit → Except Fault (Memory × List Finding)

namespace Visitor

/-- A visitor that looks at nodes of one kind when they are entered, and remembers
nothing. -/
def onEnter (t : Tree) (k : Kind) (find : NodeId → Except Fault (List Finding)) : Visitor where
  step memory
    | .enter id =>
      if t.hasKind (some id) k then (find id).map (memory, ·) else .ok (memory, [])
    | .leave _ => .ok (memory, [])

end Visitor

structure Rule where
  name : Text
  description : Text
  type : RuleType
  /-- Some of its findings come with a fix. -/
  fixable : Bool
  /-- It runs where no configuration names any rule. -/
  recommended : Bool
  /-- Message templates by message id. -/
  messages : List (Text × Text)
  /-- Sets the rule up for a file, or says what is wrong with its options. -/
  create : Context → Except Text Visitor

namespace Rule

def messageIds (r : Rule) : List Text := Text.sorted (r.messages.map (·.1))

/-- The diagnostic of a finding.  An unknown message id is shown as it is. -/
def diagnostic (r : Rule) (severity : Severity) (f : Finding) : Diagnostic :=
  let template := (r.messages.lookup f.messageId).getD f.messageId
  { Diagnostic.new severity r.name f.messageId f.span (Template.fill f.data template) with
    data := f.data
    fixes := f.fix.toList }

end Rule
end TreeLint
