import TreeLint.Rule.Registry
import TreeLint.Source.FileSet

/-! # Linting a tree

All rules of a run are told of each step of one walk over the tree, in the order of
their entries.  A rule that cannot be set up is reported and left out. -/

namespace TreeLint

inductive LintError where
  | cancelled
  | noTree
  | unknownFile (id : FileId)
  /-- A rule cannot cope with the tree. -/
  | fault (f : Fault)
  deriving DecidableEq, Repr

def LintError.message : LintError → Text
  | cancelled => "context canceled"
  | noTree => "lint: nil tree"
  | unknownFile id => "lint: unknown file " ++ Text.decimal id.toNat
  | fault _ => "lint: malformed export list"

/-- A rule set up for a file, with what it remembers. -/
structure Running where
  entry : Entry
  visitor : Visitor
  memory : Memory

namespace Running

def step (r : Running) (v : Visit) : Except Fault (Running × List Diagnostic) := do
  let (memory, found) ← r.visitor.step r.memory v
  return ({ r with memory }, found.map (r.entry.rule.diagnostic r.entry.severity))

def stepAll (v : Visit) : List Running → Except Fault (List Running × List Diagnostic)
  | [] => .ok ([], [])
  | r :: rs => do
    let (r, found) ← r.step v
    let (rs, more) ← stepAll v rs
    return (r :: rs, found ++ more)

def walk : List Running → List Visit → Except Fault (List Diagnostic)
  | _, [] => .ok []
  | rs, v :: vs => do
    let (rs, found) ← stepAll v rs
    return found ++ (← walk rs vs)

end Running

namespace Entry

/-- Sets a rule up for a file, or reports that it cannot be. -/
def start (tree : Tree) (file : File) (cwd : Text) (e : Entry) : Except Diagnostic Running :=
  match e.rule.create ⟨tree, file, cwd, e.options⟩ with
  | .ok visitor => .ok ⟨e, visitor, []⟩
  | .error reason =>
    .error (.new .error e.rule.name "configError" (tree.span tree.root).startPoint
      ("invalid configuration for " ++ e.rule.name ++ ": " ++ reason))

def started (tree : Tree) (file : File) (cwd : Text) (entries : List Entry) : List Running :=
  entries.filterMap fun e => (e.start tree file cwd).toOption

def rejected (tree : Tree) (file : File) (cwd : Text) (entries : List Entry) :
    List Diagnostic :=
  entries.filterMap fun e =>
    match e.start tree file cwd with
    | .error d => some d
    | .ok _ => none

end Entry

def sortDiagnostics (ds : List Diagnostic) : List Diagnostic :=
  ds.mergeSort Diagnostic.atMost

def lintFile (entries : List Entry) (cwd : Text) (tree : Tree) (file : File) :
    Except LintError (List Diagnostic) :=
  match Running.walk (Entry.started tree file cwd entries)
      (tree.visits (fun _ => false) tree.root) with
  | .ok found => .ok (sortDiagnostics (Entry.rejected tree file cwd entries ++ found))
  | .error f => .error (.fault f)

/-- Lints a tree of a file set.  Nothing is done in a cancelled run. -/
def lint (entries : List Entry) (cwd : Text) (cancelled : Bool) (files : FileSet)
    (tree? : Option Tree) : Except LintError (List Diagnostic) :=
  if cancelled then .error .cancelled
  else
    match tree? with
    | none => .error .noTree
    | some tree =>
      match files.get? tree.file with
      | none => .error (.unknownFile tree.file)
      | some file => lintFile entries cwd tree file

end TreeLint
