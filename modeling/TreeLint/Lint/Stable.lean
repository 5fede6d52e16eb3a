import TreeLint.Fix.Splice
import TreeLint.Lint.Linter

/-! # Fixing until nothing is left to fix

In one pass of fixes over a file the first fix of each diagnostic of the file is taken, in
the order of their first edits.  A fix that conflicts with one taken earlier waits for the
next pass.

A text is linted, fixed by one pass and linted again, until a pass applies no fix.  Ten
passes are tried at most. -/

namespace TreeLint.FixPass

inductive Error where
  | unknownFile (id : FileId)
  | splice (path : Text) (e : Edit.SpliceError)
  deriving DecidableEq, Repr

def Error.message : Error → Text
  | unknownFile id => "apply fixes: unknown file " ++ Text.decimal id.toNat
  | splice path e => "apply fixes to " ++ path ++ ": " ++ e.message

/-- The edits of the first fix of a diagnostic of the file, if it resolves and has
any. -/
def editsOf? (id : FileId) (d : Diagnostic) : Option (List Edit) :=
  if d.primary.file != id then none
  else
    match d.fixes with
    | [] => none
    | f :: _ =>
      match f.resolve with
      | .ok f => if f.edits.isEmpty then none else some f.edits
      | .error _ => none

def firstStart (edits : List Edit) : UInt32 :=
  match edits with
  | [] => 0
  | e :: es => es.foldl (fun start e => if e.span.start < start then e.span.start else start)
      e.span.start

/-- The new content of a file after one pass, and the number of fixes applied. -/
def run (files : FileSet) (id : FileId) (ds : List Diagnostic) : Except Error (Text × Nat) :=
  match files.get? id with
  | none => .error (.unknownFile id)
  | some f =>
    let fixes := ds.filterMap (editsOf? id)
    if fixes.isEmpty then .ok (f.content, 0)
    else
      let ordered := fixes.mergeSort fun a b => firstStart a ≤ firstStart b
      let (edits, skipped) := Edit.mergeFixes ordered
      match Edit.splice f.content edits with
      | .error e => .error (.splice f.path e)
      | .ok content => .ok (content, fixes.length - skipped)

end TreeLint.FixPass

namespace TreeLint.Stable

/-- The most passes that are applied. -/
def maxPasses : Nat := 10

abbrev Parser := FileSet → FileId → Except Text Tree

structure Progress where
  output : Text
  passes : Nat
  applied : Nat
  /-- The diagnostics of the output. -/
  diagnostics : List Diagnostic
  deriving Inhabited

def Progress.initial : Progress := ⟨[], 0, 0, []⟩

inductive Error where
  | parse (path : Text) (pass : Nat) (reason : Text)
  | lint (e : LintError)
  | fixes (e : FixPass.Error)
  | notStable (path : Text)
  deriving DecidableEq, Repr

def Error.message : Error → Text
  | parse path pass reason =>
    "parse " ++ path ++ " (pass " ++ Text.decimal pass ++ "): " ++ reason
  | lint e => e.message
  | fixes e => e.message
  | notStable path =>
    path ++ ": fixes did not converge after " ++ Text.decimal maxPasses ++ " passes"

/-- One look at a content: its diagnostics, and its content and number of fixes after
one pass. -/
def look (entries : List Entry) (cwd : Text) (parse : Parser) (path content : Text)
    (pass : Nat) : Except Error (List Diagnostic × Except FixPass.Error (Text × Nat)) := do
  let (files, id) := (FileSet.empty "/" []).addInMemory path content
  let tree ← match parse files id with
    | .ok t => Except.ok t
    | .error reason => .error (.parse path pass reason)
  match lint entries cwd false files (some tree) with
  | .error e => .error (.lint e)
  | .ok ds => return (ds, FixPass.run files id ds)

/-- Goes on from a content with at most `left` more passes. -/
def continueFrom (entries : List Entry) (cwd : Text) (parse : Parser) (path : Text) :
    (left : Nat) → (content : Text) → Progress → Progress × Option Error
  | left, content, p =>
    match look entries cwd parse path content p.passes with
    | .error e => (p, some e)
    | .ok (ds, outcome) =>
      let p := { p with output := content, diagnostics := ds }
      match outcome with
      | .error e => (p, some (.fixes e))
      | .ok (next, applied) =>
        if applied == 0 then (p, none)
        else
          match left with
          | 0 => (p, some (.notStable path))
          | left + 1 =>
            continueFrom entries cwd parse path left next
              { p with passes := p.passes + 1, applied := p.applied + applied }

/-- Fixes a text until it is stable, or says why it does not get there. -/
def run (entries : List Entry) (cwd : Text) (parse : Parser) (path content : Text) :
    Progress × Option Error :=
  continueFrom entries cwd parse path maxPasses content .initial

end TreeLint.Stable
