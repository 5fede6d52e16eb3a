import TreeLint.Fix.Apply

/-! # The report on applied fixes

Tells which fixes were applied, which files they changed, and which fixes were
skipped. -/

namespace TreeLint.Report.Fixes

/-- Why a pass over fixes failed. -/
inductive PassError where
  /-- There was nothing to apply. -/
  | noFixes (message : Text)
  | other (message : Text)
  deriving DecidableEq, Repr

def PassError.message : PassError → Text
  | noFixes message => message
  | other message => message

def PassError.ofApply : Fix.ApplyError → PassError
  | .noFixes => noFixes Fix.ApplyError.noFixes.message
  | e => other e.message

structure ChangedFile where
  path : Text
  edits : Nat
  content : Text
  deriving DecidableEq, Repr

def ChangedFile.ofChange (dryRun : Bool) (c : Fix.Change) : ChangedFile :=
  ⟨c.path, c.edits, c.reported dryRun⟩

def appliedLine (a : Fix.Applied) : Text :=
  "  " ++ a.title ++ " [" ++ a.id ++ "] " ++ a.code ++ ": "
    ++ (if a.path.isEmpty then utf8 "(unknown location)" else a.path)
    ++ " (" ++ Text.decimal a.edits ++ " edits, " ++ a.applicability.name ++ ")\n"

def changedLine (c : ChangedFile) : Text :=
  "  " ++ c.path ++ " (" ++ Text.decimal c.edits ++ " edits)\n"

def skippedLine (s : Fix.Skipped) : Text :=
  let id := if s.id.isEmpty then utf8 "(unnamed)" else s.id
  (if s.title.isEmpty then utf8 "  [" else utf8 "  " ++ s.title ++ " [") ++ id ++ "]: " ++ s.reason
    ++ "\n"

def block (heading : Text) (lines : List Text) : Text :=
  if lines.isEmpty then [] else heading ++ "\n" ++ lines.flatten

/-- The report on a pass, and the error that is left over.  That there was nothing to
apply is told in the report and is no error. -/
def render (applied : List Fix.Applied) (changes : List ChangedFile)
    (skipped : List Fix.Skipped) (error? : Option PassError) : Text × Option Text :=
  let body :=
    block ("Applied " ++ Text.decimal applied.length ++ " fix(es):") (applied.map appliedLine)
      ++ block "Updated files:" (changes.map changedLine)
      ++ block "Skipped fixes:" (skipped.map skippedLine)
  match error? with
  | some (.noFixes message) =>
    if applied.isEmpty then (body ++ "No applicable fixes found.\n", none)
    else (body, some message)
  | some (.other message) => (body, some message)
  | none => (if applied.isEmpty then body ++ "No fixes applied.\n" else body, none)

/-- The new contents of changed files, each under its path. -/
def contents (changes : List ChangedFile) : Text :=
  changes.flatMap fun c =>
    "--- " ++ c.path ++ "\n" ++ c.content
      ++ (if c.content.isEmpty || c.content.getLast? == some 10 then [] else utf8 "\n")

end TreeLint.Report.Fixes
