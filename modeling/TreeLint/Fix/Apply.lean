import TreeLint.Diagnostic.Basic
import TreeLint.Disk
import TreeLint.Fix.Splice
import TreeLint.Source.FileSet

/-! # Applying the fixes of diagnostics

One pass resolves all fixes, chooses some, and accepts them one by one: a fix that
conflicts with one accepted before, or does not fit its files, is skipped.  All edits
refer to the files as they are, so the accepted edits of a file are applied at once. -/

namespace TreeLint.Fix

/-- Which fixes a pass takes. -/
inductive Mode where
  /-- The first fix that is always safe, or else the first of all. -/
  | once
  /-- Every fix that is always safe. -/
  | all
  /-- The fix with an id. -/
  | byId (id : Text)
  | nothing
  deriving DecidableEq, Repr, Inhabited

inductive SkipReason where
  | failedToBuild (errors : List ResolveError)
  | noEdits
  | duplicateId
  | idNotFound
  | requiresAll
  | applicability (a : Applicability)
  | overlap (a b : Span)
  | unknownFile
  | fileInMemory
  | outOfRange
  | guardMismatch
  | conflict (path : Text)
  deriving DecidableEq, Repr

def SkipReason.message : SkipReason → Text
  | failedToBuild errors =>
    "failed to build fixes: " ++ Text.join "\n" (errors.map ResolveError.message)
  | noEdits => "fix has no edits"
  | duplicateId => "duplicate fix id"
  | idNotFound => "fix id not found"
  | requiresAll => "fix requires all fixes to be applied"
  | applicability a => "applicability is " ++ a.name
  | overlap a b => Edit.overlapMessage a b
  | unknownFile => "target file is unknown"
  | fileInMemory => "target file is virtual"
  | outOfRange => "edit span out of range"
  | guardMismatch => "existing text does not match expected content"
  | conflict path => "conflicts with previously applied edits in " ++ path

structure Skipped where
  id : Text
  title : Text
  reason : Text
  deriving DecidableEq, Repr

structure Applied where
  id : Text
  title : Text
  code : Text
  message : Text
  applicability : Applicability
  path : Text
  edits : Nat
  deriving DecidableEq, Repr

/-- What becomes of a file: the path as it is shown, the number of edits, and the new
content without a byte order mark. -/
structure Change where
  file : File
  path : Text
  edits : Nat
  content : Text
  deriving Repr

/-- The content that a pass reports.  Only a dry run tells it; otherwise it is on disk. -/
def Change.reported (dryRun : Bool) (c : Change) : Text := if dryRun then c.content else []

inductive ApplyError where
  | noFileSet
  | noFixes
  | splice (path : Text) (e : Edit.SpliceError)
  deriving DecidableEq, Repr

def ApplyError.message : ApplyError → Text
  | noFileSet => "fix: nil file set"
  | noFixes => "no applicable fixes found"
  | splice path e => path ++ ": " ++ e.message

structure Outcome where
  applied : List Applied
  skipped : List Skipped
  changes : List Change
  error? : Option ApplyError
  deriving Repr

def skip (f : Fix) (reason : SkipReason) : Skipped := ⟨f.id, f.title, reason.message⟩

/-! ## Candidates -/

/-- A resolved fix and its diagnostic. -/
structure Candidate where
  diagnostic : Diagnostic
  fix : Fix

/-- The id given to a fix without one: the code, file and start of its diagnostic and
its place among that diagnostic's fixes. -/
def derivedId (d : Diagnostic) (n : Nat) : Text :=
  d.code ++ "-" ++ Text.decimal d.primary.file.toNat ++ "-"
    ++ Text.decimal d.primary.start.toNat ++ "-" ++ Text.decimal n

def named (d : Diagnostic) (fn : Fix × Nat) : Fix :=
  if fn.1.id.isEmpty then { fn.1 with id := derivedId d fn.2 } else fn.1

/-- What has been collected so far. -/
structure Collected where
  candidates : List Candidate
  skipped : List Skipped
  seen : List Text

def collectFix (d : Diagnostic) (c : Collected) (fn : Fix × Nat) : Collected :=
  let f := named d fn
  if f.edits.isEmpty then { c with skipped := c.skipped ++ [skip f .noEdits] }
  else if c.seen.contains f.id then { c with skipped := c.skipped ++ [skip f .duplicateId] }
  else
    { c with seen := f.id :: c.seen, candidates := c.candidates ++ [⟨d, f⟩] }

def collectFrom (c : Collected) (d : Diagnostic) : Collected :=
  let (resolved, errors) := resolveAll d.fixes
  let c :=
    if errors.isEmpty then c
    else { c with
      skipped := c.skipped ++ [⟨[], d.message, (SkipReason.failedToBuild errors).message⟩] }
  resolved.zipIdx.foldl (collectFix d) c

def collect (ds : List Diagnostic) : Collected := ds.foldl collectFrom ⟨[], [], []⟩

def Candidate.atMost (a b : Candidate) : Bool :=
  let s := a.diagnostic.primary
  let t := b.diagnostic.primary
  if s.file != t.file then s.file < t.file
  else if s.start != t.start then s.start < t.start
  else s.stop ≤ t.stop

def Candidate.isSafe (c : Candidate) : Bool := c.fix.applicability == .alwaysSafe

/-- The first safe fix, or else the first; those that need all others are skipped on
the way. -/
def chooseOnce (fallback : Option Candidate) : List Candidate → List Candidate × List Skipped
  | [] => (fallback.toList, [])
  | c :: cs =>
    if c.fix.requiresAll then
      let (chosen, skipped) := chooseOnce fallback cs
      (chosen, skip c.fix .requiresAll :: skipped)
    else if c.isSafe then ([c], [])
    else chooseOnce (fallback <|> some c) cs

def choose (mode : Mode) (cs : List Candidate) : List Candidate × List Skipped :=
  match mode with
  | .byId id =>
    match cs.find? fun c => c.fix.id == id with
    | none => ([], [⟨id, [], SkipReason.idNotFound.message⟩])
    | some c =>
      if c.fix.requiresAll then ([], [⟨id, [], SkipReason.requiresAll.message⟩]) else ([c], [])
  | .all =>
    (cs.filter Candidate.isSafe, (cs.filter fun c => !c.isSafe).map fun c =>
      skip c.fix (.applicability c.fix.applicability))
  | .once => chooseOnce none cs
  | .nothing => ([], [])

/-! ## Accepting -/

/-- The edits accepted so far, by file, in the order the files were first touched. -/
abbrev Pending := List (FileId × List Edit)

def Pending.edits (p : Pending) (file : FileId) : List Edit := (p.lookup file).getD []

def Pending.insert (p : Pending) (e : Edit) : Pending :=
  if p.any (·.1 == e.span.file) then
    p.map fun (file, edits) =>
      if file == e.span.file then (file, edits ++ [e]) else (file, edits)
  else p ++ [(e.span.file, [e])]

def editProblem? (files : FileSet) (dryRun : Bool) (pending : Pending) (e : Edit) :
    Option SkipReason :=
  match files.get? e.span.file with
  | none => some .unknownFile
  | some f =>
    if f.flags.inMemory && !dryRun then some .fileInMemory
    else if e.span.stop < e.span.start || f.content.length < e.span.stop.toNat then
      some .outOfRange
    else if !e.oldText.isEmpty && f.text e.span != e.oldText then some .guardMismatch
    else if Edit.conflicts (pending.edits e.span.file) e then
      some (.conflict (Path.display files.cwd .auto f.path []))
    else none

/-- Why a fix cannot be accepted. -/
def problem? (files : FileSet) (dryRun : Bool) (pending : Pending) (f : Fix) :
    Option SkipReason :=
  match Edit.overlap? f.edits with
  | some (a, b) => some (.overlap a b)
  | none => f.edits.findSome? (editProblem? files dryRun pending)

def shownPath (files : FileSet) (id : FileId) : Text :=
  match files.get? id with
  | some f => Path.display files.cwd .auto f.path files.baseDir
  | none => []

/-- What accepting has led to so far. -/
structure Progress where
  pending : Pending
  applied : List Applied
  skipped : List Skipped

def Candidate.record (files : FileSet) (c : Candidate) : Applied :=
  ⟨c.fix.id, c.fix.title, c.diagnostic.code, c.diagnostic.message, c.fix.applicability,
    shownPath files c.diagnostic.primary.file, c.fix.edits.length⟩

def acceptOne (files : FileSet) (dryRun : Bool) (p : Progress) (c : Candidate) : Progress :=
  match problem? files dryRun p.pending c.fix with
  | some reason => { p with skipped := p.skipped ++ [skip c.fix reason] }
  | none =>
    { p with
      pending := c.fix.edits.foldl Pending.insert p.pending
      applied := p.applied ++ [c.record files] }

/-- The change of a file that its accepted edits make. -/
def change (files : FileSet) (entry : FileId × List Edit) : Except ApplyError (List Change) :=
  match files.get? entry.1 with
  | none => .ok []
  | some f =>
    match Edit.splice f.content entry.2 with
    | .error e => .error (.splice f.path e)
    | .ok content =>
      .ok [⟨f, Path.display files.cwd .relative f.path files.baseDir, entry.2.length, content⟩]

def changesOf (files : FileSet) : Pending → List Change × Option ApplyError
  | [] => ([], none)
  | entry :: rest =>
    match change files entry with
    | .error e => ([], some e)
    | .ok cs =>
      let (more, error?) := changesOf files rest
      (cs ++ more, error?)

/-- One pass over the fixes of some diagnostics.  A dry run also takes files that are
not on disk. -/
def applyAll (files : FileSet) (ds : List Diagnostic) (mode : Mode) (dryRun : Bool) : Outcome :=
  let collected := collect ds
  if collected.candidates.isEmpty then ⟨[], collected.skipped, [], some .noFixes⟩
  else
    let (chosen, notChosen) := choose mode (collected.candidates.mergeSort Candidate.atMost)
    let p := chosen.foldl (acceptOne files dryRun) ⟨[], [], collected.skipped ++ notChosen⟩
    if p.applied.isEmpty then ⟨[], p.skipped, [], some .noFixes⟩
    else
      match changesOf files p.pending with
      | (changes, some e) => ⟨p.applied, p.skipped, changes, some e⟩
      | (changes, none) =>
        ⟨p.applied, p.skipped, changes.mergeSort fun a b => a.path.atMost b.path, none⟩

/-- One pass over the fixes of some diagnostics of a file set, if there is one. -/
def apply (files? : Option FileSet) (ds : List Diagnostic) (mode : Mode) (dryRun : Bool) :
    Outcome :=
  match files? with
  | none => ⟨[], [], [], some .noFileSet⟩
  | some files => applyAll files ds mode dryRun

/-- The bytes a change writes to disk: the byte order mark that was taken off on
loading is put back. -/
def Change.bytes (c : Change) : Text :=
  if c.file.flags.hadMark then File.withMark c.content else c.content

/-! ## Writing fixed files -/

/-- Writes the new content of a file over the old one. -/
def Change.save (d : Disk) (c : Change) : Except Disk.Failure Disk := d.write c.file.path c.bytes

/-- Writes changes one after the other, up to the first that cannot be written. -/
def saveAll (d : Disk) : List Change → Disk × Option Disk.Failure
  | [] => (d, none)
  | c :: cs =>
    match c.save d with
    | .ok d => saveAll d cs
    | .error f => (d, some f)

end TreeLint.Fix
