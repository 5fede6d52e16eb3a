import TreeLint.Document.Decode
import TreeLint.Lint.Linter
import TreeLint.Run.Cache
import TreeLint.Run.Progress
import TreeLint.Run.Timer

/-! # Linting files

A run loads all sources first, then reads the syntax tree of each and lints it, and at
last merges what was found.  A file that cannot be read, or whose tree is missing or
malformed, is reported by a diagnostic; only a linter that fails ends the run. -/

namespace TreeLint.Run

structure Settings where
  entries : List Entry
  /-- The directory rules see as the working directory, and shown paths are relative to. -/
  cwd : Text
  /-- What is appended to the path of a source to find its tree; empty for the usual. -/
  treeSuffix : Text
  /-- The most diagnostics of the merged result; zero or less for no limit. -/
  limit : Int
  /-- The digest of the configuration. -/
  config : Text

def Settings.treePath (s : Settings) (path : Text) : Text :=
  path ++ if s.treeSuffix.isEmpty then (Config.default []).treeSuffix else s.treeSuffix

structure FileResult where
  path : Text
  file : FileId
  /-- The diagnostics were found in the cache. -/
  cached : Bool
  diagnostics : List Diagnostic
  deriving Inhabited

inductive Error where
  | cancelled
  /-- A file cannot be linted. -/
  | lint (path : Text) (e : LintError)
  /-- The document of a tree cannot even be looked at to the end. -/
  | document (path : Text) (e : Document.Error)

def Error.message : Error → Text
  | cancelled => LintError.cancelled.message
  | lint path e => path ++ ": " ++ e.message
  | document path e => path ++ ": " ++ e.message

/-! ## One file -/

/-- What comes of a file: its diagnostics, whether they were found in the cache, the
events on the way, the phases that were charged, and what the cache is to keep. -/
structure Outcome where
  diagnostics : List Diagnostic
  cached : Bool
  events : List Event
  phases : List Text
  keeps : Option (CacheInput × Payload)

/-- A diagnostic of the run itself, at the start of a file. -/
def trouble (file : FileId) (messageId message : Text) : Diagnostic :=
  .new .error [] messageId ⟨file, 0, 0⟩ message

def cached? (cache : Option Cache) (input : CacheInput) : Option Payload :=
  match cache.bind (·.get? input.key) with
  | some (.hit p) => some p
  | _ => none

/-- The cache with what it is to keep; what cannot be added is let go. -/
def keep (cache : Option Cache) (keeps : Option (CacheInput × Payload)) : Option Cache :=
  match keeps with
  | some (input, p) => cache.map fun c => (c.put input.key p).toOption.getD c
  | none => cache

/-- Lints a loaded file from its tree document.  The cache is only looked at here; what it
is to keep is part of the outcome. -/
def lintDocument (s : Settings) (files : FileSet) (cache : Option Cache) (path : Text)
    (f : File) (document : Text) : Except Error Outcome :=
  let input := CacheInput.ofFile f document s.cwd s.config s.entries
  match cached? cache input with
  | some p => .ok ⟨p.diagnosticsIn f.id, true, [], [], none⟩
  | none =>
    match Document.decode files f.id document with
    | .error (.invalid p .incomparable) => .error (.document path (.invalid p .incomparable))
    | .error e =>
      let message := "invalid syntax tree " ++ s.treePath path ++ ": " ++ e.message
      .ok ⟨[trouble f.id "invalidTree" message], false, [], [utf8 "decode"], none⟩
    | .ok tree =>
      match TreeLint.lint s.entries s.cwd false files (some tree) with
      | .error e => .error (.lint path e)
      | .ok ds =>
        .ok ⟨ds, false, [⟨path, .lint, .working⟩], [utf8 "decode", utf8 "lint"],
          some (input, .ofDiagnostics f.path ds)⟩

def lintFile (s : Settings) (disk : Disk) (files : FileSet) (cache : Option Cache)
    (path : Text) (f : File) : Except Error Outcome :=
  let problem (messageId message : Text) : Outcome :=
    ⟨[trouble f.id messageId message], false, [], [], none⟩
  match disk.read (s.treePath path) with
  | .ok document => lintDocument s files cache path f document
  | .error e =>
    if e.cause == .notFound then
      .ok (problem "missingTree" ("no syntax tree found at " ++ s.treePath path))
    else .ok (problem "ioError" ("failed to read syntax tree: " ++ e.message))

/-! ## All files -/

/-- A source as it was loaded: its path, its number, and why it could not be read. -/
structure Loaded where
  path : Text
  file : FileId
  failure? : Option Disk.Failure

/-- Loads sources into a file set.  One that cannot be read has no content. -/
def loadAll (disk : Disk) : FileSet → List Text → FileSet × List Loaded
  | files, [] => (files, [])
  | files, path :: paths =>
    let ((files, id), failure?) := match disk.read path with
      | .ok bytes => (files.load path bytes, none)
      | .error e => (files.addInMemory path [], some e)
    let (files, loaded) := loadAll disk files paths
    (files, ⟨path, id, failure?⟩ :: loaded)

/-- What linting one source gives, whether or not it could be loaded. -/
def lintLoaded (s : Settings) (disk : Disk) (files : FileSet) (cache : Option Cache)
    (source : Loaded) : Except Error Outcome :=
  match source.failure?, files.get? source.file with
  | some e, _ =>
    .ok ⟨[trouble source.file "ioError" ("failed to read file: " ++ e.message)], false,
      [⟨source.path, .load, .failed⟩], [], none⟩
  | none, none => .error (.lint source.path (.unknownFile source.file))
  | none, some f =>
    (lintFile s disk files cache source.path f).map fun o =>
      { o with
        events := ⟨source.path, .decode, .working⟩ :: o.events
          ++ [⟨source.path, .lint, if o.cached then .cached else .done⟩] }

/-- Lints sources one after the other, each with the cache the one before has left. -/
def lintAll (s : Settings) (disk : Disk) (files : FileSet) :
    Option Cache → List Loaded → Except Error (List (Loaded × Outcome) × Option Cache)
  | cache, [] => .ok ([], cache)
  | cache, source :: sources => do
    let o ← lintLoaded s disk files cache source
    let (rest, cache) ← lintAll s disk files (keep cache o.keeps) sources
    return ((source, o) :: rest, cache)

/-- Diagnostics merged into a bag with a limit, and how many did not fit. -/
def merge (limit : Int) (ds : List Diagnostic) : Bag × Nat :=
  (sortDiagnostics ds).foldl (fun (bag, dropped) d =>
    match bag.add? d with
    | some bag => (bag, dropped)
    | none => (bag, dropped + 1)) (Bag.new limit, 0)

structure Result where
  files : FileSet
  results : List FileResult
  bag : Bag
  /-- How many diagnostics did not fit under the limit. -/
  dropped : Nat
  /-- How many results were found in the cache. -/
  hits : Nat
  events : List Event
  timer : Timer
  cache : Option Cache

def Result.hasErrors (r : Result) : Bool := r.bag.hasErrors

/-- The phases of a run and how often each was gone through.  No time is charged: that
is known only to who runs it. -/
def timing (sources : Nat) (phases : List Text) : Timer :=
  let (t, n) := Timer.empty.begin "load" 0
  let t := t.finish n (Text.decimal sources ++ " files") 0
  let t := phases.foldl (fun t name => t.add name 0) t
  let (t, n) := t.begin "merge" 0
  t.finish n [] 0

def assemble (s : Settings) (files : FileSet) (paths : List Text)
    (outcomes : List (Loaded × Outcome)) (cache : Option Cache) : Result :=
  let results := outcomes.map fun (l, o) => FileResult.mk l.path l.file o.cached o.diagnostics
  let (bag, dropped) := merge s.limit (results.flatMap (·.diagnostics))
  { files
    results
    bag
    dropped
    hits := results.countP (·.cached)
    events := paths.map (⟨·, .load, .queued⟩) ++ outcomes.flatMap (·.2.events)
    timer := timing paths.length (outcomes.flatMap (·.2.phases))
    cache }

def lint (s : Settings) (disk : Disk) (cache : Option Cache) (cancelled : Bool)
    (paths : List Text) : Except Error Result := do
  let (files, loaded) := loadAll disk (FileSet.empty disk.cwd s.cwd) paths
  if cancelled && !paths.isEmpty then .error .cancelled
  let (outcomes, cache) ← lintAll s disk files cache loaded
  return assemble s files paths outcomes cache

end TreeLint.Run
