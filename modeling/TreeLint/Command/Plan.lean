import TreeLint.Command.Settings
import TreeLint.Config
import TreeLint.Run.Discover
import TreeLint.Run.Lint

/-! # Planning a run

From what a command is asked to do to the files, the rules and the cache of a run. -/

namespace TreeLint.Command

/-- A run that is ready to start. -/
structure Plan where
  files : List Text
  settings : Run.Settings
  cache : Option Cache
  /-- The disk, with the folder of the cache made. -/
  disk : Disk

/-- The configuration of a run: the one that is named, or the one that governs the first
target. -/
def configOf (disk : Disk) (fs : Flags) (targets : List Text) : Except Config.LoadError Config :=
  let path := fs.text "config"
  if path.isEmpty then Config.discover disk (targets.head?.getD ".") else Config.load disk path

/-- Plans a run.  A cache that cannot be opened is done without. -/
def Plan.make (env : Environment) (disk : Disk) (fs : Flags) (s : LintSettings) :
    Except Text Plan := do
  let config ← (configOf disk fs s.targets).mapError Config.LoadError.message
  let files ← (discover disk (some config) s.targets).mapError DiscoverError.message
  let entries ← Entry.resolve (some config) s.only
  let cache :=
    if s.useCache then (Cache.openAt disk (Path.append env.cacheHome programName)).toOption
    else none
  return {
    files
    settings := {
      entries
      cwd := disk.cwd
      treeSuffix := if s.treeSuffix.isEmpty then config.treeSuffix else s.treeSuffix
      limit := s.limit
      config := config.digest }
    cache
    disk := (cache.map Cache.disk).getD disk }

def Plan.run (p : Plan) : Except Run.Error Run.Result :=
  Run.lint p.settings p.disk p.cache false p.files

def Plan.diskAfter (p : Plan) (r : Run.Result) : Disk := (r.cache.map Cache.disk).getD p.disk

/-! ## Traces of a run -/

/-- Traces the planning of a run; only a plan that came about has numbers to show. -/
def tracePlan (t : Trace.Tracer) (now : Trace.Moment) (plan? : Option Plan) : Trace.Tracer :=
  let (t, span) := t.begin .driver "plan" 0 now 1
  let t := match plan? with
    | some p =>
      (t.attach span "files" (Text.decimal p.files.length)).attach span "rules"
        (Text.decimal p.settings.entries.length)
    | none => t
  t.finish span [] now 1

/-- Traces a run: a span for the whole, and one for each file. -/
def traceRun (t : Trace.Tracer) (now : Trace.Moment) (r : Run.Result) : Trace.Tracer :=
  let (t, whole) := t.begin .driver "lint" 0 now 1
  let t := r.results.foldl (fun t f =>
    let (t, span) := t.begin .file ("file:" ++ f.path) whole.number now 1
    let t := if f.cached then t.attach span "cache" "hit" else t
    t.finish span [] now 1) t
  let t := t.attach whole "files" (Text.decimal r.results.length)
  let t := t.attach whole "cached" (Text.decimal r.hits)
  t.finish whole [] now 1

def timings (fs : Flags) (r : Run.Result) : Except Text Text :=
  (timingsFormat fs).map fun
    | none => []
    | some asJson =>
      let files := r.results.length
      if asJson then r.timer.json files r.hits else r.timer.summary files r.hits

end TreeLint.Command
