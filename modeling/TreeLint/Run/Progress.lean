import TreeLint.Text

/-! # Progress of a run

While a run goes on it tells what becomes of each file. -/

namespace TreeLint.Run

/-- What is being done with a file. -/
inductive Stage where
  | load | decode | lint
  deriving DecidableEq, Repr, Inhabited

def Stage.name : Stage → Text
  | load => "load"
  | decode => "decode"
  | lint => "lint"

def Stage.ofName? (name : Text) : Option Stage :=
  [load, decode, lint].find? fun s => s.name == name

inductive Status where
  /-- Waiting for its turn. -/
  | queued
  | working
  | done
  /-- The result was found in the cache. -/
  | cached
  | failed
  deriving DecidableEq, Repr, Inhabited

def Status.name : Status → Text
  | queued => "queued"
  | working => "working"
  | done => "done"
  | cached => "cached"
  | failed => "error"

def Status.ofName? (name : Text) : Option Status :=
  [queued, working, done, cached, failed].find? fun s => s.name == name

/-- One step of a file, or of the whole run where the file is empty. -/
structure Event where
  file : Text
  stage : Stage
  status : Status
  deriving DecidableEq, Repr, Inhabited

def Event.hasError (e : Event) : Bool := e.status == .failed

end TreeLint.Run
