import TreeLint.Text.Fold
import TreeLint.Text.Quoted
import TreeLint.Trace.Event

/-! # What is traced, and where it goes -/

namespace TreeLint.Trace

inductive Level where
  | off
  /-- Nothing is written, but events of files are kept in memory for a failure. -/
  | error
  | phase
  | file
  | debug
  | unknown (code : UInt8)
  deriving DecidableEq, Repr, Inhabited

namespace Level

def ofCode (code : UInt8) : Level :=
  match code with
  | 0 => off
  | 1 => error
  | 2 => phase
  | 3 => file
  | 4 => debug
  | _ => unknown code

def code : Level → UInt8
  | off => 0
  | error => 1
  | phase => 2
  | file => 3
  | debug => 4
  | unknown code => code

def name : Level → Text
  | off => "off"
  | error => "error"
  | phase => "phase"
  | file => "file"
  | debug => "debug"
  | unknown _ => "unknown"

def ofName? (name : Text) : Option Level :=
  let key := Text.lower name
  if key == "detail" then some file
  else [off, error, phase, file, debug].find? fun l => l.name == key

def invalid (name : Text) : Text :=
  "invalid trace level: " ++ Quoted.encode (Text.lower name)
    ++ " (expected: off|error|phase|file|debug)"

def writes (l : Level) (s : Scope) : Bool :=
  match l with
  | phase => s.level ≤ Scope.driver.level
  | file => s.level ≤ Scope.file.level
  | debug => true
  | _ => false

def keeps (l : Level) (s : Scope) : Bool :=
  match l with
  | error => s.level ≤ Scope.file.level
  | l => l.writes s

end Level

inductive Mode where
  /-- Written as they happen. -/
  | stream
  /-- Kept in memory. -/
  | ring
  | both
  deriving DecidableEq, Repr, Inhabited

namespace Mode

def name : Mode → Text
  | stream => "stream"
  | ring => "ring"
  | both => "both"

def number : Mode → Nat
  | stream => 1
  | ring => 2
  | both => 3

def ofName? (name : Text) : Option Mode :=
  [stream, ring, both].find? fun m => Text.sameUpToCase name m.name

def invalid (name : Text) : Text :=
  "invalid storage mode: " ++ Quoted.encode name ++ " (expected: stream|ring|both)"

/-- The mode of a number, where zero stands for the usual one. -/
def ofNumber? : Nat → Option Mode
  | 0 | 1 => some stream
  | 2 => some ring
  | 3 => some both
  | _ => none

def unknown : Text := "unknown storage mode: unknown"

end Mode

inductive Format where
  /-- As the name of the output says. -/
  | auto
  | text
  | json
  deriving DecidableEq, Repr, Inhabited

namespace Format

def number : Format → Nat
  | auto => 0
  | text => 1
  | json => 2

def ofNumber : Nat → Format
  | 0 => auto
  | 2 => json
  | _ => text

def ofName? (name : Text) : Option Format :=
  let key := Text.lower name
  if key.isEmpty || key == "auto" then some auto
  else if key == "text" then some text
  else if key == "ndjson" || key == "json" then some json
  else none

def invalid (name : Text) : Text :=
  "invalid trace format: " ++ Quoted.encode name ++ " (expected: auto|text|ndjson)"

/-- The format for an output: files for lines of JSON are told by their extension. -/
def resolve (f : Format) (output : Text) : Format :=
  match f with
  | auto => if output.endsWith ".ndjson" || output.endsWith ".jsonl" then json else text
  | f => f

def write (f : Format) (start : Moment) (e : Event) : Text :=
  match f with
  | json => e.json
  | _ => e.text start

end Format
end TreeLint.Trace
