import TreeLint.Text.Blank
import TreeLint.Text.Case
import TreeLint.Text.Quoted

/-! # Severities

A severity is a level; the three lowest have names. -/

namespace TreeLint

structure Severity where
  level : UInt8
  deriving DecidableEq, Repr, Inhabited

namespace Severity

def info : Severity := ⟨0⟩
def warning : Severity := ⟨1⟩
def error : Severity := ⟨2⟩

/-- Errors and all that is worse. -/
def isError (s : Severity) : Bool := s.level ≥ error.level

def name (s : Severity) : Text :=
  match s.level with
  | 0 => "INFO"
  | 1 => "WARNING"
  | 2 => "ERROR"
  | _ => "UNKNOWN"

/-- The severity a configuration names; an empty name means an error. -/
def ofName? (name : Text) : Option Severity :=
  let key := Text.lower (Text.trim name)
  if key == "info" then some info
  else if key == "warning" || key == "warn" then some warning
  else if key == "error" || key == [] then some error
  else none

def unknown (name : Text) : Text := "unknown severity " ++ Quoted.encode name

end Severity
end TreeLint
