import TreeLint.Text

/-! # Spans

A span is a half-open range of byte offsets inside one file.  Offsets are words of
32 bits and their arithmetic wraps, so nothing here assumes that a span starts
before it stops. -/

namespace TreeLint

/-- Files are numbered in the order they were added to their set. -/
abbrev FileId := UInt32

/-- The bytes from `start` up to `stop` of one file. -/
structure Span where
  file : FileId
  start : UInt32
  stop : UInt32
  deriving DecidableEq, Repr, Inhabited

namespace Span

def isEmpty (s : Span) : Bool := s.start == s.stop

def length (s : Span) : UInt32 := s.stop - s.start

def contains (s other : Span) : Bool :=
  s.file == other.file && s.start ≤ other.start && other.stop ≤ s.stop

/-- Whether two spans conflict as targets of edits.  Two empty spans never do, and an
empty span conflicts with a nonempty one when it lies at its start or inside it. -/
def overlaps (s other : Span) : Bool :=
  if s.file != other.file then false
  else if s.isEmpty && other.isEmpty then false
  else if s.isEmpty then other.start ≤ s.start && s.start < other.stop
  else if other.isEmpty then s.start ≤ other.start && other.start < s.stop
  else s.start < other.stop && other.start < s.stop

def startPoint (s : Span) : Span := ⟨s.file, s.start, s.start⟩

def endPoint (s : Span) : Span := ⟨s.file, s.stop, s.stop⟩

def describe (s : Span) : Text :=
  Text.decimal s.file.toNat ++ ":" ++ Text.decimal s.start.toNat ++ "-"
    ++ Text.decimal s.stop.toNat

end Span
end TreeLint
