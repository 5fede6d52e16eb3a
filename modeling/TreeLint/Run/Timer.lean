import TreeLint.Binary64
import TreeLint.Json.Writer

/-! # Timing the phases of a run

A timer charges nanoseconds to named phases.  A phase is charged with a given time, or
with the time between its begin and its end; readings of the clock are given from
outside.  Sums of nanoseconds are words of 64 bits and wrap. -/

namespace TreeLint

/-- The time charged to one name. -/
structure Phase where
  name : Text
  /-- When it was last begun, if it ever was. -/
  begun : Option Int64
  spent : Int64
  /-- How often it was charged. -/
  count : Nat
  note : Text
  deriving DecidableEq, Repr, Inhabited

/-- The time since a phase was begun.  One that never was has been going on for longer
than can be counted. -/
def Phase.elapsed (p : Phase) (now : Int64) : Int64 :=
  match p.begun with
  | some start => now - start
  | none => Int64.maxValue

/-- Phases in the order they were first named. -/
structure Timer where
  phases : List Phase
  deriving DecidableEq, Repr, Inhabited

namespace Timer

def empty : Timer := ⟨[]⟩

/-- Changes the phase of a name, which is added at the end if it is new. -/
def update (t : Timer) (name : Text) (change : Phase → Phase) : Timer :=
  if t.phases.any (·.name == name) then
    ⟨t.phases.map fun p => if p.name == name then change p else p⟩
  else ⟨t.phases ++ [change ⟨name, none, 0, 0, []⟩]⟩

def begin (t : Timer) (name : Text) (now : Int64) : Timer × Nat :=
  let t := t.update name fun p => { p with begun := some now }
  (t, t.phases.findIdx (·.name == name))

/-- Ends the phase of a number; there is nothing to end at other numbers. -/
def finish (t : Timer) (number : Int) (note : Text) (now : Int64) : Timer :=
  ⟨t.phases.zipIdx.map fun (p, i) =>
    if (i : Int) == number then
      { p with spent := p.spent + p.elapsed now, count := p.count + 1, note }
    else p⟩

def add (t : Timer) (name : Text) (time : Int64) : Timer :=
  t.update name fun p => { p with spent := p.spent + time, count := p.count + 1 }

def total (t : Timer) : Int64 := (t.phases.map Phase.spent).foldl (· + ·) 0

def millisecond : Nat := 1000000

def millis (time : Int64) : Bool × Binary64 :=
  let n := time.toInt
  (n < 0, (Binary64.ofNat n.natAbs).div millisecond)

def signed (negative : Bool) (t : Text) : Text := if negative then "-" ++ t else t

/-- A time in milliseconds with two places, as wide as a column. -/
def column (time : Int64) : Text :=
  let (negative, x) := millis time
  Text.padLeft 7 (signed negative (x.fixed 2)) ++ " ms"

/-- A time in milliseconds with as many digits as it needs. -/
def number (time : Int64) : Json :=
  let (negative, x) := millis time
  .number (signed negative x.shortest)

/-- A name, filled up with blanks to a width in characters. -/
def label (name : Text) : Text := name ++ List.replicate (20 - Utf8.count name) 32

def line (p : Phase) : Text :=
  "  " ++ label p.name ++ " " ++ column p.spent
    ++ (if 1 < p.count then utf8 "  x" ++ Text.decimal p.count else [])
    ++ (if p.note.isEmpty then [] else utf8 "  // " ++ p.note) ++ "\n"

def table (t : Timer) : Text :=
  "timings:\n" ++ t.phases.flatMap line
    ++ "  " ++ label "total" ++ " " ++ column t.total ++ "\n"

/-- The table of a run, with the number of its files and of those that were cached. -/
def summary (t : Timer) (files cached : Nat) : Text :=
  t.table ++ "  files " ++ Text.decimal files ++ ", cached " ++ Text.decimal cached ++ "\n"

def phaseJson (p : Phase) : Json :=
  .record [[("name", .string p.name), ("duration_ms", number p.spent)],
    if p.count == 0 then [] else [("count", .nat p.count)],
    if p.note.isEmpty then [] else [("note", .string p.note)]]

def json (t : Timer) (files cached : Nat) : Text :=
  Json.compact ⟨true⟩ (.object [("kind", .string "lint"), ("files", .nat files),
    ("cached", .nat cached), ("total_ms", number t.total),
    ("phases", if t.phases.isEmpty then .null else .array (t.phases.map phaseJson))]) ++ "\n"

end Timer
end TreeLint
