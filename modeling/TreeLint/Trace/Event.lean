import TreeLint.Binary64
import TreeLint.Json.Writer

/-! # Trace events

An event says that a span of work begins or ends, or that something happened.  It is
written as a line of text or as a JSON object. -/

namespace TreeLint.Trace

/-- Whether an event begins a span, ends one, or stands alone. -/
inductive Kind where
  | begin | finish | point
  | unknown (code : UInt8)
  deriving DecidableEq, Repr, Inhabited

namespace Kind

def ofCode (code : UInt8) : Kind :=
  match code with
  | 1 => begin
  | 2 => finish
  | 3 => point
  | _ => unknown code

def name : Kind → Text
  | begin => "begin"
  | finish => "end"
  | point => "point"
  | unknown _ => "unknown"

/-- The sign before the name of an event in a line of text. -/
def sign : Kind → Text
  | begin => "→ "
  | finish => "← "
  | point => "• "
  | unknown _ => []

end Kind

/-- How fine-grained an event is; coarser scopes have lower levels. -/
structure Scope where
  level : UInt8
  deriving DecidableEq, Repr, Inhabited

namespace Scope

def driver : Scope := ⟨1⟩
def file : Scope := ⟨2⟩
def rule : Scope := ⟨3⟩
def node : Scope := ⟨4⟩

def name (s : Scope) : Text :=
  match s.level with
  | 1 => "driver"
  | 2 => "file"
  | 3 => "rule"
  | 4 => "node"
  | _ => "unknown"

def depth (s : Scope) : Nat := s.level.toNat - driver.level.toNat

end Scope

/-- A moment, in nanoseconds since the first of January 1970 in universal time. -/
structure Moment where
  nanos : Int
  deriving DecidableEq, Repr, Inhabited

namespace Moment

def ofSeconds (seconds nanos : Int) : Moment := ⟨seconds * 1000000000 + nanos⟩

/-- Year, month and day of a day, counted from the first of January 1970.  Years are
taken to begin in March and come in groups of 400, which are all of one length. -/
def date (day : Int) : Int × Int × Int :=
  let z := day + 719468
  let group := z / 146097
  let dayOfGroup := z % 146097
  let year := (dayOfGroup - dayOfGroup / 1460 + dayOfGroup / 36524 - dayOfGroup / 146096) / 365
  let dayOfYear := dayOfGroup - (365 * year + year / 4 - year / 100)
  let m := (5 * dayOfYear + 2) / 153
  let month := if m < 10 then m + 3 else m - 9
  (year + group * 400 + (if month ≤ 2 then 1 else 0), month, dayOfYear - (153 * m + 2) / 5 + 1)

/-- The calendar begins so many seconds before 1970, and it covers as many as there are
words of 64 bits. -/
def calendarStart : Nat := 9223372028741760000

/-- The second of the calendar, counted from 1970; past its end the calendar begins
anew. -/
def calendarSecond (m : Moment) : Int :=
  (m.nanos / 1000000000 + calendarStart) % UInt64.size - calendarStart

def padded (width : Nat) (n : Int) : Text :=
  let ds := Text.decimal n.natAbs
  let ds := List.replicate (width - ds.length) 48 ++ ds
  if n < 0 then "-" ++ ds else ds

def text (m : Moment) : Text :=
  let seconds := m.calendarSecond
  let micros := m.nanos % 1000000000 / 1000
  let (year, month, day) := date (seconds / 86400)
  let s := seconds % 86400
  padded 4 year ++ "-" ++ padded 2 month ++ "-" ++ padded 2 day ++ "T" ++ padded 2 (s / 3600)
    ++ ":" ++ padded 2 (s % 3600 / 60) ++ ":" ++ padded 2 (s % 60) ++ "." ++ padded 6 micros ++ "Z"

/-- The time from one moment to another in milliseconds with three places. -/
def since (m start : Moment) : Text :=
  let micros := (m.nanos - start.nanos).tdiv 1000
  let t := ((Binary64.ofNat micros.natAbs).div 1000).fixed 3
  Text.padLeft 9 (if micros < 0 then "-" ++ t else t)

end Moment

structure Event where
  time : Moment
  /-- Its number among all that were kept. -/
  number : Nat
  kind : Kind
  scope : Scope
  span : Nat
  /-- The span it belongs to; zero for none. -/
  parent : Nat
  /-- The worker it happened in. -/
  worker : Nat
  name : Text
  detail : Text
  extra : List (Text × Text)
  deriving DecidableEq, Repr, Inhabited

namespace Event

def sortedExtra (e : Event) : List (Text × Text) := e.extra.mergeSort fun a b => a.1.atMost b.1

def json (e : Event) : Text :=
  Json.compact ⟨true⟩ (.record [
    [("time", .string e.time.text), ("seq", .nat e.number), ("kind", .string e.kind.name),
      ("scope", .string e.scope.name), ("span_id", .nat e.span)],
    if e.parent == 0 then [] else [("parent_id", .nat e.parent)],
    if e.worker == 0 then [] else [("gid", .nat e.worker)],
    [("name", .string e.name)],
    if e.detail.isEmpty then [] else [("detail", .string e.detail)],
    if e.extra.isEmpty then []
    else [("extra", .object (e.sortedExtra.map fun (k, v) => (k, .string v)))]]) ++ "\n"

def detailText (e : Event) : Text :=
  if e.detail.isEmpty then [] else " (" ++ e.detail ++ ")"

def extraText (e : Event) : Text :=
  let pairs := e.sortedExtra.map fun (k, v) => k ++ [61] ++ v
  if pairs.isEmpty then [] else " \x7b" ++ Text.join ", " pairs ++ "\x7d"

/-- The event as a line of text, with the time that passed since a start. -/
def text (start : Moment) (e : Event) : Text :=
  "[" ++ e.time.since start ++ "ms] g" ++ Text.padRight 3 (Text.decimal e.worker) ++ " "
    ++ Text.times e.scope.depth "  " ++ e.kind.sign ++ e.name ++ e.detailText ++ e.extraText
    ++ "\n"

end Event
end TreeLint.Trace
