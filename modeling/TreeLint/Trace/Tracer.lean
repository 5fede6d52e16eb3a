import TreeLint.Trace.Ring

/-! # Tracers

A tracer numbers spans and events, writes events or keeps them in a ring, and knows
the keys attached to spans.  The end of a span shows the keys it has; an end that is
kept in memory shows them as they are when the ring is looked at. -/

namespace TreeLint.Trace

/-- A span that was begun.  One that nobody wants to hear of has no number. -/
structure Span where
  number : Nat
  parent : Nat
  scope : Scope
  name : Text
  deriving DecidableEq, Repr, Inhabited

namespace Span

def inert : Span := ⟨0, 0, ⟨0⟩, []⟩

def isInert (s : Span) : Bool := s.number == 0

end Span

structure Tracer where
  level : Level
  /-- The format of the events that are written, if any are. -/
  stream : Option Format
  ring : Option Ring
  /-- When the program was started. -/
  start : Moment
  /-- How many spans and events there were. -/
  spans : Nat
  events : Nat
  /-- What was written. -/
  written : List Text
  /-- The keys attached to each span. -/
  extras : List (Nat × List (Text × Text))
  deriving Inhabited

namespace Tracer

def none : Tracer := ⟨.off, .none, .none, ⟨0⟩, 0, 0, [], []⟩

def isNone (t : Tracer) : Bool := t.stream.isNone && t.ring.isNone

/-- The tracer for a level, with the place its events go to, the format they are written
in and the size of the ring they are kept in. -/
def new (level : Level) (mode : Mode) (format : Format) (output : Text) (ringSize : Int) :
    Tracer :=
  if level == .off then none
  else
    let format := format.resolve output
    let ring := Ring.new ringSize level
    match mode with
    | .stream => { none with level, stream := format }
    | .ring => { none with level, ring }
    | .both => { none with level, stream := format, ring }

def accepts (t : Tracer) (s : Scope) : Bool :=
  (t.stream.isSome && t.level.writes s) || t.ring.any (·.accepts s)

def emitToStream (t : Tracer) (e : Event) : Tracer :=
  match t.stream with
  | some format =>
    if t.level.writes e.scope then
      let number := t.events + 1
      { t with
        events := number
        written := t.written ++ [format.write t.start { e with number }] }
    else t
  | .none => t

def emitToRing (t : Tracer) (e : Event) : Tracer :=
  match t.ring with
  | some r =>
    if r.accepts e.scope then
      { t with events := t.events + 1, ring := some (r.emit (t.events + 1) e) }
    else t
  | .none => t

def emit (t : Tracer) (e : Event) : Tracer := (t.emitToStream e).emitToRing e

def extraOf (t : Tracer) (span : Nat) : List (Text × Text) := (t.extras.lookup span).getD []

def eventOf (s : Span) (kind : Kind) (now : Moment) (worker : Nat) (detail : Text)
    (extra : List (Text × Text)) : Event :=
  ⟨now, 0, kind, s.scope, s.number, s.parent, worker, s.name, detail, extra⟩

def begin (t : Tracer) (scope : Scope) (name : Text) (parent : Nat) (now : Moment)
    (worker : Nat) : Tracer × Span :=
  if t.accepts scope then
    let s : Span := ⟨t.spans + 1, parent, scope, name⟩
    (({ t with spans := t.spans + 1 } : Tracer).emit (eventOf s .begin now worker [] []), s)
  else (t, .inert)

def attach (t : Tracer) (s : Span) (key value : Text) : Tracer :=
  if s.isInert then t
  else
    let extra := (t.extraOf s.number).filter (·.1 != key) ++ [(key, value)]
    { t with extras := (s.number, extra) :: t.extras.filter (·.1 != s.number) }

def finish (t : Tracer) (s : Span) (detail : Text) (now : Moment) (worker : Nat) : Tracer :=
  if s.isInert then t
  else t.emit (eventOf s .finish now worker detail (t.extraOf s.number))

def point (t : Tracer) (scope : Scope) (name detail : Text) (parent : Nat) (now : Moment)
    (worker : Nat) : Tracer :=
  if t.accepts scope then
    let s : Span := ⟨t.spans + 1, parent, scope, name⟩
    ({ t with spans := t.spans + 1 } : Tracer).emit (eventOf s .point now worker detail [])
  else t

/-- The events in memory, the oldest first.  Where a span had keys when it ended, its
end shows all that are attached to it by now. -/
def kept (t : Tracer) : Option (List Event) :=
  t.ring.map fun r => r.snapshot.map fun e =>
    if e.extra.isEmpty then e else { e with extra := t.extraOf e.span }

end Tracer
end TreeLint.Trace
