import TreeLint.Trace.Settings

/-! # Rings of events

A ring keeps the most recent events in a buffer of a fixed size: when the buffer is
full, a new event takes the place of the oldest. -/

namespace TreeLint.Trace

structure Ring where
  slots : Array Event
  /-- The slot for the next event. -/
  next : Nat
  /-- How many slots are in use. -/
  count : Nat
  level : Level
  deriving Repr, Inhabited

namespace Ring

/-- The size of a ring of which no size is given. -/
def usualSize : Nat := 4096

/-- A ring for so many events, or for the usual number. -/
def new (size : Int) (level : Level) : Ring :=
  ⟨Array.replicate (if size ≤ 0 then usualSize else size.toNat) default, 0, 0, level⟩

def size (r : Ring) : Nat := r.slots.size

def accepts (r : Ring) (s : Scope) : Bool := r.level.keeps s

/-- Keeps an event under a number, if its scope is accepted. -/
def emit (r : Ring) (number : Nat) (e : Event) : Ring :=
  if r.accepts e.scope then
    { r with
      slots := r.slots.setIfInBounds r.next { e with number }
      next := (r.next + 1) % r.size
      count := min (r.count + 1) r.size }
  else r

def snapshot (r : Ring) : List Event :=
  let start := (r.next + r.size - r.count) % r.size
  (List.range r.count).filterMap fun i => r.slots[(start + i) % r.size]?

end Ring
end TreeLint.Trace
