import Mathlib.Data.List.DropRight
import Mathlib.Data.Nat.ModEq
import TreeLint.Trace.Tracer

/-! # What a ring keeps

The events that a ring stores go into its slots one after the other, and after the last slot it
begins with the first anew.  So an event has the slot that its place among all of them leads to,
until so many have been stored after it as there are slots (`Ring.Holds`).  The slot for the next
event and the number of slots in use are all that is left of how many there were, which is
enough to find the oldest one that is still there: a snapshot shows the latest events in the
order they came in, as many as there is room for (`Ring.Holds.snapshot_eq`).

The number of an event is drawn when it is stored, from one counter for all that the program
emits.  A ring may share the counter with a stream and with other tracers, so there may be gaps
between the numbers it sees, but they go up (`Tracer.snapshot_latest`).
-/

namespace TreeLint.Trace

/-- A list is read off its places. -/
theorem filterMap_getElem?_range {α : Type} (l : List α) :
    (List.range l.length).filterMap (l[·]?) = l := by
  induction l with
  | nil => rfl
  | cons a l ih =>
    rw [List.length_cons, List.range_succ_eq_map, List.filterMap_cons, List.filterMap_map]
    exact congrArg (a :: ·) ih

/-- An event but for its number. -/
def Event.unnumbered (e : Event) : Event := { e with number := 0 }

/-! ## Slots -/

namespace Ring

variable {r : Ring} {stored : List Event} {e : Event}

/-- What is in a ring that stored some events in turn: each of the latest is in the slot that its
place among them leads to. -/
structure Holds (r : Ring) (stored : List Event) : Prop where
  room : 0 < r.size
  next : r.next = stored.length % r.size
  count : r.count = min stored.length r.size
  slot : ∀ {i e}, stored[i]? = some e → stored.length ≤ i + r.size →
    r.slots[i % r.size]? = some e

theorem size_new (size : Int) (level : Level) :
    (new size level).size = if size ≤ 0 then usualSize else size.toNat := by
  simp [Ring.size, new]

theorem holds_new (size : Int) (level : Level) : (new size level).Holds [] where
  room := by
    rw [size_new, usualSize]
    split <;> omega
  next := (Nat.zero_mod _).symm
  count := (Nat.zero_min _).symm
  slot found := by simp at found

@[simp] theorem level_emit (r : Ring) (number : Nat) (e : Event) :
    (r.emit number e).level = r.level := by
  rw [emit]
  split <;> rfl

@[simp] theorem size_emit (r : Ring) (number : Nat) (e : Event) :
    (r.emit number e).size = r.size := by
  rw [emit]
  split <;> simp [Ring.size]

/-- A place is told from the later ones by its slot until there are as many as there are slots. -/
theorem mod_ne_mod {i j n : Nat} (later : i < j) (near : j < i + n) : i % n ≠ j % n := by
  intro same
  have multiple : n ∣ j - i := (Nat.modEq_iff_dvd' (Nat.le_of_lt later)).mp same
  have := Nat.le_of_dvd (Nat.sub_pos_of_lt later) multiple
  omega

namespace Holds

/-- An event that is stored takes the slot of the one that came as many events earlier as there
are slots, and of no other. -/
theorem emit (h : r.Holds stored) (number : Nat) (accepted : r.accepts e.scope) :
    (r.emit number e).Holds (stored ++ [{ e with number }]) where
  room := by simpa using h.room
  next := by
    have moved : (r.emit number e).next = (r.next + 1) % r.size := by
      rw [Ring.emit, if_pos accepted]
    rw [moved, size_emit, h.next, Nat.mod_add_mod, List.length_append, List.length_singleton]
  count := by
    have grown : (r.emit number e).count = min (r.count + 1) r.size := by
      rw [Ring.emit, if_pos accepted]
    rw [grown, size_emit, h.count, List.length_append, List.length_singleton]
    omega
  slot {i e'} found recent := by
    rw [List.length_append, List.length_singleton, size_emit] at recent
    rw [size_emit, Ring.emit, if_pos accepted]
    have inside : r.next < r.slots.size := h.next ▸ Nat.mod_lt _ h.room
    by_cases old : i < stored.length
    · rw [List.getElem?_append_left old] at found
      have apart : r.next ≠ i % r.size := h.next ▸ (mod_ne_mod old recent).symm
      rw [Array.getElem?_setIfInBounds_ne apart]
      exact h.slot found (by omega)
    · have last : i = stored.length := by
        have := (List.getElem?_eq_some_iff.mp found).1
        rw [List.length_append, List.length_singleton] at this
        omega
      subst last
      rw [List.getElem?_concat_length] at found
      rw [← h.next, Array.getElem?_setIfInBounds_self_of_lt inside, found]

theorem count_eq_length (h : r.Holds stored) : r.count = (stored.rtake r.size).length := by
  rw [h.count, List.rtake, List.length_drop]
  omega

/-- A snapshot begins at the slot of the oldest event that is still there. -/
theorem start_eq (h : r.Holds stored) :
    (r.next + r.size - r.count) % r.size = (stored.length - r.size) % r.size := by
  rw [h.next, h.count]
  rcases Nat.le_total r.size stored.length with full | space
  · rw [Nat.min_eq_right full, Nat.add_sub_cancel, Nat.mod_mod, Nat.mod_eq_sub_mod full]
  · rw [Nat.min_eq_left space, Nat.sub_eq_zero_of_le space, Nat.zero_mod]
    rcases Nat.eq_or_lt_of_le space with full | space
    · rw [full, Nat.mod_self, Nat.zero_add, Nat.sub_self, Nat.zero_mod]
    · rw [Nat.mod_eq_of_lt space, Nat.add_sub_cancel_left, Nat.mod_self]

/-- A snapshot shows the latest of the events that were stored, the oldest first. -/
theorem snapshot_eq (h : r.Holds stored) : r.snapshot = stored.rtake r.size := by
  have read : ∀ i < (stored.rtake r.size).length,
      r.slots[((r.next + r.size - r.count) % r.size + i) % r.size]?
        = (stored.rtake r.size)[i]? := by
    intro i inside
    rw [h.start_eq, Nat.mod_add_mod, List.getElem?_eq_getElem inside]
    refine h.slot ?_ (by omega)
    rw [← List.getElem?_drop, ← List.rtake, List.getElem?_eq_getElem inside]
  calc r.snapshot
      = (List.range (stored.rtake r.size).length).filterMap ((stored.rtake r.size)[·]?) := by
        rw [← h.count_eq_length] at read ⊢
        exact List.filterMap_congr fun i mem => read i (List.mem_range.mp mem)
    _ = stored.rtake r.size := filterMap_getElem?_range _

end Holds
end Ring

/-! ## Numbers -/

/-- Events as they were accepted and as they were stored: they differ in their numbers alone,
which go up and were drawn while the counter went from one number to another. -/
structure Numbered (first last : Nat) (accepted stored : List Event) : Prop where
  same : stored.map Event.unnumbered = accepted.map Event.unnumbered
  rising : (stored.map Event.number).Pairwise (· < ·)
  drawn : ∀ e ∈ stored, first < e.number ∧ e.number ≤ last

namespace Numbered

variable {first last : Nat} {accepted stored : List Event}

theorem nil : Numbered first last [] [] := ⟨rfl, .nil, by simp⟩

theorem mono (h : Numbered first last accepted stored) {last' : Nat} (le : last ≤ last') :
    Numbered first last' accepted stored :=
  ⟨h.same, h.rising, fun e mem => ⟨(h.drawn e mem).1, Nat.le_trans (h.drawn e mem).2 le⟩⟩

/-- The next number is above all that were drawn. -/
theorem append (h : Numbered first last accepted stored) (le : first ≤ last) (e : Event) :
    Numbered first (last + 1) (accepted ++ [e])
      (stored ++ [{ e with number := last + 1 }]) where
  same := by
    rw [List.map_append, List.map_append, h.same]
    rfl
  rising := by
    rw [List.map_append, List.pairwise_append]
    refine ⟨h.rising, List.pairwise_singleton _ _, ?_⟩
    intro number earlier next here
    obtain ⟨old, mem, rfl⟩ := List.mem_map.mp earlier
    rw [List.map_singleton, List.mem_singleton] at here
    rw [here]
    exact Nat.lt_succ_of_le (h.drawn old mem).2
  drawn old mem := by
    rcases List.mem_append.mp mem with mem | mem
    · exact (h.mono (Nat.le_succ last)).drawn old mem
    · rw [List.mem_singleton.mp mem]
      exact ⟨Nat.lt_succ_of_le le, Nat.le_refl _⟩

theorem length_eq (h : Numbered first last accepted stored) : stored.length = accepted.length := by
  simpa using congrArg List.length h.same

/-- What holds of all events holds of the latest of them. -/
theorem rtake (h : Numbered first last accepted stored) (n : Nat) :
    Numbered first last (accepted.rtake n) (stored.rtake n) := by
  rw [List.rtake, List.rtake, h.length_eq]
  refine ⟨?_, ?_, fun e mem => h.drawn e (List.mem_of_mem_drop mem)⟩
  · rw [List.map_drop, List.map_drop, h.same]
  · rw [List.map_drop]
    exact h.rising.drop

end Numbered

/-! ## Runs -/

/-- What draws numbers: an event goes to the stream or to the ring of a tracer, or another tracer
of the program is at work. -/
inductive Emission where
  | toStream (e : Event)
  | toRing (e : Event)
  | elsewhere

/-- The event that goes to the ring, if one does. -/
def Emission.toRing? : Emission → Option Event
  | toRing e => some e
  | _ => none

/-- The events that go to a ring and are of scopes it accepts. -/
def Ring.accepted (r : Ring) (ms : List Emission) : List Event :=
  (ms.filterMap Emission.toRing?).filter fun e => r.accepts e.scope

theorem Ring.accepted_toRing (r : Ring) (ms : List Emission) (e : Event) :
    r.accepted (ms ++ [.toRing e])
      = r.accepted ms ++ if r.accepts e.scope then [e] else [] := by
  have alone : [Emission.toRing e].filterMap Emission.toRing? = [e] := rfl
  rw [accepted, List.filterMap_append, List.filter_append, alone, List.filter_cons, accepted,
    List.filter_nil]

theorem Ring.accepted_aside (r : Ring) (ms : List Emission) {m : Emission}
    (apart : m.toRing? = none) : r.accepted (ms ++ [m]) = r.accepted ms := by
  rw [accepted, List.filterMap_append, List.filterMap_cons_none apart, List.filterMap_nil,
    List.append_nil, accepted]

namespace Tracer

def take (t : Tracer) : Emission → Tracer
  | .toStream e => t.emitToStream e
  | .toRing e => t.emitToRing e
  | .elsewhere => { t with events := t.events + 1 }

def takeAll (t : Tracer) (ms : List Emission) : Tracer := ms.foldl take t

/-- An event that a tracer emits goes to both. -/
theorem emit_eq_takeAll (t : Tracer) (e : Event) :
    t.emit e = t.takeAll [.toStream e, .toRing e] := rfl

theorem ring_emitToStream (t : Tracer) (e : Event) : (t.emitToStream e).ring = t.ring := by
  rw [emitToStream]
  split
  · split <;> rfl
  · rfl

/-- The stream draws a number for an event that it writes. -/
theorem events_emitToStream (t : Tracer) (e : Event) :
    (t.emitToStream e).events = t.events ∨ (t.emitToStream e).events = t.events + 1 := by
  rw [emitToStream]
  split
  · split
    · exact .inr rfl
    · exact .inl rfl
  · exact .inl rfl

/-- What has become of a tracer that began with an empty ring: its ring holds the events that it
accepted, with the numbers that were drawn for them. -/
structure Retains (first : Nat) (empty : Ring) (ms : List Emission) (t : Tracer) : Prop where
  lower : first ≤ t.events
  upper : t.events ≤ first + ms.length
  ring : ∃ r stored, t.ring = some r ∧ r.size = empty.size ∧ r.level = empty.level ∧
    r.Holds stored ∧ Numbered first t.events (empty.accepted ms) stored

namespace Retains

variable {first : Nat} {empty : Ring} {ms : List Emission} {t : Tracer}

theorem nil (t : Tracer) (size : Int) (level : Level) :
    Retains t.events (.new size level) [] { t with ring := some (.new size level) } where
  lower := Nat.le_refl _
  upper := Nat.le_refl _
  ring := ⟨_, [], rfl, rfl, rfl, Ring.holds_new size level, .nil⟩

/-- A ring has no part in what happens elsewhere, but for the number that is drawn. -/
theorem aside (h : Retains first empty ms t) {m : Emission} (apart : m.toRing? = .none)
    {t' : Tracer} (same : t'.ring = t.ring)
    (draws : t'.events = t.events ∨ t'.events = t.events + 1) :
    Retains first empty (ms ++ [m]) t' := by
  have lower := h.lower
  have upper := h.upper
  obtain ⟨r, stored, here, size, level, holds, numbered⟩ := h.ring
  refine ⟨by omega, ?_, r, stored, same.trans here, size, level, holds, ?_⟩
  · rw [List.length_append, List.length_singleton]
    omega
  · rw [Ring.accepted_aside empty ms apart]
    exact numbered.mono (by omega)

theorem toRing (h : Retains first empty ms t) (e : Event) :
    Retains first empty (ms ++ [.toRing e]) (t.emitToRing e) := by
  have upper := h.upper
  obtain ⟨r, stored, here, size, level, holds, numbered⟩ := h.ring
  have agree : empty.accepts e.scope = r.accepts e.scope := by
    rw [Ring.accepts, ← level, Ring.accepts]
  by_cases accepted : r.accepts e.scope
  · have after : t.emitToRing e
        = { t with events := t.events + 1, ring := some (r.emit (t.events + 1) e) } := by
      simp only [emitToRing, here, if_pos accepted]
    rw [after]
    refine ⟨Nat.le_succ_of_le h.lower, ?_, _, _, rfl, by simpa, by simpa,
      holds.emit _ accepted, ?_⟩
    · rw [List.length_append, List.length_singleton, ← Nat.add_assoc]
      exact Nat.succ_le_succ upper
    · rw [Ring.accepted_toRing, if_pos (agree.trans accepted)]
      exact numbered.append h.lower e
  · have after : t.emitToRing e = t := by
      simp only [emitToRing, here, if_neg accepted]
    rw [after]
    refine ⟨h.lower, ?_, r, stored, here, size, level, holds, ?_⟩
    · rw [List.length_append]
      omega
    · rw [Ring.accepted_toRing, if_neg (agree ▸ accepted), List.append_nil]
      exact numbered

theorem take (h : Retains first empty ms t) (m : Emission) :
    Retains first empty (ms ++ [m]) (t.take m) := by
  cases m with
  | toStream e => exact h.aside rfl (ring_emitToStream t e) (events_emitToStream t e)
  | toRing e => exact h.toRing e
  | elsewhere => exact h.aside rfl rfl (.inr rfl)

theorem takeAll (h : Retains first empty ms t) (more : List Emission) :
    Retains first empty (ms ++ more) (t.takeAll more) := by
  induction more generalizing ms t with
  | nil =>
    rw [List.append_nil]
    exact h
  | cons m more ih =>
    rw [List.append_cons]
    exact ih (h.take m)

end Retains

/-- Whatever goes to a ring, and whatever else draws numbers in between, the ring shows as many of
the events of scopes it accepts as it has room for: the latest, the oldest of them first.  They are
as they came but for their numbers, which go up from one to the next.  Nothing that happens draws
more than one number, so a counter of 64 bits is enough as long as less happens than it can
count. -/
theorem snapshot_latest (t : Tracer) (size : Int) (level : Level) (ms : List Emission) :
    let empty := Ring.new size level
    let room := if size ≤ 0 then Ring.usualSize else size.toNat
    let accepted := empty.accepted ms
    ∃ shown, (takeAll { t with ring := some empty } ms).ring.map Ring.snapshot = some shown ∧
      shown.length = min accepted.length room ∧
      shown.map Event.unnumbered = (accepted.rtake room).map Event.unnumbered ∧
      (shown.map Event.number).Pairwise (· < ·) ∧
      ∀ e ∈ shown, t.events < e.number ∧ e.number ≤ t.events + ms.length := by
  intro empty room accepted
  have run : Retains t.events empty ms _ := (Retains.nil t size level).takeAll ms
  obtain ⟨r, stored, here, same, -, holds, numbered⟩ := run.ring
  have size_eq : r.size = room := same.trans (Ring.size_new size level)
  have latest := numbered.rtake room
  refine ⟨stored.rtake room, ?_, ?_, latest.same, latest.rising, fun e mem => ?_⟩
  · rw [here, Option.map_some, holds.snapshot_eq, size_eq]
  · rw [← size_eq, ← holds.count_eq_length, holds.count, numbered.length_eq]
  · exact ⟨(latest.drawn e mem).1, Nat.le_trans (latest.drawn e mem).2 run.upper⟩

/-- Another tracer draws a number and the event of a rule is not accepted, before the last of three
events of files takes the slot of the first. -/
example :
    let event (scope : Scope) (name : Text) : Event :=
      ⟨⟨0⟩, 0, .point, scope, 0, 0, 0, name, [], []⟩
    let t := takeAll { none with ring := some (.new 2 .error) }
      [.toRing (event .file "a.ts"), .elsewhere, .toRing (event .file "b.ts"),
        .toRing (event .rule "param-types"), .toRing (event .file "c.ts")]
    t.ring.map (fun r => r.snapshot.map fun e => (e.number, e.name))
      = some [(3, utf8 "b.ts"), (4, utf8 "c.ts")] := by
  decide

end Tracer
end TreeLint.Trace
