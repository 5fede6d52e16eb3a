import TreeLint.Proofs.Rewriting.Basic

/-! # How the second run keeps up

The rules of `Rewriting.Tracks`.  `Tracks.bind` puts two parsers one after the other; a choice is
made in the same way in both runs where what it depends on looks alike (`Tracks.choose`); the loops
go round as often in the second run as in the first. -/

namespace TreeLint.Script.Rewriting

variable {R : Rewriting} {α β : Type} {e : Tail} {k j l : Manner} {H : Token → Prop}
  {P Q : Facts} {c c' c'' : Cursor}

/-! ## Changes -/

theorem leaves_of_unowned {id : NodeId} {s : Seen} (h : R.owner id = false) : R.Leaves id s :=
  fun _ => R.unowned h

/-- What nothing is changed at for some nodes stays what it is. -/
theorem foldl_of_leaves {lo hi : Nat} {s : Seen} (h : ∀ id : NodeId, lo ≤ id.index → id.index < hi →
    R.Leaves id s) (w : List Seen) :
    (List.range' lo (hi - lo)).foldl (fun w i => R.change ⟨i⟩ s w) w = w := by
  have each : ∀ i ∈ List.range' lo (hi - lo), ∀ w, R.change ⟨i⟩ s w = w := fun i mem => by
    rw [List.mem_range'_1] at mem
    have lt : i < hi := by omega
    exact h ⟨i⟩ mem.1 lt
  generalize List.range' lo (hi - lo) = l at each
  induction l with
  | nil => rfl
  | cons i l ih =>
    rw [List.foldl_cons, each i List.mem_cons_self]
    exact ih fun j mem => each j (List.mem_cons_of_mem i mem)

theorem range'_split {lo mid hi : Nat} (le : lo ≤ mid) (le' : mid ≤ hi) :
    List.range' lo (hi - lo) = List.range' lo (mid - lo) ++ List.range' mid (hi - mid) := by
  have split := List.range'_append_1 (s := lo) (m := mid - lo) (n := hi - mid)
  rw [Nat.add_sub_cancel' le] at split
  rw [split]
  congr 1
  omega

theorem edit_left {lo mid hi : Nat} {s : Seen} (le : lo ≤ mid) (le' : mid ≤ hi)
    (h : ∀ id : NodeId, mid ≤ id.index → id.index < hi → R.Leaves id s) :
    R.edit lo hi s = R.edit lo mid s := by
  rw [edit, range'_split le le', List.foldl_append, foldl_of_leaves h, edit]

theorem edit_right {lo mid hi : Nat} {s : Seen} (le : lo ≤ mid) (le' : mid ≤ hi)
    (h : ∀ id : NodeId, lo ≤ id.index → id.index < mid → R.Leaves id s) :
    R.edit lo hi s = R.edit mid hi s := by
  rw [edit, range'_split le le', List.foldl_append, foldl_of_leaves h, edit]

/-- Where a token is changed for one node only, that change is what becomes of it. -/
theorem edit_of_single {lo hi : Nat} {s : Seen} {id : NodeId} (ge : lo ≤ id.index)
    (lt : id.index < hi) (others : ∀ id' : NodeId, id' ≠ id → R.Leaves id' s) :
    R.edit lo hi s = R.change id s [s.bare] := by
  have before : ∀ id' : NodeId, lo ≤ id'.index → id'.index < id.index → R.Leaves id' s :=
    fun id' _ less => others id' fun same => Nat.lt_irrefl _ (same ▸ less)
  have after : ∀ id' : NodeId, id.index + 1 ≤ id'.index → id'.index < hi → R.Leaves id' s :=
    fun id' more _ => others id' fun same => Nat.lt_irrefl _ (same ▸ more)
  rw [edit, range'_split ge (Nat.le_of_lt lt), range'_split (Nat.le_succ id.index) lt,
    List.foldl_append, List.foldl_append, foldl_of_leaves before, foldl_of_leaves after,
    Nat.succ_sub (Nat.le_refl _), Nat.sub_self]
  rfl

theorem edit_self {lo : Nat} {s : Seen} : R.edit lo lo s = [s.bare] := by
  rw [edit, Nat.sub_self, List.range'_zero]
  rfl

/-- The changes for the last node come last. -/
theorem edit_succ {lo hi : Nat} {s : Seen} (le : lo ≤ hi) :
    R.edit lo (hi + 1) s = R.change ⟨hi⟩ s (R.edit lo hi s) := by
  rw [edit, range'_split le (Nat.le_succ hi), List.foldl_append, Nat.succ_sub (Nat.le_refl hi),
    Nat.sub_self]
  rfl

namespace Went

theorem mono (h : Went j c c') (le : j.implies k) : Went k c c' :=
  ⟨h.ready, h.kept, h.ahead, h.manner.mono le⟩

theorem append (h : Went j c c') (h' : Went (k.rest e j) c' c'') : Went k c c'' := by
  have read := Cursor.upTo_append h.ahead h'.ahead
  refine ⟨h'.ready, h.kept.trans h'.kept, ?_, ?_⟩
  · rw [read, List.append_assoc, ← h'.ahead, ← h.ahead]
  · rw [read]
    exact h.manner.append h'.manner

/-- Nothing has been read. -/
theorem still (ready : c'.Ready) (kept : c.tree.KeptIn c'.tree) (same : c'.ahead = c.ahead) :
    Went .calmly c c' := by
  have nothing : c.upTo c' = [] := Cursor.upTo_eq (by rw [same, List.nil_append])
  refine ⟨ready, kept, by rw [nothing, same, List.nil_append], ?_⟩
  rw [nothing]
  exact ⟨nofun, fun _ => nofun⟩

/-- Nodes are added, and nothing more is read. -/
theorem stay (h : Went k c c') (ready : c''.Ready) (kept : c'.tree.KeptIn c''.tree)
    (same : c''.ahead = c'.ahead) : Went k c c'' := by
  have read : c.upTo c'' = c.upTo c' := by rw [Cursor.upTo, Cursor.upTo, same]
  refine ⟨ready, h.kept.trans kept, ?_, read ▸ h.manner⟩
  rw [read, same]
  exact h.ahead

theorem suffix (h : Went k c c') (sub : c.ahead <:+ R.tokens) : c'.ahead <:+ R.tokens :=
  List.IsSuffix.trans ⟨c.upTo c', h.ahead.symm⟩ sub

theorem upTo_cons (h : Went .firm c c') (ready : c.Ready) :
    ∃ after, c.upTo c' = ⟨c.peek, c.newlineBefore⟩ :: after := by
  obtain ⟨more, ahead⟩ := ready.ahead_eq
  obtain ⟨s, after, read⟩ := List.exists_cons_of_ne_nil (h.manner.1 rfl)
  have same := h.ahead
  rw [ahead, read, List.cons_append, List.cons.injEq] at same
  exact ⟨after, same.1 ▸ read⟩

theorem upTo_sub (h : Went k c c') (sub : c.ahead <:+ R.tokens) : c.upTo c' <:+: R.tokens :=
  List.IsInfix.trans ⟨[], c'.ahead, h.ahead.symm⟩ sub.isInfix

theorem mem_tokens (h : Went k c c') (sub : c.ahead <:+ R.tokens) {s : Seen} (mem : s ∈ c.upTo c') :
    s ∈ R.tokens :=
  sub.subset (h.ahead ▸ List.mem_append_left _ mem)

end Went

/-- A token is read once. -/
theorem notMem_of_mem (went : Went j c c') (went' : Went l c' c'') (sub : c.ahead <:+ R.tokens)
    {s : Seen} (mem : s ∈ c.upTo c') : s ∉ c'.upTo c'' := by
  have distinct := R.distinct.sublist sub.sublist
  rw [went.ahead, went'.ahead] at distinct
  exact fun mem' => (List.nodup_append.mp distinct).2.2 s mem s (List.mem_append_left _ mem') rfl

section Join

variable (went : Went j c c') (went' : Went l c' c'') (sub : c.ahead <:+ R.tokens)
  (here : R.Local c c') (there : R.Local c' c'')

include went went' sub

include there in
theorem edit_first {s : Seen} (mem : s ∈ c.upTo c') :
    R.edit c.tree.size c''.tree.size s = R.edit c.tree.size c'.tree.size s := by
  refine edit_left went.kept.size_le went'.kept.size_le fun id ge lt => ?_
  by_contra changed
  exact notMem_of_mem went went' sub mem
    (there.within ge lt (went.mem_tokens sub mem) changed)

include here in
theorem edit_second {s : Seen} (mem : s ∈ c'.upTo c'') :
    R.edit c.tree.size c''.tree.size s = R.edit c'.tree.size c''.tree.size s := by
  refine edit_right went.kept.size_le went'.kept.size_le fun id ge lt => ?_
  by_contra changed
  exact notMem_of_mem went went' sub
    (here.within ge lt (went'.mem_tokens (went.suffix sub) mem) changed) mem

include here there

theorem rewritten_append : R.rewritten c c'' = R.rewritten c c' ++ R.rewritten c' c'' := by
  rw [rewritten, Cursor.upTo_append went.ahead went'.ahead, List.flatMap_append]
  congr 1
  · exact List.flatMap_congr fun s mem => edit_first went went' sub there mem
  · exact List.flatMap_congr fun s mem => edit_second went went' sub here mem

theorem Local.append : R.Local c c'' := by
  have read := Cursor.upTo_append went.ahead went'.ahead
  have apart {id id' : NodeId} {s : Seen} (ge : c.tree.size ≤ id.index)
      (early : id.index < c'.tree.size) (late : c'.tree.size ≤ id'.index)
      (lt : id'.index < c''.tree.size) (mem : s ∈ R.tokens) (changed : ¬ R.Leaves id s)
      (changed' : ¬ R.Leaves id' s) : False :=
    notMem_of_mem went went' sub (here.within ge early mem changed)
      (there.within late lt mem changed')
  refine ⟨fun {id s} ge lt mem changed => ?_,
    fun {id id' s} ge lt ge' lt' mem changed changed' => ?_, fun {id} ge lt owned => ?_,
    fun s first => ?_⟩
  · rw [read]
    by_cases early : id.index < c'.tree.size
    · exact List.mem_append_left _ (here.within ge early mem changed)
    · exact List.mem_append_right _ (there.within (Nat.le_of_not_lt early) lt mem changed)
  · by_cases early : id.index < c'.tree.size
    · by_cases early' : id'.index < c'.tree.size
      · exact here.single ge early ge' early' mem changed changed'
      · exact (apart ge early (Nat.le_of_not_lt early') lt' mem changed changed').elim
    · by_cases early' : id'.index < c'.tree.size
      · exact (apart ge' early' (Nat.le_of_not_lt early) lt mem changed' changed).elim
      · exact there.single (Nat.le_of_not_lt early) lt (Nat.le_of_not_lt early') lt' mem changed
          changed'
  · rw [read]
    by_cases early : id.index < c'.tree.size
    · simpa using R.placed_mono [] (c'.upTo c'') (here.placed ge early owned)
    · simpa using R.placed_mono (c.upTo c') [] (there.placed (Nat.le_of_not_lt early) lt owned)
  · rw [read] at first
    cases start : c.upTo c' with
    | cons x xs =>
      obtain rfl : x = s := by simpa [start] using first
      have mem : x ∈ c.upTo c' := by rw [start]; exact List.mem_cons_self
      rw [edit_first went went' sub there mem]
      exact here.first x (by rw [start]; rfl)
    | nil =>
      rw [start, List.nil_append] at first
      rw [edit_second went went' sub here (List.mem_of_mem_head? first)]
      exact there.first s first

end Join

/-- Nothing is read, and no tokens are changed for the nodes that are built. -/
theorem Local.still (same : c'.ahead = c.ahead)
    (none : ∀ {id}, c.tree.size ≤ id.index → id.index < c'.tree.size → R.owner id = false) :
    R.Local c c' := by
  have nothing : c.upTo c' = [] := Cursor.upTo_eq (by rw [same, List.nil_append])
  refine ⟨fun ge lt _ changed => absurd (leaves_of_unowned (none ge lt)) changed,
    fun ge lt _ _ _ changed => absurd (leaves_of_unowned (none ge lt)) changed,
    fun ge lt owned => ?_, fun s first => ?_⟩
  · rw [none ge lt] at owned
    contradiction
  rw [nothing] at first
  contradiction

section Stay

variable (went : Went k c c') (kept : c'.tree.KeptIn c''.tree) (same : c''.ahead = c'.ahead)
  (none : ∀ {id}, c'.tree.size ≤ id.index → id.index < c''.tree.size → R.owner id = false)

include went kept none

theorem edit_stay (s : Seen) :
    R.edit c.tree.size c''.tree.size s = R.edit c.tree.size c'.tree.size s :=
  edit_left went.kept.size_le kept.size_le fun _ ge lt => leaves_of_unowned (none ge lt)

include same

/-- No tokens are changed for the nodes that are built after the last token read. -/
theorem rewritten_stay : R.rewritten c c'' = R.rewritten c c' := by
  rw [rewritten, rewritten, Cursor.upTo, Cursor.upTo, same]
  exact List.flatMap_congr fun s _ => edit_stay went kept none s

theorem Local.stay (here : R.Local c c') : R.Local c c'' := by
  have read : c.upTo c'' = c.upTo c' := by rw [Cursor.upTo, Cursor.upTo, same]
  have early {id : NodeId} {s : Seen} (lt : id.index < c''.tree.size) (changed : ¬ R.Leaves id s) :
      id.index < c'.tree.size := by
    by_contra late
    exact changed (leaves_of_unowned (none (Nat.le_of_not_lt late) lt))
  refine ⟨fun ge lt mem changed => read ▸ here.within ge (early lt changed) mem changed,
    fun ge lt ge' lt' mem changed changed' => here.single ge (early lt changed) ge'
      (early lt' changed') mem changed changed', fun {id} ge lt owned => ?_, fun s first => ?_⟩
  · rw [read]
    by_cases early : id.index < c'.tree.size
    · exact here.placed ge early owned
    · rw [none (Nat.le_of_not_lt early) lt] at owned
      contradiction
  · rw [edit_stay went kept none]
    exact here.first s (read ▸ first)

end Stay

/-- Tokens are changed for the node that is added last: some of those read, the first of them not,
and none for which they are changed already. -/
theorem Local.own (here : R.Local c c') (le : c.tree.size ≤ c'.tree.size)
    (same : c''.ahead = c'.ahead) (size : c''.tree.size = c'.tree.size + 1)
    (within : ∀ s ∈ R.tokens, ¬ R.Leaves ⟨c'.tree.size⟩ s → s ∈ c.upTo c')
    (alone : ∀ s ∈ R.tokens, ¬ R.Leaves ⟨c'.tree.size⟩ s →
      ∀ id : NodeId, c.tree.size ≤ id.index → id.index < c'.tree.size → R.Leaves id s)
    (placed : R.Placed ⟨c'.tree.size⟩ (c.upTo c'))
    (first : ∀ s ∈ (c.upTo c').head?, R.Leaves ⟨c'.tree.size⟩ s) : R.Local c c'' := by
  have read : c.upTo c'' = c.upTo c' := by rw [Cursor.upTo, Cursor.upTo, same]
  have last {id : NodeId} (lt : id.index < c''.tree.size) :
      id.index < c'.tree.size ∨ id = ⟨c'.tree.size⟩ := by
    rw [size] at lt
    exact (Nat.lt_succ_iff_lt_or_eq.mp lt).imp_right (congrArg NodeId.mk)
  refine ⟨fun {id s} ge lt mem changed => ?_,
    fun {id id' s} ge lt ge' lt' mem changed changed' => ?_, fun {id} ge lt owned => ?_,
    fun s head => ?_⟩
  · rw [read]
    obtain early | rfl := last lt
    · exact here.within ge early mem changed
    · exact within s mem changed
  · obtain early | rfl := last lt
    · obtain early' | rfl := last lt'
      · exact here.single ge early ge' early' mem changed changed'
      · exact absurd (alone s mem changed' id ge early) changed
    · obtain early' | rfl := last lt'
      · exact absurd (alone s mem changed id' ge' early') changed'
      · rfl
  · rw [read]
    obtain early | rfl := last lt
    · exact here.placed ge early owned
    · exact placed
  · rw [read] at head
    rw [size, edit_succ le, first s head]
    exact here.first s head

theorem view_of_still (went : Went k c c') (nothing : c.upTo c' = []) : c.view = c'.view := by
  rw [Cursor.view, Cursor.view, went.ahead, nothing, List.nil_append]

/-- Where the first of two parts leaves off, both runs go on alike. -/
theorem follows_of_rest {r : List Seen} (went : Went k c c') (here : R.Local c c')
    (alike : c.upTo c' ≠ [] → R.Alike c.words ((R.rewritten c c' ++ r).map Seen.token))
    (rest : c.upTo c' = [] → R.Follows c'.view r) : R.Follows c.view (R.rewritten c c' ++ r) := by
  cases read : c.upTo c' with
  | nil =>
    rw [rewritten, read, List.flatMap_nil, List.nil_append, view_of_still went read]
    exact rest read
  | cons s more =>
    obtain ⟨others, kept⟩ := here.first s (by rw [read]; rfl)
    refine ⟨c.words_eq ▸ alike (by rw [read]; exact List.cons_ne_nil _ _), ?_⟩
    rw [rewritten, read, List.flatMap_cons, kept, Cursor.view, went.ahead, read]
    exact ⟨_, _, _, _, rfl, rfl, rfl, .same⟩

theorem Rest.near_of_nil {r r' : List Seen} (h : R.Rest e [] r r') : R.Follows r r' := by
  cases e with
  | near => exact h
  | free =>
    obtain h | ⟨⟨s, last, -⟩, -⟩ := h
    · exact h
    · contradiction

/-- What may follow both parts may follow the second one. -/
theorem Rest.second {w w' r r' : List Seen} (h : R.Rest e (w ++ w') r r')
    (nothing : w' = [] → R.Follows r r') : R.Rest e w' r r' := by
  cases e with
  | near => exact h
  | free =>
    obtain h | resumes := h
    · exact .inl h
    cases last : w'.getLast? with
    | none => exact .inl (nothing (List.getLast?_eq_none_iff.mp last))
    | some s =>
      have same : (w ++ w').getLast? = w'.getLast? := by rw [List.getLast?_append, last]; rfl
      exact .inr ⟨same ▸ resumes.last, resumes.noElse, resumes.noElse', resumes.some'⟩

/-- After tokens the last of which is no semicolon, both runs go on alike. -/
theorem Rest.near_of_calm {w r r' : List Seen} (h : R.Rest e w r r')
    (calm : e = .free → ∀ s ∈ w.getLast?, s.token.isSemicolon = false) : R.Follows r r' := by
  cases e with
  | near => exact h
  | free =>
    obtain h | ⟨⟨s, last, semicolon, -⟩, -⟩ := h
    · exact h
    · rw [calm rfl s last] at semicolon
      contradiction

theorem Arrives.bind {out : Except GrammarError (α × Cursor)} {Q : α → Cursor → Prop}
    {S : β → Cursor → Prop} {f : α → Parser β} (h : Arrives out Q)
    (next : ∀ a c, Q a c → Arrives (f a c) S) :
    Arrives (out >>= fun x => f x.1 x.2) S := by
  cases out with
  | error e => exact h
  | ok x => exact next x.1 x.2 h

theorem Arrives.post {out : Except GrammarError (α × Cursor)} {Q S : α → Cursor → Prop}
    (h : Arrives out Q) (imp : ∀ a c, Q a c → S a c) : Arrives out S := by
  cases out with
  | error e => exact h
  | ok x => exact imp x.1 x.2 h

/-! ## Rules -/

namespace Tracks

variable {p p' q q' : Parser α} {f f' : α → Parser β} {V V' : α → α → Facts} {U : β → β → Facts}

/-- A run of two parsers, one after the other. -/
theorem exists_of_bind {b : β} (h : (p >>= f) c = .ok (b, c'')) :
    ∃ a c', p c = .ok (a, c') ∧ f a c' = .ok (b, c'') := by
  simp only [Bind.bind, StateT.bind, Except.bind] at h
  cases first : p c with
  | error e => simp [first] at h
  | ok out => exact ⟨out.1, out.2, rfl, by simpa only [first] using h⟩

theorem bind_run {a : α} (h : p c = .ok (a, c')) : (p >>= f) c = f a c' := by
  simp only [Bind.bind, StateT.bind, h, Except.bind]

theorem mono (h : R.Tracks e j H P p p' V) (le : j.implies k = true) :
    R.Tracks e k H P p p' V := by
  intro c a c' run ready head
  obtain ⟨went, more⟩ := h run ready head
  exact ⟨went.mono le, more⟩

theorem ofFirm (h : R.Tracks e .firm H P p p' V) : R.Tracks e k H P p p' V :=
  h.mono (Manner.firm_implies k)

theorem ofCalm {calm : Bool} (h : R.Tracks e .calmly H P p p' V) :
    R.Tracks e ⟨false, calm⟩ H P p p' V :=
  h.mono (Manner.calmly_implies calm)

/-- What may be followed by more may be followed by less. -/
theorem ofFree (h : R.Tracks .free k H P p p' V) : R.Tracks .near k H P p p' V := by
  intro c a c' run ready head
  obtain ⟨went, more⟩ := h run ready head
  exact ⟨went, fun kept sub => ⟨(more kept sub).1, fun r rest => (more kept sub).2 r (.inl rest)⟩⟩

/-- After a token that is no semicolon nothing but what nearly follows may follow. -/
theorem toFree (h : R.Tracks .near j H P p p' V) (calm : j.calm = true)
    (le : j.implies k = true) : R.Tracks e k H P p p' V := by
  intro c a c' run ready head
  obtain ⟨went, more⟩ := h run ready head
  refine ⟨went.mono le, fun kept sub => ⟨(more kept sub).1, fun r rest => (more kept sub).2 r ?_⟩⟩
  exact rest.near_of_calm fun _ => went.manner.2 calm

theorem pre {H' : Token → Prop} {P' : Facts} (h : R.Tracks e k H P p p' V)
    (head : ∀ t, H' t → H t) (facts : ∀ t u, P'.holds t u → P.holds t u) :
    R.Tracks e k H' P' p p' V := by
  intro c a c' run ready first
  obtain ⟨went, more⟩ := h run ready (head _ first)
  refine ⟨went, fun kept sub => ?_⟩
  obtain ⟨here, more⟩ := more kept sub
  refine ⟨here, fun r rest => ?_⟩
  obtain ⟨alike, more⟩ := more r rest
  exact ⟨alike, fun d view ready' known => more d view ready' (facts _ _ known)⟩

theorem anywhere (h : R.KeepsUp e k p p' V) : R.Tracks e k H P p p' V :=
  h.pre (fun _ _ => trivial) fun _ _ _ => trivial

/-- A second parser that goes on in another way only where nothing is asked of it. -/
theorem ofArrives (h : R.Tracks e k H P p q' V)
    (same : ∀ d S, Arrives (q' d) S → Arrives (p' d) S) : R.Tracks e k H P p p' V := by
  intro c a c' run ready first
  obtain ⟨went, more⟩ := h run ready first
  refine ⟨went, fun kept sub => ⟨(more kept sub).1, fun r rest => ?_⟩⟩
  obtain ⟨alike, arrives⟩ := (more kept sub).2 r rest
  exact ⟨alike, fun d view ready' known => same d _ (arrives d view ready' known)⟩

/-- A run that is too deep keeps up with any. -/
theorem exhausted (h : R.Tracks e k H P p p' V) {V' : α → α → Facts} :
    R.Tracks e k H P p (Parser.fail .tooDeep) V' := by
  intro c a c' run ready first
  obtain ⟨went, more⟩ := h run ready first
  refine ⟨went, fun kept sub => ?_⟩
  obtain ⟨here, more⟩ := more kept sub
  exact ⟨here, fun r rest => ⟨(more r rest).1, fun _ _ _ _ => rfl⟩⟩

/-- What holds of no trees. -/
theorem vacuous {q' : Parser α} {V' : α → α → Facts} (h : R.Tracks e k H P p p' V)
    (never : ∀ t u, ¬ Q.holds t u) : R.Tracks e k H Q p q' V' := by
  intro c a c' run ready first
  obtain ⟨went, more⟩ := h run ready first
  refine ⟨went, fun kept sub => ?_⟩
  obtain ⟨here, more⟩ := more kept sub
  exact ⟨here, fun r rest => ⟨(more r rest).1, fun d _ _ known => (never _ _ known).elim⟩⟩

/-- No such token comes next. -/
theorem never (none : ∀ t, ¬ H t) : R.Tracks e k H P p p' V :=
  fun _ _ _ _ _ head => (none _ head).elim

/-- The first run does not succeed. -/
theorem fail {problem : Problem} : R.Tracks e k H P (Parser.fail problem) p' V :=
  fun _ _ _ ran => nomatch ran

theorem bind [Nonempty α] (first : R.Tracks .near j H P p p' V)
    (next : ∀ a b, R.Tracks e (k.rest e j) (fun _ => True) (P.and (V a b)) (f a) (f' b) U) :
    R.Tracks e k H P (p >>= f) (p' >>= f') U := by
  intro c b c'' run ready head
  obtain ⟨a, c', run, run'⟩ := exists_of_bind run
  obtain ⟨went, more⟩ := first run ready head
  obtain ⟨went', -⟩ := next a (Classical.arbitrary α) run' went.ready trivial
  refine ⟨went.append went', fun kept sub => ?_⟩
  obtain ⟨here, more⟩ := more (went'.kept.trans kept) sub
  have sub' := went.suffix sub
  obtain ⟨there, again⟩ := (next a (Classical.arbitrary α) run' went.ready trivial).2 kept sub'
  refine ⟨Local.append went went' sub here there, fun r rest => ?_⟩
  have read := Cursor.upTo_append went.ahead went'.ahead
  have rewritten := rewritten_append went went' sub here there
  rw [read] at rest ⊢
  rw [rewritten, List.append_assoc]
  have nothing : c'.upTo c'' = [] → R.Follows c''.view r := fun nil => by
    rw [nil, List.append_nil] at rest
    refine rest.near_of_calm fun free => went.manner.2 ?_
    by_contra restless
    refine went'.manner.1 ?_ nil
    simp only [Bool.not_eq_true] at restless
    simp [Manner.rest, free, restless]
  have rest' := rest.second nothing
  have follows := follows_of_rest went' there (again r rest').1 nothing
  obtain ⟨alike, arrives⟩ := more _ follows
  refine ⟨fun some => ?_, fun d view ready' known => ?_⟩
  · cases start : c.upTo c' with
    | nil =>
      have nil : R.rewritten c c' = [] := by rw [Rewriting.rewritten, start, List.flatMap_nil]
      have same : c.words = c'.words := by
        rw [Cursor.words_eq, Cursor.words_eq, view_of_still went start]
      rw [nil, same, List.nil_append]
      refine (again r rest').1 fun nil' => some ?_
      rw [start, nil', List.nil_append]
    | cons s more => exact alike (by rw [start]; exact List.cons_ne_nil _ _)
  · refine (arrives d view ready' known).bind ?_
    rintro a' d' ⟨view', ready'', kept', value⟩
    obtain ⟨-, again⟩ := (next a a' run' went.ready trivial).2 kept sub'
    have known' : (P.and (V a a')).holds c'.tree d'.tree :=
      ⟨P.lasting went.kept kept' known, value⟩
    refine ((again r rest').2 d' view' ready'' known').post ?_
    rintro b' d'' ⟨view'', ready₃, kept'', value'⟩
    exact ⟨view'', ready₃, kept'.trans kept'', value'⟩

end Tracks

/-- No tokens are changed for the nodes of a kind. -/
def Spares (R : Rewriting) (kind : Kind) : Prop :=
  ∀ id, R.owner id = true → R.tree.kind? (some id) ≠ some kind

theorem Spares.of {kind : Kind} (ordinary : editable.contains kind = false) : R.Spares kind := by
  intro id owned known
  obtain ⟨k, mem, found⟩ := R.owned owned
  rw [known] at found
  obtain rfl := Option.some.inj found
  simp [mem] at ordinary

/-! ## Without reading -/

/-- Parsers that read nothing where the two runs stand as told. -/
def StillAt (R : Rewriting) (J : Cursor → Cursor → Prop) (P : Facts) (p p' : Parser α)
    (V : α → α → Facts) : Prop :=
  ∀ ⦃c a c'⦄, p c = .ok (a, c') → c.Ready →
    c'.Ready ∧ c.tree.KeptIn c'.tree ∧ c'.ahead = c.ahead ∧
    (c'.tree.KeptIn R.tree →
      (∀ {id}, c.tree.size ≤ id.index → id.index < c'.tree.size → R.owner id = false) ∧
      ∀ d, d.Ready → J c d → P.holds c.tree d.tree →
        Arrives (p' d) fun b d' => d'.view = d.view ∧ d'.Ready ∧ d.tree.KeptIn d'.tree ∧
          (V a b).holds c'.tree d'.tree)

/-- Parsers that read nothing and do not look ahead either. -/
abbrev Still (R : Rewriting) (P : Facts) (p p' : Parser α) (V : α → α → Facts) : Prop :=
  StillAt R (fun _ _ => True) P p p' V

namespace Still

variable {p p' : Parser α} {f f' : α → Parser β} {V V' : α → α → Facts} {U : β → β → Facts}

theorem tracks {calm : Bool} (h : R.Still P p p' V) : R.Tracks e ⟨false, calm⟩ H P p p' V := by
  intro c a c' run ready _
  obtain ⟨ready', kept', same, more⟩ := h run ready
  have went := Went.still ready' kept' same
  have nothing : c.upTo c' = [] := Cursor.upTo_eq (by rw [same, List.nil_append])
  refine ⟨went.mono (Manner.calmly_implies calm), fun kept _ => ?_⟩
  obtain ⟨none, arrives⟩ := more kept
  refine ⟨.still same none, fun r rest => ⟨fun some => absurd nothing some, ?_⟩⟩
  intro d view ready'' known
  rw [rewritten, nothing, List.flatMap_nil, List.nil_append] at view
  exact (arrives d ready'' trivial known).post fun b d' h => ⟨h.1.trans view, h.2⟩

theorem pre (h : R.Still P p p' V) (facts : ∀ t u, Q.holds t u → P.holds t u) :
    R.Still Q p p' V := by
  intro c a c' run ready
  obtain ⟨ready', kept, same, more⟩ := h run ready
  refine ⟨ready', kept, same, fun kept => ?_⟩
  exact ⟨(more kept).1, fun d ready₂ here known => (more kept).2 d ready₂ here (facts _ _ known)⟩

/-- What holds of no trees. -/
theorem vacuous {q' : Parser α} (h : R.Still P p p' V) (never : ∀ t u, ¬ Q.holds t u) :
    R.Still Q p q' V' := by
  intro c a c' run ready
  obtain ⟨ready', kept, same, more⟩ := h run ready
  exact ⟨ready', kept, same, fun kept => ⟨(more kept).1, fun d _ _ known => (never _ _ known).elim⟩⟩

theorem pure {a b : α} (h : ∀ t u, P.holds t u → (V a b).holds t u) :
    R.Still P (Pure.pure a) (Pure.pure b) V := by
  intro c x c' run ready
  cases run
  exact ⟨ready, .refl _, rfl, fun _ => ⟨fun ge lt => (Nat.not_lt.mpr ge lt).elim,
    fun d ready' _ known => ⟨rfl, ready', .refl _, h _ _ known⟩⟩⟩

theorem owner_of_add {t : Tree} (span : Span) (shape : Shape)
    (kept : (t.add span shape).1.KeptIn R.tree) (spared : R.Spares shape.kind) :
    R.owner ⟨t.size⟩ = false := by
  rw [Bool.eq_false_iff]
  intro owned
  obtain ⟨n, found, -, same⟩ := t.exists_node?_add_new span shape
  have known : (t.add span shape).1.kind? (some ⟨t.size⟩) = some shape.kind := by
    simp [Tree.kind?, Tree.deref?, found, Node.kind, same]
  exact spared _ owned (kept.kind? known)

theorem owner_of_lt_add {t : Tree} (span : Span) (shape : Shape) {id : NodeId}
    (unowned : R.owner ⟨t.size⟩ = false) (ge : t.size ≤ id.index)
    (lt : id.index < (t.add span shape).1.size) : R.owner id = false := by
  rw [Tree.size_add] at lt
  obtain rfl : id = ⟨t.size⟩ := congrArg NodeId.mk (Nat.le_antisymm (Nat.le_of_lt_succ lt) ge)
  exact unowned

/-- A node for which no tokens are changed. -/
theorem nodeIf {start start' : UInt32} {shape shape' : Shape}
    (like : ∀ t u, P.holds t u → Shape.Like (Option.Rel fun x y => (R.Same x y).holds t u)
      t.names u.names shape shape') :
    R.Still P (Parser.node start shape >>= fun id =>
      if R.owner id = true then Parser.fail .tooDeep else Pure.pure id)
      (Parser.node start' shape') R.Same := by
  intro c id c' run ready
  let span : Span := ⟨c.tree.file, start, c.previousEnd⟩
  change (if R.owner ⟨c.tree.size⟩ = true then Parser.fail .tooDeep else Pure.pure ⟨c.tree.size⟩ :
    Parser NodeId) { c with tree := (c.tree.add span shape).1 } = _ at run
  split at run
  · contradiction
  next unowned =>
  cases run
  rw [Bool.not_eq_true] at unowned
  refine ⟨ready.of_tree _, .add _ _ _, rfl, fun kept => ⟨fun ge lt =>
    owner_of_lt_add span shape unowned ge lt, fun d ready' _ known => ?_⟩⟩
  refine ⟨rfl, ready'.of_tree _, .add _ _ _, ?_⟩
  obtain ⟨n, found, -, rfl⟩ := c.tree.exists_node?_add_new span shape
  obtain ⟨m, found', -, rfl⟩ :=
    d.tree.exists_node?_add_new ⟨d.tree.file, start', d.previousEnd⟩ shape'
  refine R.same_node unowned found found' ?_
  refine (like _ _ known).mono fun r r' related => ?_
  cases related with
  | none => exact .none
  | some same => exact .some ((R.Same _ _).lasting (.add _ _ _) (.add _ _ _) same)

theorem nodeOf {start start' : UInt32} {shape shape' : Shape}
    (like : ∀ t u, P.holds t u → Shape.Like (Option.Rel fun x y => (R.Same x y).holds t u)
      t.names u.names shape shape')
    (spared : R.Spares shape.kind) :
    R.Still P (Parser.node start shape) (Parser.node start' shape') R.Same := by
  intro c id c' run ready
  let span : Span := ⟨c.tree.file, start, c.previousEnd⟩
  cases run
  refine ⟨ready.of_tree _, .add _ _ _, rfl, fun kept => ?_⟩
  have unowned := owner_of_add (t := c.tree) span shape kept spared
  have run : (Parser.node start shape >>= fun id => if R.owner id = true then Parser.fail .tooDeep
      else Pure.pure id) c = .ok (⟨c.tree.size⟩, { c with tree := (c.tree.add span shape).1 }) := by
    change (if R.owner ⟨c.tree.size⟩ = true then Parser.fail .tooDeep
      else Pure.pure ⟨c.tree.size⟩ : Parser NodeId) _ = _
    rw [if_neg (by simp [unowned])]
    rfl
  exact (nodeIf like run ready).2.2.2 kept

theorem node {start start' : UInt32} {shape shape' : Shape}
    (like : ∀ t u, P.holds t u → Shape.Like (Option.Rel fun x y => (R.Same x y).holds t u)
      t.names u.names shape shape')
    (ordinary : editable.contains shape.kind = false) :
    R.Still P (Parser.node start shape) (Parser.node start' shape') R.Same :=
  nodeOf like (.of ordinary)

theorem identifierNode {start start' : UInt32} {name : Text} {type type' : Ref} {optional : Bool}
    (same : ∀ t u, P.holds t u → (Facts.option R.Same type type').holds t u) :
    R.Still P (Parser.identifierNode start name type optional)
      (Parser.identifierNode start' name type' optional) R.Same := by
  intro c id c' run ready
  let named : Tree := { c.tree with names := (c.tree.names.intern name).1 }
  let span : Span := ⟨c.tree.file, start, c.previousEnd⟩
  let shape : Shape := .identifier ⟨(c.tree.names.intern name).2, type, optional⟩
  cases run
  refine ⟨ready.of_tree _, .addIdentifier _ _ _ _ _, rfl, fun kept => ?_⟩
  have unowned := owner_of_add (t := named) span shape kept
    (.of rfl)
  refine ⟨fun ge lt => owner_of_lt_add (t := named) span shape unowned ge lt,
    fun d ready' _ known => ?_⟩
  refine ⟨rfl, ready'.of_tree _, .addIdentifier _ _ _ _ _, ?_⟩
  obtain ⟨n, found, -, shaped⟩ := named.exists_node?_add_new span shape
  obtain ⟨m, found', -, shaped'⟩ := Tree.exists_node?_add_new
    { d.tree with names := (d.tree.names.intern name).1 } ⟨d.tree.file, start', d.previousEnd⟩
    (.identifier ⟨(d.tree.names.intern name).2, type', optional⟩)
  refine R.same_node unowned found found' ?_
  rw [shaped, shaped']
  refine .identifier (Names.getElem?_intern _ _) (Names.getElem?_intern _ _) ?_
  exact (Facts.option R.Same type type').lasting (.addIdentifier _ _ _ _ _)
    (.addIdentifier _ _ _ _ _) (same _ _ known)

end Still

namespace Tracks

variable {p p' q q' : Parser α} {f f' : α → Parser β} {V V' : α → α → Facts} {U : β → β → Facts}

/-- What comes after the first part reads nothing. -/
theorem thenStillAt [Nonempty α] (first : R.Tracks e k H P p p' V)
    (next : ∀ a b, R.StillAt (fun c d => ∃ w, R.Rest e w c.view d.view) (P.and (V a b)) (f a) (f' b)
      U) :
    R.Tracks e k H P (p >>= f) (p' >>= f') U := by
  intro c b c'' run ready head
  obtain ⟨a, c', run, run'⟩ := exists_of_bind run
  obtain ⟨went, more⟩ := first run ready head
  obtain ⟨ready', kept', same, -⟩ := next a (Classical.arbitrary α) run' went.ready
  have view : c''.view = c'.view := by rw [Cursor.view, same, ← Cursor.view]
  have read : c.upTo c'' = c.upTo c' := by rw [Cursor.upTo, Cursor.upTo, same]
  refine ⟨went.stay ready' kept' same, fun kept sub => ?_⟩
  obtain ⟨here, more⟩ := more (kept'.trans kept) sub
  obtain ⟨none, -⟩ := (next a (Classical.arbitrary α) run' went.ready).2.2.2 kept
  have rewritten := rewritten_stay went kept' same none
  refine ⟨here.stay went kept' same none, fun r rest => ?_⟩
  rw [read, view] at rest
  obtain ⟨alike, arrives⟩ := more r rest
  rw [read, rewritten]
  refine ⟨alike, fun d view ready₂ known => ?_⟩
  refine (arrives d view ready₂ known).bind ?_
  rintro a' d' ⟨view', ready₃, kept₂, value⟩
  obtain ⟨-, arrives'⟩ := (next a a' run' went.ready).2.2.2 kept
  have known' : (P.and (V a a')).holds c'.tree d'.tree :=
    ⟨P.lasting went.kept kept₂ known, value⟩
  refine (arrives' d' ready₃ ⟨_, view'.symm ▸ rest⟩ known').post ?_
  rintro b' d'' ⟨view'', ready₄, kept₃, value'⟩
  exact ⟨view''.trans view', ready₄, kept₂.trans kept₃, value'⟩

theorem thenStill [Nonempty α] (first : R.Tracks e k H P p p' V)
    (next : ∀ a b, R.Still (P.and (V a b)) (f a) (f' b) U) :
    R.Tracks e k H P (p >>= f) (p' >>= f') U := by
  refine thenStillAt first fun a b c x c' run ready => ?_
  obtain ⟨ready', kept, same, more⟩ := next a b run ready
  refine ⟨ready', kept, same, fun kept => ⟨(more kept).1, fun d ready₂ _ known => ?_⟩⟩
  exact (more kept).2 d ready₂ trivial known

theorem map {g : α → β} (h : R.Tracks e k H P p p' V)
    (imp : ∀ a b t u, (V a b).holds t u → (U (g a) (g b)).holds t u) [Nonempty α] :
    R.Tracks e k H P (g <$> p) (g <$> p') U := by
  change R.Tracks e k H P (p >>= fun a => Pure.pure (g a)) (p' >>= fun a => Pure.pure (g a)) U
  exact thenStill h fun a b => .pure fun t u known => imp a b t u known.2

theorem discard (h : R.Tracks e k H P p p' V) [Nonempty α] :
    R.Tracks e k H P (Functor.discard p) (Functor.discard p') fun _ _ => .none :=
  map h fun _ _ _ _ _ => trivial

theorem pure {a b : α} {calm : Bool} (h : ∀ t u, P.holds t u → (V a b).holds t u) :
    R.Tracks e ⟨false, calm⟩ H P (Pure.pure a) (Pure.pure b) V :=
  (Still.pure h).tracks

section Node

variable {start start' : UInt32} {calm : Bool}

theorem nodeOf {shape shape' : Shape}
    (like : ∀ t u, P.holds t u → Shape.Like (Option.Rel fun x y => (R.Same x y).holds t u)
      t.names u.names shape shape')
    (spared : R.Spares shape.kind) :
    R.Tracks e ⟨false, calm⟩ H P (Parser.node start shape) (Parser.node start' shape') R.Same :=
  (Still.nodeOf like spared).tracks

theorem node {shape shape' : Shape}
    (like : ∀ t u, P.holds t u → Shape.Like (Option.Rel fun x y => (R.Same x y).holds t u)
      t.names u.names shape shape')
    (ordinary : editable.contains shape.kind = false) :
    R.Tracks e ⟨false, calm⟩ H P (Parser.node start shape) (Parser.node start' shape') R.Same :=
  nodeOf like (.of ordinary)

/-- A node that tokens may be changed for, where it is known what comes of it if they are. -/
theorem closing [Nonempty α] {start start' : α → UInt32} {shape shape' : α → Shape}
    (first : R.Tracks e k H P p p' V)
    (like : ∀ a b t u, P.holds t u → (V a b).holds t u →
      Shape.Like (Option.Rel fun x y => (R.Same x y).holds t u) t.names u.names (shape a)
        (shape' b))
    (owned : ∀ ⦃c a c' id c''⦄, p c = .ok (a, c') →
      Parser.node (start a) (shape a) c' = .ok (id, c'') → c.Ready → H c.peek.bare →
      Went k c c' → c''.tree.KeptIn R.tree → c.ahead <:+ R.tokens → R.owner id = true →
      R.Repeats e P (p' >>= fun b => Parser.node (start' b) (shape' b)) (R.Same id) c c'') :
    R.Tracks e k H P (p >>= fun a => Parser.node (start a) (shape a))
      (p' >>= fun b => Parser.node (start' b) (shape' b)) R.Same := by
  intro c id c'' run ready head
  obtain ⟨a, c', run, last⟩ := exists_of_bind run
  obtain ⟨went, -⟩ := first run ready head
  have went' : Went k c c'' := by
    cases last
    exact went.stay (went.ready.of_tree _) (.add _ _ _) rfl
  refine ⟨went', fun kept sub => ?_⟩
  cases known : R.owner id with
  | true => exact owned run last ready head went kept sub known
  | false =>
    have rest := thenStill first fun a b => @Still.nodeIf _ _ (start a) (start' b) _ _
      fun t u known => like a b t u known.1 known.2
    have guarded : (p >>= fun a => Parser.node (start a) (shape a) >>= fun id =>
        if R.owner id = true then Parser.fail .tooDeep else Pure.pure id) c = .ok (id, c'') := by
      rw [bind_run run, bind_run last, if_neg (by simp [known])]
      rfl
    exact (rest guarded ready head).2 kept sub

theorem identifierNode {name : Text} {type type' : Ref} {optional : Bool}
    (same : ∀ t u, P.holds t u → (Facts.option R.Same type type').holds t u) :
    R.Tracks e ⟨false, calm⟩ H P (Parser.identifierNode start name type optional)
      (Parser.identifierNode start' name type' optional) R.Same :=
  (Still.identifierNode same).tracks

end Node

/-- A part that is read in one of two ways, and what comes after it. -/
theorem join [Nonempty α] {b : Bool} {A A' B B' : Parser α}
    (first : R.Tracks .near j H P (if b = true then A else B) (if b = true then A' else B') V)
    (next : ∀ a b, R.Tracks e (k.rest e j) (fun _ => True) (P.and (V a b)) (f a) (f' b) U) :
    R.Tracks e k H P (if b = true then A >>= f else B >>= f)
      (if b = true then A' >>= f' else B' >>= f') U := by
  have joined {A B : Parser α} {f : α → Parser β} :
      (if b = true then A >>= f else B >>= f) = (if b = true then A else B) >>= f := by
    split <;> rfl
  rw [joined, joined]
  exact bind first next

/-- A part that may be missing, and what comes after it. -/
theorem optionalOf [Nonempty α] {q q' : Parser Bool} {C C' : Parser β} (A A' : Parser α)
    {B B' : Parser α}
    (first : R.Tracks .near j H P (q >>= fun x => if x = true then A else B)
      (q' >>= fun x => if x = true then A' else B') V)
    (next : ∀ a b, R.Tracks e (k.rest e j) (fun _ => True) (P.and (V a b)) (f a) (f' b) U)
    (split : C = A >>= f) (split' : C' = A' >>= f') :
    R.Tracks e k H P (q >>= fun x => if x = true then C else B >>= f)
      (q' >>= fun x => if x = true then C' else B' >>= f') U := by
  have joined {A B : Parser α} {f : α → Parser β} {q : Parser Bool} :
      (q >>= fun x => if x = true then A >>= f else B >>= f) =
        (q >>= fun x => if x = true then A else B) >>= f := by
    rw [bind_assoc]
    congr 1
    funext x
    split <;> rfl
  rw [split, split', joined, joined]
  exact bind first next

theorem optional [Nonempty α] {q q' : Parser Bool} {A A' B B' : Parser α}
    (first : R.Tracks .near j H P (q >>= fun x => if x = true then A else B)
      (q' >>= fun x => if x = true then A' else B') V)
    (next : ∀ a b, R.Tracks e (k.rest e j) (fun _ => True) (P.and (V a b)) (f a) (f' b) U) :
    R.Tracks e k H P (q >>= fun x => if x = true then A >>= f else B >>= f)
      (q' >>= fun x => if x = true then A' >>= f' else B' >>= f') U :=
  optionalOf A A' first next rfl rfl

theorem ite {b : Prop} [Decidable b] (yes : b → R.Tracks e k H P p p' V)
    (no : ¬ b → R.Tracks e k H P q q' V) :
    R.Tracks e k H P (if b then p else q) (if b then p' else q') V := by
  split
  next h => exact yes h
  next h => exact no h

end Tracks

/-! ## Looking -/

/-- Two cursors that look alike to a parser. -/
structure Beside (R : Rewriting) (c d : Cursor) : Prop where
  ready : c.Ready
  ready' : d.Ready
  alike : R.Alike c.words d.words
  near : Near c.peek.bare d.peek.bare
  newline : d.newlineBefore = c.newlineBefore

theorem Follows.beside {d : Cursor} (h : R.Follows c.view d.view) (ready : c.Ready)
    (ready' : d.Ready) : R.Beside c d := by
  obtain ⟨s, more, s', more', view, view', broken, near⟩ := h.near
  obtain ⟨others, ahead⟩ := ready.ahead_eq
  obtain ⟨others', ahead'⟩ := ready'.ahead_eq
  rw [Cursor.view, ahead, List.map_cons, List.cons.injEq] at view
  rw [Cursor.view, ahead', List.map_cons, List.cons.injEq] at view'
  obtain ⟨rfl, -⟩ := view
  obtain ⟨rfl, -⟩ := view'
  refine ⟨ready, ready', ?_, near, broken⟩
  rw [Cursor.words_eq, Cursor.words_eq]
  exact h.alike

/-- Where the same token comes next, looking further finds nothing that makes a difference. -/
theorem Beside.close {d : Cursor} (h : R.Beside c d) (same : d.peek.bare = c.peek.bare) :
    ∃ ts us, c.words = c.peek.bare :: ts ∧ d.words = c.peek.bare :: us ∧ Close c.peek.bare ts
    us := by
  obtain ⟨t, ts, rest, peek⟩ := h.ready.exists_cons
  obtain ⟨t', us, rest', peek'⟩ := h.ready'.exists_cons
  have words : c.words = c.peek.bare :: ts.map Token.bare := by
    rw [Cursor.words, rest, List.map_cons, peek]
  have words' : d.words = c.peek.bare :: us.map Token.bare := by
    rw [Cursor.words, rest', List.map_cons, ← same, peek']
  refine ⟨_, _, words, words', R.close ?_⟩
  rw [← words, ← words']
  exact h.alike

theorem mem_view_of_some {s : Seen} {more : List Seen} {d : Cursor} (view : d.view = s :: more)
    (ready : d.Ready) : s = ⟨d.peek.bare, d.newlineBefore⟩ := by
  obtain ⟨others, ahead⟩ := ready.ahead_eq
  rw [Cursor.view, ahead, List.map_cons, List.cons.injEq] at view
  exact view.1.symm

/-- The token seen first is passed. -/
theorem advance_of_view {s : Seen} {more : List Seen} {d : Cursor} (view : d.view = s :: more)
    (ready : d.Ready) (live : s.token.kind ≠ .eof) :
    d.peek.bare = s.token ∧ d.advance.Ready ∧ d.advance.view = more := by
  have first := mem_view_of_some view ready
  have peek : d.peek.bare = s.token := congrArg Seen.token first.symm
  obtain ⟨ahead, ready'⟩ := ready.advance fun last => live (peek ▸ last)
  rw [Cursor.view, ahead, List.map_cons] at view
  exact ⟨peek, ready', (List.cons.inj view).2⟩

/-- Where the second run stands when the tokens before it are the rewritten ones. -/
theorem beside_of_view {r : List Seen} {d : Cursor} (went : Went k c c') (here : R.Local c c')
    (alike : c.upTo c' ≠ [] → R.Alike c.words ((R.rewritten c c' ++ r).map Seen.token))
    (rest : R.Rest e (c.upTo c') c'.view r) (view : d.view = R.rewritten c c' ++ r)
    (ready : c.Ready) (ready' : d.Ready) : R.Beside c d := by
  have follows := follows_of_rest went here alike fun nil => by
    rw [nil] at rest
    exact rest.near_of_nil
  rw [← view] at follows
  exact follows.beside ready ready'

/-- What is read next is the same in both runs. -/
theorem peek_of_view {r : List Seen} {d : Cursor} (went : Went k c c') (here : R.Local c c')
    (reads : k.reads = true) (view : d.view = R.rewritten c c' ++ r) (ready : c.Ready)
    (ready' : d.Ready) : d.peek.bare = c.peek.bare := by
  cases read : c.upTo c' with
  | nil => exact absurd read (went.manner.1 reads)
  | cons s others =>
    obtain ⟨more, edit⟩ := here.first s (by rw [read]; rfl)
    have ahead := went.ahead
    rw [read] at ahead
    have view' : c.view = s.bare :: (others ++ c'.ahead).map Seen.bare := by
      rw [Cursor.view, ahead]
      rfl
    rw [rewritten, read, List.flatMap_cons, edit] at view
    have peek := mem_view_of_some view ready'
    have peek' := mem_view_of_some view' ready
    exact congrArg Seen.token (peek.symm.trans peek')

/-- Both runs look at what is ahead and go on with what they find. -/
theorem Tracks.look {γ : Type} {p p' : Parser α} {V : α → α → Facts} (b b' : Cursor → γ)
    {A B : γ → Parser α} {S : γ → γ → Prop} {κ : γ → Manner} {G : γ → Token → Prop}
    (split : ∀ c, p c = A (b c) c) (split' : ∀ c, p' c = B (b' c) c)
    (agree : ∀ ⦃c d⦄, R.Beside c d → H c.peek.bare → P.holds c.tree d.tree →
      ((κ (b c)).reads = true → d.peek.bare = c.peek.bare) → S (b c) (b' d))
    (go : ∀ x y, S x y → R.Tracks e (κ x) (G x) P (A x) (B y) V)
    (head : ∀ c : Cursor, H c.peek.bare → G (b c) c.peek.bare) (reflexive : ∀ x, S x x)
    (le : ∀ x, (κ x).implies k) : R.Tracks e k H P p p' V := by
  intro c a c' run ready first
  rw [split] at run
  obtain ⟨went, more⟩ := go _ _ (reflexive _) run ready (head c first)
  refine ⟨went.mono (le _), fun kept sub => ?_⟩
  obtain ⟨here, more⟩ := more kept sub
  refine ⟨here, fun r rest => ?_⟩
  obtain ⟨alike, -⟩ := more r rest
  refine ⟨alike, fun d view ready' known => ?_⟩
  have agreed := agree (beside_of_view went here alike rest view ready ready') first known
    fun reads => peek_of_view went here reads view ready ready'
  rw [split']
  obtain ⟨-, more⟩ := (go _ _ agreed run ready (head c first)).2 kept sub
  exact (more r rest).2 d view ready' known

end TreeLint.Script.Rewriting
