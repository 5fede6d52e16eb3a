import TreeLint.Proofs.Script.Token
import TreeLint.Proofs.Tree.Growth
import TreeLint.Script.Cursor

/-! # Nodes in a row

While a parser reads on, the nodes it has built and not yet put below another stand in a row,
in the order of the text, between the token where it began and the end of the last token read
(`Row`).  Rows are joined end to end (`Row.trans`), and a row of nodes can be put below a node
that spans from the one place to the other (`Row.close`), for that is how `Parser.node` counts.

`Runs` says of a parser what it does from certain cursors, and `Moves` that it makes a row of
its own wherever it begins.  The number of tokens that are read at least is part of a row: it
bounds the nesting, which so never becomes too deep.
-/

namespace TreeLint.Script

/-! ## Runs of a parser -/

/-- From such a cursor the parser gives a value and a cursor as described, or it stops at a
problem of the script.  Either way the tree it leaves was built step by step on the one before. -/
def Runs {α : Type} (P : Cursor → Prop) (p : Parser α) (Q : α → Cursor → Prop) : Prop :=
  ∀ c, P c → match p c with
    | .ok (a, c') => c.tree.Steps c'.tree ∧ Q a c'
    | .error e => c.tree.Steps e.tree ∧ e.problem ≠ .tooDeep

/-- A parser that only looks. -/
class Looks {α : Type} (p : Parser α) : Prop where
  look : ∀ c, ∃ a, p c = .ok (a, c)

namespace Runs

variable {α β : Type} {P P' : Cursor → Prop} {Q R : α → Cursor → Prop} {S : β → Cursor → Prop}
  {p : Parser α} {f : α → Parser β}

theorem pure {a : α} (h : ∀ c, P c → Q a c) : Runs P (Pure.pure a) Q :=
  fun c start => ⟨.refl, h c start⟩

theorem fail {problem : Problem} (h : problem ≠ .tooDeep) : Runs P (Parser.fail problem) Q :=
  fun _ _ => ⟨.refl, h⟩

theorem bind (h : Runs P p Q) (h' : ∀ a, Runs (Q a) (f a) S) : Runs P (p >>= f) S := by
  intro c start
  have first := h c start
  simp only [Bind.bind, StateT.bind, Except.bind]
  cases result : p c with
  | error e => simpa only [result] using first
  | ok out =>
    simp only [result] at first
    obtain ⟨before, first⟩ := first
    have second := h' out.1 out.2 first
    cases result' : f out.1 out.2 with
    | error e =>
      simp only [result'] at second ⊢
      exact ⟨before.trans second.1, second.2⟩
    | ok out' =>
      simp only [result'] at second ⊢
      exact ⟨before.trans second.1, second.2⟩

theorem pre (h : Runs P p Q) (imp : ∀ c, P' c → P c) : Runs P' p Q :=
  fun c start => h c (imp c start)

theorem post (h : Runs P p Q) (imp : ∀ a c, Q a c → R a c) : Runs P p R := by
  intro c start
  have first := h c start
  cases result : p c with
  | error e => simpa only [result] using first
  | ok out =>
    simp only [result] at first ⊢
    exact ⟨first.1, imp _ _ first.2⟩

theorem map {g : α → β} (h : Runs P p fun a => S (g a)) : Runs P (g <$> p) S :=
  h.bind fun _ => .pure fun _ done => done

theorem discard {S : Unit → Cursor → Prop} (h : Runs P p fun _ => S ()) :
    Runs P (Functor.discard p) S :=
  h.map

theorem ite {b : Prop} [Decidable b] {q : Parser α} (yes : b → Runs P p Q)
    (no : ¬ b → Runs P q Q) : Runs P (if b then p else q) Q := by
  split
  next h => exact yes h
  next h => exact no h

theorem look [Looks p] (h : ∀ a, Runs P (f a) S) : Runs P (p >>= f) S := by
  intro c start
  obtain ⟨a, same⟩ := Looks.look (p := p) c
  simp only [Bind.bind, StateT.bind, Except.bind, same]
  exact h a c start

/-- A part whose value is not used. -/
theorem skip {q : Parser β} (h : Runs P p fun _ => P') (rest : Runs P' q S) :
    Runs P (Functor.discard p >>= fun _ => q) S :=
  Runs.bind (discard (S := fun _ => P') h) fun _ => rest

theorem stop {problem : Problem} (h : problem ≠ .tooDeep) :
    Runs P (Parser.fail problem >>= f) S :=
  fun _ _ => ⟨.refl, h⟩

/-- The next token is looked at. -/
theorem peeked {f : Token → Parser β} (h : ∀ t, Runs (fun c => P c ∧ c.peek = t) (f t) S) :
    Runs P (Parser.peek >>= f) S :=
  fun c start => h c.peek c ⟨start, rfl⟩

/-- One of two parts, and what follows it either way. -/
theorem branch {b : Prop} [Decidable b] {q : Parser α} (yes : b → Runs P p Q)
    (no : ¬ b → Runs P q Q) (rest : ∀ a, Runs (Q a) (f a) S) :
    Runs P (if b then p >>= f else q >>= f) S := by
  split
  next h => exact (yes h).bind rest
  next h => exact (no h).bind rest

/-- A part without a value that may be left out, and what follows it either way. -/
theorem when {b : Prop} [Decidable b] {p : Parser Unit} {f : Unit → Parser β}
    (yes : b → Runs P p fun _ => P') (no : ¬ b → ∀ c, P c → P' c) (rest : Runs P' (f ()) S) :
    Runs P (if b then p >>= f else f ()) S := by
  split
  next h => exact Runs.bind (yes h) fun _ => rest
  next h => exact rest.pre (no h)

/-- A part that may be left out, and what follows it either way. -/
theorem optional {b : Bool} {p : Parser β} {R : Option β → Cursor → Prop}
    {f : Option β → Parser α} (yes : b = true → Runs P p fun a => R (some a))
    (no : b = false → ∀ c, P c → R none c) (rest : ∀ r, Runs (R r) (f r) Q) :
    Runs P (if b = true then some <$> p >>= f else Pure.pure none >>= f) Q := by
  cases b with
  | true => exact (yes rfl).map.bind rest
  | false => exact (pure (no rfl)).bind rest

end Runs

section Looks

open TreeLint.Script.Parser

instance {α : Type} (a : α) : Looks (pure a) := ⟨fun _ => ⟨a, rfl⟩⟩

instance : Looks (get : Parser Cursor) := ⟨fun c => ⟨c, rfl⟩⟩

instance {α β : Type} (p : Parser α) (f : α → Parser β) [Looks p] [∀ a, Looks (f a)] :
    Looks (p >>= f) where
  look c := by
    obtain ⟨a, first⟩ := Looks.look (p := p) c
    obtain ⟨b, second⟩ := Looks.look (p := f a) c
    exact ⟨b, by simp only [Bind.bind, StateT.bind, Except.bind, first, second]⟩

instance {α : Type} (b : Prop) [Decidable b] (p q : Parser α) [Looks p] [Looks q] :
    Looks (if b then p else q) := by
  split <;> infer_instance

instance : Looks peek := inferInstanceAs (Looks (get >>= fun c => pure c.peek))

instance (n : Nat) : Looks (peekAt n) := inferInstanceAs (Looks (get >>= fun _ => pure _))

instance (kind : TokenKind) : Looks (atKind kind) :=
  inferInstanceAs (Looks (peek >>= fun _ => pure _))

instance (text : Text) : Looks (sees text) := inferInstanceAs (Looks (peek >>= fun _ => pure _))

instance (text : Text) : Looks (seesNext text) :=
  inferInstanceAs (Looks (peekAt 1 >>= fun _ => pure _))

instance : Looks newlineBefore := inferInstanceAs (Looks (get >>= fun _ => pure _))

instance (n : Nat) : Looks (arrowAhead n) := inferInstanceAs (Looks (get >>= fun _ => pure _))

end Looks

/-! ## Places -/

/-- The tokens of a file, and where it ends. -/
structure Stream where
  file : FileId
  tokens : List Token
  limit : UInt32

/-- A span that is not empty, from the start of a token to the end of a token. -/
structure Stream.Delimits (s : Stream) (span : Span) : Prop where
  file : span.file = s.file
  proper : span.start < span.stop
  first : ∃ t ∈ s.tokens, t.kind ≠ .eof ∧ t.start = span.start
  last : ∃ t ∈ s.tokens, t.kind ≠ .eof ∧ t.stop = span.stop

/-- A cursor with at most so many tokens to read, in order, and a settled tree. -/
structure Stands (s : Stream) (n : Nat) (c : Cursor) : Prop where
  bound : c.rest.length ≤ n
  ordered : Ordered s.limit c.previousEnd c.rest
  among : c.rest ⊆ s.tokens
  file : c.tree.file = s.file
  settled : c.tree.Settled s.Delimits

/-- One cursor comes from another by reading tokens, but not the end. -/
structure Passes (c₀ : Cursor) (read : List Token) (c : Cursor) : Prop where
  rest : c₀.rest = read ++ c.rest
  stop : c.previousEnd = read.foldl (fun _ t => t.stop) c₀.previousEnd
  more : c.rest ≠ []

theorem Cursor.peek_eq {c : Cursor} {t : Token} {ts : List Token} (h : c.rest = t :: ts) :
    c.peek = t := by
  simp [peek, peekAt, h]

theorem Ordered.after {limit before : UInt32} {read ts : List Token}
    (h : Ordered limit before (read ++ ts)) (more : ts ≠ []) :
    Ordered limit (read.foldl (fun _ t => t.stop) before) ts ∧
      before ≤ read.foldl (fun _ t => t.stop) before := by
  induction read generalizing before with
  | nil => exact ⟨h, UInt32.le_refl _⟩
  | cons t read ih =>
    obtain ⟨-, apart, proper, rest⟩ := h.of_cons (List.append_ne_nil_of_right_ne_nil read more)
    obtain ⟨ordered, later⟩ := ih rest
    exact ⟨ordered, UInt32.le_trans apart (UInt32.le_trans (UInt32.le_of_lt proper) later)⟩

/-- What has been read ends with a token, and is not empty. -/
theorem Ordered.last {limit before : UInt32} {t : Token} {read ts : List Token}
    (h : Ordered limit before (t :: read ++ ts)) (more : ts ≠ []) :
    t.kind ≠ .eof ∧ t.start < read.foldl (fun _ t => t.stop) t.stop ∧
      ∃ u ∈ t :: read, u.kind ≠ .eof ∧ u.stop = read.foldl (fun _ t => t.stop) t.stop := by
  induction read generalizing before t with
  | nil =>
    obtain ⟨kind, -, proper, -⟩ := h.of_cons more
    exact ⟨kind, proper, t, List.mem_cons_self, kind, rfl⟩
  | cons u read ih =>
    obtain ⟨kind, -, proper, rest⟩ := h.of_cons (List.append_ne_nil_of_right_ne_nil _ more)
    obtain ⟨-, later, v, mem, last⟩ := ih rest
    obtain ⟨-, apart, -, -⟩ := rest.of_cons (List.append_ne_nil_of_right_ne_nil read more)
    refine ⟨kind, ?_, v, List.mem_cons_of_mem _ mem, last⟩
    exact UInt32.lt_trans (UInt32.lt_of_lt_of_le proper apart) later

namespace Passes

variable {s : Stream} {n : Nat} {c₀ c c' : Cursor} {read read' : List Token}

theorem refl (h : Stands s n c₀) : Passes c₀ [] c₀ := ⟨rfl, rfl, h.ordered.ne_nil⟩

theorem trans (h : Passes c₀ read c) (h' : Passes c read' c') : Passes c₀ (read ++ read') c' where
  rest := by rw [h.rest, h'.rest, List.append_assoc]
  stop := by rw [h'.stop, h.stop, List.foldl_append]
  more := h'.more

theorem length (h : Passes c₀ read c) : c₀.rest.length = read.length + c.rest.length := by
  rw [h.rest, List.length_append]

theorem ordered (h : Passes c₀ read c) (stands : Stands s n c₀) :
    Ordered s.limit c.previousEnd c.rest := by
  have all := stands.ordered
  rw [h.rest] at all
  rw [h.stop]
  exact (all.after h.more).1

theorem previousEnd_le (h : Passes c₀ read c) (stands : Stands s n c₀) :
    c₀.previousEnd ≤ c.previousEnd := by
  have all := stands.ordered
  rw [h.rest] at all
  rw [h.stop]
  exact (all.after h.more).2

end Passes

theorem Ordered.le_peek {limit : UInt32} {c : Cursor} (h : Ordered limit c.previousEnd c.rest) :
    c.previousEnd ≤ c.peek.start := by
  generalize before : c.previousEnd = e at h
  generalize rest : c.rest = ts at h
  cases h with
  | eof _ start apart =>
    rw [Cursor.peek_eq rest, start]
    exact apart
  | cons _ apart _ _ =>
    rw [Cursor.peek_eq rest]
    exact apart

namespace Passes

variable {s : Stream} {n : Nat} {c₀ c : Cursor} {read : List Token}

/-- What has been read spans from token to token. -/
theorem delimits (h : Passes c₀ read c) (stands : Stands s n c₀) (some : read ≠ []) :
    s.Delimits ⟨s.file, c₀.peek.start, c.previousEnd⟩ := by
  cases read with
  | nil => contradiction
  | cons t read =>
    have all := stands.ordered
    rw [h.rest] at all
    obtain ⟨kind, proper, u, mem, last⟩ := all.last h.more
    have among : t :: read ⊆ s.tokens := fun x mem =>
      stands.among (h.rest ▸ List.mem_append_left _ mem)
    rw [Cursor.peek_eq h.rest, h.stop]
    exact ⟨rfl, proper, ⟨t, among List.mem_cons_self, kind, rfl⟩, ⟨u, among mem, last⟩⟩

theorem peek_le (h : Passes c₀ read c) (stands : Stands s n c₀) :
    c₀.peek.start ≤ c.peek.start := by
  cases read with
  | nil =>
    have same : c₀.peek = c.peek := by
      obtain ⟨t, ts, rest⟩ := List.exists_cons_of_ne_nil h.more
      rw [Cursor.peek_eq rest, Cursor.peek_eq (h.rest.trans rest)]
    rw [same]
    exact UInt32.le_refl _
  | cons t read =>
    have proper := (h.delimits stands (List.cons_ne_nil t read)).proper
    exact UInt32.le_of_lt (UInt32.lt_of_lt_of_le proper (h.ordered stands).le_peek)

end Passes

/-! ## Rows -/

/-- A cursor that comes from another by reading at least so many tokens, with the nodes that
were built on the way and wait for a parent. -/
structure Row (s : Stream) (n : Nat) (c₀ : Cursor) (m : Nat) (ids : List NodeId) (c : Cursor) :
    Prop where
  stands : Stands s n c₀
  passes : ∃ read, m ≤ read.length ∧ Passes c₀ read c
  file : c.tree.file = s.file
  grows : Tree.Grows s.Delimits c₀.tree c.tree ids
  lined : Tree.Lined ⟨s.file, c₀.peek.start, c.previousEnd⟩
    (ids.map fun id => c.tree.span (some id))

theorem Lined.append {f : FileId} {a b a' b' : UInt32} {xs ys : List Span}
    (h : Tree.Lined ⟨f, a, b⟩ xs) (h' : Tree.Lined ⟨f, a', b'⟩ ys) (start : a ≤ a')
    (apart : b ≤ a') (stop : b ≤ b') : Tree.Lined ⟨f, a, b'⟩ (xs ++ ys) := by
  simp only [Tree.Lined, Span.contains, Bool.and_eq_true, beq_iff_eq, decide_eq_true_eq] at h h' ⊢
  refine ⟨?_, List.isChain_append.mpr ⟨h.2, h'.2, ?_⟩⟩
  · intro sp mem
    rcases List.mem_append.mp mem with mem | mem
    · obtain ⟨⟨file, first⟩, last⟩ := h.1 sp mem
      exact ⟨⟨file, first⟩, UInt32.le_trans last stop⟩
    · obtain ⟨⟨file, first⟩, last⟩ := h'.1 sp mem
      exact ⟨⟨file, UInt32.le_trans start first⟩, last⟩
  · intro x mem y mem'
    obtain ⟨-, last⟩ := h.1 x (List.mem_of_mem_getLast? mem)
    obtain ⟨⟨-, first⟩, -⟩ := h'.1 y (List.mem_of_mem_head? mem')
    exact UInt32.le_trans last (UInt32.le_trans apart first)

namespace Row

variable {s : Stream} {n j : Nat} {c₀ c c' : Cursor} {m k : Nat} {ids new : List NodeId}

theorem start (h : Stands s n c₀) : Row s n c₀ 0 [] c₀ where
  stands := h
  passes := ⟨[], Nat.le_refl 0, .refl h⟩
  file := h.file
  grows := .refl h.settled
  lined := ⟨by simp, by simp⟩

theorem least (h : Row s n c₀ m ids c) (le : k ≤ m) : Row s n c₀ k ids c where
  stands := h.stands
  passes := by
    obtain ⟨read, more, passes⟩ := h.passes
    exact ⟨read, Nat.le_trans le more, passes⟩
  file := h.file
  grows := h.grows
  lined := h.lined

theorem exactly (h : Row s n c₀ m ids c) {read : List Token} (passes : Passes c₀ read c) :
    Row s n c₀ read.length ids c where
  stands := h.stands
  passes := ⟨read, Nat.le_refl _, passes⟩
  file := h.file
  grows := h.grows
  lined := h.lined

/-- After so many tokens there are so many fewer to read. -/
theorem stand (h : Row s n c₀ m ids c) (enough : n ≤ j + m) : Stands s j c where
  bound := by
    obtain ⟨read, more, passes⟩ := h.passes
    have := passes.length
    have := h.stands.bound
    omega
  ordered := by
    obtain ⟨read, -, passes⟩ := h.passes
    exact passes.ordered h.stands
  among := by
    obtain ⟨read, -, passes⟩ := h.passes
    exact fun t mem => h.stands.among (passes.rest ▸ List.mem_append_right _ mem)
  file := h.file
  settled := h.grows.settled

/-- Nodes at the end of a row may be left where they are. -/
theorem drop (h : Row s n c₀ m (ids ++ new) c) : Row s n c₀ m ids c where
  stands := h.stands
  passes := h.passes
  file := h.file
  grows := h.grows.sublist (List.sublist_append_left ids new)
  lined := by
    have lined := h.lined
    rw [List.map_append] at lined
    exact ⟨fun sp mem => lined.1 sp (List.mem_append_left _ mem),
      (List.isChain_append.mp lined.2).1⟩

theorem delimits (h : Row s n c₀ m ids c) (some : 0 < m) :
    s.Delimits ⟨s.file, c₀.peek.start, c.previousEnd⟩ := by
  obtain ⟨read, more, passes⟩ := h.passes
  exact passes.delimits h.stands (List.ne_nil_of_length_pos (Nat.lt_of_lt_of_le some more))

/-- Rows are joined end to end. -/
theorem trans (h : Row s n c₀ m ids c) (h' : Row s j c k new c') :
    Row s n c₀ (m + k) (ids ++ new) c' where
  stands := h.stands
  passes := by
    obtain ⟨read, more, passes⟩ := h.passes
    obtain ⟨read', more', passes'⟩ := h'.passes
    refine ⟨read ++ read', ?_, passes.trans passes'⟩
    rw [List.length_append]
    exact Nat.add_le_add more more'
  file := h'.file
  grows := h.grows.trans h'.grows
  lined := by
    obtain ⟨read, -, passes⟩ := h.passes
    obtain ⟨read', -, passes'⟩ := h'.passes
    have kept : ids.map (fun id => c'.tree.span (some id))
        = ids.map fun id => c.tree.span (some id) := by
      refine List.map_congr_left fun id mem => ?_
      obtain ⟨n, found, -⟩ := h.grows.orphan id mem
      exact h'.grows.span_kept found
    rw [List.map_append, kept]
    exact Lined.append h.lined h'.lined (passes.peek_le h.stands) h'.stands.ordered.le_peek
      (passes'.previousEnd_le h'.stands)

/-- A node above the nodes of a row is added above nodes that are there. -/
theorem step (h : Row s n c₀ m ids c) {span : Span} {shape : Shape}
    (parts : Ref.compact shape.refs = ids) : c.tree.Step (c.tree.add span shape).1 := by
  refine .node fun id mem => ?_
  obtain ⟨node, found, -⟩ := h.grows.orphan id (parts ▸ mem)
  exact Tree.index_lt_size found

/-- A row is put below a node that spans from where it starts, or later, to the last token. -/
theorem closeFrom (h : Row s n c₀ m ids c) (shape : Shape) {start : UInt32}
    (delimits : s.Delimits ⟨s.file, start, c.previousEnd⟩)
    (lined : Tree.Lined ⟨s.file, start, c.previousEnd⟩ (ids.map fun id => c.tree.span (some id)))
    (later : c₀.peek.start ≤ start) (le : k ≤ m)
    (parts : ids.Nodup → Ref.compact shape.refs = ids) {tree : Tree} {id : NodeId}
    (added : c.tree.add ⟨c.tree.file, start, c.previousEnd⟩ shape = (tree, id)) :
    Row s n c₀ k [id] { c with tree } := by
  obtain ⟨read, more, passes⟩ := h.passes
  obtain rfl : tree = _ := (congrArg Prod.fst added).symm
  obtain rfl : id = _ := (congrArg Prod.snd added).symm
  rw [h.file]
  have grows := h.grows.add delimits (parts h.grows.nodup) lined
  refine ⟨h.stands, ⟨read, Nat.le_trans le more, passes.rest, passes.stop, passes.more⟩, h.file,
    grows, ?_⟩
  obtain ⟨node, found, -⟩ := grows.orphan _ (List.mem_singleton_self _)
  have span : node.span = ⟨s.file, start, c.previousEnd⟩ := by
    obtain ⟨-, span, -⟩ | ⟨old, found', -⟩ := Tree.node?_of_add found
    · exact span
    · exact absurd (Tree.index_lt_size found') (Nat.lt_irrefl _)
  simp [Tree.Lined, Tree.span_of_node? found, span, Span.contains, later]

/-- A row is put below a node that spans all that was read. -/
theorem close (h : Row s n c₀ m ids c) (shape : Shape) (reads : 0 < m) (le : k ≤ m)
    (parts : ids.Nodup → Ref.compact shape.refs = ids) {tree : Tree} {id : NodeId}
    (added : c.tree.add ⟨c.tree.file, c₀.peek.start, c.previousEnd⟩ shape = (tree, id)) :
    Row s n c₀ k [id] { c with tree } :=
  h.closeFrom shape (h.delimits reads) h.lined (UInt32.le_refl _) le parts added

/-- The last token read ends after the only node of a row starts. -/
theorem delimitsOnly {id : NodeId} (h : Row s n c₀ m [id] c) (reads : 0 < m) :
    s.Delimits ⟨s.file, (c.tree.span (some id)).start, c.previousEnd⟩ := by
  obtain ⟨node, found, -⟩ := h.grows.orphan id (List.mem_singleton_self id)
  have spans : s.Delimits (c.tree.span (some id)) := by
    rw [Tree.span_of_node? found]
    exact h.grows.settled.spans found
  have inside := h.lined.1 _ (List.mem_singleton_self _)
  simp only [Span.contains, Bool.and_eq_true, decide_eq_true_eq] at inside
  refine ⟨rfl, ?_, spans.first, (h.delimits reads).last⟩
  exact UInt32.lt_of_lt_of_le spans.proper inside.2

/-- A node on top of the only node of a row, which it starts with. -/
theorem closeOnly {id : NodeId} (h : Row s n c₀ m [id] c) (shape : Shape) (reads : 0 < m)
    (le : k ≤ m) (parts : Ref.compact shape.refs = [id]) {tree : Tree} {top : NodeId}
    (added : c.tree.add ⟨c.tree.file, (c.tree.span (some id)).start, c.previousEnd⟩ shape
      = (tree, top)) : Row s n c₀ k [top] { c with tree } := by
  have inside := h.lined.1 _ (List.mem_singleton_self _)
  simp only [Span.contains, Bool.and_eq_true, beq_iff_eq, decide_eq_true_eq] at inside
  refine h.closeFrom shape (h.delimitsOnly reads) ?_ inside.1.2 le (fun _ => parts) added
  simpa [Tree.Lined, Span.contains, inside.1.1] using inside.2

theorem withNames (h : Row s n c₀ m ids c) (names : Names) :
    Row s n c₀ m ids { c with tree := { c.tree with names } } where
  stands := h.stands
  passes := by
    obtain ⟨read, more, passes⟩ := h.passes
    exact ⟨read, more, passes.rest, passes.stop, passes.more⟩
  file := h.file
  grows := h.grows.withNames names
  lined := h.lined

end Row

/-! ## Moves -/

/-- At a cursor. -/
def At (s : Stream) (n : Nat) (c₀ : Cursor) (c : Cursor) : Prop := c = c₀ ∧ Stands s n c₀

theorem At.row {s : Stream} {n : Nat} {c₀ c : Cursor} (h : At s n c₀ c) : Row s n c₀ 0 [] c := by
  obtain ⟨rfl, stands⟩ := h
  exact .start stands

/-- Wherever there are no more tokens to read than `n`, the parser makes a row. -/
def Moves {α : Type} (s : Stream) (n : Nat) (p : Parser α) (reads : α → Nat)
    (nodes : α → List NodeId) : Prop :=
  ∀ c₀, Runs (At s n c₀) p fun a => Row s n c₀ (reads a) (nodes a)

/-- The parser reads a token at least and builds a node. -/
abbrev Yields (s : Stream) (n : Nat) (p : Parser NodeId) : Prop :=
  Moves s n p (fun _ => 1) fun id => [id]

/-- The parser builds a part that may be missing, and reads a token if it is not. -/
abbrev Offers {α : Type} (s : Stream) (n : Nat) (p : Parser (Option α))
    (nodes : α → List NodeId) : Prop :=
  Moves s n p (fun o => o.elim 0 fun _ => 1) fun o => o.elim [] nodes

section

variable {α β : Type} {s : Stream} {n j m : Nat} {c₀ : Cursor} {ids : List NodeId}
  {p : Parser α} {reads : α → Nat} {nodes : α → List NodeId} {Q : α → Cursor → Prop}

theorem Moves.of_row (h : ∀ c₀, Runs (Row s n c₀ 0 []) p fun a => Row s n c₀ (reads a) (nodes a)) :
    Moves s n p reads nodes :=
  fun c₀ => (h c₀).pre fun _ => At.row

/-- A row grows by what a parser does where it ends. -/
theorem Runs.frame
    (h : ∀ c, Row s n c₀ m ids c → Runs (At s j c) p fun a => Row s j c (reads a) (nodes a))
    (enough : n ≤ j + m) :
    Runs (Row s n c₀ m ids) p fun a => Row s n c₀ (m + reads a) (ids ++ nodes a) := by
  intro c row
  exact ((h c row).post fun _ _ more => row.trans more) c ⟨rfl, row.stand enough⟩

theorem Moves.call (h : Moves s j p reads nodes) (enough : n ≤ j + m) :
    Runs (Row s n c₀ m ids) p fun a => Row s n c₀ (m + reads a) (ids ++ nodes a) :=
  .frame (fun c _ => h c) enough

theorem Moves.andThen {f : α → Parser β} {S : β → Cursor → Prop} (h : Moves s j p reads nodes)
    (enough : n ≤ j + m)
    (rest : ∀ a, Runs (Row s n c₀ (m + reads a) (ids ++ nodes a)) (f a) S) :
    Runs (Row s n c₀ m ids) (p >>= f) S :=
  (h.call enough).bind rest

/-- A parser that moves anywhere goes on where a row ends. -/
theorem Moves.goesOn (h : Moves s n p reads nodes) :
    Runs (Row s n c₀ m ids) p fun a => Row s n c₀ (m + reads a) (ids ++ nodes a) :=
  h.call (Nat.le_add_right n m)

theorem Moves.flat {p : Parser (List NodeId)} {reads : List NodeId → Nat}
    (h : Moves s n p reads fun l => l.flatMap fun id => [id]) : Moves s n p reads fun l => l := by
  simpa only [List.flatMap_singleton'] using h

/-- The row begins where it is looked for. -/
theorem Runs.here {f : UInt32 → Parser α} (h : Runs (Row s n c₀ 0 []) (f c₀.peek.start) Q) :
    Runs (At s n c₀) (Parser.here >>= f) Q := by
  rintro c ⟨rfl, stands⟩
  exact h c (.start stands)

theorem Runs.peek {f : Token → Parser α} (h : Runs (At s n c₀) (f c₀.peek) Q) :
    Runs (At s n c₀) (Parser.peek >>= f) Q := by
  rintro c ⟨rfl, stands⟩
  exact h c ⟨rfl, stands⟩

/-- Part of a row that has a place of its own. -/
theorem Runs.within {f : UInt32 → Parser α}
    (h : ∀ c, Row s n c₀ m ids c → Runs (Row s j c 0 []) (f c.peek.start) Q)
    (enough : n ≤ j + m) :
    Runs (Row s n c₀ m ids) (Parser.here >>= f) Q :=
  fun c row => h c row c (.start (row.stand enough))

end

end TreeLint.Script
