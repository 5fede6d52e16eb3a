import TreeLint.Proofs.Rewriting.Insertion
import TreeLint.Proofs.Script.Heedless
import TreeLint.Proofs.Script.Returned

/-! # Awaiting what is returned

Right before some calls that are returned the word `await` is put in (`Awaits`).  A return statement
with such a call is a return statement still, and what it returns is the call awaited. -/

namespace TreeLint

/-- A return statement with a call that has come to be awaited. -/
def awaiting : Change where
  Between Q t u a b := t.kind? (some a) = some .returnStatement ∧
    u.kind? (some b) = some .returnStatement ∧ ∃ x y z, t.target (some a) = some x ∧
      u.target (some b) = some y ∧ u.kind? (some y) = some .awaitExpression ∧
        u.target (some y) = some z ∧ Q x z
  mono := by
    rintro Q Q' t u a b ⟨kind, kind', x, y, z, target, target', await, inner, related⟩ weaker
    exact ⟨kind, kind', x, y, z, target, target', await, inner, weaker x z related⟩
  lasting := by
    rintro Q t t' u u' a b ⟨kind, kind', x, y, z, target, target', await, inner, related⟩ grow grow'
    exact ⟨grow.kind? kind, grow'.kind? kind', x, y, z, grow.target target, grow'.target target',
      grow'.kind? await, grow'.target inner, related⟩
  kind := by
    rintro Q t u a b ⟨kind, kind', -⟩
    exact ⟨_, by decide, kind, kind'⟩

namespace Script

open Rewriting.Tracks (bind_run)

/-- What goes on in no way in the first run does not in the second either. -/
theorem Rewriting.Beside.finished {R : Rewriting} {c d : Cursor} (h : R.Beside c d)
    (finished : Parser.Finished c) : Parser.Finished d := by
  obtain ⟨⟨other, bang⟩, still, level, mark, assigns, comma⟩ := finished
  have spells (text : Text) (apart : text ∉ [utf8 "export", utf8 "function", utf8 "async"]) :
      d.peek.spells text = c.peek.spells text := h.near.spells apart
  refine ⟨⟨fun text mem => ?_, ?_⟩, ?_, fun own known => ?_, ?_, ?_, ?_⟩
  · rw [spells text ?_, other text mem]
    simp only [List.map_cons, List.map_nil, List.mem_cons, List.not_mem_nil, or_false] at mem
    obtain rfl | rfl | rfl | rfl := mem <;> decide
  · rw [spells _ (by decide), h.newline, bang]
  · rw [Parser.Still, spells _ (by decide), spells _ (by decide), h.newline]
    exact still
  · have same : operatorLevel? d.peek = operatorLevel? c.peek := h.near.operatorLevel?
    exact level own (same ▸ known)
  · rw [spells _ (by decide), mark]
  · have same : d.peek.isAssignment = c.peek.isAssignment := h.near.isAssignment
    rw [same, assigns]
  · rw [spells _ (by decide), comma]

/-- The word that is put in. -/
def Token.awaitWord : Token := (Token.ofText .word "await" 0).bare

/-- The word and the blank after it. -/
def Piece.await : List Piece := [⟨.token .word, "await"⟩, ⟨.blank, " "⟩]

/-! ## Reading the word -/

section Await

open TreeLint.Script.Parser Rewriting

variable {d : Cursor} {t : Token} {broken : Bool} {more : List Seen}
  (ready : d.Ready) (view : d.view = ⟨.awaitWord, broken⟩ :: ⟨t, false⟩ :: more)

include ready view

theorem peek_await : d.peek.bare = .awaitWord :=
  (congrArg Seen.token (Rewriting.mem_view_of_some view ready)).symm

theorem peekAt_await : (d.peekAt 1).bare = t := by
  rw [ready.peekAt_bare, Cursor.words_eq, view]
  rfl

/-- No arrow function starts with the word. -/
theorem arrowless_await (other : t.spells "=>" = false) : Arrowless d := by
  have peek := peek_await ready view
  have async : d.peek.spells "async" = false := by
    rw [← Token.bare_spells, peek]
    decide
  refine ⟨by rw [async]; rfl, ?_⟩
  rw [← arrowStarts_bare]
  change arrowStarts d.words = false
  rw [Cursor.words_eq, view]
  simp only [List.map_cons, arrowStarts, List.head?_cons, Option.any_some, other]
  rfl

/-- The operand of the word is read as if the word were not there. -/
theorem unary_await {Q : NodeId → Cursor → Prop} (starts : t.startsExpression) (m : Nat)
    (operand : ∀ m d₁, d₁.view = ⟨t, broken⟩ :: more → d₁.Ready → d₁.tree = d.tree →
      Arrives (unary (.ofDepth m) d₁) Q)
    {S : NodeId → Cursor → Prop} (awaited : ∀ b d₁, Q b d₁ →
      Arrives (node d.peek.start (.wrap .await (some b)) d₁) S) :
    Arrives (unary (.ofDepth m) d) S := by
  have peek := peek_await ready view
  have word : d.peek.kind = .word := congrArg Token.kind peek
  have spelled : d.peek.spells "await" = true := by
    rw [← Token.bare_spells, peek]
    decide
  have plain : unaryType? d.peek = none := by
    have same : unaryType? d.peek = unaryType? d.peek.bare := rfl
    rw [same, peek]
    decide
  have next : (d.peekAt 1).startsExpression = true := by
    have same : (d.peekAt 1).startsExpression = (d.peekAt 1).bare.startsExpression := rfl
    rw [same, peekAt_await ready view]
    exact starts
  rw [unary, bind_run peek_run]
  simp only [plain]
  change Arrives ((if (d.peek.spells "await" && decide (d.peek.kind = .word) &&
    (d.peekAt 1).startsExpression) = true then Functor.discard advance >>= fun _ =>
      (Grammar.ofDepth m).unary >>= fun b => node d.peek.start (.wrap .await (some b))
    else updated (.ofDepth m) d.peek.start : Parser NodeId) d) S
  rw [spelled, next]
  simp only [word, decide_true, Bool.and_self, if_true]
  change Arrives (((Grammar.ofDepth m).unary >>= fun b => node d.peek.start (.wrap .await (some b)))
    d.advance) S
  cases m with
  | zero => rfl
  | succ m =>
    obtain ⟨x, ready', view'⟩ := Cursor.exists_before ready view (by decide)
    have same : unary (.ofDepth m) { d.advance with previousEnd := x }
        = unary (.ofDepth m) d.advance :=
      unary_heedless (H := fun _ => True) d.advance x trivial
    have read := operand m _ view' ready' d.advance_tree
    rw [same] at read
    exact read.bind awaited

end Await

/-- What the first token of a call is like. -/
structure Token.Starts (t : Token) : Prop where
  starts : t.startsExpression
  other : ∀ text ∈ List.map utf8 ["=>", ",", ":", "=", "<"], t.spells text = false

/-- Return statements of a script and the calls that they return. -/
structure Awaits where
  tree : Tree
  tokens : List Seen
  ordered : tokens.Pairwise fun s t => s.token.start < t.token.start
  call? : NodeId → Option NodeId
  returned : ∀ {id call}, call? id = some call → tree.kind? (some id) = some .returnStatement ∧
    tree.target (some id) = some call ∧ tree.kind? (some call) = some .callExpression ∧
      call.index < id.index
  starts : ∀ s ∈ tokens, s.token.spells "new" ∨ s.token.startsExpression → s.token.Starts

namespace Awaits

variable (A : Awaits)

/-- Where the call starts that a statement returns. -/
def start (call : NodeId) : UInt32 := (A.tree.span (some call)).start

/-- The word is put in after the word `return` or an opening parenthesis. -/
structure Between (s t : Token) (new : List Token) : Prop where
  new : new = [.awaitWord]
  after : s.text = utf8 "return" ∨ s.text = utf8 "("
  before : ∀ text ∈ List.map utf8 ["=>", ",", ":", "=", "<"], t.spells text = false

theorem Between.unseen {s t : Token} {new : List Token} (h : Between s t new) : Unseen s t new := by
  obtain ⟨rfl, after, before⟩ := h
  refine ⟨?_, ?_, ?_, fun _ => ?_⟩
  · obtain after | after := after <;> rw [after] <;> decide
  · rw [List.forall_mem_singleton]
    decide
  · rw [List.forall_mem_singleton]
    exact fun spelled => absurd spelled (by decide)
  · rw [List.forall_mem_cons, List.forall_mem_singleton]
    exact ⟨before, by decide⟩

/-- A token right before the call that a statement returns. -/
def Placed (id : NodeId) (w : List Seen) : Prop :=
  ∀ call ∈ A.call? id, ∃ before s t after, w = before ++ s :: t :: after ∧
    t.token.start = A.start call ∧ t.token.Starts ∧
      (s.token.text = utf8 "return" ∨ s.token.text = utf8 "(")

def insertions : Insertions where
  tree := A.tree
  tokens := A.tokens
  ordered := A.ordered
  at? id := (A.call? id).map fun call => ⟨(A.start call).toNat, Piece.await⟩
  owned := by
    intro id some
    rw [Option.isSome_map] at some
    obtain ⟨call, found⟩ := Option.isSome_iff_exists.mp some
    exact ⟨_, by decide, (A.returned found).1⟩
  Placed := A.Placed
  placed_mono := by
    intro id w u v placed call found
    obtain ⟨before, s, t, after, rfl, known⟩ := placed call found
    exact ⟨u ++ before, s, t, after ++ v, by simp, known⟩
  inside := by
    intro id w new placed at_
    obtain ⟨call, found, rfl⟩ := Option.map_eq_some_iff.mp at_
    obtain ⟨before, s, t, after, rfl, start, -⟩ := placed call found
    exact ⟨before, s, t, after, rfl, by rw [start]⟩
  Between := Between
  unseen := Between.unseen
  change := awaiting

theorem changed_iff {id : NodeId} : A.insertions.changed id ↔ ∃ call, A.call? id = some call := by
  rw [← Option.isSome_iff_exists]
  exact Bool.eq_iff_iff.mp Option.isSome_map

/-! ## Calls and what becomes of them -/

open TreeLint.Script.Parser Rewriting

/-- The tokens of a call with the word put in before the first one. -/
def awaited (c c' : Cursor) (call : NodeId) : List Seen :=
  (c.upTo c').flatMap fun s => if s.token.start = A.start call then Piece.seenBefore Piece.await s
    else A.insertions.rewriting.edit c.tree.size c'.tree.size s

/-- The node awaits what has become of a call. -/
def waits (call b : NodeId) : Facts where
  holds t u := ∃ z, u.kind? (some b) = some .awaitExpression ∧ u.target (some b) = some z ∧
    (A.insertions.rewriting.Same call z).holds t u
  lasting := by
    rintro t t' u u' grow grow' ⟨z, kind, target, same⟩
    exact ⟨z, grow'.kind? kind, grow'.target target, Facts.lasting _ grow grow' same⟩

/-- A call that is read as a whole expression is read so as well with the word put in. -/
structure Wrapped (c : Cursor) (call : NodeId) (c' : Cursor) : Prop where
  went : Went .firm c c'
  near : A.insertions.rewriting.Local c c'
  first : ∃ before s after, c.upTo c' = before ++ s :: after ∧ s.token.start = A.start call ∧
    s.token.Starts ∧ ∀ b ∈ before, Opens b.token
  leaves : ∀ {id : NodeId} {s}, c.tree.size ≤ id.index → id.index < c'.tree.size → s ∈ A.tokens →
    s.token.start = A.start call → A.insertions.rewriting.Leaves id s
  reads : ∀ r, A.insertions.rewriting.Follows c'.view r →
    (∀ p : Token, p.text = utf8 "return" ∨ p.text = utf8 "(" →
      A.insertions.rewriting.Alike (p :: c.words) (p :: (A.awaited c c' call ++ r).map Seen.token)) ∧
    ∀ m d, d.view = A.awaited c c' call ++ r → d.Ready →
      Arrives (expression (.ofDepth m) d) fun b d' => d'.view = r ∧ d'.Ready ∧
        d.tree.KeptIn d'.tree ∧ (A.waits call b).holds c'.tree d'.tree

variable {A} {n : Nat} {c c' : Cursor} {a : NodeId}

theorem target_of_add (t : Tree) (span : Span) {form : WrapForm} {target : Ref} :
    (t.add span (.wrap form target)).1.target (some ⟨t.size⟩) = target := by
  obtain ⟨n, found, -, shape⟩ := t.exists_node?_add_new span (.wrap form target)
  have at_node : (t.add span (.wrap form target)).1.deref? (some ⟨t.size⟩) = some n := found
  simp [Tree.target, Tree.part?, at_node, shape]

theorem spares {kind : Kind} (other : kind ≠ .returnStatement) :
    A.insertions.rewriting.Spares kind := by
  intro id owned known
  obtain ⟨call, found⟩ := A.changed_iff.mp owned
  exact other (Option.some.inj (known.symm.trans (A.returned found).1))

theorem edit_of_leaves {s : Seen} {lo hi : Nat} (le : lo ≤ hi)
    (leaves : ∀ id : NodeId, lo ≤ id.index → id.index < hi → A.insertions.rewriting.Leaves id s) :
    A.insertions.rewriting.edit lo hi s = [s.bare] := by
  rw [edit_left (Nat.le_refl lo) le leaves, edit_self]

variable (kept : c'.tree.KeptIn A.tree) (sub : c.ahead <:+ A.tokens) (ready : c.Ready)
  (both : ∀ m, A.insertions.rewriting.Abreast (.ofDepth n) (.ofDepth m))
  (at_ : CallAt (.ofDepth n) c a c')

include kept sub ready both at_

theorem wrapped_of_begins (begins : Begins c a c') : A.Wrapped c a c' := by
  have unary (m : Nat) : A.insertions.rewriting.KeepsUp .near .firm (Parser.unary (.ofDepth n))
      (Parser.unary (.ofDepth m)) A.insertions.rewriting.Same :=
    Tracks.unary (both m) (Tracks.objectLiteral (both m) (spares (by decide)))
  obtain ⟨run, call⟩ := at_.operand
  have tracks (m : Nat) := unary m run ready trivial
  obtain ⟨went, more⟩ := tracks 0
  obtain ⟨near, -⟩ := more kept sub
  obtain ⟨after, read⟩ := went.upTo_cons ready
  have start : A.start a = c.peek.start := by
    rw [Awaits.start, kept.span call, begins.start]
  have inside {t : Seen} (mem : t ∈ c.upTo c') : t ∈ A.tokens :=
    went.mem_tokens (R := A.insertions.rewriting) sub mem
  have mem : (⟨c.peek, c.newlineBefore⟩ : Seen) ∈ A.tokens :=
    inside (by rw [read]; exact List.mem_cons_self)
  have nodup : (c.upTo c').Nodup := by
    refine A.insertions.rewriting.distinct.sublist (List.Sublist.trans ?_ sub.sublist)
    rw [went.ahead]
    exact List.sublist_append_left _ _
  have apart : ∀ t ∈ after, t.token.start ≠ A.start a := by
    intro t later same
    rw [read] at nodup inside
    have first := Insertions.eq_of_start (I := A.insertions)
      (inside (List.mem_cons_of_mem _ later)) mem (same.trans start)
    exact (List.nodup_cons.mp nodup).1 (first ▸ later)
  have leaves {id : NodeId} {s : Seen} (ge : c.tree.size ≤ id.index) (lt : id.index < c'.tree.size)
      (mem' : s ∈ A.tokens) (same : s.token.start = A.start a) :
      A.insertions.rewriting.Leaves id s := by
    rw [Insertions.eq_of_start (I := A.insertions) mem' mem (same.trans start)]
    exact Insertions.leaves_first near (went.upTo_sub (R := A.insertions.rewriting) sub) read ge lt
  let tail := after.flatMap (A.insertions.rewriting.edit c.tree.size c'.tree.size)
  have rewritten : A.insertions.rewriting.rewritten c c'
      = ⟨c.peek.bare, c.newlineBefore⟩ :: tail := by
    rw [Rewriting.rewritten, read, List.flatMap_cons, edit_of_leaves went.kept.size_le
      fun id ge lt => leaves ge lt mem start.symm]
    rfl
  have awaited : A.awaited c c' a
      = ⟨.awaitWord, c.newlineBefore⟩ :: ⟨c.peek.bare, false⟩ :: tail := by
    have others : after.flatMap (fun s => if s.token.start = A.start a then
        Piece.seenBefore Piece.await s
          else A.insertions.rewriting.edit c.tree.size c'.tree.size s) = tail :=
      List.flatMap_congr fun t later => if_neg (apart t later)
    rw [Awaits.awaited, read, List.flatMap_cons, if_pos start.symm, others]
    rfl
  have first := A.starts _ mem begins.first
  refine ⟨went, near, ⟨[], _, after, read, start.symm, first, List.forall_mem_nil _⟩, leaves,
    fun r follows => ⟨?_, ?_⟩⟩
  · intro p after
    have alike := ((((tracks 0).2 kept sub).2 r follows).1 (went.manner.1 rfl))
    rw [rewritten] at alike
    obtain ⟨more, ahead⟩ := ready.ahead_eq
    have words : c.words = c.peek.bare :: (more.map Seen.bare).map Seen.token := by
      rw [Cursor.words_eq, Cursor.view, ahead]
      rfl
    rw [awaited]
    rw [words] at alike ⊢
    have between : Between p c.peek.bare [.awaitWord] := ⟨rfl, after, first.other⟩
    exact .put between alike
  · intro m d view ready'
    rw [awaited] at view
    refine expression_arrives (unary_await ready' view first.starts m
      (Q := fun b d' => d'.view = r ∧ d'.Ready ∧ d.tree.KeptIn d'.tree ∧
        (A.insertions.rewriting.Same a b).holds c'.tree d'.tree)
      (fun m d₁ view₁ ready₁ tree => ?_) (fun b d₁ known => ?_)) ?_ (fun b d' known => ?_)
    · have arrives := (((tracks m).2 kept sub).2 r follows).2 d₁ (by rw [rewritten]; exact view₁)
        ready₁ trivial
      rw [tree] at arrives
      exact arrives
    · obtain ⟨view₁, ready₁, kept₁, same⟩ := known
      let span : Span := ⟨d₁.tree.file, d.peek.start, d₁.previousEnd⟩
      let await : Shape := .wrap .await (some b)
      have grown : d₁.tree.KeptIn (d₁.tree.add span await).1 := .add _ _ _
      refine ⟨view₁, ready₁.of_tree _, kept₁.trans grown, b, (kind?_of_add d₁.tree span await).1,
        target_of_add d₁.tree span, ?_⟩
      exact Facts.lasting _ (.refl _) grown same
    · exact arrowless_await ready' view (first.other _ (by decide))
    · exact ((known.1.symm ▸ follows).beside went.ready known.2.1).finished at_.finished

theorem wrapped_of_enclosed {c₁ : Cursor} (opens : Opens c.peek) (inner : A.Wrapped c.advance a c₁)
    (closes : c₁.peek.spells ")") (last : c' = c₁.advance) : A.Wrapped c a c' := by
  have unary (m : Nat) : A.insertions.rewriting.KeepsUp .near .firm (Parser.unary (.ofDepth n))
      (Parser.unary (.ofDepth m)) A.insertions.rewriting.Same :=
    Tracks.unary (both m) (Tracks.objectLiteral (both m) (spares (by decide)))
  obtain ⟨run, call⟩ := at_.operand
  obtain ⟨went, more⟩ := unary 0 run ready trivial
  obtain ⟨near, -⟩ := more kept sub
  have live : c.peek.kind ≠ .eof := by simp [opens.kind]
  have live₁ : c₁.peek.kind ≠ .eof := Token.kind_ne_eof_of_spells closes
  obtain ⟨ahead, ready₀⟩ := ready.advance live
  obtain ⟨ahead₁, ready₁⟩ := inner.went.ready.advance live₁
  subst last
  have read : c.upTo c₁.advance = ⟨c.peek, c.newlineBefore⟩ ::
      (c.advance.upTo c₁ ++ [⟨c₁.peek, c₁.newlineBefore⟩]) := by
    refine Cursor.upTo_eq ?_
    rw [ahead, inner.went.ahead, ahead₁]
    simp
  have size : c.advance.tree.size = c.tree.size := by rw [c.advance_tree]
  have size₁ : c₁.advance.tree.size = c₁.tree.size := by rw [c₁.advance_tree]
  have nodup : (c.upTo c₁.advance).Nodup := by
    refine A.insertions.rewriting.distinct.sublist (List.Sublist.trans ?_ sub.sublist)
    rw [went.ahead]
    exact List.sublist_append_left _ _
  have inside {t : Seen} (mem : t ∈ c.upTo c₁.advance) : t ∈ A.tokens :=
    went.mem_tokens (R := A.insertions.rewriting) sub mem
  obtain ⟨before, s, after, split, start, begins, opened⟩ := inner.first
  have mem : s ∈ c.advance.upTo c₁ := by
    rw [split]
    simp
  have outside {t : Seen} (there : t ∈ c.upTo c₁.advance) (out : t ∉ c.advance.upTo c₁) :
      t.token.start ≠ A.start a ∧
        A.insertions.rewriting.edit c.tree.size c₁.advance.tree.size t = [t.bare] := by
    refine ⟨fun same => ?_, edit_of_leaves went.kept.size_le fun id ge lt => ?_⟩
    · have known : t = s :=
        Insertions.eq_of_start (I := A.insertions) (inside there)
          (inside (by rw [read]; simp [mem])) (same.trans start.symm)
      exact out (known ▸ mem)
    · by_contra changed
      exact out (inner.near.within (size ▸ ge) (size₁ ▸ lt) (inside there) changed)
  rw [read] at nodup
  obtain ⟨notFirst, nodup⟩ := List.nodup_cons.mp nodup
  have first := outside (t := ⟨c.peek, c.newlineBefore⟩) (by rw [read]; exact List.mem_cons_self)
    fun mem => notFirst (List.mem_append_left _ mem)
  have final := outside (t := ⟨c₁.peek, c₁.newlineBefore⟩) (by rw [read]; simp)
    fun mem => (List.nodup_append.mp nodup).2.2 _ mem _ List.mem_cons_self rfl
  have awaited : A.awaited c c₁.advance a = ⟨c.peek.bare, c.newlineBefore⟩ ::
      (A.awaited c.advance c₁ a ++ [⟨c₁.peek.bare, c₁.newlineBefore⟩]) := by
    rw [Awaits.awaited, read, List.flatMap_cons, if_neg first.1, first.2, List.flatMap_append,
      List.flatMap_singleton, if_neg final.1, final.2, Awaits.awaited, size, size₁]
    rfl
  refine ⟨went, near, ⟨⟨c.peek, c.newlineBefore⟩ :: before, s, after ++ [⟨c₁.peek, c₁.newlineBefore⟩],
    by rw [read, split]; simp, start, begins, List.forall_mem_cons.mpr ⟨opens, opened⟩⟩, ?_,
    fun r follows => ?_⟩
  · intro id s ge lt mem same
    exact inner.leaves (size ▸ ge) (size₁ ▸ lt) mem same
  have view₁ : c₁.view = ⟨c₁.peek.bare, c₁.newlineBefore⟩ :: c₁.advance.view := by
    rw [Cursor.view, ahead₁]
    rfl
  have follows₁ : A.insertions.rewriting.Follows c₁.view
      (⟨c₁.peek.bare, c₁.newlineBefore⟩ :: r) := by
    rw [view₁]
    exact ⟨.keep follows.alike, _, _, _, _, rfl, rfl, rfl, .same⟩
  obtain ⟨alike, arrives⟩ := inner.reads _ follows₁
  have words : c.words = c.peek.bare :: c.advance.words := by
    rw [Cursor.words_eq, Cursor.view, ahead, Cursor.words_eq]
    rfl
  have longer : A.awaited c c₁.advance a ++ r = ⟨c.peek.bare, c.newlineBefore⟩ ::
      (A.awaited c.advance c₁ a ++ ⟨c₁.peek.bare, c₁.newlineBefore⟩ :: r) := by
    rw [awaited]
    simp
  rw [words, longer]
  have alike' := alike c.peek.bare (.inr opens.text)
  refine ⟨fun p after => .keep alike', fun m d view ready' => ?_⟩
  obtain ⟨peek, ready₂, view₂⟩ := Rewriting.advance_of_view view ready' live
  have opens' : Opens d.peek :=
    ⟨(congrArg Token.kind peek).trans opens.kind, (congrArg Token.text peek).trans opens.text⟩
  have arrowless : Arrowless d := by
    have async : d.peek.spells "async" = false :=
      Token.spells_other (Token.spells_of_text (.inl opens'.kind) opens'.text) (by decide)
    refine ⟨by rw [async]; rfl, ?_⟩
    have words' : d.words = c.peek.bare :: (A.awaited c.advance c₁ a ++
        ⟨c₁.peek.bare, c₁.newlineBefore⟩ :: r).map Seen.token := by
      rw [Cursor.words_eq, view]
      rfl
    have same : arrowStarts d.words = arrowStarts c.words := by
      rw [words, words']
      exact (A.insertions.rewriting.close alike').arrow
    rw [← arrowStarts_bare]
    change arrowStarts d.words = false
    rw [same]
    exact (arrowStarts_bare c.rest).trans at_.arrowless.plain
  refine expression_arrives (unary_arrives opens' (Q := fun b d' =>
    d'.view = ⟨c₁.peek.bare, c₁.newlineBefore⟩ :: r ∧ d'.Ready ∧ d.tree.KeptIn d'.tree ∧
      (A.waits a b).holds c₁.advance.tree d'.tree) ?_ fun b d' known => ?_) arrowless
    fun b d' known => ?_
  · cases m with
    | zero => rfl
    | succ m =>
      have read := arrives m d.advance view₂ ready₂
      rw [d.advance_tree] at read
      rw [c₁.advance_tree]
      exact read
  · obtain ⟨view₃, ready₃, kept₃, waits⟩ := known
    obtain ⟨peek₃, ready₄, view₄⟩ := Rewriting.advance_of_view view₃ ready₃ live₁
    have closes' : d'.peek.spells ")" = true := (Token.spells_of_bare peek₃ _).trans closes
    refine ⟨closes', ((view₄.symm ▸ follows).beside ready₁ ready₄).finished at_.finished, view₄,
      ready₄, ?_⟩
    rw [d'.advance_tree]
    exact ⟨kept₃, waits⟩
  · exact ((known.1.symm ▸ follows).beside ready₁ known.2.1).finished at_.finished

omit both at_ in
/-- A call that is read as a whole expression can be awaited. -/
theorem wrapped (both : ∀ k ≤ n, ∀ m, A.insertions.rewriting.Abreast (.ofDepth k) (.ofDepth m))
    (h : ReadsCall (expression (.ofDepth n)) c a c') : A.Wrapped c a c' := by
  induction n generalizing c c' with
  | zero =>
    obtain begins | ⟨opens, c₁, inner, closes, last⟩ := (callAt_of_expression h).cases
    · exact wrapped_of_begins kept sub ready (both 0 le_rfl) (callAt_of_expression h) begins
    · exact absurd inner.1 nofun
  | succ n ih =>
    have at_ := callAt_of_expression h
    obtain begins | ⟨opens, c₁, inner, closes, last⟩ := at_.cases
    · exact wrapped_of_begins kept sub ready (both _ le_rfl) at_ begins
    · have live : c.peek.kind ≠ .eof := by simp [opens.kind]
      obtain ⟨ahead, ready₀⟩ := ready.advance live
      refine wrapped_of_enclosed kept sub ready (both _ le_rfl) at_ opens ?_ closes last
      refine ih ?_ ?_ ready₀ (fun k le => both k (Nat.le_succ_of_le le)) inner
      · rw [last, c₁.advance_tree] at kept
        exact kept
      · exact (ahead ▸ List.suffix_cons _ _).trans sub

end Awaits
end Script
end TreeLint
