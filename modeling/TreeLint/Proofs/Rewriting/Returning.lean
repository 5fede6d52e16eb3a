import TreeLint.Proofs.Rewriting.Awaiting

/-! # Returning what is awaited

Where the word `await` is put in before a call that is returned, the return statement is read as
before, and what it returns is the call awaited (`Awaits.returnStatement`).  So a script with the word
put in is a script again (`Awaits.parses`). -/

namespace TreeLint.Script

open TreeLint.Script.Parser
open Rewriting (Arrives Went)
open Rewriting.Tracks (exists_of_bind bind_run eat_run)

/-- Nothing is returned. -/
def Cursor.endsReturn (c : Cursor) : Bool :=
  c.peek.spells ";" || c.peek.spells "\x7d" || c.peek.kind == .eof || c.newlineBefore

namespace Parser

variable {g : Grammar} {c c' : Cursor} {start : UInt32} {call : NodeId}

theorem returnHead_run (word : c.peek.spells "return") : returnHead g c =
    if c.advance.endsReturn = true then (semicolon >>= fun _ => pure (c.peek.start, none)) c.advance
    else (expression g >>= fun call => semicolon >>= fun _ => pure (c.peek.start, some call))
      c.advance := by
  rw [returnHead, bind_run (expect_of_spells word)]
  change (if c.advance.endsReturn = true then _ else _ : Parser (UInt32 × Ref)) c.advance = _
  split
  · rfl
  · change ((some <$> expression g) >>= fun argument => semicolon >>= fun _ =>
      pure (c.peek.start, argument) : Parser (UInt32 × Ref)) c.advance = _
    rw [map_eq_pure_bind, bind_assoc]
    rfl

theorem returnHead_cases (run : returnHead g c = .ok ((start, some call), c')) :
    start = c.peek.start ∧ c.peek.spells "return" ∧ c.advance.endsReturn = false ∧ ∃ c₂,
      expression g c.advance = .ok (call, c₂) ∧ semicolon c₂ = .ok ((), c') := by
  have word : c.peek.spells "return" := by
    obtain ⟨t, c₁, first, -⟩ := exists_of_bind run
    exact (expect_cases first).1
  rw [returnHead_run word] at run
  split at run
  · obtain ⟨u, c₁, -, last⟩ := exists_of_bind run
    cases last
  next returns =>
    obtain ⟨b, c₂, read, rest⟩ := exists_of_bind run
    obtain ⟨u, c₃, semi, last⟩ := exists_of_bind rest
    cases last
    exact ⟨rfl, word, by simpa using returns, c₂, read, semi⟩

theorem semicolon_tree {u : Unit} (run : semicolon c = .ok (u, c')) : c'.tree = c.tree := by
  obtain ⟨b, eaten⟩ := exists_of_discard run
  rw [← bind_pure (eat ";"), eat_run] at eaten
  split at eaten
  · cases eaten
    exact c.advance_tree
  · cases eaten
    rfl

end Parser

/-! ## The word in a return statement -/

theorem Cursor.endsReturn_of_peek {d : Cursor} {t : Token} (peek : d.peek.bare = t)
    (first : t = .awaitWord ∨ Opens t) (unbroken : d.newlineBefore = false) :
    d.endsReturn = false := by
  have same : d.endsReturn
      = (t.spells ";" || t.spells "\x7d" || t.kind == .eof || d.newlineBefore) := by
    rw [← peek]
    rfl
  rw [same, unbroken]
  obtain rfl | opens := first
  · decide
  · have opened : t.spells "(" := Token.spells_of_text (.inl opens.kind) opens.text
    rw [Token.spells_other opened (by decide), Token.spells_other opened (by decide), opens.kind]
    rfl

namespace Awaits

/-- What is read first is the word, or a parenthesis before it. -/
theorem Wrapped.opening {A : Awaits} {c c' : Cursor} {call : NodeId} (h : A.Wrapped c call c')
    (ready : c.Ready) : ∃ t more, A.awaited c c' call = ⟨t, c.newlineBefore⟩ :: more ∧
      (t = .awaitWord ∨ Opens t) := by
  obtain ⟨others, read⟩ := h.went.upTo_cons ready
  obtain ⟨before, s, after, split, start, -, opened⟩ := h.first
  rw [awaited, read, List.flatMap_cons]
  by_cases here : c.peek.start = A.start call
  · rw [if_pos here]
    exact ⟨_, _, rfl, .inl rfl⟩
  · obtain ⟨more, kept⟩ := h.near.first ⟨c.peek, c.newlineBefore⟩ (by rw [read]; rfl)
    rw [if_neg here, kept]
    refine ⟨_, _, rfl, .inr ?_⟩
    rw [read] at split
    cases before with
    | nil =>
      obtain rfl := (List.cons.inj split).1
      exact absurd start here
    | cons b before =>
      obtain rfl := (List.cons.inj split).1
      have opens := opened _ List.mem_cons_self
      exact ⟨opens.kind, opens.text⟩

/-- A return statement with a call before its node is made. -/
structure Returns (A : Awaits) (c : Cursor) (call : NodeId) (c₂ c₃ : Cursor) : Prop where
  word : c.peek.spells "return"
  returns : c.advance.endsReturn = false
  wrapped : A.Wrapped c.advance call c₂
  semi : semicolon c₂ = .ok ((), c₃)

namespace Returns

variable {A : Awaits} {c c₂ c₃ : Cursor} {call : NodeId} (h : A.Returns c call c₂ c₃)
  (kept : c₃.tree.KeptIn A.tree) (sub : c.ahead <:+ A.tokens) (ready : c.Ready)

include h

theorem live : c.peek.kind ≠ .eof := Token.kind_ne_eof_of_spells h.word

include ready

theorem ahead : c.ahead = ⟨c.peek, c.newlineBefore⟩ :: c.advance.ahead :=
  (ready.advance h.live).1

omit ready in
theorem semi_went : Went .any c₂ c₃ :=
  (Rewriting.Tracks.semicolon (R := A.insertions.rewriting) (e := .free) (H := fun _ => True)
    (P := .none) h.semi h.wrapped.went.ready trivial).1

omit ready in
theorem rest_went : Went .any c.advance c₃ :=
  Went.append (e := .near) (k := .any) h.wrapped.went h.semi_went

theorem read : c.upTo c₃ = ⟨c.peek, c.newlineBefore⟩ :: (c.advance.upTo c₂ ++ c₂.upTo c₃) := by
  refine Cursor.upTo_eq ?_
  rw [h.ahead ready, h.wrapped.went.ahead, h.semi_went.ahead]
  simp

include sub in
theorem sub_call : c.advance.ahead <:+ A.tokens :=
  (h.ahead ready ▸ List.suffix_cons _ _ : c.advance.ahead <:+ c.ahead).trans sub

include kept sub

theorem first : Went .firm c c.advance ∧ A.insertions.rewriting.Local c c.advance := by
  obtain ⟨went, more⟩ := Rewriting.Tracks.expect (R := A.insertions.rewriting) (e := .near)
    (H := fun _ => True) (P := .none) (by decide) (expect_of_spells h.word) ready trivial
  have kept₁ : c.advance.tree.KeptIn A.tree := h.rest_went.kept.trans kept
  exact ⟨went, (more kept₁ sub).1⟩

theorem semicolon : A.insertions.rewriting.Repeats .free .none Parser.semicolon
    (fun _ => .none) c₂ c₃ :=
  (Rewriting.Tracks.semicolon (H := fun _ => True) h.semi h.wrapped.went.ready trivial).2 kept
    (h.wrapped.went.suffix (R := A.insertions.rewriting) (h.sub_call sub ready))

theorem rest : A.insertions.rewriting.Local c.advance c₃ :=
  Rewriting.Local.append h.wrapped.went h.semi_went (h.sub_call sub ready) h.wrapped.near
    (h.semicolon kept sub ready).1

theorem near : A.insertions.rewriting.Local c c₃ :=
  Rewriting.Local.append (h.first kept sub ready).1 h.rest_went sub (h.first kept sub ready).2
    (h.rest kept sub ready)

theorem went : Went .some c c₃ :=
  Went.append (e := .near) (k := .some) (h.first kept sub ready).1 h.rest_went

theorem nodup : (c.upTo c₃).Nodup := by
  refine A.insertions.rewriting.distinct.sublist (List.Sublist.trans ?_ sub.sublist)
  rw [(h.went kept sub ready).ahead]
  exact List.sublist_append_left _ _

/-- The call is where the word is put in, and it is among the tokens of the expression. -/
theorem mem_of_start {s : Seen} (mem : s ∈ c.upTo c₃) (same : s.token.start = A.start call) :
    s ∈ c.advance.upTo c₂ := by
  obtain ⟨before, s', after, split, start, -⟩ := h.wrapped.first
  have mem' : s' ∈ c.advance.upTo c₂ := by
    rw [split]
    simp
  have inside {t : Seen} (there : t ∈ c.upTo c₃) : t ∈ A.tokens :=
    (h.went kept sub ready).mem_tokens (R := A.insertions.rewriting) sub there
  have whole : s' ∈ c.upTo c₃ := by
    rw [h.read ready]
    exact List.mem_cons_of_mem _ (List.mem_append_left _ mem')
  rw [Insertions.eq_of_start (I := A.insertions) (inside mem) (inside whole) (same.trans start.symm)]
  exact mem'

theorem rewritten_eq {c' : Cursor} (found : A.call? ⟨c₃.tree.size⟩ = some call)
    (same : c'.ahead = c₃.ahead) (size : c'.tree.size = c₃.tree.size + 1) :
    A.insertions.rewriting.rewritten c c' = ⟨c.peek.bare, c.newlineBefore⟩ ::
      (A.awaited c.advance c₂ call ++ A.insertions.rewriting.rewritten c₂ c₃) := by
  have at_ : A.insertions.at? ⟨c₃.tree.size⟩ = some ⟨(A.start call).toNat, Piece.await⟩ := by
    change (A.call? _).map _ = _
    rw [found]
    rfl
  have sub₁ := h.sub_call sub ready
  obtain ⟨went₁, near₁⟩ := h.first kept sub ready
  have nodup := h.nodup kept sub ready
  have whole := h.read ready
  have later {t : Seen} (mem : t ∈ c.advance.upTo c₂ ++ c₂.upTo c₃) : t ∈ c.advance.upTo c₃ := by
    rw [Cursor.upTo_append h.wrapped.went.ahead h.semi_went.ahead]
    exact mem
  have elsewhere {t : Seen} (mem : t ∈ c.upTo c₃) (out : t ∉ c.advance.upTo c₂) :
      t.token.start.toNat ≠ (A.start call).toNat :=
    fun same => out (h.mem_of_start kept sub ready mem (UInt32.toNat_inj.mp same))
  rw [Insertions.rewritten_own at_ (h.went kept sub ready).kept.size_le same size]
  rw [whole] at nodup elsewhere ⊢
  obtain ⟨notFirst, nodup⟩ := List.nodup_cons.mp nodup
  rw [List.flatMap_cons, List.flatMap_append]
  have head : ⟨c.peek, c.newlineBefore⟩ ∈ c.upTo c.advance := by
    have same : c.upTo c.advance = [⟨c.peek, c.newlineBefore⟩] :=
      Cursor.upTo_eq (h.ahead ready)
    rw [same]
    exact List.mem_singleton_self _
  rw [if_neg (elsewhere List.mem_cons_self fun mem => notFirst (List.mem_append_left _ mem)),
    Rewriting.edit_first went₁ h.rest_went sub (h.rest kept sub ready) head, c.advance_tree,
    Rewriting.edit_self]
  rw [List.singleton_append]
  refine congrArg (List.cons _) (congrArg₂ (· ++ ·) (List.flatMap_congr fun t mem => ?_)
    (List.flatMap_congr fun t mem => ?_))
  · rw [Rewriting.edit_second went₁ h.rest_went sub near₁ (later (List.mem_append_left _ mem)),
      Rewriting.edit_first h.wrapped.went h.semi_went sub₁ (h.semicolon kept sub ready).1 mem]
    simp only [UInt32.toNat_inj]
  · rw [if_neg (elsewhere (List.mem_cons_of_mem _ (List.mem_append_right _ mem)) fun mem' =>
        (List.nodup_append.mp nodup).2.2 t mem' t mem rfl),
      Rewriting.edit_second went₁ h.rest_went sub near₁ (later (List.mem_append_right _ mem)),
      Rewriting.edit_second h.wrapped.went h.semi_went sub₁ h.wrapped.near mem]

omit kept sub in
theorem exists_start : ∃ s ∈ c.upTo c₃, s.token.start = A.start call := by
  obtain ⟨before, s, after, split, start, -⟩ := h.wrapped.first
  refine ⟨s, ?_, start⟩
  rw [h.read ready, split]
  simp

omit kept sub in
theorem placed {id : NodeId} (found : A.call? id = some call) : A.Placed id (c.upTo c₃) := by
  intro call' found'
  obtain rfl := Option.some.inj (found'.symm.trans found)
  obtain ⟨before, s, after, split, start, begins, opened⟩ := h.wrapped.first
  rw [h.read ready, split]
  obtain rfl | ⟨before, b, rfl⟩ := before.eq_nil_or_concat
  · exact ⟨[], _, s, _, rfl, start, begins, .inl (Token.text_of_spells h.word)⟩
  · refine ⟨⟨c.peek, c.newlineBefore⟩ :: before, b, s, after ++ c₂.upTo c₃, by simp, start, begins,
      .inr ?_⟩
    exact (opened b (by simp)).text

theorem own {c' : Cursor} (found : A.call? ⟨c₃.tree.size⟩ = some call)
    (same : c'.ahead = c₃.ahead) (size : c'.tree.size = c₃.tree.size + 1) :
    A.insertions.rewriting.Local c c' := by
  have at_ : A.insertions.at? ⟨c₃.tree.size⟩ = some ⟨(A.start call).toNat, Piece.await⟩ := by
    change (A.call? _).map _ = _
    rw [found]
    rfl
  have went := h.went kept sub ready
  have nodup := h.nodup kept sub ready
  have here {s : Seen} (mem : s ∈ A.tokens)
      (changed : ¬ A.insertions.rewriting.Leaves ⟨c₃.tree.size⟩ s) :
      s.token.start = A.start call ∧ s ∈ c.upTo c₃ := by
    have start : s.token.start = A.start call := by
      by_contra other
      refine changed (Insertions.leaves_iff.mpr fun new at_' => ?_)
      obtain rfl := Option.some.inj (at_.symm.trans at_')
      exact fun same => other (UInt32.toNat_inj.mp same)
    obtain ⟨s', mem', start'⟩ := h.exists_start ready
    have inside : s' ∈ A.tokens := went.mem_tokens (R := A.insertions.rewriting) sub mem'
    exact ⟨start, Insertions.eq_of_start (I := A.insertions) mem inside (start.trans start'.symm) ▸ mem'⟩
  refine (h.near kept sub ready).own went.kept.size_le same size
    (fun s mem changed => (here mem changed).2) (fun s mem changed id ge lt => ?_)
    (h.placed ready found) fun s head => ?_
  · obtain ⟨start, mem'⟩ := here mem changed
    by_cases early : id.index < c₂.tree.size
    · refine h.wrapped.leaves ?_ early mem start
      rw [c.advance_tree]
      exact ge
    · by_contra changed'
      have late := (h.semicolon kept sub ready).1.within (Nat.le_of_not_lt early) lt mem changed'
      rw [h.read ready, List.nodup_cons, List.nodup_append] at nodup
      exact nodup.2.2.2 s (h.mem_of_start kept sub ready mem' start) s late rfl
  · by_contra changed
    have whole := h.read ready
    rw [whole] at head nodup
    obtain rfl := Option.some.inj head
    have mem : ⟨c.peek, c.newlineBefore⟩ ∈ c.upTo c₃ := whole ▸ List.mem_cons_self
    have start := (here (went.mem_tokens (R := A.insertions.rewriting) sub mem) changed).1
    exact (List.nodup_cons.mp nodup).1
      (List.mem_append_left _ (h.mem_of_start kept sub ready mem start))

/-- The statement is read again with the word in it. -/
theorem repeats {m : Nat} {c' : Cursor} {id : NodeId} (found : A.call? id = some call)
    (last : node c.peek.start (.wrap .returnStatement (some call)) c₃ = .ok (id, c')) :
    A.insertions.rewriting.Repeats .free .none (returnStatement (.ofDepth m))
      (A.insertions.rewriting.Same id) c c' := by
  let span : Span := ⟨c₃.tree.file, c.peek.start, c₃.previousEnd⟩
  let shape : Shape := .wrap .returnStatement (some call)
  have size : (c₃.tree.add span shape).1.size = c₃.tree.size + 1 := c₃.tree.size_add span shape
  obtain ⟨rfl, rfl⟩ := node_cases last
  refine ⟨h.own kept sub ready found rfl size, fun r rest => ?_⟩
  let done : Cursor := { c₃ with tree := (c₃.tree.add span shape).1 }
  have rewritten := @rewritten_eq _ _ _ _ _ h kept sub ready done found rfl size
  rw [rewritten, List.cons_append, List.append_assoc]
  change A.insertions.rewriting.Rest .free (c.upTo c₃) c₃.view r at rest
  have rest₃ : A.insertions.rewriting.Rest .free (c₂.upTo c₃) c₃.view r := by
    rw [h.read ready, ← List.cons_append] at rest
    refine rest.second fun nothing => ?_
    rw [nothing, List.append_nil] at rest
    refine rest.near_of_calm fun _ s mem => h.wrapped.went.manner.2 rfl s ?_
    obtain ⟨others, read⟩ := h.wrapped.went.upTo_cons (ready.advance h.live).2
    rw [read] at mem ⊢
    exact mem
  obtain ⟨hereS, moreS⟩ := h.semicolon kept sub ready
  obtain ⟨alikeS, arrivesS⟩ := moreS r rest₃
  have follows := Rewriting.follows_of_rest h.semi_went hereS alikeS fun nothing =>
    (nothing ▸ rest₃).near_of_nil
  obtain ⟨alike, arrives⟩ := h.wrapped.reads _ follows
  have text : c.peek.bare.text = utf8 "return" := Token.text_of_spells h.word
  have words : c.words = c.peek.bare :: c.advance.words := by
    rw [Cursor.words_eq, Cursor.view, h.ahead ready, Cursor.words_eq]
    rfl
  refine ⟨fun _ => ?_, fun d view ready' _ => ?_⟩
  · rw [words]
    exact alike c.peek.bare (.inl text)
  obtain ⟨peek, ready₁, view₁⟩ := Rewriting.advance_of_view view ready' h.live
  have word : d.peek.spells "return" := (Token.spells_of_bare peek _).trans h.word
  have returns : d.advance.endsReturn = false := by
    obtain ⟨t, more, opening, first⟩ := h.wrapped.opening (ready.advance h.live).2
    rw [opening] at view₁
    have next := Rewriting.mem_view_of_some view₁ ready₁
    have unbroken : c.advance.newlineBefore = false := by
      have returns := h.returns
      rw [Cursor.endsReturn, Bool.or_eq_false_iff] at returns
      exact returns.2
    simp only [Seen.mk.injEq, unbroken] at next
    exact Cursor.endsReturn_of_peek next.1.symm first next.2.symm
  have head : Arrives (returnHead (.ofDepth m) d) fun x d' => ∃ b, x.2 = some b ∧ d'.view = r ∧
      d'.Ready ∧ d.tree.KeptIn d'.tree ∧ (A.waits call b).holds c₃.tree d'.tree := by
    rw [returnHead_run word, returns]
    refine (arrives m d.advance view₁ ready₁).bind (f := fun call => Parser.semicolon >>= fun _ =>
      pure (d.peek.start, some call)) fun b d₂ known => ?_
    obtain ⟨view₂, ready₂, kept₂, waits⟩ := known
    refine (arrivesS d₂ view₂ ready₂ trivial).bind (f := fun _ => pure (d.peek.start, some b))
      fun _ d₃ known => ?_
    obtain ⟨view₃, ready₃, kept₃, -⟩ := known
    rw [d.advance_tree] at kept₂
    exact ⟨b, rfl, view₃, ready₃, kept₂.trans kept₃,
      (A.waits call b).lasting h.semi_went.kept kept₃ waits⟩
  rw [returnStatement_eq]
  refine head.bind (f := fun x => node x.1 (.wrap .returnStatement x.2)) fun x d₃ known => ?_
  obtain ⟨b, arg, view₃, ready₃, kept₃, waits⟩ := known
  rw [arg]
  let span' : Span := ⟨d₃.tree.file, x.1, d₃.previousEnd⟩
  let shape' : Shape := .wrap .returnStatement (some b)
  have grown' : d₃.tree.KeptIn (d₃.tree.add span' shape').1 := .add _ _ _
  refine ⟨view₃, ready₃.of_tree _, kept₃.trans grown', ?_⟩
  obtain ⟨z, await, target, same⟩ := (A.waits call b).lasting (.add c₃.tree span shape) grown' waits
  refine Facts.similar_cons (.inr ⟨A.changed_iff.mpr ⟨call, found⟩, (kind?_of_add _ span shape).1,
    (kind?_of_add _ span' shape').1, call, b, z, target_of_add _ span, target_of_add _ span', await,
    target, same⟩)

end Returns

/-! ## All return statements -/

variable {A : Awaits} {n m : Nat}

theorem object (both : A.insertions.rewriting.Abreast (.ofDepth n) (.ofDepth m)) :
    A.insertions.rewriting.KeepsUp .near .firm (objectLiteral (.ofDepth n))
      (objectLiteral (.ofDepth m)) A.insertions.rewriting.Same :=
  Rewriting.Tracks.objectLiteral both (spares (by decide))

theorem returnStatement
    (both : ∀ k ≤ n, ∀ m, A.insertions.rewriting.Abreast (.ofDepth k) (.ofDepth m)) :
    A.insertions.rewriting.KeepsUp .free .some (returnStatement (.ofDepth n))
      (returnStatement (.ofDepth m)) A.insertions.rewriting.Same := by
  rw [returnStatement_eq, returnStatement_eq]
  refine Rewriting.Tracks.closing
    (Rewriting.Tracks.returnHead (both n le_rfl m) (object (both n le_rfl m)))
    (fun _ _ _ _ _ known => .wrap known)
    fun c head c₃ id c' run last ready _ went kept sub owned => ?_
  obtain ⟨call, found⟩ := A.changed_iff.mp owned
  obtain ⟨-, target, kind, less⟩ := A.returned found
  obtain ⟨start, argument⟩ := head
  obtain ⟨rfl, same⟩ := node_cases last
  let span : Span := ⟨c₃.tree.file, start, c₃.previousEnd⟩
  let shape : Shape := .wrap .returnStatement argument
  have tree : c'.tree = (c₃.tree.add span shape).1 := by rw [same]
  have kept₃ : c₃.tree.KeptIn A.tree := by
    rw [tree] at kept
    exact (Tree.KeptIn.add c₃.tree span shape).trans kept
  obtain rfl : argument = some call := by
    rw [tree] at kept
    have known := kept.target_eq (kind?_of_add c₃.tree span shape).1
    rw [target_of_add] at known
    exact known.symm.trans target
  obtain ⟨rfl, word, returns, c₂, read, semi⟩ := returnHead_cases run
  have kept₂ : c₂.tree.KeptIn A.tree := semicolon_tree semi ▸ kept₃
  rw [semicolon_tree semi] at less
  obtain ⟨ahead, ready₁⟩ := ready.advance (Token.kind_ne_eof_of_spells word)
  have sub₁ : c.advance.ahead <:+ A.tokens :=
    (ahead ▸ List.suffix_cons _ _ : c.advance.ahead <:+ c.ahead).trans sub
  have wrapped := wrapped kept₂ sub₁ ready₁ both ⟨read, kept₂.kind?_of_lt less kind⟩
  have returns : A.Returns c call c₂ c₃ := ⟨word, returns, wrapped, semi⟩
  rw [← returnStatement_eq]
  exact returns.repeats kept₃ sub ready found last

/-! ## The script that comes of it -/

theorem edited (n m : Nat)
    (both : ∀ k ≤ n, ∀ m, A.insertions.rewriting.Abreast (.ofDepth k) (.ofDepth m)) :
    A.insertions.rewriting.Edited (.ofDepth n) (.ofDepth m) where
  object := object (both n le_rfl m)
  function _ _ _ := Rewriting.Tracks.function (both n le_rfl m) (spares nofun)
  returned := A.returnStatement both
  imported _ _ _ := Rewriting.Tracks.importDeclaration (spares (by decide)) (spares (by decide))

/-- What a call begins with is no word or sign that says what stands before it. -/
theorem starts_of_fits {t : Token} {after : Text} (fits : Piece.Fits ⟨.token t.kind, t.text⟩ after)
    (first : t.spells "new" ∨ t.startsExpression) : t.Starts := by
  obtain ⟨kind, text, value, start, stop⟩ := t
  cases fits.takes with
  | string | number | template => exact ⟨rfl, fun _ _ => rfl⟩
  | @word b s begins =>
    refine ⟨rfl, fun text mem => ?_⟩
    have other : (b :: s) ≠ text := by
      rintro rfl
      simp only [List.map_cons, List.map_nil, List.mem_cons, List.not_mem_nil, or_false] at mem
      obtain same | same | same | same | same := mem <;> cases (List.cons.inj same).1 <;>
        exact absurd begins (by decide)
    simp [Token.spells, other]
  | punctuator mem =>
    have opens : Token.startsExpression ⟨.punctuator, text, value, start, stop⟩ := by
      refine first.resolve_left fun spelled => ?_
      obtain rfl : text = utf8 "new" := Token.text_of_spells spelled
      have mem : utf8 "new" ∈ punctuators := mem
      exact absurd mem (by decide +kernel)
    refine ⟨opens, fun text' other => ?_⟩
    rw [Bool.eq_false_iff]
    intro spelled
    obtain rfl : text = text' := Token.text_of_spells spelled
    have opens : ["(", "[", "\x7b", "!", "-", "+", "~", "++", "--"].any (utf8 · == text) = true := opens
    simp only [List.map_cons, List.map_nil, List.mem_cons, List.not_mem_nil, or_false] at other
    obtain rfl | rfl | rfl | rfl | rfl := other <;> exact absurd opens (by decide)

theorem live_of_startsExpression {t : Token} (starts : t.startsExpression) : t.kind ≠ .eof := by
  intro last
  rw [Token.startsExpression, last] at starts
  contradiction

theorem view {file : FileId} {source : Text} {found : Tokens} (short : source.length < UInt32.size)
    (cut : tokenize file source = .ok found) (parsed : parseSource file source = .ok A.tree)
    (tokens : A.tokens = seen source 0 found.tokens) : A.insertions.rewriting.Over file source found :=
  ⟨short, cut, parsed, tokens, .nil, edited⟩

/-- A script with the word put in before calls that do not touch the word `return` is a script, and
these calls are awaited in it. -/
theorem parses {file : FileId} {source : Text} {found : Tokens} (short : source.length < UInt32.size)
    (cut : tokenize file source = .ok found) (parsed : parseSource file source = .ok A.tree)
    (tokens : A.tokens = seen source 0 found.tokens)
    (apart : ∀ id call, A.call? id = some call →
      ¬ utf8 "return" <:+ source.take (A.start call).toNat)
    (short' : (A.insertions.result source).length < UInt32.size) (file' : FileId) :
    ∃ t root root', parseSource file' (A.insertions.result source) = .ok t ∧
      A.tree.root = some root ∧ t.root = some root' ∧
      (Facts.similar awaiting A.insertions.changed root root').holds A.tree t := by
  refine A.insertions.parses (view short cut parsed tokens)
    (fun {id new} at_ placed => ?_) (fun {id new} at_ => ?_) short' file'
  · obtain ⟨call, called, rfl⟩ := Option.map_eq_some_iff.mp at_
    obtain ⟨before, s, t, after, split, start, starts, known⟩ := placed call called
    have whole : seen source 0 found.tokens = before ++ s :: t :: after := tokens ▸ split
    obtain ⟨split', mem, live⟩ := Piece.split_tokens short cut whole
    obtain ⟨front, rest, source_eq, fits, -, stop⟩ := Piece.exists_of_seen short cut mem live
    refine ⟨_, _, _, split', live_of_startsExpression starts.starts, congrArg UInt32.toNat start,
      fun u last touches => ?_⟩
    obtain rfl : s.token = u := by simpa using last
    obtain word | paren := known
    · refine absurd ?_ (apart id call called)
      rw [← start, ← touches, stop, source_eq, List.take_left, word]
      exact List.suffix_append _ _
    · rw [paren] at fits ⊢
      exact fits.closed_of_punctuator (by decide) (by decide +kernel)
  · obtain ⟨call, -, rfl⟩ := Option.map_eq_some_iff.mp at_
    have first : Text.byte '.' ∉ (Piece.joined Piece.await).head? := by decide
    refine ⟨first, fun r cut => ?_⟩
    exact .cons (Piece.fits_word (by decide) (by decide) rfl) (.cons (Piece.closed_space _) cut)

end Awaits
end TreeLint.Script
