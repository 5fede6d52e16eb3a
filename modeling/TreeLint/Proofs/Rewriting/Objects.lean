import TreeLint.Proofs.Rewriting.Commenting
import TreeLint.Proofs.Script.Heedless

/-! # Objects with comments

In some objects of a script a comment is put in before the properties (`Comments`).  What comes of
it is a script again, with these objects as they were but for the comments in them
(`Comments.parses`). -/

namespace TreeLint
namespace Script

open Text (byte)
open TreeLint.Script.Parser
open Rewriting (Arrives)
open Rewriting.Tracks (bind_run eat_run exists_of_bind)

/-! ## Where properties begin -/

namespace Parser

variable {g : Grammar} {c c' : Cursor} {a : NodeId} {start : UInt32}

/-- The node is there, and begins at an offset. -/
def BeginsAt (start : UInt32) (a : NodeId) (c : Cursor) : Prop :=
  (∃ k, c.tree.kind? (some a) = some k) ∧ (c.tree.span (some a)).start = start

theorem node_beginsAt {shape : Shape} : Gives (node start shape) (BeginsAt start) := by
  intro c a c' run
  exact ⟨⟨_, (node_gives run).1⟩, (node_gives run).2⟩

theorem items_of_add (t : Tree) (span : Span) {form : ListForm} {l : List Ref} :
    (t.add span (.list form l)).1.items (some ⟨t.size⟩) = l := by
  obtain ⟨n, found, -, shape⟩ := t.exists_node?_add_new span (.list form l)
  have at_node : (t.add span (.list form l)).1.deref? (some ⟨t.size⟩) = some n := found
  simp [Tree.items, Tree.part?, at_node, shape]

/-- A property begins with its first token. -/
theorem objectMember_beginsAt (run : objectMember g c = .ok (a, c')) :
    BeginsAt c.peek.start a c' := by
  rw [objectMember, sees_run] at run
  split at run
  next spread =>
    rw [spreadOr, bind_run here_run, eat_run, if_pos spread] at run
    exact Gives.bind (fun _ => .bind fun _ => node_beginsAt) run
  · rw [bind_run here_run] at run
    refine Gives.bind (U := BeginsAt c.peek.start) (fun word? => ?_) run
    refine .bind fun x => .bind fun called => .ite (.bind fun _ => node_beginsAt) ?_
    refine .bind fun colon => .ite (.bind fun _ => node_beginsAt) ?_
    exact .bind fun _ => .ite .fail node_beginsAt

/-- No property begins with a brace. -/
theorem objectMember_unopened (run : objectMember g c = .ok (a, c'))
    (kind : c.peek.kind = .punctuator) : c.peek.spells "\x7b" = false := by
  rw [Bool.eq_false_iff]
  intro brace
  have spells {text : Text} : utf8 "\x7b" ≠ text → c.peek.spells text = false :=
    Token.spells_other brace
  have none : eatMemberWord c = .ok (none, c) := by
    change (if ((c.peek.spells "get" || c.peek.spells "set" || c.peek.spells "async") && _) = true
      then _ else _ : Parser (Option Text)) c = _
    rw [spells (by decide), spells (by decide), spells (by decide)]
    rfl
  have stuck : ∃ e, propertyKey g c = .error e := by
    rw [propertyKey, bind_run peek_run]
    simp only [kind, reduceCtorEq, or_self, if_false]
    rw [eat_run, spells (by decide)]
    exact ⟨_, rfl⟩
  rw [objectMember, sees_run, spells (by decide)] at run
  change (here >>= fun start => eatMemberWord >>= fun word? => propertyKey g >>= fun x => _) c = _
    at run
  rw [bind_run here_run, bind_run none] at run
  obtain ⟨e, stuck⟩ := stuck
  obtain ⟨key, c₁, read, -⟩ := exists_of_bind run
  rw [stuck] at read
  contradiction

end Parser

/-! ## Objects and what becomes of them -/

/-- Objects of a script and what their comments are to say. -/
structure Comments where
  tree : Tree
  tokens : List Seen
  ordered : tokens.Pairwise fun s t => s.token.start < t.token.start
  value? : NodeId → Option Text
  object : ∀ {id value}, value? id = some value →
    tree.kind? (some id) = some .objectExpression ∧ Plain value
  opening : ∀ s ∈ tokens, s.token.spells "\x7b" → s.token.kind = .punctuator
  closing : ∀ s ∈ tokens, s.token.spells "\x7d" → s.token.start = s.token.stop - 1

namespace Comments

variable (C : Comments)

/-- Where the comment of an object is put in: before its first property or its closing brace. -/
def point (id : NodeId) : UInt32 :=
  match C.tree.items (some id) with
  | first :: _ => (C.tree.span first).start
  | [] => (C.tree.span (some id)).stop - 1

theorem point_of_nil {C : Comments} {id : NodeId} (none : C.tree.items (some id) = []) :
    C.point id = (C.tree.span (some id)).stop - 1 := by
  rw [point, none]

theorem point_of_cons {C : Comments} {id : NodeId} {first : Ref} {rest : List Ref}
    (items : C.tree.items (some id) = first :: rest) : C.point id = (C.tree.span first).start := by
  rw [point, items]

/-- What the comment of an object says. -/
def text (id : NodeId) : Text := (C.value? id).getD []

/-- The tokens of a comment are put in after an opening brace. -/
structure Between (s t : Token) (new : List Token) : Prop where
  kind : s.kind = .punctuator
  brace : s.spells "\x7b"
  new : ∃ value, new = [.commentWord, .colon, .quotedString value, .comma]

theorem Between.unseen {s t : Token} {new : List Token} (h : Between s t new) : Unseen s t new := by
  obtain ⟨kind, brace, value, rfl⟩ := h
  have text : s.text = utf8 "\x7b" := Token.text_of_spells brace
  refine ⟨?_, ?_, fun _ _ _ => brace, fun word => ?_⟩
  · rw [text]
    decide
  · simp only [List.forall_mem_cons]
    refine ⟨by decide, by decide, ⟨nofun, fun _ _ => rfl⟩, by decide⟩
  · rw [kind] at word
    contradiction

/-- The first two tokens of an object. -/
structure Opening (id : NodeId) (s t : Token) : Prop where
  brace : s.spells "\x7b"
  start : s.start = (C.tree.span (some id)).start
  point : t.start = C.point id
  live : t.kind ≠ .eof
  unopened : t.spells "\x7b" = false
  closed : C.tree.items (some id) = [] → t.spells "\x7d" ∧ t.stop = (C.tree.span (some id)).stop
  items : ∀ r ∈ C.tree.items (some id), r.isSome

def Placed (id : NodeId) (w : List Seen) : Prop :=
  (C.value? id).isSome →
    ∃ before s t after, w = before ++ s :: t :: after ∧ C.Opening id s.token t.token

def insertions : Insertions where
  tree := C.tree
  tokens := C.tokens
  ordered := C.ordered
  at? id := (C.value? id).map fun value => ⟨(C.point id).toNat, Piece.comment value⟩
  owned := by
    intro id some
    rw [Option.isSome_map] at some
    obtain ⟨value, found⟩ := Option.isSome_iff_exists.mp some
    exact ⟨_, by decide, (C.object found).1⟩
  Placed := C.Placed
  placed_mono := by
    intro id w u v placed some
    obtain ⟨before, s, t, after, rfl, known⟩ := placed some
    exact ⟨u ++ before, s, t, after ++ v, by simp, known⟩
  inside := by
    intro id w new placed at_
    obtain ⟨value, found, rfl⟩ := Option.map_eq_some_iff.mp at_
    obtain ⟨before, s, t, after, rfl, opening⟩ := placed (by rw [found]; rfl)
    exact ⟨before, s, t, after, rfl, by rw [opening.point]⟩
  Between := Between
  unseen := Between.unseen
  change := commenting C.text

theorem changed_iff {id : NodeId} :
    C.insertions.changed id ↔ ∃ value, C.value? id = some value := by
  rw [← Option.isSome_iff_exists]
  exact Bool.eq_iff_iff.mp Option.isSome_map

theorem changed_and_text_iff {id : NodeId} {value : Text} :
    C.insertions.changed id ∧ C.text id = value ↔ C.value? id = some value := by
  rw [changed_iff, text]
  cases C.value? id <;> simp

/-! ## An object with a comment -/

open Rewriting (Went)

variable {C : Comments} {c c₂ : Cursor} {members : List NodeId} {n : Nat}

/-- The properties of an object are read again, with whatever fuel. -/
theorem properties (both : ∀ m, C.insertions.rewriting.Abreast (.ofDepth n) (.ofDepth m))
    (k m : Nat) :
    C.insertions.rewriting.Tracks .near .firm (fun _ => True) .none
      (commaList "\x7d" (objectMember (.ofDepth n))) (do
        let items ← commaItems "\x7d" (objectMember (.ofDepth m)) k
        Functor.discard (expect "\x7d")
        return items) (.list C.insertions.rewriting.Same) :=
  fun d _ _ run => Rewriting.Tracks.commaListOf (H := fun _ => True) (P := .none)
    (Rewriting.Tracks.objectMember (both m)) rfl (d.rest.length + 1) k run

/-- What comes after the first property is read by both runs. -/
theorem rest_tracks (both : ∀ m, C.insertions.rewriting.Abreast (.ofDepth n) (.ofDepth m)) {k : Nat}
    {a : NodeId} : C.insertions.rewriting.Tracks .near .firm (fun _ => True) .none
      (commaRest "\x7d" (objectMember (.ofDepth n)) k a)
      (commaRest "\x7d" (objectMember (.ofDepth 0)) k a) fun _ _ => .none := by
  have items : C.insertions.rewriting.Tracks .near .calmly (fun _ => True) .none
      (commaItems "\x7d" (objectMember (.ofDepth n)) k)
      (commaItems "\x7d" (objectMember (.ofDepth 0)) k) (.list C.insertions.rewriting.Same) :=
    Rewriting.Tracks.commaItems (Rewriting.Tracks.objectMember (both 0)) rfl k k
  refine .bind (j := .calmly) (V := .list C.insertions.rewriting.Same) ?_ fun l l' => ?_
  · exact .eat items (.pure fun _ _ _ => .nil) rfl
  · exact .skip (.expect rfl) (.pure fun _ _ _ => trivial)

/-- The tree with the node of an object. -/
def withObject (c : Cursor) (members : List NodeId) (c₂ : Cursor) : Tree :=
  (c₂.tree.add ⟨c₂.tree.file, c.peek.start, c₂.previousEnd⟩ (.list .object (members.map some))).1

/-- An object that has been read. -/
structure Object (C : Comments) (c : Cursor) (members : List NodeId) (n : Nat) (c₂ : Cursor) :
    Prop where
  both : ∀ m, C.insertions.rewriting.Abreast (.ofDepth n) (.ofDepth m)
  brace : c.peek.spells "\x7b"
  read : commaList "\x7d" (objectMember (.ofDepth n)) c.advance = .ok (members, c₂)
  ready : c.Ready
  sub : c.ahead <:+ C.tokens
  kept : (withObject c members c₂).KeptIn C.tree

namespace Object

variable (h : Object C c members n c₂)

include h

theorem live : c.peek.kind ≠ .eof := Token.kind_ne_eof_of_spells h.brace

theorem ahead : c.ahead = ⟨c.peek, c.newlineBefore⟩ :: c.advance.ahead :=
  (h.ready.advance h.live).1

theorem ready₁ : c.advance.Ready := (h.ready.advance h.live).2

theorem sub₁ : c.advance.ahead <:+ C.tokens :=
  (h.ahead ▸ List.suffix_cons _ _ : c.advance.ahead <:+ c.ahead).trans h.sub

theorem went₁ : Went .firm c.advance c₂ := (properties h.both 0 0 h.read h.ready₁ trivial).1

theorem kept₂ : c₂.tree.KeptIn C.tree := (Tree.KeptIn.add _ _ _).trans h.kept

theorem repeats₁ (k m : Nat) : C.insertions.rewriting.Repeats .near .none (do
    let items ← commaItems "\x7d" (objectMember (.ofDepth m)) k
    Functor.discard (expect "\x7d")
    return items) (Facts.list C.insertions.rewriting.Same members) c.advance c₂ :=
  (properties h.both k m h.read h.ready₁ trivial).2 h.kept₂ h.sub₁

theorem first : Went .firm c c.advance ∧ C.insertions.rewriting.Local c c.advance := by
  obtain ⟨went, more⟩ := Rewriting.Tracks.expect (R := C.insertions.rewriting) (e := .near)
    (H := fun _ => True) (P := .none) (by decide) (expect_of_spells h.brace) h.ready trivial
  exact ⟨went, (more (h.went₁.kept.trans h.kept₂) h.sub).1⟩

theorem went : Went .firm c c₂ :=
  Went.append (e := .near) (k := .firm) h.first.1 (h.went₁.mono rfl)

theorem near : C.insertions.rewriting.Local c c₂ :=
  Rewriting.Local.append h.first.1 h.went₁ h.sub h.first.2 (h.repeats₁ 0 0).1

theorem upTo_eq : ∃ after,
    c.advance.upTo c₂ = ⟨c.advance.peek, c.advance.newlineBefore⟩ :: after ∧
      c.upTo c₂
        = ⟨c.peek, c.newlineBefore⟩ :: ⟨c.advance.peek, c.advance.newlineBefore⟩ :: after := by
  obtain ⟨after, read⟩ := h.went₁.upTo_cons h.ready₁
  refine ⟨after, read, Cursor.upTo_eq ?_⟩
  rw [h.ahead, h.went₁.ahead, read]
  rfl

theorem mem_tokens {s : Seen} (mem : s ∈ c.upTo c₂) : s ∈ C.tokens :=
  h.went.mem_tokens (R := C.insertions.rewriting) h.sub mem

theorem mem_first : ⟨c.peek, c.newlineBefore⟩ ∈ C.tokens := by
  obtain ⟨after, -, read⟩ := h.upTo_eq
  exact h.mem_tokens (by simp [read])

theorem mem_second : ⟨c.advance.peek, c.advance.newlineBefore⟩ ∈ C.tokens := by
  obtain ⟨after, -, read⟩ := h.upTo_eq
  exact h.mem_tokens (by simp [read])

/-- What comes after the brace is not the end, for what follows the object comes after it. -/
theorem live₁ : c.advance.peek.kind ≠ .eof := by
  intro last
  obtain ⟨after, read, -⟩ := h.upTo_eq
  obtain ⟨more, ahead⟩ := h.went₁.ready.ahead_eq
  have whole := h.went₁.ahead
  rw [ahead_of_eof h.ready₁ last, read, ahead] at whole
  simp at whole

/-- There are no properties, or the first of them begins right after the brace. -/
theorem members_cases : (members = [] ∧ c.advance.peek.spells "\x7d" ∧ c₂ = c.advance.advance) ∨
    ∃ a l, members = a :: l ∧ BeginsAt c.advance.peek.start a c₂ ∧
      c.advance.peek.spells "\x7b" = false := by
  have read := h.read
  cases closes : c.advance.peek.spells "\x7d" with
  | true =>
    change (commaItems "\x7d" (objectMember (.ofDepth n)) (c.advance.rest.length + 1) >>=
      fun items => Functor.discard (expect "\x7d") >>= fun _ => pure items) c.advance = _ at read
    rw [commaItems, bind_assoc, sees_run, closes] at read
    change (Functor.discard (expect "\x7d") >>= fun _ => pure []) c.advance = _ at read
    obtain ⟨u, c₁, closed, last⟩ := exists_of_bind read
    obtain ⟨t, closed⟩ := exists_of_discard closed
    cases last
    exact .inl ⟨rfl, rfl, (expect_cases closed).2⟩
  | false =>
    rw [commaList_cons closes] at read
    obtain ⟨a, c₁, member, rest⟩ := exists_of_bind read
    obtain ⟨went, -⟩ := Rewriting.Tracks.objectMember (h.both 0) member h.ready₁ trivial
    have kept := (rest_tracks (a := a) h.both rest went.ready trivial).1.kept
    obtain ⟨⟨kind, known⟩, start⟩ := objectMember_beginsAt member
    obtain ⟨l, c', -, rest⟩ := exists_of_bind rest
    obtain ⟨u, c', -, last⟩ := exists_of_bind rest
    cases last
    refine .inr ⟨a, l, rfl, ⟨⟨kind, kept.kind? known⟩, ?_⟩, ?_⟩
    · exact (congrArg Span.start (kept.span known)).trans start
    · by_contra opens
      have brace : c.advance.peek.spells "\x7b" := by simpa using opens
      exact opens (objectMember_unopened member (C.opening _ h.mem_second brace))

/-! ### Where the comment is put in -/

theorem kind : C.tree.kind? (some ⟨c₂.tree.size⟩) = some .objectExpression :=
  h.kept.kind? (kind?_of_add _ _ _).1

theorem span : C.tree.span (some ⟨c₂.tree.size⟩) = ⟨c₂.tree.file, c.peek.start, c₂.previousEnd⟩ :=
  (h.kept.span (kind?_of_add _ _ _).1).trans (kind?_of_add _ _ _).2

theorem items : C.tree.items (some ⟨c₂.tree.size⟩) = members.map some :=
  (h.kept.items_eq (kind?_of_add _ _ _).1).trans (items_of_add _ _)

/-- The object has no properties, or the comment is put in before the first. -/
theorem closed_of_items (none : C.tree.items (some ⟨c₂.tree.size⟩) = []) :
    c.advance.peek.spells "\x7d" ∧
      c.advance.peek.stop = (C.tree.span (some ⟨c₂.tree.size⟩)).stop := by
  rw [h.items, List.map_eq_nil_iff] at none
  obtain ⟨-, closes, last⟩ | ⟨a, l, members, -⟩ := h.members_cases
  · refine ⟨closes, ?_⟩
    rw [h.span, last, c.advance.advance_previousEnd h.live₁]
  · rw [none] at members
    contradiction

theorem point : C.point ⟨c₂.tree.size⟩ = c.advance.peek.start := by
  obtain ⟨rfl, closes, last⟩ | ⟨a, l, rfl, ⟨⟨kind, known⟩, start⟩, -⟩ := h.members_cases
  · have none : C.tree.items (some ⟨c₂.tree.size⟩) = [] := h.items
    rw [point_of_nil none, ← (h.closed_of_items none).2]
    exact (C.closing _ h.mem_second closes).symm
  · exact (point_of_cons h.items).trans ((congrArg Span.start (h.kept₂.span known)).trans start)

/-! ### What becomes of it -/

variable {value : Text} (found : C.value? ⟨c₂.tree.size⟩ = some value)

/-- The tokens after the opening brace and the one after it. -/
def tail (C : Comments) (c c₂ : Cursor) : List Seen :=
  (c.advance.upTo c₂).tail.flatMap (C.insertions.rewriting.edit c.tree.size c₂.tree.size)

theorem ordered : (c.upTo c₂).Pairwise fun s t => s.token.start < t.token.start :=
  C.ordered.sublist (h.went.upTo_sub (R := C.insertions.rewriting) h.sub).sublist

/-- Nothing else is put in where the comment is. -/
theorem leaves {id : NodeId} (ge : c.tree.size ≤ id.index) (lt : id.index < c₂.tree.size) :
    C.insertions.rewriting.Leaves id ⟨c.advance.peek, c.advance.newlineBefore⟩ := by
  obtain ⟨after, read, -⟩ := h.upTo_eq
  refine Insertions.leaves_first (h.repeats₁ 0 0).1
    (h.went₁.upTo_sub (R := C.insertions.rewriting) h.sub₁) read ?_ lt
  rwa [c.advance_tree]

theorem rewritten_members : C.insertions.rewriting.rewritten c.advance c₂ =
    ⟨c.advance.peek.bare, c.advance.newlineBefore⟩ :: tail C c c₂ := by
  obtain ⟨after, read, -⟩ := h.upTo_eq
  rw [Rewriting.rewritten, tail, read, c.advance_tree, List.flatMap_cons,
    Rewriting.edit_left (Nat.le_refl _) h.went.kept.size_le fun id => h.leaves, Rewriting.edit_self]
  rfl

include found

theorem at_ : C.insertions.at? ⟨c₂.tree.size⟩
    = some ⟨c.advance.peek.start.toNat, Piece.comment value⟩ := by
  change (C.value? _).map _ = _
  rw [found, Option.map_some, h.point]

theorem rewritten_eq {c' : Cursor} (same : c'.ahead = c₂.ahead)
    (size : c'.tree.size = c₂.tree.size + 1) :
    C.insertions.rewriting.rewritten c c' = ⟨c.peek.bare, c.newlineBefore⟩ ::
      ⟨.commentWord, c.advance.newlineBefore⟩ :: ⟨.colon, false⟩ :: ⟨.quotedString value, false⟩ ::
        ⟨.comma, false⟩ :: ⟨c.advance.peek.bare, false⟩ :: tail C c c₂ := by
  obtain ⟨after, read, whole⟩ := h.upTo_eq
  have ordered := h.ordered
  rw [whole, List.pairwise_cons, List.pairwise_cons] at ordered
  obtain ⟨first, second, -⟩ := ordered
  have brace : C.insertions.rewriting.edit c.tree.size c₂.tree.size ⟨c.peek, c.newlineBefore⟩
      = [⟨c.peek.bare, c.newlineBefore⟩] := by
    have mem : ⟨c.peek, c.newlineBefore⟩ ∈ c.upTo c.advance := by
      rw [Cursor.upTo_eq (w := [_]) h.ahead]
      exact List.mem_singleton_self _
    rw [Rewriting.edit_first h.first.1 h.went₁ h.sub (h.repeats₁ 0 0).1 mem, c.advance_tree,
      Rewriting.edit_self]
    rfl
  have apart {s t : Seen} (less : s.token.start < t.token.start) :
      s.token.start.toNat ≠ t.token.start.toNat :=
    Nat.ne_of_lt (UInt32.lt_iff_toNat_lt.mp less)
  have others : (after.flatMap fun s => if s.token.start.toNat = c.advance.peek.start.toNat then
      Piece.seenBefore (Piece.comment value) s
        else C.insertions.rewriting.edit c.tree.size c₂.tree.size s) = tail C c c₂ := by
    rw [tail, read, List.tail_cons]
    exact List.flatMap_congr fun s mem => if_neg (apart (second s mem)).symm
  rw [Insertions.rewritten_own (h.at_ found) h.went.kept.size_le same size, whole,
    List.flatMap_cons, List.flatMap_cons, if_neg (apart (first _ List.mem_cons_self)), if_pos rfl,
    brace, others, Piece.seenBefore_comment]
  rfl

omit found in
theorem placed : C.Placed ⟨c₂.tree.size⟩ (c.upTo c₂) := by
  intro _
  obtain ⟨after, -, read⟩ := h.upTo_eq
  refine ⟨[], _, _, after, read, h.brace, ?_, h.point.symm, h.live₁, ?_, h.closed_of_items, ?_⟩
  · rw [h.span]
  · obtain ⟨-, closes, -⟩ | ⟨-, -, -, -, unopened⟩ := h.members_cases
    · exact Token.spells_other closes (by decide)
    · exact unopened
  · rw [h.items]
    simp

theorem own {c' : Cursor} (same : c'.ahead = c₂.ahead) (size : c'.tree.size = c₂.tree.size + 1) :
    C.insertions.rewriting.Local c c' := by
  obtain ⟨after, -, read⟩ := h.upTo_eq
  have inside : ⟨c.advance.peek, c.advance.newlineBefore⟩ ∈ c.upTo c₂ := by simp [read]
  have here {s : Seen} (mem : s ∈ C.tokens)
      (changed : ¬ C.insertions.rewriting.Leaves ⟨c₂.tree.size⟩ s) :
      s = ⟨c.advance.peek, c.advance.newlineBefore⟩ := by
    refine Insertions.eq_of_start (I := C.insertions) mem (h.mem_tokens inside) ?_
    by_contra other
    refine changed (Insertions.leaves_iff.mpr fun new at_ => ?_)
    obtain rfl := Option.some.inj ((h.at_ found).symm.trans at_)
    exact fun same => other (UInt32.toNat_inj.mp same)
  refine h.near.own h.went.kept.size_le same size (fun s mem changed => here mem changed ▸ inside)
    (fun s mem changed id ge lt => here mem changed ▸ h.leaves ge lt) h.placed fun s head => ?_
  by_contra changed
  have ordered := h.ordered
  rw [read, List.head?_cons, Option.mem_some_iff] at head
  subst head
  have brace := here (h.mem_tokens (by simp [read])) changed
  rw [read, ← brace, List.pairwise_cons] at ordered
  exact UInt32.lt_irrefl _ (ordered.1 _ List.mem_cons_self)

theorem alike {r : List Seen} (follows : C.insertions.rewriting.Follows c₂.view r) {c' : Cursor}
    (same : c'.ahead = c₂.ahead) (size : c'.tree.size = c₂.tree.size + 1) :
    Spread Between c.words ((C.insertions.rewriting.rewritten c c' ++ r).map Seen.token) := by
  obtain ⟨after, read, -⟩ := h.upTo_eq
  have alike : Spread Between c.advance.words _ :=
    ((h.repeats₁ 0 0).2 r follows).1 (read ▸ List.cons_ne_nil _ _)
  obtain ⟨more, ahead⟩ := h.ready₁.ahead_eq
  have words₁ : c.advance.words = c.advance.peek.bare :: (more.map Seen.bare).map Seen.token := by
    rw [Cursor.words_eq, Cursor.view, ahead]
    rfl
  have words : c.words = c.peek.bare :: c.advance.words := by
    rw [Cursor.words_eq, Cursor.view, h.ahead, Cursor.words_eq]
    rfl
  rw [h.rewritten_members, words₁] at alike
  rw [words, words₁, h.rewritten_eq found same size]
  have between : Between c.peek.bare c.advance.peek.bare
      [.commentWord, .colon, .quotedString value, .comma] :=
    ⟨C.opening _ h.mem_first h.brace, h.brace, value, rfl⟩
  exact .put between alike

/-- The properties are read again with the comment before them. -/
theorem members_arrive {m : Nat} {r : List Seen} {d : Cursor}
    (follows : C.insertions.rewriting.Follows c₂.view r) (ready' : d.Ready)
    (view : d.view = ⟨.commentWord, c.advance.newlineBefore⟩ :: ⟨.colon, false⟩ ::
      ⟨.quotedString value, false⟩ :: ⟨.comma, false⟩ :: ⟨c.advance.peek.bare, false⟩ ::
        (tail C c c₂ ++ r)) :
    Arrives (commaList "\x7d" (objectMember (.ofDepth m)) d) fun l d' => ∃ p rest, l = p :: rest ∧
      d'.view = r ∧ d'.Ready ∧ d.tree.KeptIn d'.tree ∧ d'.tree.IsComment p value ∧
        (Facts.list C.insertions.rewriting.Same members rest).holds c₂.tree d'.tree := by
  have live : ∀ t ∈ [Token.commentWord, .colon, .quotedString value, .comma], t.kind ≠ .eof := by
    simp only [List.forall_mem_cons]
    exact ⟨by decide, by decide, nofun, by decide, List.forall_mem_nil _⟩
  obtain ⟨liveWord, liveColon, liveString, -⟩ := by simpa only [List.forall_mem_cons] using live
  obtain ⟨word, ready₁, view₁⟩ := Rewriting.advance_of_view view ready' liveWord
  obtain ⟨colon, ready₂, view₂⟩ := Rewriting.advance_of_view view₁ ready₁ liveColon
  obtain ⟨string, ready₃, view₃⟩ := Rewriting.advance_of_view view₂ ready₂ liveString
  have comma := congrArg Seen.token (Rewriting.mem_view_of_some view₃ ready₃)
  -- The other properties are read as if they stood where the comment stands.
  have line : d.view = ⟨.commentWord, c.advance.newlineBefore⟩ ::
      ([.colon, .quotedString value, .comma].map (⟨·, false⟩) ++
        ⟨c.advance.peek.bare, false⟩ :: (tail C c c₂ ++ r)) := view
  obtain ⟨x, ready₄, view₄⟩ := Cursor.exists_behind ready' line live
  simp only [List.length_cons, List.length_nil, Function.iterate_succ_apply,
    Function.iterate_zero_apply] at ready₄ view₄
  refine commaList_comment ⟨word, colon, string, comma.symm⟩ (C.object found).2 m
    fun p k tree kept comment => ?_
  generalize d.advance.advance.advance.advance = d₄ at ready₄ view₄ ⊢
  have at_first : Cursor.view { d₄ with previousEnd := x, tree }
      = C.insertions.rewriting.rewritten c.advance c₂ ++ r := by
    rw [h.rewritten_members]
    exact view₄
  have read := ((h.repeats₁ k m).2 r follows).2 _ at_first (ready₄.of_tree tree) trivial
  have heedless : Heedless (fun _ => True) (commaItems "\x7d" (objectMember (.ofDepth m)) k >>=
      fun items => Functor.discard (expect "\x7d") >>= fun _ => pure items) :=
    .commaItems objectMember_heedless (.bind (.discard .expect))
  have same := heedless { d₄ with tree } x trivial
  rw [same] at read
  refine read.post fun l d' known => ?_
  obtain ⟨view, ready, kept', related⟩ := known
  exact ⟨p, l, rfl, view, ready, kept.trans kept', comment.lasting kept', related⟩

omit found in
/-- The object is read again with the comment in it. -/
theorem repeats {m : Nat} {id : NodeId} {c' : Cursor}
    (last : node c.peek.start (.list .object (members.map some)) c₂ = .ok (id, c'))
    (present : C.value? id = some value) :
    C.insertions.rewriting.Repeats .near .none (objectLiteral (.ofDepth m))
      (C.insertions.rewriting.Same id) c c' := by
  have size : (withObject c members c₂).size = c₂.tree.size + 1 := c₂.tree.size_add _ _
  obtain ⟨rfl, rfl⟩ := node_cases last
  refine ⟨h.own present rfl size, fun r follows => ?_⟩
  let done : Cursor := { c₂ with tree := withObject c members c₂ }
  have rewritten : C.insertions.rewriting.rewritten c done = _ := h.rewritten_eq present rfl size
  have alike : Spread Between c.words
      ((C.insertions.rewriting.rewritten c done ++ r).map Seen.token) :=
    h.alike present follows rfl size
  refine ⟨fun _ => alike, fun d view ready' _ => ?_⟩
  change d.view = C.insertions.rewriting.rewritten c done ++ r at view
  rw [rewritten] at view
  obtain ⟨peek, ready₁, view₁⟩ := Rewriting.advance_of_view view ready' h.live
  have brace : d.peek.spells "\x7b" := (Token.spells_of_bare peek _).trans h.brace
  have head : Arrives (objectHead (.ofDepth m) d) fun x d' => ∃ p rest, x.2 = p :: rest ∧
      d'.view = r ∧ d'.Ready ∧ d.tree.KeptIn d'.tree ∧ d'.tree.IsComment p value ∧
        (Facts.list C.insertions.rewriting.Same members rest).holds c₂.tree d'.tree := by
    rw [objectHead, bind_run (expect_of_spells brace)]
    refine (h.members_arrive present follows ready₁ view₁).bind
      (f := fun l => pure (d.peek.start, l)) fun l d' known => ?_
    rw [d.advance_tree] at known
    exact known
  rw [objectLiteral_eq]
  refine head.bind (f := fun x => node x.1 (.list .object (x.2.map some))) fun x d' known => ?_
  obtain ⟨p, rest, all, view', ready'', kept, comment, related⟩ := known
  rw [all]
  let span' : Span := ⟨d'.tree.file, x.1, d'.previousEnd⟩
  let shape' : Shape := .list .object ((p :: rest).map some)
  have grown : c₂.tree.KeptIn (withObject c members c₂) := .add _ _ _
  have grown' : d'.tree.KeptIn (d'.tree.add span' shape').1 := .add _ _ _
  refine ⟨view', ready''.of_tree _, kept.trans grown', ?_⟩
  refine Facts.similar_cons (.inr ⟨C.changed_iff.mpr ⟨value, present⟩, (kind?_of_add _ _ _).1,
    (kind?_of_add _ span' shape').1, p, rest.map some, items_of_add _ span', ?_, ?_⟩)
  · have said : C.text ⟨c₂.tree.size⟩ = value := by
      rw [text, present]
      rfl
    exact said ▸ comment.lasting grown'
  · rw [items_of_add]
    exact Facts.refs (Facts.lasting _ grown grown' related)

end Object

/-! ## The script that comes of it -/

variable {m : Nat}

theorem spares {kind : Kind} (other : kind ≠ .objectExpression) :
    C.insertions.rewriting.Spares kind := by
  intro id owned known
  obtain ⟨value, found⟩ := C.changed_iff.mp owned
  exact other (Option.some.inj (known.symm.trans (C.object found).1))

theorem objectLiteral (both : ∀ m, C.insertions.rewriting.Abreast (.ofDepth n) (.ofDepth m)) :
    C.insertions.rewriting.KeepsUp .near .firm (objectLiteral (.ofDepth n))
      (objectLiteral (.ofDepth m)) C.insertions.rewriting.Same := by
  rw [objectLiteral_eq, objectLiteral_eq]
  refine Rewriting.Tracks.closing (Rewriting.Tracks.objectHead (both m))
    (fun _ _ _ _ _ known => .list (Facts.refs known))
    fun c head c₂ id c' run last ready _ _ kept sub owned => ?_
  obtain ⟨value, present⟩ := C.changed_iff.mp owned
  obtain ⟨t, c₁, first, rest⟩ := exists_of_bind run
  obtain ⟨members, c₂', read, same⟩ := exists_of_bind rest
  cases same
  have brace := (expect_cases first).1
  cases first.symm.trans (expect_of_spells brace)
  obtain ⟨rfl, rfl⟩ := node_cases last
  have object : Object C c members n c₂ := ⟨both, brace, read, ready, sub, kept⟩
  rw [← objectLiteral_eq]
  exact object.repeats last present

theorem edited (n m : Nat)
    (both : ∀ k ≤ n, ∀ m, C.insertions.rewriting.Abreast (.ofDepth k) (.ofDepth m)) :
    C.insertions.rewriting.Edited (.ofDepth n) (.ofDepth m) where
  object := objectLiteral (both n le_rfl)
  function _ _ _ := Rewriting.Tracks.function (both n le_rfl m) (spares nofun)
  returned := Rewriting.Tracks.returnStatement (both n le_rfl m) (objectLiteral (both n le_rfl))
    (spares (by decide))
  imported _ _ _ := Rewriting.Tracks.importDeclaration (spares (by decide)) (spares (by decide))

theorem view {file : FileId} {source : Text} {found : Tokens} (short : source.length < UInt32.size)
    (cut : tokenize file source = .ok found) (parsed : parseSource file source = .ok C.tree)
    (tokens : C.tokens = seen source 0 found.tokens) : C.insertions.rewriting.Over file source found :=
  ⟨short, cut, parsed, tokens, .nil, edited⟩

/-- A script with comments put into some of its objects is a script, and these objects have the
comments before their properties. -/
theorem parses {file : FileId} {source : Text} {found : Tokens} (short : source.length < UInt32.size)
    (cut : tokenize file source = .ok found) (parsed : parseSource file source = .ok C.tree)
    (tokens : C.tokens = seen source 0 found.tokens)
    (short' : (C.insertions.result source).length < UInt32.size) (file' : FileId) :
    ∃ t root root', parseSource file' (C.insertions.result source) = .ok t ∧
      C.tree.root = some root ∧ t.root = some root' ∧
      (Facts.similar (commenting C.text) C.insertions.changed root root').holds C.tree t := by
  refine C.insertions.parses (view short cut parsed tokens)
    (fun {id new} at_ placed => ?_) (fun {id new} at_ => ?_) short' file'
  · obtain ⟨value, present, rfl⟩ := Option.map_eq_some_iff.mp at_
    obtain ⟨before, s, t, after, split, opening⟩ := placed (by rw [present]; rfl)
    have whole : seen source 0 found.tokens = before ++ s :: t :: after := tokens ▸ split
    obtain ⟨split', mem, live⟩ := Piece.split_tokens short cut whole
    obtain ⟨front, rest, -, fits, -⟩ := Piece.exists_of_seen short cut mem live
    refine ⟨_, _, _, split', opening.live, congrArg UInt32.toNat opening.point, fun u last _ => ?_⟩
    obtain rfl : s.token = u := by simpa using last
    rw [Token.text_of_spells opening.brace] at fits ⊢
    exact fits.closed_of_punctuator (by decide) (by decide +kernel)
  · obtain ⟨value, present, rfl⟩ := Option.map_eq_some_iff.mp at_
    exact ⟨Piece.first_comment value, fun r cut => Piece.cut_comment (C.object present).2 cut⟩

end Comments
end Script
end TreeLint
