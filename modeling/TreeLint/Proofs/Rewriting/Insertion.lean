import TreeLint.Proofs.Rewriting.Basic
import TreeLint.Proofs.Rewriting.Script
import TreeLint.Proofs.Script.Insertion
import TreeLint.Proofs.Tree.Likeness

/-! # Rewritings that put tokens in

Tokens are put in between others (`Spread`).  Where no token put in is a bracket, a semicolon or an
arrow, and commas are put in after an opening brace only, what a parser finds when it looks ahead
stays the same (`Spread.close`).

For some nodes of a script a few pieces are put in right before a token each (`Insertions`).  The
script that comes of it is parsed, and its tree is that of the script as it was but for what
becomes of these nodes (`Insertions.parses`). -/

namespace TreeLint.Script

/-- Tokens that may stand between two others without being found by looking ahead. -/
structure Unseen (s t : Token) (new : List Token) : Prop where
  gap : s.text ∈ gaps
  plain : ∀ x ∈ new, x.kind ≠ .eof ∧
    ∀ text ∈ List.map utf8 ["(", "[", "\x7b", ")", "]", "\x7d", ";", "=>"], x.spells text = false
  comma : ∀ x ∈ new, x.spells "," → s.spells "\x7b"
  word : s.kind = .word → ∀ x ∈ t :: new, ∀ text ∈ List.map utf8 ["=>", ",", ":", "=", "<"],
    x.spells text = false

/-- Tokens, and the same with others between them. -/
inductive Spread (Between : Token → Token → List Token → Prop) : List Token → List Token → Prop where
  | nil : Spread Between [] []
  | keep {t : Token} {ts us : List Token} (rest : Spread Between ts us) :
      Spread Between (t :: ts) (t :: us)
  | put {s t : Token} {new ts us : List Token} (between : Between s t new)
      (rest : Spread Between (t :: ts) (t :: us)) :
      Spread Between (s :: t :: ts) (s :: (new ++ t :: us))

namespace Spread

variable {Between : Token → Token → List Token → Prop} {h : Token} {ts us new : List Token}

theorem head?_eq (spread : Spread Between ts us) : us.head? = ts.head? := by
  cases spread <;> rfl

theorem getD_zero (spread : Spread Between ts us) (t : Token) : us.getD 0 t = ts.getD 0 t := by
  cases spread <;> rfl

theorem afterMatching?_cons (depth : Nat) (t : Token) (ts : List Token) :
    afterMatching? depth (t :: ts) =
      if t.spells "(" || t.spells "[" || t.spells "\x7b" then afterMatching? (depth + 1) ts
      else if t.spells ")" || t.spells "]" || t.spells "\x7d" then
        if depth ≤ 1 then some ts else afterMatching? (depth - 1) ts
      else afterMatching? depth ts :=
  rfl

theorem arrowAfterType_cons (depth : Nat) (t : Token) (ts : List Token) :
    arrowAfterType depth (t :: ts) =
      if t.kind = .eof then false
      else if t.spells "(" || t.spells "[" || t.spells "\x7b" then arrowAfterType (depth + 1) ts
      else if t.spells ")" || t.spells "]" || t.spells "\x7d" then
        if depth = 0 then false else arrowAfterType (depth - 1) ts
      else if (t.spells "," || t.spells ";") && depth = 0 then false
      else if t.spells "=>" && depth = 0 then true
      else arrowAfterType depth ts :=
  rfl

theorem spells_getD_zero {text : Text} :
    (ts.getD 0 .ending).spells text = ts.head?.any (·.spells text) := by
  cases ts <;> rfl

theorem afterMatching?_append
    (plain : ∀ x ∈ new, ∀ text ∈ List.map utf8 ["(", "[", "\x7b", ")", "]", "\x7d"],
      x.spells text = false) (depth : Nat) :
    afterMatching? depth (new ++ ts) = afterMatching? depth ts := by
  induction new with
  | nil => rfl
  | cons x new ih =>
    rw [List.forall_mem_cons] at plain
    have none (text : Text) (mem : text ∈ List.map utf8 ["(", "[", "\x7b", ")", "]", "\x7d"]) :=
      plain.1 text mem
    simp only [List.cons_append, afterMatching?, none (utf8 "(") (by decide),
      none (utf8 "[") (by decide), none (utf8 "\x7b") (by decide), none (utf8 ")") (by decide),
      none (utf8 "]") (by decide), none (utf8 "\x7d") (by decide), Bool.or_self, Bool.false_eq_true,
      if_false]
    exact ih plain.2

theorem arrowAfterType_append
    (plain : ∀ x ∈ new, x.kind ≠ .eof ∧ ∀ text ∈ List.map utf8
      ["(", "[", "\x7b", ")", "]", "\x7d", ";", "=>"], x.spells text = false) {depth : Nat}
    (comma : ∀ x ∈ new, x.spells "," → depth ≠ 0) :
    arrowAfterType depth (new ++ ts) = arrowAfterType depth ts := by
  induction new with
  | nil => rfl
  | cons x new ih =>
    rw [List.forall_mem_cons] at plain comma
    have none (text : Text) (mem : text ∈ List.map utf8
        ["(", "[", "\x7b", ")", "]", "\x7d", ";", "=>"]) := plain.1.2 text mem
    have other : (x.spells "," && decide (depth = 0)) = false := by
      rw [Bool.eq_false_iff, Ne, Bool.and_eq_true, decide_eq_true_eq]
      exact fun both => comma.1 both.1 both.2
    simp only [List.cons_append, arrowAfterType, plain.1.1, none (utf8 "(") (by decide),
      none (utf8 "[") (by decide), none (utf8 "\x7b") (by decide), none (utf8 ")") (by decide),
      none (utf8 "]") (by decide), none (utf8 "\x7d") (by decide), none (utf8 ";") (by decide),
      none (utf8 "=>") (by decide), other, Bool.or_self, Bool.or_false, Bool.false_and,
      Bool.false_eq_true, if_false]
    exact ih plain.2 comma.2

section Unseen

variable (unseen : ∀ {s t new}, Between s t new → Unseen s t new)

include unseen

/-- Brackets close where they did. -/
theorem afterMatching? (spread : Spread Between ts us) (depth : Nat) :
    Option.Rel (Spread Between) (Script.afterMatching? depth ts)
      (Script.afterMatching? depth us) := by
  induction spread generalizing depth with
  | nil => exact .none
  | keep rest ih =>
    rw [afterMatching?_cons, afterMatching?_cons]
    split
    · exact ih _
    split
    · split
      · exact .some rest
      · exact ih _
    · exact ih _
  | @put s t new ts us between rest ih =>
    obtain ⟨gap, plain, -, -⟩ := unseen between
    have skip (depth : Nat) : Script.afterMatching? depth (new ++ t :: us)
        = Script.afterMatching? depth (t :: us) := by
      refine afterMatching?_append (fun x mem text known => (plain x mem).2 text ?_) depth
      simp only [List.map_cons, List.map_nil, List.mem_cons, List.not_mem_nil, or_false] at known ⊢
      tauto
    rw [afterMatching?_cons depth s, afterMatching?_cons depth s, skip, skip, skip]
    split
    · exact ih _
    split
    next closes =>
      simp only [Bool.or_eq_true] at closes
      obtain (closes | closes) | closes := closes
      all_goals
        rw [Token.text_of_spells closes] at gap
        exact absurd gap (by decide)
    · exact ih _

theorem arrowAfterType (spread : Spread Between ts us) (depth : Nat) :
    Script.arrowAfterType depth us = Script.arrowAfterType depth ts := by
  induction spread generalizing depth with
  | nil => rfl
  | keep rest ih => simp only [arrowAfterType_cons, ih]
  | @put s t new ts us between rest ih =>
    obtain ⟨-, plain, comma, -⟩ := unseen between
    rw [arrowAfterType_cons depth s, arrowAfterType_cons depth s]
    by_cases opens : (s.spells "(" || s.spells "[" || s.spells "\x7b") = true
    · have skip : Script.arrowAfterType (depth + 1) (new ++ t :: us)
          = Script.arrowAfterType (depth + 1) (t :: us) :=
        arrowAfterType_append plain fun _ _ _ => Nat.succ_ne_zero depth
      rw [if_pos opens, if_pos opens, skip, ih]
    · have skip (depth : Nat) : Script.arrowAfterType depth (new ++ t :: us)
          = Script.arrowAfterType depth (t :: us) :=
        arrowAfterType_append plain fun x mem spelled => by
          simp [comma x mem spelled] at opens
      simp only [skip, ih]

/-- After a word the same texts are found that tell what the word is. -/
theorem next_spells (spread : Spread Between (h :: ts) (h :: us)) (word : h.kind = .word)
    {text : Text} (mem : text ∈ List.map utf8 ["=>", ",", ":", "=", "<"]) :
    us.head?.any (·.spells text) = ts.head?.any (·.spells text) := by
  cases spread with
  | keep rest => rw [rest.head?_eq]
  | @put _ t new ts us between rest =>
    have none := (unseen between).word word
    cases new with
    | nil => rfl
    | cons x new =>
      have first : x.spells text = false :=
        none x (List.mem_cons_of_mem t List.mem_cons_self) text mem
      have last : t.spells text = false := none t List.mem_cons_self text mem
      simp [first, last]

theorem arrowStarts (spread : Spread Between ts us) :
    Script.arrowStarts us = Script.arrowStarts ts := by
  have matching := spread.afterMatching? unseen 0
  have same {h : Token} {ts us : List Token} (spread : Spread Between (h :: ts) (h :: us))
      (matching : Option.Rel (Spread Between) (Script.afterMatching? 0 (h :: ts))
        (Script.afterMatching? 0 (h :: us))) :
      Script.arrowStarts (h :: us) = Script.arrowStarts (h :: ts) := by
    simp only [Script.arrowStarts]
    split
    next word => exact spread.next_spells unseen word (by decide)
    split
    · rfl
    generalize Script.afterMatching? 0 (h :: ts) = o, Script.afterMatching? 0 (h :: us) = o'
      at matching
    cases matching with
    | none => rfl
    | some after =>
      cases after with
      | nil => rfl
      | keep rest => simp only [rest.arrowAfterType unseen]
      | @put s t new ts us between rest =>
        have gap := (unseen between).gap
        have none (text : Text) (other : text ∉ gaps) : s.spells text = false := by
          rw [Bool.eq_false_iff]
          exact fun spelled => other (Token.text_of_spells spelled ▸ gap)
        simp [none (utf8 "=>") (by decide), none (utf8 ":") (by decide)]
  cases spread with
  | nil => rfl
  | keep rest => exact same (.keep rest) matching
  | put between rest => exact same (.put between rest) matching

theorem close (spread : Spread Between (h :: ts) (h :: us)) : Close h ts us := by
  refine ⟨spread.arrowStarts unseen, fun async => ?_, fun other => ?_, fun known word => ?_,
    fun word => ?_⟩
  · cases spread with
    | keep rest => exact rest.arrowStarts unseen
    | put between =>
      have gap := (unseen between).gap
      rw [Token.text_of_spells async] at gap
      exact absurd gap (by decide)
  · cases spread with
    | keep rest =>
      rw [rest.getD_zero]
      exact .same
    | put between => exact absurd (unseen between).gap other
  · intro text mem
    cases spread with
    | put between =>
      have gap := (unseen between).gap
      obtain known | known := known
      all_goals
        rw [Token.text_of_spells known] at gap
        exact absurd gap (by decide)
    | keep rest =>
      have among : text ∈ List.map utf8 ["=>", ",", ":", "=", "<"] := List.mem_cons_of_mem _ mem
      have same {t : Token} {ts us : List Token} (word : t.kind = .word)
          (spread : Spread Between (t :: ts) (t :: us)) :
          ((t :: us).getD 1 .ending).spells text = ((t :: ts).getD 1 .ending).spells text := by
        rw [List.getD_cons_succ, List.getD_cons_succ, spells_getD_zero, spells_getD_zero]
        exact spread.next_spells unseen word among
      cases rest with
      | nil => rfl
      | keep rest => exact same word (.keep rest)
      | put between rest => exact same word (.put between rest)
  · rw [spells_getD_zero, spells_getD_zero]
    exact spread.next_spells unseen word (by decide)

end Unseen
end Spread
end TreeLint.Script

namespace TreeLint.Script

open Text (byte withInserted)

section Place

variable {file : FileId} {source : Text} {found : Tokens} {s t : Seen}
  (short : source.length < UInt32.size) (cut : tokenize file source = .ok found)

include short cut

/-- A token stands where it starts, and is what a step takes off there. -/
theorem Piece.exists_of_seen (mem : s ∈ seen source 0 found.tokens) (live : s.token.kind ≠ .eof) :
    ∃ front after, source = front ++ s.token.text ++ after ∧
      Fits ⟨.token s.token.kind, s.token.text⟩ after ∧ s.token.start.toNat = front.length ∧
        s.token.stop.toNat = (front ++ s.token.text).length := by
  have mem' : s.token ∈ found.tokens := by
    rw [← map_token_seen source 0 found.tokens]
    exact List.mem_map_of_mem mem
  obtain ⟨front, after, source_eq, fits, start, stop⟩ := exists_of_token cut mem' live
  have inside : (front ++ s.token.text).length < UInt32.size := by
    rw [source_eq, List.length_append] at short
    omega
  refine ⟨front, after, source_eq, fits, ?_, by rw [stop, toNat_offset inside]⟩
  rw [List.length_append] at inside
  rw [start, toNat_offset (by omega)]

theorem Piece.slice_of_seen (mem : s ∈ seen source 0 found.tokens) (live : s.token.kind ≠ .eof) :
    source.slice s.token.start.toNat s.token.stop.toNat = s.token.text ∧
      s.token.stop.toNat = s.token.start.toNat + s.token.text.length ∧
        s.token.stop.toNat ≤ source.length := by
  obtain ⟨front, after, source_eq, -, start, stop⟩ := exists_of_seen short cut mem live
  rw [List.length_append] at stop
  rw [start, stop, source_eq]
  simp [Text.slice]

/-- A token that has another one after it is not the end. -/
theorem Piece.split_tokens {before after : List Seen}
    (split : seen source 0 found.tokens = before ++ s :: t :: after) :
    found.tokens = (before.map Seen.token ++ [s.token]) ++ t.token :: after.map Seen.token ∧
      s ∈ seen source 0 found.tokens ∧ s.token.kind ≠ .eof := by
  have tokens : found.tokens
      = (before.map Seen.token ++ [s.token]) ++ t.token :: after.map Seen.token := by
    rw [← map_token_seen source 0 found.tokens, split]
    simp
  refine ⟨tokens, by simp [split], ?_⟩
  have ordered := tokenize_ordered short cut
  rw [tokens, List.append_assoc] at ordered
  exact ordered.live_of_append (List.cons_ne_nil _ _)

end Place

/-! ## Reading on behind what was put in -/

theorem contains_slice {text : Text} {b : UInt8} {start stop stop' : Nat} (le : stop ≤ stop')
    (inside : (text.slice start stop).contains b = true) :
    (text.slice start stop').contains b = true := by
  rw [List.contains_iff_mem] at inside ⊢
  exact (List.take_prefix_take_left (by omega)).subset inside

/-- A token on the line of the one before it can be read as if it stood in the place of that one. -/
theorem Cursor.exists_before {d : Cursor} {t u : Token} {broken : Bool} {more : List Seen}
    (ready : d.Ready) (view : d.view = ⟨t, broken⟩ :: ⟨u, false⟩ :: more) (live : t.kind ≠ .eof) :
    ∃ x, Ready { d.advance with previousEnd := x } ∧
      Cursor.view { d.advance with previousEnd := x } = ⟨u, broken⟩ :: more := by
  have peek := Rewriting.mem_view_of_some view ready
  simp only [Seen.mk.injEq] at peek
  obtain ⟨rfl, newline⟩ := peek
  rw [Token.bare_kind] at live
  obtain ⟨ahead, ready'⟩ := ready.advance live
  rw [Cursor.view, ahead, List.map_cons] at view
  have view' : d.advance.view = ⟨u, false⟩ :: more := (List.cons.inj view).2
  cases broken with
  | false => exact ⟨d.advance.previousEnd, ready', view'⟩
  | true =>
    obtain ⟨limit, ordered⟩ := ready.ordered
    obtain ⟨first, ts, rest, at_first⟩ := ready.exists_cons
    obtain ⟨second, ts', rest', -⟩ := ready'.exists_cons
    have step : d.advance = { d with rest := ts, previousEnd := first.stop } := by
      rw [Cursor.advance, if_neg live, rest, List.tail_cons, at_first]
    rw [step] at rest' view'
    obtain rfl : ts = second :: ts' := rest'
    rw [rest] at ordered
    cases ordered with
    | cons _ apart proper after =>
    have le : first.start ≤ second.start := by
      cases after with
      | eof _ start apart' => exact start ▸ UInt32.le_trans (UInt32.le_of_lt proper) apart'
      | cons _ apart' => exact UInt32.le_trans (UInt32.le_of_lt proper) apart'
    have broken : (d.source.slice d.previousEnd.toNat second.start.toNat).contains 10 = true := by
      rw [Cursor.newlineBefore, at_first] at newline
      exact contains_slice (UInt32.le_iff_toNat_le.mp le) newline.symm
    rw [step]
    refine ⟨d.previousEnd, ⟨ready.eof, limit,
      after.of_le (UInt32.le_trans apart (UInt32.le_of_lt proper))⟩, ?_⟩
    simp only [Cursor.view, Cursor.ahead, seen, List.map_cons, List.cons.injEq] at view' ⊢
    exact ⟨congrArg₂ Seen.mk (congrArg Seen.token view'.1) broken, view'.2⟩

theorem Cursor.advance_withEnd {d : Cursor} (live : d.peek.kind ≠ .eof) (x : UInt32) :
    Cursor.advance { d with previousEnd := x } = d.advance := by
  rw [Cursor.advance, Cursor.advance, if_neg live]
  exact if_neg live

/-- Behind tokens that stand on one line, a token can be read as if it stood in their place. -/
theorem Cursor.exists_behind {d : Cursor} {t u : Token} {ws : List Token} {broken : Bool}
    {more : List Seen} (ready : d.Ready)
    (view : d.view = ⟨t, broken⟩ :: (ws.map (⟨·, false⟩) ++ ⟨u, false⟩ :: more))
    (live : ∀ s ∈ t :: ws, s.kind ≠ .eof) :
    ∃ x, Ready { Cursor.advance^[ws.length + 1] d with previousEnd := x } ∧
      Cursor.view { Cursor.advance^[ws.length + 1] d with previousEnd := x }
        = ⟨u, broken⟩ :: more := by
  induction ws generalizing d t with
  | nil => exact exists_before ready view (live t List.mem_cons_self)
  | cons w ws ih =>
    obtain ⟨first, others⟩ := List.forall_mem_cons.mp live
    obtain ⟨x, ready', view'⟩ := exists_before ready view first
    have peek := Rewriting.mem_view_of_some view' ready'
    have live' : d.advance.peek.kind ≠ .eof := by
      have kind : w.kind = d.advance.peek.kind := congrArg (fun s => s.token.kind) peek
      rw [← kind]
      exact others w List.mem_cons_self
    obtain ⟨y, ready₂, view₂⟩ := ih ready' view' others
    rw [Function.iterate_succ_apply, advance_withEnd live' x, ← Function.iterate_succ_apply,
      ← Function.iterate_succ_apply] at ready₂ view₂
    exact ⟨y, ready₂, view₂⟩

/-! ## What is put in -/

/-- Pieces to put in before the token that starts at an offset. -/
structure Insertion where
  point : Nat
  pieces : List Piece

/-- What becomes of a token. -/
def Insertion.change (s : Seen) (w : List Seen) : Option Insertion → List Seen
  | some new => if s.token.start.toNat = new.point then Piece.seenBefore new.pieces s else w
  | none => w

/-- What is put into a script for its nodes. -/
structure Insertions where
  tree : Tree
  tokens : List Seen
  ordered : tokens.Pairwise fun s t => s.token.start < t.token.start
  /-- What is put in for a node. -/
  at? : NodeId → Option Insertion
  owned : ∀ {id}, (at? id).isSome → ∃ k ∈ editable, tree.kind? (some id) = some k
  /-- What is known of a node that something is put in for and its tokens. -/
  Placed : NodeId → List Seen → Prop
  placed_mono : ∀ {id w} (u v : List Seen), Placed id w → Placed id (u ++ w ++ v)
  inside : ∀ {id w new}, Placed id w → at? id = some new → ∃ before s t after,
    w = before ++ s :: t :: after ∧ t.token.start.toNat = new.point
  /-- What is put in between two tokens. -/
  Between : Token → Token → List Token → Prop
  unseen : ∀ {s t new}, Between s t new → Unseen s t new
  /-- What becomes of the nodes. -/
  change : Change

namespace Insertions

variable (I : Insertions)

/-- Whether something is put in for a node. -/
def changed (id : NodeId) : Bool := (I.at? id).isSome

def rewriting : Rewriting where
  tree := I.tree
  tokens := I.tokens
  distinct := I.ordered.imp (S := (· ≠ ·)) fun {s t} less (same : s = t) =>
    UInt32.lt_irrefl _ (same ▸ less)
  owner := I.changed
  change id s w := Insertion.change s w (I.at? id)
  unowned := by
    intro id s w none
    rw [changed, Option.isSome_eq_false_iff, Option.isNone_iff_eq_none] at none
    rw [none]
    rfl
  owned := I.owned
  Placed := I.Placed
  placed_mono := I.placed_mono
  Alike := Spread I.Between
  keep := .keep
  close := Spread.close I.unseen
  Same := Facts.similar I.change I.changed
  same_node := by
    intro t u a b n m unowned found found' like
    exact Facts.similar_cons (.inl ⟨unowned, n, m, found, found', like⟩)
  same_key := Facts.keyName?_of_similar
  same_identifier := by
    intro t u a b same
    rw [Tree.hasKind, Tree.hasKind, Facts.kind?_of_similar same]
  same_exportable := by
    intro t u a b same
    rw [Facts.kind?_of_similar same]

/-- What is put in at an offset. -/
def put (n : Nat) : List Piece :=
  ((List.range I.tree.size).findSome? fun i => (I.at? ⟨i⟩).filter (·.point == n)).elim []
    Insertion.pieces

variable {I : Insertions} {file : FileId} {id : NodeId} {new : Insertion} {s : Seen}

theorem index_lt (at_ : I.at? id = some new) : id.index < I.tree.size := by
  obtain ⟨k, -, known⟩ := I.owned (by rw [at_]; rfl)
  obtain ⟨n, found, -⟩ := Option.map_eq_some_iff.mp known
  exact Tree.index_lt_size (show I.tree.node? id = some n from found)

theorem change_eq (at_ : I.at? id = some new) (here : s.token.start.toNat = new.point)
    (w : List Seen) : I.rewriting.change id s w = Piece.seenBefore new.pieces s := by
  change Insertion.change s w (I.at? id) = _
  rw [at_, Insertion.change, if_pos here]

theorem seenBefore_ne_nil (ps : List Piece) (s : Seen) : Piece.seenBefore ps s ≠ [] := by
  induction ps generalizing s with
  | nil => exact List.cons_ne_nil _ _
  | cons p ps ih =>
    rw [Piece.seenBefore]
    split
    · exact List.cons_ne_nil _ _
    · exact ih _

theorem leaves_iff :
    I.rewriting.Leaves id s ↔ ∀ new, I.at? id = some new → s.token.start.toNat ≠ new.point := by
  constructor
  · intro leaves new at_ here
    have changed := leaves []
    rw [change_eq at_ here] at changed
    exact seenBefore_ne_nil _ _ changed
  · intro elsewhere w
    change Insertion.change s w (I.at? id) = w
    cases at_ : I.at? id with
    | none => rfl
    | some new => rw [Insertion.change, if_neg (elsewhere new at_)]

theorem not_leaves (at_ : I.at? id = some new) (here : s.token.start.toNat = new.point) :
    ¬ I.rewriting.Leaves id s :=
  fun leaves => leaves_iff.mp leaves new at_ here

theorem exists_of_put {n : Nat} (full : I.put n ≠ []) :
    ∃ id new, I.at? id = some new ∧ new.point = n ∧ I.put n = new.pieces := by
  rw [put] at full ⊢
  cases found : (List.range I.tree.size).findSome? fun i => (I.at? ⟨i⟩).filter (·.point == n) with
  | none =>
    rw [found] at full
    exact absurd rfl full
  | some new =>
    obtain ⟨i, -, picked⟩ := List.exists_of_findSome?_eq_some found
    obtain ⟨at_, point⟩ := Option.filter_eq_some_iff.mp picked
    exact ⟨⟨i⟩, new, at_, by simpa using point, rfl⟩

theorem put_eq_nil {n : Nat} (elsewhere : ∀ id new, I.at? id = some new → new.point ≠ n) :
    I.put n = [] := by
  by_contra full
  obtain ⟨id, new, at_, point, -⟩ := exists_of_put full
  exact elsewhere id new at_ point

/-! ## What comes of it -/

/-- What is put in before a token is put in for one node. -/
theorem put_eq (settled : I.rewriting.Settled) (at_ : I.at? id = some new)
    (mem : s ∈ I.tokens) (here : s.token.start.toNat = new.point) :
    I.put s.token.start.toNat = new.pieces := by
  rw [put]
  cases found : (List.range I.tree.size).findSome?
      fun i => (I.at? ⟨i⟩).filter (·.point == s.token.start.toNat) with
  | none =>
    have absent := List.findSome?_eq_none_iff.mp found id.index (List.mem_range.mpr (index_lt at_))
    simp [at_, here] at absent
  | some new' =>
    obtain ⟨i, -, picked⟩ := List.exists_of_findSome?_eq_some found
    obtain ⟨at_', point⟩ := Option.filter_eq_some_iff.mp picked
    have here' : s.token.start.toNat = new'.point := (beq_iff_eq.mp point).symm
    have same : (⟨i⟩ : NodeId) = id :=
      settled.single mem (not_leaves at_' here') (not_leaves at_ here)
    rw [same, at_] at at_'
    rw [← Option.some.inj at_', Option.elim_some]

/-- A token is told by where it starts. -/
theorem eq_of_start {s t : Seen} (mem : s ∈ I.tokens) (mem' : t ∈ I.tokens)
    (same : s.token.start = t.token.start) : s = t := by
  by_contra other
  have apart : I.tokens.Pairwise fun s t => s.token.start ≠ t.token.start := by
    refine I.ordered.imp fun {s t} less same => ?_
    rw [same] at less
    exact UInt32.lt_irrefl _ less
  have : Std.Symm fun s t : Seen => s.token.start ≠ t.token.start := ⟨fun _ _ => Ne.symm⟩
  exact apart.forall mem mem' other same

/-- Nothing is changed at the first of some tokens for a node built from them, for what is changed
stands after another one. -/
theorem leaves_first {c c' : Cursor} (near : I.rewriting.Local c c') {after : List Seen}
    (sub : c.upTo c' <:+: I.tokens) (read : c.upTo c' = s :: after) (ge : c.tree.size ≤ id.index)
    (lt : id.index < c'.tree.size) : I.rewriting.Leaves id s := by
  refine leaves_iff.mpr fun new at_ here => ?_
  have owned : I.changed id = true := by
    rw [changed, at_]
    rfl
  obtain ⟨before, p, t, later, split, point⟩ := I.inside (near.placed ge lt owned) at_
  rw [read] at split sub
  have tail : t ∈ after := by
    cases before with
    | nil =>
      rw [(List.cons.inj split).2]
      exact List.mem_cons_self
    | cons x before =>
      rw [(List.cons.inj split).2]
      simp
  have less := (List.pairwise_cons.mp (I.ordered.sublist sub.sublist)).1 t tail
  have same : s.token.start = t.token.start := UInt32.toNat_inj.mp (here.trans point.symm)
  exact UInt32.lt_irrefl _ (same ▸ less)

/-- What becomes of the tokens that a node is built from, where some are put in for it. -/
theorem rewritten_own {c c₁ c' : Cursor} (at_ : I.at? ⟨c₁.tree.size⟩ = some new)
    (le : c.tree.size ≤ c₁.tree.size) (same : c'.ahead = c₁.ahead)
    (size : c'.tree.size = c₁.tree.size + 1) :
    I.rewriting.rewritten c c' = (c.upTo c₁).flatMap fun s =>
      if s.token.start.toNat = new.point then Piece.seenBefore new.pieces s
        else I.rewriting.edit c.tree.size c₁.tree.size s := by
  have read : c.upTo c' = c.upTo c₁ := by rw [Cursor.upTo, Cursor.upTo, same]
  rw [Rewriting.rewritten, read]
  refine List.flatMap_congr fun s _ => ?_
  rw [size, Rewriting.edit_succ le]
  change Insertion.change s _ (I.at? ⟨c₁.tree.size⟩) = _
  rw [at_, Insertion.change]

/-- There is a token where something is put in for a node. -/
theorem exists_at_point (settled : I.rewriting.Settled) (at_ : I.at? id = some new) :
    ∃ s ∈ I.tokens, s.token.start.toNat = new.point := by
  have owned : I.changed id = true := by
    rw [changed, at_]
    rfl
  obtain ⟨before, s, t, after, split, here⟩ := I.inside (settled.placed owned) at_
  have mem : t ∈ I.rewriting.tokens := by
    rw [split]
    simp
  exact ⟨t, mem, here⟩

/-- No two nodes have one place. -/
theorem point_inj (settled : I.rewriting.Settled) {id' : NodeId} {new' : Insertion}
    (at_ : I.at? id = some new) (at_' : I.at? id' = some new') (same : new.point = new'.point) :
    id = id' := by
  obtain ⟨s, mem, here⟩ := exists_at_point settled at_
  exact settled.single mem (not_leaves at_ here) (not_leaves at_' (here.trans same))

theorem put_point (settled : I.rewriting.Settled) (at_ : I.at? id = some new) :
    I.put new.point = new.pieces := by
  obtain ⟨s, mem, here⟩ := exists_at_point settled at_
  rw [← here]
  exact put_eq settled at_ mem here

theorem outcome_eq (settled : I.rewriting.Settled) :
    I.rewriting.outcome
      = I.tokens.flatMap fun s => Piece.seenBefore (I.put s.token.start.toNat) s := by
  refine List.flatMap_congr fun s mem => ?_
  by_cases changed : ∃ id new, I.at? id = some new ∧ s.token.start.toNat = new.point
  · obtain ⟨id, new, at_, here⟩ := changed
    have lt : id.index < I.rewriting.tree.size := index_lt at_
    rw [put_eq settled at_ mem here, Rewriting.edit_of_single (Nat.zero_le _) lt
      fun id' other => ?_, change_eq at_ here]
    by_contra changed
    exact other (settled.single mem changed (not_leaves at_ here))
  · have leaves (id : NodeId) : I.rewriting.Leaves id s :=
      leaves_iff.mpr fun new at_ here => changed ⟨id, new, at_, here⟩
    rw [Rewriting.edit_left (Nat.le_refl 0) (Nat.zero_le _) fun id _ _ => leaves id,
      Rewriting.edit_self, put_eq_nil fun id new at_ point => changed ⟨id, new, at_, point.symm⟩]
    rfl

/-- The text with everything put in. -/
def result (I : Insertions) (source : Text) : Text :=
  withInserted (fun n => Piece.joined (I.put n)) 0 source

/-- Some edits put in what is to be put in for the nodes. -/
theorem result_eq (settled : I.rewriting.Settled) {ps : List Edit.Put}
    (points : ps.Pairwise fun p q => p.point ≠ q.point)
    (puts : ∀ {id new}, I.at? id = some new →
      ∃ p ∈ ps, p.point = new.point ∧ p.new = Piece.joined new.pieces)
    (only : ∀ p ∈ ps, ∃ id new, I.at? id = some new ∧ p.point = new.point) (source : Text) :
    I.result source = withInserted (Edit.Put.all ps) 0 source := by
  refine congrArg (withInserted · 0 source) (funext fun n => ?_)
  by_cases placed : ∃ id new, I.at? id = some new ∧ new.point = n
  · obtain ⟨id, new, at_, rfl⟩ := placed
    obtain ⟨p, mem, point, text⟩ := puts at_
    rw [put_point settled at_, ← text, ← point, Edit.Put.all_of_mem points mem]
  · have absent : ∀ p ∈ ps, n ≠ p.point := fun p mem same =>
      let ⟨id, new, at_, point⟩ := only p mem
      placed ⟨id, new, at_, (same.trans point).symm⟩
    rw [put_eq_nil fun id new at_ point => placed ⟨id, new, at_, point⟩,
      Edit.Put.all_of_notMem absent]
    rfl

/-- A script with everything put in is parsed, and its tree is the same but for the nodes that
something is put in for. -/
theorem parses {source : Text} {found : Tokens} (view : I.rewriting.Over file source found)
    (stands : ∀ {id new}, I.at? id = some new → I.Placed id I.tokens →
      ∃ before t after, found.tokens = before ++ t :: after ∧ t.kind ≠ .eof ∧
        t.start.toNat = new.point ∧
        ∀ s ∈ before.getLast?, s.stop = t.start → Piece.Closed ⟨.token s.kind, s.text⟩)
    (own : ∀ {id new}, I.at? id = some new → byte '.' ∉ (Piece.joined new.pieces).head? ∧
      ∀ r, Piece.Cut r → Piece.Cut (new.pieces ++ r))
    (short : (I.result source).length < UInt32.size) (file' : FileId) :
    ∃ t root root', parseSource file' (I.result source) = .ok t ∧ I.tree.root = some root ∧
      t.root = some root' ∧ (Facts.similar I.change I.changed root root').holds I.tree t := by
  have settled := view.settled
  have each (n : Nat) : byte '.' ∉ (Piece.joined (I.put n)).head? ∧
      ∀ r, Piece.Cut r → Piece.Cut (I.put n ++ r) := by
    by_cases empty : I.put n = []
    · rw [empty]
      exact ⟨nofun, fun _ cut => cut⟩
    · obtain ⟨id, new, at_, -, pieces⟩ := exists_of_put empty
      rw [pieces]
      exact own at_
  have tokens : I.tokens = seen source 0 found.tokens := view.tokens
  have sits (n : Nat) : Piece.Stands I.put found.tokens n := by
    intro full
    obtain ⟨id, new, at_, rfl, -⟩ := exists_of_put full
    have owned : I.changed id = true := by
      rw [changed, at_]
      rfl
    exact stands at_ (settled.placed owned)
  obtain ⟨found', cut', same⟩ := Piece.tokenize_withInserted view.short view.cut sits
    (fun n => (each n).2) (fun n => (each n).1) short file'
  refine settled.parses short cut' ?_
  rw [outcome_eq settled, tokens]
  exact same

end Insertions
end TreeLint.Script
