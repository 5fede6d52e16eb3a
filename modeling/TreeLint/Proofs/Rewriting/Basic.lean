import TreeLint.Proofs.Script.Token
import TreeLint.Proofs.Tree.Likeness
import TreeLint.Script.Cursor
import TreeLint.Script.Statement

/-! # Reading rewritten tokens

A parser never looks at the places of tokens but to tell whether a line break stands before one,
and to give nodes their spans.  So what it does from a cursor depends on its view alone
(`Cursor.view`): the tokens ahead without their places, each with the word whether a line break
separates it from the token before.

A fix puts tokens into a script or takes some away.  To say what the parser then makes of it, two
runs are compared: one over the tokens as they were, which is known to succeed, and one over the
rewritten ones.  A `Rewriting` says what is changed for the nodes of the first run (`change`), which
lists of tokens look alike to a parser (`Alike`), and which nodes of the two trees are the same
but for the changes (`Same`).

`Rewriting.Tracks` is the judgement that one parser makes of the rewritten tokens what another makes
of the tokens as they were.  There is one rule for each way to put parsers together.  The second run
may also find its nesting too deep, which no script leads to (`build_outcome`); so nothing has to be
said of how deep either grammar goes and how often the loops may go round.
-/

namespace TreeLint.Script

namespace Token

/-- A token without its place. -/
def bare (t : Token) : Token := { t with start := 0, stop := 0 }

variable (t : Token) (text : Text)

@[simp] theorem bare_kind : t.bare.kind = t.kind := rfl

@[simp] theorem bare_text : t.bare.text = t.text := rfl

@[simp] theorem bare_value : t.bare.value = t.value := rfl

@[simp] theorem bare_bare : t.bare.bare = t.bare := rfl

@[simp] theorem bare_spells : t.bare.spells text = t.spells text := rfl

@[simp] theorem bare_startsMemberName : t.bare.startsMemberName = t.startsMemberName := rfl

/-- The mark of the end. -/
def ending : Token := .ofText .eof [] 0

variable {t text}

theorem kind_of_spells (h : t.spells text) : t.kind = .punctuator ∨ t.kind = .word := by
  simp only [spells, Bool.and_eq_true, Bool.or_eq_true, beq_iff_eq] at h
  exact h.1

theorem text_of_spells (h : t.spells text) : t.text = text := by
  simp only [spells, Bool.and_eq_true, beq_iff_eq] at h
  exact h.2

/-- A token that spells one text spells no other. -/
theorem spells_other {text' : Text} (h : t.spells text) (other : text ≠ text') :
    t.spells text' = false := by
  rw [Bool.eq_false_iff]
  exact fun spelled => other ((text_of_spells h).symm.trans (text_of_spells spelled))

theorem spells_of_text (h : t.kind = .punctuator ∨ t.kind = .word) (same : t.text = text) :
    t.spells text := by
  simpa [spells, same] using h

theorem kind_ne_eof_of_spells (h : t.spells text) : t.kind ≠ .eof := by
  intro eof
  obtain h | h := kind_of_spells h <;> rw [eof] at h <;> contradiction

/-- Tokens that look the same stand in different places only. -/
theorem eq_of_bare {s : Token} (h : s.bare = t.bare) :
    { t with start := s.start, stop := s.stop } = s := by
  cases s
  cases t
  cases h
  rfl

theorem spells_of_bare {s : Token} (h : s.bare = t.bare) (text : Text) :
    s.spells text = t.spells text := by
  rw [← bare_spells s, h, bare_spells]

end Token

/-! ## Looking ahead -/

theorem afterMatching?_bare (depth : Nat) (ts : List Token) :
    afterMatching? depth (ts.map Token.bare) = (afterMatching? depth ts).map
    (·.map Token.bare) := by
  induction ts generalizing depth with
  | nil => rfl
  | cons t ts ih =>
    simp only [List.map_cons, afterMatching?, Token.bare_spells, ih]
    split
    · rfl
    split
    · split <;> rfl
    · rfl

theorem arrowAfterType_bare (depth : Nat) (ts : List Token) :
    arrowAfterType depth (ts.map Token.bare) = arrowAfterType depth ts := by
  induction ts generalizing depth with
  | nil => rfl
  | cons t ts ih => simp only [List.map_cons, arrowAfterType, Token.bare_spells, Token.bare_kind,
    ih]

theorem arrowStarts_bare (ts : List Token) : arrowStarts (ts.map Token.bare) = arrowStarts ts := by
  cases ts with
  | nil => rfl
  | cons t ts =>
    have closed := afterMatching?_bare 0 (t :: ts)
    rw [List.map_cons] at closed ⊢
    simp only [arrowStarts, Token.bare_kind, Token.bare_spells, closed]
    split
    · cases ts <;> rfl
    split
    · rfl
    cases afterMatching? 0 (t :: ts) with
    | none => rfl
    | some after =>
      cases after with
      | nil => rfl
      | cons next more =>
        simp only [Option.map_some, List.map_cons, Token.bare_spells, arrowAfterType_bare]

/-! ## Views -/

/-- A token ahead, and whether a line break separates it from the one before. -/
structure Seen where
  token : Token
  broken : Bool
  deriving DecidableEq, Repr

/-- The token without its place. -/
def Seen.bare (s : Seen) : Seen := { s with token := s.token.bare }

@[simp] theorem Seen.bare_token (s : Seen) : s.bare.token = s.token.bare := rfl

@[simp] theorem Seen.bare_broken (s : Seen) : s.bare.broken = s.broken := rfl

@[simp] theorem Seen.bare_bare (s : Seen) : s.bare.bare = s.bare := rfl

/-- Tokens with the line breaks between them, the first of them after an offset. -/
def seen (source : Text) (before : UInt32) : List Token → List Seen
  | [] => []
  | t :: ts => ⟨t, (source.slice before.toNat t.start.toNat).contains 10⟩ :: seen source t.stop ts

theorem map_token_seen (source : Text) (before : UInt32) (ts : List Token) :
    (seen source before ts).map Seen.token = ts := by
  induction ts generalizing before with
  | nil => rfl
  | cons t ts ih => rw [seen, List.map_cons, ih]

namespace Cursor

variable {c : Cursor}

/-- The tokens ahead with the line breaks between them. -/
def ahead (c : Cursor) : List Seen := seen c.source c.previousEnd c.rest

/-- What a parser sees of the tokens ahead. -/
def view (c : Cursor) : List Seen := c.ahead.map Seen.bare

/-- The tokens ahead without their places. -/
def words (c : Cursor) : List Token := c.rest.map Token.bare

theorem words_eq (c : Cursor) : c.words = c.view.map Seen.token := by
  rw [words, view, List.map_map, ← map_token_seen c.source c.previousEnd c.rest, List.map_map]
  rfl

@[simp] theorem advance_tree (c : Cursor) : c.advance.tree = c.tree := by
  rw [advance]
  split <;> rfl

theorem peekAt_advance (live : c.peek.kind ≠ .eof) (n : Nat) :
    c.advance.peekAt n = c.peekAt (n + 1) := by
  rw [advance, if_neg live]
  unfold peekAt
  cases c.rest <;> rfl

/-- A cursor over tokens in order, which reads the mark of the end when nothing else is left. -/
structure Ready (c : Cursor) : Prop where
  eof : c.eof.bare = Token.ending
  ordered : ∃ limit, Ordered limit c.previousEnd c.rest

namespace Ready

theorem peekAt_bare (h : c.Ready) (n : Nat) : (c.peekAt n).bare = c.words.getD n Token.ending := by
  rw [peekAt, words, ← h.eof, List.getD_eq_getElem?_getD, List.getD_eq_getElem?_getD,
    List.getElem?_map, Option.getD_map]

theorem exists_cons (h : c.Ready) : ∃ t ts, c.rest = t :: ts ∧ c.peek = t := by
  obtain ⟨limit, ordered⟩ := h.ordered
  obtain ⟨t, ts, rest⟩ := List.exists_cons_of_ne_nil ordered.ne_nil
  exact ⟨t, ts, rest, by rw [peek, peekAt, rest]; rfl⟩

theorem ahead_eq (h : c.Ready) : ∃ more, c.ahead = ⟨c.peek, c.newlineBefore⟩ :: more := by
  obtain ⟨t, ts, rest, peek⟩ := h.exists_cons
  refine ⟨seen c.source t.stop ts, ?_⟩
  rw [ahead, rest, seen, newlineBefore, peek]

/-- The next token is passed. -/
theorem advance (h : c.Ready) (live : c.peek.kind ≠ .eof) :
    c.ahead = ⟨c.peek, c.newlineBefore⟩ :: c.advance.ahead ∧ c.advance.Ready := by
  obtain ⟨t, ts, rest, peek⟩ := h.exists_cons
  have step : c.advance = { c with rest := ts, previousEnd := t.stop } := by
    rw [Cursor.advance, if_neg live, rest, List.tail_cons, peek]
  rw [step]
  refine ⟨?_, h.eof, ?_⟩
  · rw [ahead, ahead, rest, seen, newlineBefore, peek]
  · obtain ⟨limit, ordered⟩ := h.ordered
    rw [rest] at ordered
    cases ordered with
    | eof kind => exact absurd kind (peek ▸ live)
    | cons _ _ _ ordered => exact ⟨limit, ordered⟩

theorem of_tree (h : c.Ready) (tree : Tree) : Ready { c with tree } := ⟨h.eof, h.ordered⟩

end Ready

/-- The tokens read on the way from one cursor to another. -/
def upTo (c c' : Cursor) : List Seen := c.ahead.take (c.ahead.length - c'.ahead.length)

variable {c' c'' : Cursor} {w : List Seen}

theorem upTo_eq (h : c.ahead = w ++ c'.ahead) : c.upTo c' = w := by
  simp [upTo, h]

@[simp] theorem upTo_self (c : Cursor) : c.upTo c = [] := by
  simp [upTo]

theorem upTo_append (h : c.ahead = c.upTo c' ++ c'.ahead) (h' : c'.ahead = c'.upTo c'' ++ c''.ahead)
    :
    c.upTo c'' = c.upTo c' ++ c'.upTo c'' :=
  upTo_eq (by rw [List.append_assoc, ← h', ← h])

end Cursor
end TreeLint.Script

namespace TreeLint.Script

/-! ## What looks alike -/

/-- The word that an exported declaration begins with. -/
def Token.exportWord : Token := (Token.ofText .word "export" 0).bare

def Token.isSemicolon (t : Token) : Bool := t.kind == .punctuator && t.text == utf8 ";"

@[simp] theorem Token.bare_isSemicolon (t : Token) : t.bare.isSemicolon = t.isSemicolon := rfl

/-- Whether a declaration of a function begins with the token. -/
def Token.OpensFunction (t : Token) : Prop :=
  t.kind = .word ∧ (t.text = utf8 "function" ∨ t.text = utf8 "async")

/-- The next token in the two runs.  They differ at most where the first statement not read yet is a
function that has become exported. -/
inductive Near (t : Token) : Token → Prop where
  | same : Near t t
  | exported (opens : t.OpensFunction) : Near t Token.exportWord

/-- The token after the next in the two runs. -/
inductive Twin (t : Token) : Token → Prop where
  | same : Twin t t
  | exported (opens : t.OpensFunction) : Twin t Token.exportWord
  | typed {u : Token} (kind : t.kind = .punctuator) (ends : t.text = utf8 "," ∨ t.text = utf8 ")")
    (kind' : u.kind = .punctuator) (colon : u.text = utf8 ":") : Twin t u

/-- What tokens are put in or taken away after. -/
def gaps : List Text := List.map utf8 ["return", "(", "\x7b", ",", ";"]

/-- What looking further ahead finds in the two runs when token `h` comes next in both. -/
structure Close (h : Token) (ts us : List Token) : Prop where
  arrow : arrowStarts (h :: us) = arrowStarts (h :: ts)
  asyncArrow : h.spells "async" → arrowStarts us = arrowStarts ts
  second : h.text ∉ gaps → Twin (ts.getD 0 .ending) (us.getD 0 .ending)
  third : h.spells "[" ∨ h.spells "type" → (ts.getD 0 .ending).kind = .word →
    ∀ text ∈ [utf8 ",", utf8 ":", utf8 "=", utf8 "<"],
      (us.getD 1 .ending).spells text = (ts.getD 1 .ending).spells text
  equals : h.kind = .word → (us.getD 0 .ending).spells "=" = (ts.getD 0 .ending).spells "="

/-- The kinds of nodes that tokens may be changed for. -/
def editable : List Kind :=
  [.returnStatement, .functionDeclaration, .objectExpression, .importDeclaration,
    .tsImportEqualsDeclaration]

/-- A script whose tokens are rewritten after it has been parsed. -/
structure Rewriting where
  /-- What the first run ends with. -/
  tree : Tree
  /-- What the first run reads. -/
  tokens : List Seen
  distinct : tokens.Nodup
  /-- Whether tokens are changed for a node. -/
  owner : NodeId → Bool
  /-- What is made for a node of what stands in the place of a token. -/
  change : NodeId → Seen → List Seen → List Seen
  unowned : ∀ {id s w}, owner id = false → change id s w = w
  owned : ∀ {id}, owner id = true → ∃ k ∈ editable, tree.kind? (some id) = some k
  /-- What is known of an owner and the tokens that its node was built from. -/
  Placed : NodeId → List Seen → Prop
  placed_mono : ∀ {id w} (u v : List Seen), Placed id w → Placed id (u ++ w ++ v)
  /-- Tokens and what may have become of them, as far as they can be told apart. -/
  Alike : List Token → List Token → Prop
  keep : ∀ {t ts us}, Alike ts us → Alike (t :: ts) (t :: us)
  close : ∀ {h ts us}, Alike (h :: ts) (h :: us) → Close h ts us
  /-- Nodes that are the same but for the changes. -/
  Same : NodeId → NodeId → Facts
  same_node : ∀ {t u a b n m}, owner a = false → t.node? a = some n → u.node? b = some m →
    Shape.Like (Option.Rel fun x y => (Same x y).holds t u) t.names u.names n.shape m.shape →
    (Same a b).holds t u
  same_key : ∀ {t u a b}, (Same a b).holds t u → u.keyName? (some b) = t.keyName? (some a)
  same_identifier : ∀ {t u a b}, (Same a b).holds t u →
    u.hasKind (some b) .identifier = t.hasKind (some a) .identifier
  same_exportable : ∀ {t u a b}, (Same a b).holds t u →
    Parser.isExportable (u.kind? (some b)) = Parser.isExportable (t.kind? (some a))

/-- What is known of the tokens a parser reads: whether it reads any, and whether it is known that
the last of them is no semicolon. -/
structure Manner where
  reads : Bool
  calm : Bool

namespace Manner

def any : Manner := ⟨false, false⟩

def calmly : Manner := ⟨false, true⟩

def some : Manner := ⟨true, false⟩

def firm : Manner := ⟨true, true⟩

def Holds (k : Manner) (w : List Seen) : Prop :=
  (k.reads → w ≠ []) ∧ (k.calm → ∀ s ∈ w.getLast?, s.token.isSemicolon = false)

def implies (k k' : Manner) : Bool := (!k'.reads || k.reads) && (!k'.calm || k.calm)

theorem implies_self (k : Manner) : k.implies k := by
  simp [implies]

theorem firm_implies (k : Manner) : firm.implies k := by
  simp [implies, firm]

theorem calmly_implies (calm : Bool) : calmly.implies ⟨false, calm⟩ := by
  cases calm <;> rfl

theorem Holds.mono {k k' : Manner} {w : List Seen} (h : k.Holds w) (le : k.implies k') :
    k'.Holds w := by
  simp only [implies, Bool.and_eq_true, Bool.or_eq_true, Bool.not_eq_true'] at le
  refine ⟨fun reads => h.1 ?_, fun calm => h.2 ?_⟩
  · simpa [reads] using le.1
  · simpa [calm] using le.2

end Manner

/-- What may follow the tokens a parser has read. -/
inductive Tail where
  /-- The next token is the same in both runs, or nearly. -/
  | near
  /-- After a semicolon it may also be any other. -/
  | free
  deriving DecidableEq

/-- What the second part has to be like for both together to be of a manner. -/
def Manner.rest (k : Manner) (e : Tail) (first : Manner) : Manner :=
  ⟨(k.reads && !first.reads) || ((k.calm || decide (e = .free)) && !first.calm), k.calm⟩

theorem Manner.Holds.append {k first : Manner} {e : Tail} {w w' : List Seen} (h : first.Holds w)
    (h' : (k.rest e first).Holds w') : k.Holds (w ++ w') := by
  constructor
  · intro reads nil
    obtain ⟨rfl, rfl⟩ := List.append_eq_nil_iff.mp nil
    cases known : first.reads with
    | true => exact h.1 known rfl
    | false => exact h'.1 (by simp [rest, reads, known]) rfl
  · intro calm s mem
    rw [List.getLast?_append] at mem
    cases last : w'.getLast? with
    | some s' => exact h'.2 calm s (by simpa [last] using mem)
    | none =>
      have nil := List.getLast?_eq_none_iff.mp last
      cases known : first.calm with
      | true => exact h.2 known s (by simpa [last] using mem)
      | false => exact absurd nil (h'.1 (by simp [rest, calm, known]))

namespace Rewriting

variable (R : Rewriting)

/-- What stands in the place of a token after the changes for the nodes from one number up to
another. -/
def edit (lo hi : Nat) (s : Seen) : List Seen :=
  (List.range' lo (hi - lo)).foldl (fun w i => R.change ⟨i⟩ s w) [s.bare]

/-- What the tokens read on the way from one cursor to another become. -/
def rewritten (c c' : Cursor) : List Seen :=
  (c.upTo c').flatMap (R.edit c.tree.size c'.tree.size)

/-- Nothing is changed at a token for a node. -/
def Leaves (id : NodeId) (s : Seen) : Prop := ∀ w, R.change id s w = w

/-- The changes for the nodes built on the way from one cursor to another are among the tokens read
on it, no two of them at one token, and the first of these stays where it is. -/
structure Local (c c' : Cursor) : Prop where
  within : ∀ {id s}, c.tree.size ≤ id.index → id.index < c'.tree.size → s ∈ R.tokens →
    ¬ R.Leaves id s → s ∈ c.upTo c'
  single : ∀ {id id' s}, c.tree.size ≤ id.index → id.index < c'.tree.size →
    c.tree.size ≤ id'.index → id'.index < c'.tree.size → s ∈ R.tokens →
    ¬ R.Leaves id s → ¬ R.Leaves id' s → id = id'
  placed : ∀ {id}, c.tree.size ≤ id.index → id.index < c'.tree.size → R.owner id = true →
    R.Placed id (c.upTo c')
  first : ∀ s ∈ (c.upTo c').head?, ∃ more, R.edit c.tree.size c'.tree.size s = s.bare :: more

/-- What is left to read in the two runs looks alike. -/
structure Follows (r r' : List Seen) : Prop where
  alike : R.Alike (r.map Seen.token) (r'.map Seen.token)
  near : ∃ s more s' more', r = s :: more ∧ r' = s' :: more' ∧ s'.broken = s.broken ∧
    Near s.token s'.token

/-- What is left to read in the two runs looks alike after the last token read, and goes on with no
`else`. -/
structure Resumes (w r r' : List Seen) : Prop where
  last : ∃ s ∈ w.getLast?, s.token.isSemicolon ∧
    R.Alike (s.token.bare :: r.map Seen.token) (s.token.bare :: r'.map Seen.token)
  noElse : ∀ s ∈ r.head?, s.token.spells "else" = false
  noElse' : ∀ s ∈ r'.head?, s.token.spells "else" = false
  some' : r' ≠ []

/-- What may be left to read after some tokens. -/
def Rest : Tail → (w r r' : List Seen) → Prop
  | .near, _, r, r' => R.Follows r r'
  | .free, w, r, r' => R.Follows r r' ∨ R.Resumes w r r'

/-- The second run gives what is asked for, or finds its nesting too deep. -/
def Arrives {α : Type} (out : Except GrammarError (α × Cursor)) (Q : α → Cursor → Prop) : Prop :=
  match out with
  | .ok (a, c) => Q a c
  | .error e => e.problem = .tooDeep

/-- What a run has done from one cursor to another. -/
structure Went (k : Manner) (c c' : Cursor) : Prop where
  ready : c'.Ready
  kept : c.tree.KeptIn c'.tree
  ahead : c.ahead = c.upTo c' ++ c'.ahead
  manner : k.Holds (c.upTo c')

/-- Where a first parser has gone from one cursor to another, a second one, on the rewritten tokens,
gives a value that is related as told, and leaves what there is left to read. -/
abbrev Repeats {α : Type} (e : Tail) (P : Facts) (p' : Parser α) (V : α → Facts) (c c' : Cursor) :
    Prop :=
  R.Local c c' ∧ ∀ r, R.Rest e (c.upTo c') c'.view r →
    (c.upTo c' ≠ [] → R.Alike c.words ((R.rewritten c c' ++ r).map Seen.token)) ∧
    ∀ d, d.view = R.rewritten c c' ++ r → d.Ready → P.holds c.tree d.tree →
      Arrives (p' d) fun b d' => d'.view = r ∧ d'.Ready ∧ d.tree.KeptIn d'.tree ∧
        (V b).holds c'.tree d'.tree

/-- Where the first parser succeeds, the second one does so too on the rewritten tokens.  Of the
next token something may be known (`H`), and of the two trees too (`P`). -/
def Tracks {α : Type} (e : Tail) (k : Manner) (H : Token → Prop) (P : Facts) (p p' : Parser α)
    (V : α → α → Facts) : Prop :=
  ∀ ⦃c a c'⦄, p c = .ok (a, c') → c.Ready → H c.peek.bare → Went k c c' ∧
    (c'.tree.KeptIn R.tree → c.ahead <:+ R.tokens → R.Repeats e P p' (V a) c c')

/-- The second parser keeps up with the first wherever they start. -/
abbrev KeepsUp {α : Type} (e : Tail) (k : Manner) (p p' : Parser α) (V : α → α → Facts) : Prop :=
  R.Tracks e k (fun _ => True) .none p p' V

end Rewriting
end TreeLint.Script
