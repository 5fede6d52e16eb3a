import TreeLint.Proofs.Rewriting.Tracking

/-! # Steps of both runs

What the parsers of tokens, lists and loops do in the second run, by the rules of
`Rewriting.Tracks`. -/

namespace TreeLint.Script

open TreeLint.Script.Parser

/-- A token that is not the end and no semicolon. -/
def Token.Solid (t : Token) : Prop := t.kind ≠ .eof ∧ t.isSemicolon = false

namespace Token.Solid

variable {t : Token} {text : Text}

theorem of_kind (known : t.kind ≠ .eof) (other : t.kind ≠ .punctuator) : t.Solid :=
  ⟨known, by simp [isSemicolon, other]⟩

theorem of_word (known : t.kind = .word) : t.Solid := of_kind (by simp [known]) (by simp [known])

theorem of_spells (known : t.spells text) (other : text ≠ utf8 ";") : t.Solid :=
  ⟨kind_ne_eof_of_spells known, by simp [isSemicolon, text_of_spells known, other]⟩

end Token.Solid

namespace Near

variable {t u : Token} {text : Text}

theorem kind (h : Near t u) : u.kind = t.kind := by
  cases h with
  | same => rfl
  | exported opens => exact opens.1.symm

/-- Only the first words of functions may have been replaced. -/
theorem eq_of_text (h : Near t u) (other : t.text ∉ [utf8 "function", utf8 "async"]) : u = t := by
  simp only [List.mem_cons, List.not_mem_nil, or_false, not_or] at other
  cases h with
  | same => rfl
  | exported opens => exact (opens.2.elim other.1 other.2).elim

/-- Where the next tokens differ, the second run is at an exported declaration. -/
theorem text_of_ne (h : Near t u) (apart : u ≠ t) : u.text = utf8 "export" := by
  cases h with
  | same => contradiction
  | exported => rfl

theorem exportWord_spells {text : Text} (other : text ≠ utf8 "export") :
    Token.exportWord.spells text = false := by
  simp only [Token.spells, Token.exportWord, Token.ofText, Token.bare, Bool.and_eq_false_iff]
  exact .inr (beq_false_of_ne other.symm)

/-- The next tokens are told apart by few texts only. -/
theorem spells (h : Near t u) (other : text ∉ [utf8 "export", utf8 "function", utf8 "async"]) :
    u.spells text = t.spells text := by
  simp only [List.mem_cons, List.not_mem_nil, or_false, not_or] at other
  cases h with
  | same => rfl
  | exported opens =>
    rw [exportWord_spells other.1, eq_comm, Bool.eq_false_iff]
    intro spelled
    have text := Token.text_of_spells spelled
    obtain same | same := opens.2
    · exact other.2.1 (text.symm.trans same)
    · exact other.2.2 (text.symm.trans same)

end Near

namespace Twin

variable {t u : Token} {text : Text}

theorem kind_beq (h : Twin t u) (kind : TokenKind) : (u.kind == kind) = (t.kind == kind) := by
  cases h with
  | same => rfl
  | exported opens => rw [opens.1]; rfl
  | typed kind _ kind' => rw [kind, kind']

theorem spells (h : Twin t u)
    (other : text ∉ List.map utf8 ["export", "function", "async", ",", ")", ":"]) :
    u.spells text = t.spells text := by
  simp only [List.map_cons, List.map_nil, List.mem_cons, List.not_mem_nil, or_false,
    not_or] at other
  obtain ⟨exported, opens, opens', comma, paren, colon⟩ := other
  cases h with
  | same => rfl
  | exported known =>
    refine Near.spells (.exported known) ?_
    simp only [List.mem_cons, List.not_mem_nil, or_false, not_or]
    exact ⟨exported, opens, opens'⟩
  | typed _ ends _ colon' =>
    have left : u.spells text = false := by
      rw [Bool.eq_false_iff]
      exact fun spelled => colon ((Token.text_of_spells spelled).symm.trans colon')
    have right : t.spells text = false := by
      rw [Bool.eq_false_iff]
      intro spelled
      have same := Token.text_of_spells spelled
      obtain ends | ends := ends
      · exact comma (same.symm.trans ends)
      · exact paren (same.symm.trans ends)
    rw [left, right]

theorem kind_iff (h : Twin t u) (kind : TokenKind) : u.kind = kind ↔ t.kind = kind := by
  rw [← beq_iff_eq (a := u.kind), h.kind_beq, beq_iff_eq]

theorem function_of_spells (h : Twin t u) (spelled : u.spells "function") :
    t.spells "function" := by
  cases h with
  | same => exact spelled
  | exported => exact absurd spelled (by decide)
  | typed _ _ _ colon => exact absurd (colon.symm.trans (Token.text_of_spells spelled)) (by decide)

theorem text_ne (h : Twin t u)
    (other : text ∉ List.map utf8 ["export", "function", "async", ",", ")", ":"]) :
    (u.text != text) = (t.text != text) := by
  simp only [List.map_cons, List.map_nil, List.mem_cons, List.not_mem_nil, or_false,
    not_or] at other
  obtain ⟨exported, opens, opens', comma, paren, colon⟩ := other
  have apart {a : Text} (h : text ≠ a) : (a != text) = true := bne_iff_ne.mpr h.symm
  cases h with
  | same => rfl
  | exported known =>
    rw [show (Token.exportWord.text != text) = true from apart exported]
    obtain same | same := known.2 <;> rw [same]
    · exact (apart opens).symm
    · exact (apart opens').symm
  | typed _ ends _ colon' =>
    rw [colon', apart colon]
    obtain ends | ends := ends <;> rw [ends]
    · exact (apart comma).symm
    · exact (apart paren).symm

theorem startsMemberName (h : Twin t u) : u.startsMemberName = t.startsMemberName := by
  have bracket : u.spells "[" = t.spells "[" := h.spells (by decide)
  simp only [Token.startsMemberName, h.kind_beq, bracket]

theorem startsExpression (h : Twin t u) : u.startsExpression = t.startsExpression := by
  cases h with
  | same => rfl
  | exported opens =>
    rw [Token.startsExpression, Token.startsExpression, opens.1]
    rfl
  | typed kind ends kind' colon =>
    rw [Token.startsExpression, Token.startsExpression, kind, kind', colon]
    obtain ends | ends := ends <;> rw [ends] <;> decide

end Twin

namespace Rewriting

variable {R : Rewriting} {α β : Type} {e : Tail} {k j l : Manner} {H : Token → Prop}
  {P Q : Facts} {c c' c'' d : Cursor}

namespace Beside

theorem peekAt_one (h : R.Beside c d) (same : d.peek.bare = c.peek.bare)
    (known : c.peek.text ∉ gaps) : Twin (c.peekAt 1).bare (d.peekAt 1).bare := by
  obtain ⟨ts, us, words, words', close⟩ := h.close same
  rw [h.ready.peekAt_bare, h.ready'.peekAt_bare, words, words']
  exact close.second known

/-- Where one of some words comes next, both runs find the same at the token after it. -/
theorem next_eq (h : R.Beside c d) (head test : Token → Bool)
    (same : ∀ {t u}, Twin t u → test u = test t) (bare : ∀ t, test t.bare = test t)
    (bare' : ∀ t, head t.bare = head t)
    (apart : ∀ t, head t → t.text ∉ gaps ∧ t.text ≠ utf8 "export")
    (strong : (head c.peek && test (c.peekAt 1)) = true → d.peek.bare = c.peek.bare) :
    (head d.peek && test (d.peekAt 1)) = (head c.peek && test (c.peekAt 1)) := by
  by_cases known : d.peek.bare = c.peek.bare
  · rw [← bare' d.peek, known, bare']
    cases found : head c.peek with
    | false => rfl
    | true => rw [← bare (d.peekAt 1), ← bare (c.peekAt 1), same
      (h.peekAt_one known (apart _ found).1)]
  · have other : d.peek.text = utf8 "export" := h.near.text_of_ne known
    have absent : head d.peek = false := by
      rw [Bool.eq_false_iff]
      exact fun found => (apart _ found).2 other
    have missed : (head c.peek && test (c.peekAt 1)) = false := by
      rw [Bool.eq_false_iff]
      exact fun found => known (strong found)
    rw [missed, absent, Bool.false_and]

theorem peekAt_two (h : R.Beside c d) (same : d.peek.bare = c.peek.bare)
    (known : c.peek.spells "[" ∨ c.peek.spells "type") (word : (c.peekAt 1).kind = .word)
    {text : Text} (mem : text ∈ [utf8 ",", utf8 ":", utf8 "=", utf8 "<"]) :
    (d.peekAt 2).spells text = (c.peekAt 2).spells text := by
  obtain ⟨ts, us, words, words', close⟩ := h.close same
  have word' : (c.peekAt 1).bare.kind = .word := word
  rw [h.ready.peekAt_bare, words] at word'
  have third := close.third known word' text mem
  rw [← Token.bare_spells (d.peekAt 2), ← Token.bare_spells (c.peekAt 2), h.ready.peekAt_bare,
    h.ready'.peekAt_bare, words, words']
  exact third

theorem arrow (h : R.Beside c d) (same : d.peek.bare = c.peek.bare) :
    arrowStarts d.rest = arrowStarts c.rest := by
  obtain ⟨ts, us, words, words', close⟩ := h.close same
  rw [← arrowStarts_bare, ← arrowStarts_bare c.rest]
  change arrowStarts d.words = arrowStarts c.words
  rw [words, words', close.arrow]

theorem asyncArrow (h : R.Beside c d) (same : d.peek.bare = c.peek.bare)
    (known : c.peek.spells "async") :
    arrowStarts (d.rest.drop 1) = arrowStarts (c.rest.drop 1) := by
  obtain ⟨ts, us, words, words', close⟩ := h.close same
  rw [← arrowStarts_bare, ← arrowStarts_bare (c.rest.drop 1), List.map_drop, List.map_drop]
  change arrowStarts (d.words.drop 1) = arrowStarts (c.words.drop 1)
  rw [words, words']
  exact close.asyncArrow known

end Beside

namespace Tracks

variable {p p' : Parser α} {f f' : α → Parser β} {V : α → α → Facts} {U : β → β → Facts}

/-! ## Looking at the next token -/

/-- Whether both runs find the same when they look for a text. -/
def discerns (k : Manner) (text : Text) : Bool :=
  k.reads || !([utf8 "export", utf8 "function", utf8 "async"].contains text)

theorem sees {text : Text} {F F' : Bool → Parser α}
    (go : ∀ x, R.Tracks e k (fun t => H t ∧ t.spells text = x) P (F x) (F' x) V)
    (ok : discerns k text = true) :
    R.Tracks e k H P (Parser.sees text >>= F) (Parser.sees text >>= F') V := by
  refine look (fun c => c.peek.spells text) (fun c => c.peek.spells text) (S := (· = ·))
    (κ := fun _ => k)
    (G := fun x t => H t ∧ t.spells text = x) (fun _ => rfl) (fun _ => rfl)
    (fun c d beside _ _ strong => ?_) (fun x y same => same ▸ go x)
    (fun c head => ⟨head, rfl⟩) (fun _ => rfl) (fun _ => k.implies_self)
  by_cases reads : k.reads = true
  · rw [← Token.bare_spells d.peek, strong reads, Token.bare_spells]
  · have other : text ∉ [utf8 "export", utf8 "function", utf8 "async"] := by
      simpa [discerns, reads] using ok
    exact (beside.near.spells other).symm

theorem sees_ite {text : Text} {A A' B B' : Parser α}
    (yes : R.Tracks e k (fun t => H t ∧ t.spells text = true) P A A' V)
    (no : R.Tracks e k (fun t => H t ∧ t.spells text = false) P B B' V)
    (ok : discerns k text = true) :
    R.Tracks e k H P (Parser.sees text >>= fun x => if x = true then A else B)
      (Parser.sees text >>= fun x => if x = true then A' else B') V := by
  refine sees (fun x => ?_) ok
  cases x with
  | true => exact yes
  | false => exact no

theorem atKind {kind : TokenKind} {F F' : Bool → Parser α}
    (go : ∀ x, R.Tracks e k (fun t => H t ∧ (t.kind == kind) = x) P (F x) (F' x) V) :
    R.Tracks e k H P (Parser.atKind kind >>= F) (Parser.atKind kind >>= F') V :=
  look (fun c => c.peek.kind == kind) (fun c => c.peek.kind == kind) (S := (· = ·))
  (κ := fun _ => k)
    (G := fun x t => H t ∧ (t.kind == kind) = x) (fun _ => rfl) (fun _ => rfl)
    (fun _ _ beside _ _ _ => congrArg (· == kind) beside.near.kind.symm)
    (fun x _ same => same ▸ go x) (fun _ head => ⟨head, rfl⟩) (fun _ => rfl)
    (fun _ => k.implies_self)

theorem newlineBefore {F F' : Bool → Parser α} (go : ∀ x, R.Tracks e k H P (F x) (F' x) V) :
    R.Tracks e k H P (Parser.newlineBefore >>= F) (Parser.newlineBefore >>= F') V :=
  look Cursor.newlineBefore Cursor.newlineBefore (S := (· = ·)) (κ := fun _ => k) (G := fun _ => H)
    (fun _ => rfl) (fun _ => rfl) (fun _ _ beside _ _ _ => beside.newline.symm)
    (fun x _ same => same ▸ go x) (fun _ head => head) (fun _ => rfl)
    (fun _ => k.implies_self)

/-- The next token, which is read; it may stand elsewhere in the second run. -/
theorem peek {F F' : Token → Parser α} (reads : k.reads = true)
    (go : ∀ t x y, R.Tracks e k (fun s => H s ∧ s = t.bare) P (F t)
      (F' { t with start := x, stop := y }) V) :
    R.Tracks e k H P (Parser.peek >>= F) (Parser.peek >>= F') V :=
  look Cursor.peek Cursor.peek (S := fun t u => u.bare = t.bare) (κ := fun _ => k)
    (G := fun t s => H s ∧ s = t.bare)
    (fun _ => rfl) (fun _ => rfl) (fun _ _ _ _ _ strong => strong reads)
    (fun t u same => Token.eq_of_bare same ▸ go t u.start u.stop)
    (fun _ head => ⟨head, rfl⟩) (fun _ => rfl) (fun _ => k.implies_self)

/-- Words that both runs find next alike. -/
theorem apart_of_mem {words : List Text} {w : Text} (mem : w ∈ words)
    (ok : (words.all fun w => !gaps.contains w && w != utf8 "export") = true) :
    w ∉ gaps ∧ w ≠ utf8 "export" := by
  simpa using List.all_eq_true.mp ok w mem

/-- Both runs find the same of a few words next, and the same sort of token after it. -/
theorem leads {p p' : Parser α} (head test : Token → Bool) (A A' : Token → Parser α)
    {B B' : Parser α} (same : ∀ {t u}, Twin t u → test u = test t)
    (apart : ∀ t, head t → t.text ∉ gaps ∧ t.text ≠ utf8 "export")
    (yes : ∀ t x y, head t → R.Tracks e .firm (fun s => H s ∧ s = t.bare) P (A t)
      (A' { t with start := x, stop := y }) V)
    (no : R.Tracks e k H P B B' V)
    (split : ∀ c, p c = (if (head c.peek && test (c.peekAt 1)) = true then A c.peek else B) c)
    (split' : ∀ c,
      p' c = (if (head c.peek && test (c.peekAt 1)) = true then A' c.peek else B') c)
    (bare : ∀ t, test t.bare = test t)
    (bare' : ∀ t, head t.bare = head t) :
    R.Tracks e k H P p p' V := by
  refine look (fun c => if head c.peek && test (c.peekAt 1) then some c.peek else none)
    (fun c => if head c.peek && test (c.peekAt 1) then some c.peek else none)
    (A := fun o => o.elim B A) (B := fun o => o.elim B' A')
    (S := Option.Rel fun t u => u.bare = t.bare) (κ := fun o => if o.isSome then .firm else k)
    (G := fun o s => H s ∧ ∀ t ∈ o, head t ∧ s = t.bare) (fun c => ?_) (fun c => ?_)
    (fun c d beside _ _ strong => ?_) (fun o o' related => ?_) (fun c first => ⟨first, ?_⟩)
    (fun o => ?_) (fun o => ?_)
  · rw [split]
    split <;> rfl
  · rw [split']
    split <;> rfl
  · have found := beside.next_eq head test same bare bare' apart fun found => strong
        (by rw [if_pos found]; rfl)
    rw [found]
    split
    next known => exact .some (strong (by rw [if_pos known]; rfl))
    next => exact .none
  · cases related with
    | none => exact no.pre (fun _ known => known.1) fun _ _ h => h
    | @some t u related =>
      by_cases known : head t
      · rw [← Token.eq_of_bare related]
        exact (yes t u.start u.stop known).pre (fun _ h => ⟨h.1, (h.2 t rfl).2⟩) fun _ _ h => h
      · exact fun c a c' _ _ first => (known (first.2 t rfl).1).elim
  · intro t mem
    split at mem
    next known =>
      cases mem
      rw [Bool.and_eq_true] at known
      exact ⟨known.1, rfl⟩
    next => contradiction
  · cases o with
    | none => exact .none
    | some t => exact .some rfl
  · split
    · exact Manner.firm_implies k
    · exact k.implies_self

/-- What both runs find of the next token, which does not tell an exported declaration apart. -/
theorem finds {p p' : Parser α} (test : Token → Bool) {A A' : Bool → Parser α}
    (go : ∀ x, R.Tracks e k (fun t => H t ∧ test t = x) P (A x) (A' x) V)
    (same : ∀ {t u}, Near t u → test u = test t)
    (split : ∀ c, p c = A (test c.peek) c)
    (split' : ∀ c, p' c = A' (test c.peek) c)
    (bare : ∀ t, test t.bare = test t) : R.Tracks e k H P p p' V :=
  look (fun c => test c.peek) (fun c => test c.peek) (S := (· = ·)) (κ := fun _ => k)
    (G := fun x t => H t ∧ test t = x) split split'
    (fun c d beside _ _ _ => by rw [← bare c.peek, ← bare d.peek, same beside.near])
    (fun x _ same => by subst same; exact go x) (fun c head => ⟨head, bare c.peek⟩) (fun _ => rfl)
    (fun _ => k.implies_self)

theorem finds_ite {p p' : Parser α} (test : Token → Bool) {A A' B B' : Parser α}
    (yes : R.Tracks e k (fun t => H t ∧ test t = true) P A A' V)
    (no : R.Tracks e k (fun t => H t ∧ test t = false) P B B' V)
    (same : ∀ {t u}, Near t u → test u = test t)
    (split : ∀ c, p c = (if test c.peek = true then A else B) c)
    (split' : ∀ c, p' c = (if test c.peek = true then A' else B') c)
    (bare : ∀ t, test t.bare = test t) : R.Tracks e k H P p p' V := by
  have go (x : Bool) : R.Tracks e k (fun t => H t ∧ test t = x) P (if x = true then A else B)
      (if x = true then A' else B') V := by
    cases x with
    | true => exact yes
    | false => exact no
  exact finds test go same split split' bare

/-- A test with the same outcome in both runs. -/
theorem tests {p p' : Parser α} {K : Token → Prop} (b : Cursor → Bool) (A A' : Bool → Parser α)
    (agree : ∀ ⦃c d⦄, R.Beside c d → H c.peek.bare →
      (k.reads = true → d.peek.bare = c.peek.bare) → b d = b c)
    (head : ∀ c, b c = true → K c.peek.bare)
    (go : ∀ x, R.Tracks e k (fun t => H t ∧ (x = true → K t)) P (A x) (A' x) V)
    (split : ∀ c, p c = A (b c) c)
    (split' : ∀ c, p' c = A' (b c) c) : R.Tracks e k H P p p' V :=
  look b b (S := (· = ·)) (κ := fun _ => k) (G := fun x t => H t ∧ (x = true → K t)) split split'
    (fun _ _ beside head _ strong => (agree beside head strong).symm)
    (fun x _ same => by subst same; exact go x) (fun c first => ⟨first, head c⟩)
    (fun _ => rfl) (fun _ => k.implies_self)

theorem decides {p p' : Parser α} {K : Token → Prop} (b : Cursor → Bool) {A A' B B' : Parser α}
    (agree : ∀ ⦃c d⦄, R.Beside c d → H c.peek.bare →
      (k.reads = true → d.peek.bare = c.peek.bare) → b d = b c)
    (head : ∀ c, b c = true → K c.peek.bare)
    (yes : R.Tracks e k (fun t => H t ∧ K t) P A A' V) (no : R.Tracks e k H P B B' V)
    (split : ∀ c, p c = (if b c = true then A else B) c)
    (split' : ∀ c, p' c = (if b c = true then A' else B') c) :
    R.Tracks e k H P p p' V := by
  refine tests (K := K) b (fun x => if x = true then A else B)
    (fun x => if x = true then A' else B')
    agree head (fun x => ?_) split split'
  cases x with
  | true => exact yes.pre (fun _ h => ⟨h.1, h.2 rfl⟩) fun _ _ h => h
  | false => exact no.pre (fun _ h => h.1) fun _ _ h => h

/-- The token after one that is read. -/
theorem peekNext {F F' : Token → Parser α} (reads : k.reads = true)
    (go : ∀ u v, (∃ s, H s ∧ (s.text ∉ gaps → Twin u.bare v.bare)) →
      R.Tracks e k H P (F u) (F' v) V) :
    R.Tracks e k H P (Parser.peekAt 1 >>= F) (Parser.peekAt 1 >>= F') V := by
  refine look (fun c => c.peekAt 1) (fun c => c.peekAt 1)
    (S := fun u v => (∃ s, H s) → ∃ s, H s ∧ (s.text ∉ gaps → Twin u.bare v.bare)) (κ := fun _ => k)
    (G := fun _ => H) (fun _ => rfl) (fun _ => rfl)
    (fun c d beside head _ strong _ => ⟨c.peek.bare, head, beside.peekAt_one (strong reads)⟩)
    (fun u v twin => ?_) (fun _ head => head) (fun _ ⟨s, head⟩ => ⟨s, head, fun _ => .same⟩)
    (fun _ => k.implies_self)
  by_cases some : ∃ s, H s
  · exact go u v (twin some)
  · exact never fun s head => some ⟨s, head⟩

/-- What the second run finds when it looks at its cursor does not matter. -/
theorem getAny {F F' : Cursor → Parser α} (go : ∀ c d, R.Tracks e k H P (F c) (F' d) V) :
    R.Tracks e k H P (get >>= F) (get >>= F') V :=
  look id id (S := fun _ _ => True) (κ := fun _ => k) (G := fun _ => H) (fun _ => rfl)
    (fun _ => rfl) (fun _ _ _ _ _ _ => trivial) (fun c d _ => go c d) (fun _ head => head)
    (fun _ => trivial) (fun _ => k.implies_self)

/-- A choice by what is known to be the same in both runs. -/
theorem iteSame {b b' : Bool} {A A' B B' : Parser α} (agree : ∀ t u, P.holds t u → b' = b)
    (yes : R.Tracks e k H P A A' V) (no : R.Tracks e k H P B B' V) :
    R.Tracks e k H P (if b = true then A else B) (if b' = true then A' else B') V := by
  have tested : R.Tracks e k H P (if b = true then A else B) (if b = true then A' else B') V :=
    ite (fun _ => yes) fun _ => no
  by_cases agreed : b' = b
  · exact agreed ▸ tested
  · exact vacuous tested fun t u known => agreed (agree t u known)

/-- Both runs find the same sort of token after one that is read. -/
theorem nextIs {b : Bool} {test : Token → Bool} {A A' B B' : Parser α} (reads : k.reads = true)
    (known : b = true → ∀ s, H s → s.text ∉ gaps)
    (same : b = true → ∀ {t u}, Twin t u → test u = test t)
    (yes : b = true → R.Tracks e k H P A A' V) (no : R.Tracks e k H P B B' V)
    (bare : ∀ t, test t.bare = test t) :
    R.Tracks e k H P (Parser.peekAt 1 >>= fun t => if (b && test t) = true then A else B)
      (Parser.peekAt 1 >>= fun t => if (b && test t) = true then A' else B') V := by
  refine look (fun c => b && test (c.peekAt 1)) (fun c => b && test (c.peekAt 1))
    (A := fun x => if x = true then A else B) (B := fun x => if x = true then A' else B')
    (S := (· = ·)) (κ := fun _ => k) (G := fun x t => H t ∧ (x = true → b = true))
    (fun _ => rfl) (fun _ => rfl) (fun c d beside first _ strong => ?_) (fun x _ same => ?_)
    (fun c first => ⟨first, fun found => (Bool.and_eq_true_iff.mp found).1⟩) (fun _ => rfl)
    (fun _ => k.implies_self)
  · cases b with
    | false => rfl
    | true =>
      have twin := beside.peekAt_one (strong reads)
        (show c.peek.text ∉ gaps from known rfl c.peek.bare first)
      rw [← bare (c.peekAt 1), ← bare (d.peekAt 1), same rfl twin]
  · subst same
    by_cases possible : x = true → b = true
    · exact ite (fun found => (yes (possible found)).pre (fun _ h => h.1) fun _ _ h => h)
        fun _ => no.pre (fun _ h => h.1) fun _ _ h => h
    · exact never fun _ h => possible h.2

/-- Where the next token starts says nothing. -/
theorem here {F F' : UInt32 → Parser α} (go : ∀ x y, R.Tracks e k H P (F x) (F' y) V) :
    R.Tracks e k H P (Parser.here >>= F) (Parser.here >>= F') V :=
  look (fun c => c.peek.start) (fun c => c.peek.start) (S := fun _ _ => True) (κ := fun _ => k)
  (G := fun _ => H)
    (fun _ => rfl) (fun _ => rfl) (fun _ _ _ _ _ _ => trivial) (fun x y _ => go x y)
    (fun _ head => head) (fun _ => trivial) (fun _ => k.implies_self)

/-- How many rounds a loop may take says nothing. -/
theorem rounds {F F' : Nat → Parser α} (go : ∀ n m, R.Tracks e k H P (F n) (F' m) V) :
    R.Tracks e k H P (Parser.rounds >>= F) (Parser.rounds >>= F') V :=
  look (fun c => c.rest.length + 1) (fun c => c.rest.length + 1) (S := fun _ _ => True)
  (κ := fun _ => k)
    (G := fun _ => H) (fun _ => rfl) (fun _ => rfl) (fun _ _ _ _ _ _ => trivial)
    (fun x y _ => go x y) (fun _ head => head) (fun _ => trivial)
    (fun _ => k.implies_self)

/-- Whether an arrow function starts here, where its first token is read. -/
theorem arrowAhead {F F' : Bool → Parser α} (reads : k.reads = true)
    (go : ∀ x, R.Tracks e k H P (F x) (F' x) V) :
    R.Tracks e k H P (Parser.arrowAhead 0 >>= F) (Parser.arrowAhead 0 >>= F') V :=
  look (fun c => arrowStarts c.rest) (fun c => arrowStarts c.rest) (S := (· = ·)) (κ := fun _ => k)
  (G := fun _ => H)
    (fun _ => rfl) (fun _ => rfl) (fun _ _ beside _ _ strong => (beside.arrow (strong reads)).symm)
    (fun x _ same => same ▸ go x) (fun _ head => head) (fun _ => rfl)
    (fun _ => k.implies_self)

/-- The key is an identifier in both runs, or in neither, and the first run does not stop for it. -/
theorem unlessIdentifier {a a' : NodeId} {φ ψ : Bool → Bool} {problem : Problem} {A A' : Parser α}
    (same : ∀ t u, P.holds t u → (R.Same a a').holds t u) (go : R.Tracks e k H P A A' V)
    (agree : ∀ t u, P.holds t u → ψ = φ) :
    R.Tracks e k H P
      (get >>= fun c => if φ (c.tree.hasKind (some a) .identifier) = true then
        Parser.fail problem else A)
      (get >>= fun c => if ψ (c.tree.hasKind (some a') .identifier) = true then
        Parser.fail problem else A') V := by
  have each (x : Bool) : R.Tracks e k H P (if φ x = true then Parser.fail problem else A)
      (if φ x = true then Parser.fail problem else A') V := ite (fun _ => fail) fun _ => go
  have tested : R.Tracks e k H P
      (get >>= fun c => if φ (c.tree.hasKind (some a) .identifier) = true then
        Parser.fail problem else A)
      (get >>= fun c => if φ (c.tree.hasKind (some a') .identifier) = true then
        Parser.fail problem else A') V :=
    look (fun c => c.tree.hasKind (some a) .identifier)
      (fun c => c.tree.hasKind (some a') .identifier) (S := (· = ·)) (κ := fun _ => k)
      (G := fun _ => H) (fun _ => rfl) (fun _ => rfl)
      (fun _ _ _ _ known _ => (R.same_identifier (same _ _ known)).symm)
      (fun x _ same => by subst same; exact each x) (fun _ head => head) (fun _ => rfl)
      (fun _ => k.implies_self)
  by_cases agreed : ψ = φ
  · exact agreed ▸ tested
  · exact vacuous tested fun t u known => agreed (agree t u known)

/-! ## Reading a token -/

theorem upTo_advance (ready : c.Ready) (live : c.peek.kind ≠ .eof) :
    c.upTo c.advance = [⟨c.peek, c.newlineBefore⟩] :=
  Cursor.upTo_eq (ready.advance live).1

theorem rewritten_advance (ready : c.Ready) (live : c.peek.kind ≠ .eof) :
    R.rewritten c c.advance = [⟨c.peek.bare, c.newlineBefore⟩] := by
  rw [Rewriting.rewritten, upTo_advance ready live, c.advance_tree, List.flatMap_singleton,
    edit_self]
  rfl

theorem went_advance (ready : c.Ready) (live : c.peek.kind ≠ .eof)
    (calm : k.calm = true → c.peek.isSemicolon = false) : Went k c c.advance := by
  obtain ⟨ahead, ready'⟩ := ready.advance live
  have read := upTo_advance ready live
  refine ⟨ready', c.advance_tree ▸ .refl _, read ▸ ahead, ?_⟩
  rw [read]
  refine ⟨fun _ => List.cons_ne_nil _ _, fun known s last => ?_⟩
  cases last
  exact calm known

theorem local_advance : R.Local c c.advance := by
  have none {id : NodeId} (ge : c.tree.size ≤ id.index) (lt : id.index < c.advance.tree.size) :
      False := by
    rw [c.advance_tree] at lt
    exact Nat.not_lt.mpr ge lt
  refine ⟨fun ge lt => (none ge lt).elim, fun ge lt => (none ge lt).elim,
    fun ge lt => (none ge lt).elim, fun s first => ⟨[], ?_⟩⟩
  rw [c.advance_tree, edit_self]

theorem advance (live : ∀ t, H t → t.kind ≠ .eof)
    (calm : k.calm = true → ∀ t, H t → t.isSemicolon = false) :
    R.Tracks e k H P Parser.advance Parser.advance fun a b => .of (b.bare = a.bare) := by
  intro c a c' run ready head
  cases run
  obtain ⟨ahead, ready'⟩ := ready.advance (live c.peek.bare head)
  have read := upTo_advance ready (live c.peek.bare head)
  have rewritten := rewritten_advance (R := R) ready (live c.peek.bare head)
  have went : Went k c c.advance :=
    went_advance ready (live c.peek.bare head) fun known => calm known c.peek.bare head
  refine ⟨went, fun kept sub => ⟨local_advance, fun r rest => ?_⟩⟩
  · rw [read] at rest
    have words : c.words = c.peek.bare :: c.advance.view.map Seen.token := by
      rw [Cursor.words_eq, Cursor.view, ahead]
      rfl
    rw [rewritten, words]
    refine ⟨fun _ => ?_, fun d view ready₂ known => ?_⟩
    · cases e with
      | near => exact R.keep rest.alike
      | free =>
        obtain follows | ⟨⟨s, last, -, alike⟩, -⟩ := rest
        · exact R.keep follows.alike
        · cases last
          exact alike
    · have peek := congrArg Seen.token (mem_view_of_some view ready₂)
      have live' : d.peek.kind ≠ .eof := by
        have kind := congrArg Token.kind peek
        exact fun eof => live _ head (kind.trans eof)
      obtain ⟨ahead', ready₃⟩ := ready₂.advance live'
      rw [Cursor.view, ahead', List.map_cons] at view
      exact ⟨(List.cons.inj view).2, ready₃, d.advance_tree ▸ .refl _, peek.symm⟩

/-- What the first part gives is related in a way that does not depend on the trees. -/
theorem bindOf [Nonempty α] {S : α → α → Prop}
    (first : R.Tracks .near j H P p p' fun a b => .of (S a b)) (same : ∀ a, S a a)
    (next : ∀ a b, S a b → R.Tracks e (k.rest e j) (fun _ => True) P (f a) (f' b) U) :
    R.Tracks e k H P (p >>= f) (p' >>= f') U := by
  refine bind first fun a b => ?_
  by_cases related : S a b
  · exact (next a b related).pre (fun _ h => h) fun _ _ known => known.1
  · exact vacuous (next a a (same a)) fun _ _ known => related known.2

theorem bindToken {p p' : Parser Token} {f f' : Token → Parser β}
    (first : R.Tracks .near j H P p p' fun a b => .of (b.bare = a.bare))
    (next : ∀ t x y, R.Tracks e (k.rest e j) (fun _ => True) P (f t)
      (f' { t with start := x, stop := y }) U) :
    R.Tracks e k H P (p >>= f) (p' >>= f') U :=
  bindOf first (fun _ => rfl) fun t u same => Token.eq_of_bare same ▸ next t u.start u.stop

theorem bindSame [Nonempty α] (first : R.Tracks .near j H P p p' fun a b => .of (b = a))
    (next : ∀ a, R.Tracks e (k.rest e j) (fun _ => True) P (f a) (f' a) U) :
    R.Tracks e k H P (p >>= f) (p' >>= f') U :=
  bindOf first (fun _ => rfl) fun a _ same => same ▸ next a

/-- Whatever comes before, the parts that follow read no different tokens. -/
theorem skip [Nonempty α] {q q' : Parser β} (first : R.Tracks .near j H P p p' V)
    (next : R.Tracks e (k.rest e j) (fun _ => True) P q q' U) :
    R.Tracks e k H P (Functor.discard p >>= fun _ => q) (Functor.discard p' >>= fun _ => q') U :=
  bind (discard first) fun _ _ => next.pre (fun _ h => h) fun _ _ known => known.1

/-- The first run stops where a token is found that does not belong there. -/
theorem stop {problem : Token → Problem} :
    R.Tracks e k H P (Parser.peek >>= fun t => Parser.fail (problem t)) p' V :=
  fun _ _ _ ran => nomatch ran

theorem advanceSolid (solid : ∀ t, H t → t.Solid) :
    R.Tracks e .firm H P Parser.advance Parser.advance fun a b => .of (b.bare = a.bare) :=
  advance (fun t known => (solid t known).1) fun _ t known => (solid t known).2

/-- A token is read and looked at afterwards. -/
theorem advanced {F F' : Token → Parser α} (reads : k.reads = true)
    (live : ∀ t, H t → t.kind ≠ .eof)
    (go : ∀ t x y, H t.bare → R.Tracks e (k.rest e ⟨true, !t.isSemicolon⟩) (fun _ => True) P (F t)
      (F' { t with start := x, stop := y }) V) :
    R.Tracks e k H P (Parser.advance >>= F) (Parser.advance >>= F') V := by
  change R.Tracks e k H P
    (Parser.peek >>= fun t => Functor.discard Parser.advance >>= fun _ => F t)
    (Parser.peek >>= fun t => Functor.discard Parser.advance >>= fun _ => F' t) V
  refine peek reads fun t x y => ?_
  by_cases known : H t.bare
  · refine skip (advance (fun s head => live s head.1) fun calm s head => ?_) (go t x y known)
    rw [head.2]
    simpa using calm
  · exact fun c a c' _ _ head => (known (head.2 ▸ head.1)).elim

theorem expect {text : Text} (ok : (text != utf8 ";") = true) :
    R.Tracks e .firm H P (Parser.expect text) (Parser.expect text)
      fun a b => .of (b.bare = a.bare) := by
  refine sees_ite ?_ stop rfl
  exact advanceSolid fun t known => .of_spells known.2 (bne_iff_ne.mp ok)

theorem expect_run {text : Text} {A : Parser α} (c : Cursor) :
    (Functor.discard (Parser.expect text) >>= fun _ => A) c =
      if c.peek.spells text = true then (Functor.discard Parser.advance >>= fun _ => A) c
      else .error (c.errorHere (.expected text c.peek.text)) := by
  change (Functor.discard (if c.peek.spells text = true then Parser.advance
    else Parser.peek >>= fun t => Parser.fail (.expected text t.text)) >>= fun _ => A) c = _
  split <;> rfl

theorem word : R.Tracks e .firm H P Parser.word Parser.word fun a b => .of (b.bare = a.bare) := by
  refine atKind fun x => ?_
  cases x with
  | true => exact advanceSolid fun t known => .of_word (eq_of_beq known.2)
  | false => exact stop

theorem eat_run {text : Text} {F : Bool → Parser α} (c : Cursor) :
    (Parser.eat text >>= F) c = (if c.peek.spells text = true then
      Functor.discard Parser.advance >>= fun _ => F true else F false) c := by
  change ((if c.peek.spells text = true then
    (Functor.discard Parser.advance >>= fun _ => Pure.pure true : Parser Bool)
      else Pure.pure false) >>= F) c = _
  split <;> rfl

/-- A text that may come next is read, or not. -/
theorem eatOf {text : Text} {F F' : Bool → Parser α}
    (yes : R.Tracks e k (fun t => H t ∧ t.spells text = true) P
      (Functor.discard Parser.advance >>= fun _ => F true)
      (Functor.discard Parser.advance >>= fun _ => F' true) V)
    (no : R.Tracks e k (fun t => H t ∧ t.spells text = false) P (F false) (F' false) V)
    (ok : discerns k text = true) :
    R.Tracks e k H P (Parser.eat text >>= F) (Parser.eat text >>= F') V := by
  have both := sees_ite yes no ok
  intro c a c' run
  rw [eat_run] at run
  simp only [Repeats, eat_run]
  exact both run

theorem eatBind {text : Text} {F F' : Bool → Parser α}
    (yes : R.Tracks e (k.rest e .firm) (fun _ => True) P (F true) (F' true) V)
    (no : R.Tracks e k (fun t => H t ∧ t.spells text = false) P (F false) (F' false) V)
    (ok : (discerns k text && text != utf8 ";") = true) :
    R.Tracks e k H P (Parser.eat text >>= F) (Parser.eat text >>= F') V := by
  simp only [Bool.and_eq_true, bne_iff_ne] at ok
  exact eatOf (skip (advanceSolid fun t known => .of_spells known.2 ok.2) yes) no ok.1

theorem advanceSemicolon :
    R.Tracks e .some (fun t => H t ∧ t.spells ";" = true) P Parser.advance Parser.advance
      fun a b => .of (b.bare = a.bare) :=
  advance (fun _ known => Token.kind_ne_eof_of_spells known.2) nofun

/-- A semicolon that may come next is read, or not. -/
theorem eatSemicolon {F F' : Bool → Parser α}
    (yes : R.Tracks e (k.rest e .some) (fun _ => True) P (F true) (F' true) V)
    (no : R.Tracks e k (fun t => H t ∧ t.spells ";" = false) P (F false) (F' false) V) :
    R.Tracks e k H P (Parser.eat ";" >>= F) (Parser.eat ";" >>= F') V := by
  refine eatOf (skip advanceSemicolon yes) no ?_
  rw [discerns, Bool.or_eq_true]
  exact .inr (by decide)

theorem eat {text : Text} {A A' B B' : Parser α}
    (yes : R.Tracks e (k.rest e .firm) (fun _ => True) P A A' V)
    (no : R.Tracks e k (fun t => H t ∧ t.spells text = false) P B B' V)
    (ok : (discerns k text && text != utf8 ";") = true) :
    R.Tracks e k H P (Parser.eat text >>= fun x => if x = true then A else B)
      (Parser.eat text >>= fun x => if x = true then A' else B') V :=
  eatBind yes no ok

theorem eaten {text : Text} (ok : (discerns .calmly text && text != utf8 ";") = true) :
    R.Tracks .near .calmly H P (Parser.eat text) (Parser.eat text) fun a b => .of (b = a) := by
  have both : R.Tracks .near .calmly H P (Parser.eat text >>= Pure.pure)
      (Parser.eat text >>= Pure.pure) fun a b => .of (b = a) :=
    eatBind (pure fun _ _ _ => rfl) (pure fun _ _ _ => rfl) ok
  simpa only [bind_pure] using both

/-- The end of a statement, which may be left out. -/
theorem semicolon : R.Tracks e .any H P Parser.semicolon Parser.semicolon fun _ _ => .none := by
  refine discard (V := fun _ _ => .none) ?_
  refine sees_ite ?_ (pure fun _ _ _ => trivial) rfl
  refine thenStill (discard (advance (fun t known => Token.kind_ne_eof_of_spells known.2) nofun))
    fun _ _ => .pure fun _ _ _ => trivial

/-- The first part may give nothing. -/
theorem bindOption {p p' : Parser (Option α)} {f f' : Option α → Parser β}
    (first : R.Tracks .near j H P p p' (.option V))
    (nothing : R.Tracks e (k.rest e j) (fun _ => True) P (f none) (f' none) U)
    (something : ∀ a b, R.Tracks e (k.rest e j) (fun _ => True) (P.and (V a b)) (f (some a))
      (f' (some b)) U) :
    R.Tracks e k H P (p >>= f) (p' >>= f') U := by
  refine bind first fun o o' => ?_
  cases o with
  | none =>
    cases o' with
    | none => exact nothing.pre (fun _ h => h) fun _ _ known => known.1
    | some b => exact vacuous nothing fun _ _ known => nomatch known.2
  | some a =>
    cases o' with
    | none => exact vacuous (something a a) fun _ _ known => nomatch known.2
    | some b =>
      refine (something a b).pre (fun _ h => h) fun _ _ known => ⟨known.1, ?_⟩
      cases known.2 with
      | some related => exact related

/-- The word `async` and a function after it, where the first run reads both or does not find the
function. -/
theorem asyncFunction {b : Bool} {A A' B B' : Parser α} (reads : k.reads = true)
    (known : b = true → ∀ s, H s → s.spells "async")
    (yes : R.Tracks e .firm (fun _ => True) P A A' V) (no : R.Tracks e k H P B B' V) :
    R.Tracks e k H P
      (Parser.seesNext "function" >>= fun x =>
        if (b && x) = true then Functor.discard Parser.advance >>= fun _ => A else B)
      (Parser.seesNext "function" >>= fun x =>
        if (b && x) = true then Functor.discard Parser.advance >>= fun _ => A' else B') V := by
  let A₂ : Parser α := Functor.discard Parser.advance >>= fun _ => A
  let A₂' : Parser α := Functor.discard Parser.advance >>= fun _ => A'
  have split (A B : Parser α) (c : Cursor) :
      (Parser.seesNext "function" >>= fun x => if (b && x) = true then A else B) c =
        (if (b && (c.peekAt 1).spells "function") = true then A else B) c := rfl
  intro c a c' run ready head
  rw [split] at run
  by_cases found : (b && (c.peekAt 1).spells "function") = true
  · rw [if_pos found] at run
    rw [Bool.and_eq_true] at found
    have solid (s : Token) (head : H s) : s.Solid := .of_spells (known found.1 s head) (by decide)
    have both : R.Tracks e .firm H P A₂ A₂' V := skip (advanceSolid solid) yes.ofFirm
    obtain ⟨went, more⟩ := both run ready head
    refine ⟨went.mono (Manner.firm_implies k), fun kept sub => ?_⟩
    obtain ⟨here, more⟩ := more kept sub
    refine ⟨here, fun r rest => ⟨(more r rest).1, fun d view ready' facts => ?_⟩⟩
    have again : (d.peekAt 1).spells "function" = true := by
      obtain ⟨u, c₁, step, run₁⟩ := exists_of_bind run
      cases step
      have live : c.peek.kind ≠ .eof := (solid _ head).1
      have went₀ : Went .some c c.advance := went_advance ready live nofun
      obtain ⟨went₁, more₁⟩ := yes run₁ went₀.ready trivial
      obtain ⟨here₁, -⟩ := more₁ kept (went₀.suffix sub)
      have same := peek_of_view went here rfl view ready ready'
      have live' : d.peek.kind ≠ .eof := fun eof =>
        live ((congrArg Token.kind same).symm.trans eof)
      obtain ⟨ahead, ready₁⟩ := ready'.advance live'
      have view₁ : d.advance.view = R.rewritten c.advance c' ++ r := by
        rw [rewritten_append went₀ went₁ sub local_advance here₁, rewritten_advance ready live,
          Cursor.view, ahead, List.map_cons] at view
        exact (List.cons.inj view).2
      have next := peek_of_view went₁ here₁ rfl view₁ went₀.ready ready₁
      rw [Cursor.peek, Cursor.peek, Cursor.peekAt_advance live, Cursor.peekAt_advance live'] at next
      rw [Token.spells_of_bare next, found.2]
    rw [split, if_pos (by rw [found.1, again]; rfl)]
    exact (more r rest).2 d view ready' facts
  · rw [if_neg found] at run
    obtain ⟨went, more⟩ := no run ready head
    refine ⟨went, fun kept sub => ?_⟩
    obtain ⟨here, more⟩ := more kept sub
    refine ⟨here, fun r rest => ⟨(more r rest).1, fun d view ready' facts => ?_⟩⟩
    have again : ¬ (b && (d.peekAt 1).spells "function") = true := by
      cases b with
      | false => exact Bool.false_ne_true
      | true =>
        simp only [Bool.true_and] at found ⊢
        have beside := beside_of_view went here (more r rest).1 rest view ready ready'
        have same := peek_of_view went here reads view ready ready'
        have spelled : c.peek.spells "async" = true := known rfl c.peek.bare head
        have twin := beside.peekAt_one same (by rw [Token.text_of_spells spelled]; decide)
        exact fun spelled => found (twin.function_of_spells spelled)
    rw [split, if_neg again]
    exact (more r rest).2 d view ready' facts

/-- The key of a member has the same name in both runs. -/
theorem keyName {a a' : NodeId} (F F' : Option Text → Parser α)
    (same : ∀ t u, P.holds t u → (R.Same a a').holds t u)
    (go : ∀ x, R.Tracks e k H P (F x) (F' x) V) :
    R.Tracks e k H P (get >>= fun c => F (c.tree.keyName? (some a)))
      (get >>= fun c => F' (c.tree.keyName? (some a'))) V :=
  look (fun c => c.tree.keyName? (some a)) (fun c => c.tree.keyName? (some a')) (S := (· = ·))
    (κ := fun _ => k) (G := fun _ => H) (fun _ => rfl) (fun _ => rfl)
    (fun _ _ _ _ known _ => (R.same_key (same _ _ known)).symm)
    (fun x _ same => by subst same; exact go x) (fun _ head => head) (fun _ => rfl)
    (fun _ => k.implies_self)

/-! ## Repetition

Every loop takes as many rounds in the second run as in the first, unless it runs out of them. -/

theorem rest_self (idle : k.reads = false) : k.rest .near k = k := by
  obtain ⟨reads, calm⟩ := k
  cases idle
  cases calm <;> rfl

theorem collect {step step' : Parser (Option α)} (idle : k.reads = false)
    (each : R.Tracks .near k (fun _ => True) P step step' (.option V)) (n m : Nat) :
    R.Tracks .near k (fun _ => True) P (Parser.collect step n) (Parser.collect step' m)
      (.list V) := by
  induction n generalizing m with
  | zero => exact fail
  | succ n ih =>
    have round : ∀ m, R.Tracks .near k (fun _ => True) P (Parser.collect step (n + 1))
        (Parser.collect step' (m + 1)) (.list V) := fun m => by
      refine bindOption each ?_ fun a b => ?_ <;> rw [rest_self idle]
      · exact mono (j := .calmly) (pure fun _ _ _ => .nil)
          (by simp [Manner.implies, Manner.calmly, idle])
      · refine thenStill ((ih m).pre (fun _ h => h) fun _ _ known => known.1) fun l l' => ?_
        exact .pure fun _ _ known => .cons known.1.2 known.2
    cases m with
    | zero => exact (round 0).exhausted
    | succ m => exact round m

theorem many {step step' : Parser (Option α)} (idle : k.reads = false)
    (each : R.Tracks .near k (fun _ => True) P step step' (.option V)) :
    R.Tracks .near k H P (Parser.many step) (Parser.many step') (.list V) :=
  rounds fun n m => (collect idle each n m).pre (fun _ _ => trivial) fun _ _ known => known

theorem iterate {step step' : α → Parser (Option α)} (idle : k.reads = false)
    (each : ∀ a b, R.Tracks .near k (fun _ => True) (P.and (V a b)) (step a) (step' b) (.option V))
    (n m : Nat) (a b : α) :
    R.Tracks .near k (fun _ => True) (P.and (V a b)) (Parser.iterate step n a)
      (Parser.iterate step' m b) V := by
  induction n generalizing m a b with
  | zero => exact fail
  | succ n ih =>
    have round : ∀ m, R.Tracks .near k (fun _ => True) (P.and (V a b))
        (Parser.iterate step (n + 1) a) (Parser.iterate step' (m + 1) b) V := fun m => by
      refine bindOption (each a b) ?_ fun a' b' => ?_ <;> rw [rest_self idle]
      · exact mono (j := .calmly) (pure fun _ _ known => known.2)
          (by simp [Manner.implies, Manner.calmly, idle])
      · exact (ih m a' b').pre (fun _ h => h) fun _ _ known => ⟨known.1.1, known.2⟩
    cases m with
    | zero => exact (round 0).exhausted
    | succ m => exact round m

/-- What is known of the value before the first round is known of it after the last. -/
theorem improve {step step' : α → Parser (Option α)} (idle : k.reads = false)
    (each : ∀ a b, R.Tracks .near k (fun _ => True) (P.and (V a b)) (step a) (step' b) (.option V))
    {a b : α} (known : ∀ t u, P.holds t u → (V a b).holds t u) :
    R.Tracks .near k H P (Parser.improve step a) (Parser.improve step' b) V :=
  rounds fun n m => (iterate idle each n m a b).pre (fun _ _ => trivial) fun t u h =>
  ⟨h, known t u h⟩

/-- The same value is improved in both runs. -/
theorem improveSame {step step' : α → Parser (Option α)} (idle : k.reads = false)
    (each : ∀ a, R.Tracks .near k (fun _ => True) P (step a) (step' a)
      (.option fun a b => .of (b = a))) {a : α} :
    R.Tracks .near k H P (Parser.improve step a) (Parser.improve step' a) fun a b => .of
    (b = a) := by
  refine improve (V := fun a b => .of (b = a)) idle (fun a b => ?_) fun _ _ _ => rfl
  by_cases same : b = a
  · subst same
    exact (each b).pre (fun _ h => h) fun _ _ known => known.1
  · exact vacuous (Q := P.and (.of (b = a))) (each a) fun _ _ known => same known.2

theorem commaItems [Nonempty α] {close : Text} {item item' : Parser α}
    (each : R.KeepsUp .near .firm item item' V)
    (ok : discerns .calmly close = true) (n m : Nat) :
    R.Tracks .near .calmly (fun _ => True) P (Parser.commaItems close item n)
      (Parser.commaItems close item' m) (.list V) := by
  induction n generalizing m P with
  | zero => exact fail
  | succ n ih =>
    have round : ∀ m, R.Tracks .near .calmly (fun _ => True) P
        (Parser.commaItems close item (n + 1)) (Parser.commaItems close item' (m + 1)) (.list V) :=
      fun m => by
        refine sees_ite (pure fun _ _ _ => .nil) ?_ ok
        refine bind each.anywhere fun a b => eat ?_ ?_ rfl
        · refine thenStill (ih m) fun l l' => ?_
          exact .pure fun _ _ known => .cons known.1.2 known.2
        · exact pure fun _ _ known => .cons known.2 .nil
    cases m with
    | zero => exact (round 0).exhausted
    | succ m => exact round m

/-- A list with fuel from elsewhere. -/
theorem commaListOf [Nonempty α] {close : Text} {item item' : Parser α}
    (each : R.KeepsUp .near .firm item item' V)
    (ok : (discerns .calmly close && close != utf8 ";") = true) (n m : Nat) :
    R.Tracks .near .firm H P (do
      let items ← Parser.commaItems close item n
      Functor.discard (Parser.expect close)
      return items) (do
      let items ← Parser.commaItems close item' m
      Functor.discard (Parser.expect close)
      return items) (.list V) := by
  rw [Bool.and_eq_true] at ok
  refine bind ((commaItems each ok.1 n m).pre (fun _ _ => trivial) fun _ _ h => h) fun l l' => ?_
  exact skip (expect ok.2) (pure fun _ _ known => known.2)

theorem commaList [Nonempty α] {close : Text} {item item' : Parser α}
    (each : R.KeepsUp .near .firm item item' V)
    (ok : (discerns .calmly close && close != utf8 ";") = true) :
    R.Tracks .near .firm H P (Parser.commaList close item) (Parser.commaList close item')
      (.list V) :=
  rounds fun n m => commaListOf each ok n m

theorem commaChain [Nonempty α] {item item' : Parser α}
    (each : R.KeepsUp .near .firm item item' V) (n m : Nat) :
    R.Tracks .near .firm (fun _ => True) P (Parser.commaChain item n) (Parser.commaChain item' m)
      (.list V) := by
  induction n generalizing m P with
  | zero => exact fail
  | succ n ih =>
    have round : ∀ m, R.Tracks .near .firm (fun _ => True) P (Parser.commaChain item (n + 1))
        (Parser.commaChain item' (m + 1)) (.list V) := fun m => by
      refine bind each.anywhere fun a b => eat ?_ ?_ rfl
      · refine thenStill (mono (ih m) rfl) fun l l' => ?_
        exact .pure fun _ _ known => .cons known.1.2 known.2
      · exact pure fun _ _ known => .cons known.2 .nil
    cases m with
    | zero => exact (round 0).exhausted
    | succ m => exact round m

theorem holeyItems {close : Text} {item item' : Parser NodeId}
    (each : R.KeepsUp .near .firm item item' R.Same)
    (ok : discerns .calmly close = true) (n m : Nat) :
    R.Tracks .near .calmly (fun _ => True) P (Parser.holeyItems close item n)
      (Parser.holeyItems close item' m) (.list (.option R.Same)) := by
  induction n generalizing m P with
  | zero => exact fail
  | succ n ih =>
    have round : ∀ m, R.Tracks .near .calmly (fun _ => True) P
        (Parser.holeyItems close item (n + 1)) (Parser.holeyItems close item' (m + 1))
        (.list (.option R.Same)) := fun m => by
      refine sees_ite (pure fun _ _ _ => .nil) ?_ ok
      refine eat ?_ ?_ rfl
      · refine thenStill (ih m) fun l l' => ?_
        exact .pure fun _ _ known => .cons .none known.2
      refine bind each.anywhere fun a b => eat ?_ ?_ rfl
      · refine thenStill (ih m) fun l l' => ?_
        exact .pure fun _ _ known => .cons (.some known.1.2) known.2
      · exact pure fun _ _ known => .cons (.some known.2) .nil
    cases m with
    | zero => exact (round 0).exhausted
    | succ m => exact round m

theorem holeyList {close : Text} {item item' : Parser NodeId}
    (each : R.KeepsUp .near .firm item item' R.Same)
    (ok : (discerns .calmly close && close != utf8 ";") = true) :
    R.Tracks .near .firm H P (Parser.holeyList close item) (Parser.holeyList close item')
      (.list (.option R.Same)) := by
  rw [Bool.and_eq_true] at ok
  refine rounds fun n m => ?_
  refine bind ((holeyItems each ok.1 n m).pre (fun _ _ => trivial) fun _ _ h => h) fun l l' => ?_
  exact skip (expect ok.2) (pure fun _ _ known => known.2)

theorem block [Nonempty α] {close : Text} {unterminated : Problem} {item item' : Parser α}
    (each : R.KeepsUp .near .any item item' V)
    (ok : (discerns .calmly close && close != utf8 ";") = true) :
    R.Tracks .near .firm H P (Parser.block close unterminated item)
      (Parser.block close unterminated item') (.list V) := by
  rw [Bool.and_eq_true] at ok
  refine bind (many (k := .any) (V := V) rfl ?_) fun l l' => ?_
  · refine sees_ite (pure fun _ _ _ => .none) ?_ ok.1
    refine atKind fun ended => ?_
    cases ended with
    | true => exact fun _ _ _ ran => nomatch ran
    | false => exact map each.anywhere fun _ _ _ _ h => .some h
  · exact skip (expect ok.2) (pure fun _ _ known => known.2)

end Tracks
end Rewriting
end TreeLint.Script
