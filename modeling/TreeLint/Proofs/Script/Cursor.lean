import TreeLint.Proofs.Script.Row

/-! # Reading on

What each step of a parser does to the row that it makes: reading a token, adding a node,
and repeating steps until one of them ends it.  The rounds of a repetition are bounded by
the number of tokens, and each of them but the last reads one, so the bound is never met.
-/

namespace TreeLint.Script

variable {α β : Type} {s : Stream} {n j m k : Nat} {c₀ : Cursor} {ids : List NodeId}
  {Q : α → Cursor → Prop}

theorem Token.kind_ne_of_spells {t : Token} {text : Text} (h : t.spells text = true) :
    t.kind ≠ .eof := by
  intro eof
  simp [spells, eof] at h

attribute [simp] Shape.refs

/-- The nodes among references. -/
def present (refs : List Ref) : List NodeId := refs.filterMap id

@[simp] theorem present_nil : present [] = [] := rfl

@[simp] theorem present_cons (r : Ref) (refs : List Ref) :
    present (r :: refs) = r.toList ++ present refs := by
  cases r <;> rfl

@[simp] theorem present_append (a b : List Ref) : present (a ++ b) = present a ++ present b :=
  List.filterMap_append

@[simp] theorem present_map_some (l : List NodeId) : present (l.map some) = l := by
  simp [present, List.filterMap_map]

theorem flatMap_toList (refs : List Ref) : refs.flatMap Option.toList = present refs := by
  induction refs with
  | nil => rfl
  | cons r refs ih => rw [List.flatMap_cons, ih, present_cons]

/-! ## Tokens -/

theorem Row.advance {c : Cursor} (stands : Stands s n c) (live : c.peek.kind ≠ .eof) :
    Row s n c 1 [] c.advance := by
  obtain ⟨t, ts, rest⟩ := List.exists_cons_of_ne_nil stands.ordered.ne_nil
  have ordered := stands.ordered
  rw [rest] at ordered
  rw [Cursor.peek_eq rest] at live
  have more : ts ≠ [] := by
    cases ordered with
    | eof kind => exact absurd kind live
    | cons _ _ _ after => exact after.ne_nil
  rw [Cursor.advance, Cursor.peek_eq rest, if_neg live, rest, List.tail_cons]
  exact ⟨stands, ⟨[t], Nat.le_refl 1, rest, rfl, more⟩, stands.file, .refl stands.settled, by simp,
    by simp⟩

theorem Cursor.advance_steps (c : Cursor) : c.tree.Steps c.advance.tree := by
  unfold Cursor.advance
  split <;> exact .refl

namespace Runs

theorem advance : Runs (fun c => Row s n c₀ m ids c ∧ c.peek.kind ≠ .eof) Parser.advance
    fun _ => Row s n c₀ (m + 1) ids := by
  rintro c ⟨row, live⟩
  have read := row.trans (Row.advance (row.stand (Nat.le_add_right n m)) live)
  rw [List.append_nil] at read
  exact ⟨c.advance_steps, read⟩

/-- Whatever comes next is read, unless it is the end. -/
theorem step : Runs (Row s n c₀ m ids) Parser.advance fun _ => Row s n c₀ m ids := by
  intro c row
  by_cases live : c.peek.kind = .eof
  · have same : Parser.advance c = .ok (c.peek, c) := by
      have stays : c.advance = c := if_pos live
      exact congrArg (fun c' => Except.ok (c.peek, c')) stays
    rw [same]
    exact ⟨.refl, row⟩
  · have read := advance.post (R := fun _ => Row s n c₀ m ids)
      fun _ _ row => row.least (Nat.le_succ m)
    exact read c ⟨row, live⟩

theorem sees {text : Text} {P : Cursor → Prop} {f : Bool → Parser α}
    (yes : Runs (fun c => P c ∧ c.peek.kind ≠ .eof) (f true) Q) (no : Runs P (f false) Q) :
    Runs P (Parser.sees text >>= f) Q := by
  intro c start
  cases seen : c.peek.spells text with
  | true =>
    have eq : Parser.sees text c = .ok (true, c) := congrArg (fun b => Except.ok (b, c)) seen
    simp only [Bind.bind, StateT.bind, Except.bind, eq]
    exact yes c ⟨start, Token.kind_ne_of_spells seen⟩
  | false =>
    have eq : Parser.sees text c = .ok (false, c) := congrArg (fun b => Except.ok (b, c)) seen
    simp only [Bind.bind, StateT.bind, Except.bind, eq]
    exact no c start

theorem atKind {kind : TokenKind} {P : Cursor → Prop} {f : Bool → Parser α}
    (yes : Runs (fun c => P c ∧ c.peek.kind = kind) (f true) Q)
    (no : Runs (fun c => P c ∧ c.peek.kind ≠ kind) (f false) Q) :
    Runs P (Parser.atKind kind >>= f) Q := by
  intro c start
  by_cases same : c.peek.kind = kind
  · have eq : Parser.atKind kind c = .ok (true, c) :=
      congrArg (fun b => Except.ok (b, c)) (beq_iff_eq.mpr same)
    simp only [Bind.bind, StateT.bind, Except.bind, eq]
    exact yes c ⟨start, same⟩
  · have eq : Parser.atKind kind c = .ok (false, c) :=
      congrArg (fun b => Except.ok (b, c)) (beq_eq_false_iff_ne.mpr same)
    simp only [Bind.bind, StateT.bind, Except.bind, eq]
    exact no c ⟨start, same⟩

theorem expect {text : Text} :
    Runs (Row s n c₀ m ids) (Parser.expect text) fun _ => Row s n c₀ (m + 1) ids := by
  unfold Parser.expect
  refine .sees ?_ ?_
  · exact advance
  · exact .look fun t => .fail Problem.noConfusion

theorem word : Runs (Row s n c₀ m ids) Parser.word fun _ => Row s n c₀ (m + 1) ids := by
  unfold Parser.word
  refine .atKind ?_ ?_
  · exact advance.pre fun c ⟨row, word⟩ => ⟨row, by simp [word]⟩
  · exact .look fun t => .fail Problem.noConfusion

theorem eaten {text : Text} :
    Runs (Row s n c₀ m ids) (Parser.eat text) fun b => Row s n c₀ (m + b.toNat) ids := by
  unfold Parser.eat
  refine .sees ?_ ?_
  · exact .skip advance (.pure fun _ row => row)
  · exact .pure fun _ row => row

theorem eat {text : Text} {p q : Parser α} (yes : Runs (Row s n c₀ (m + 1) ids) p Q)
    (no : Runs (Row s n c₀ m ids) q Q) :
    Runs (Row s n c₀ m ids) (Parser.eat text >>= fun b => if b = true then p else q) Q := by
  refine eaten.bind fun b => ?_
  cases b with
  | true => exact yes
  | false => exact no

/-- A node after a word or punctuator, both of which may be left out. -/
theorem eatOptional {text : Text} {p : Parser NodeId} {f : Ref → Parser α} (part : Yields s j p)
    (enough : n ≤ j + (m + 1))
    (rest : ∀ r : Ref, Runs (Row s n c₀ m (ids ++ r.toList)) (f r) Q) :
    Runs (Row s n c₀ m ids) (Parser.eat text >>= fun b =>
      if b = true then some <$> p >>= f else Pure.pure none >>= f) Q := by
  refine eat ?_ ?_
  · refine Runs.map (S := fun r => Row s n c₀ m (ids ++ r.toList)) ?_ |>.bind rest
    exact (part.call enough).post fun _ _ row => row.least (Nat.le_add_right m 2)
  · exact (Runs.pure fun _ row => by simpa using row).bind rest

theorem tried {text : Text} :
    Runs (Row s n c₀ m ids) (Parser.eat text) fun _ => Row s n c₀ m ids :=
  eaten.post fun _ _ row => row.least (Nat.le_add_right m _)

theorem semicolon : Runs (Row s n c₀ m ids) Parser.semicolon fun _ => Row s n c₀ m ids :=
  .discard tried

/-! ## The first token -/

theorem advanceFirst : Runs (fun c => At s n c₀ c ∧ c.peek.kind ≠ .eof) Parser.advance
    fun t c => t = c₀.peek ∧ Row s n c₀ 1 [] c := by
  rintro c ⟨⟨rfl, stands⟩, live⟩
  exact ⟨c.advance_steps, rfl, Row.advance stands live⟩

theorem advanceLive (live : c₀.peek.kind ≠ .eof) :
    Runs (At s n c₀) Parser.advance fun _ => Row s n c₀ 1 [] :=
  (advanceFirst.pre fun _ here => ⟨here, here.1 ▸ live⟩).post fun _ _ h => h.2

theorem expectFirst {text : Text} :
    Runs (At s n c₀) (Parser.expect text) fun t c => t = c₀.peek ∧ Row s n c₀ 1 [] c := by
  unfold Parser.expect
  refine .sees ?_ ?_
  · exact advanceFirst
  · exact .look fun t => .fail Problem.noConfusion

theorem wordFirst : Runs (At s n c₀) Parser.word fun t c => t = c₀.peek ∧ Row s n c₀ 1 [] c := by
  unfold Parser.word
  refine .atKind ?_ ?_
  · exact advanceFirst.pre fun c ⟨at_, word⟩ => ⟨at_, by simp [word]⟩
  · exact .look fun t => .fail Problem.noConfusion

/-- The first token is where the row begins. -/
theorem opening {p : Parser Token} {f : Token → Parser α} {P : Cursor → Prop}
    (first : Runs P p fun t c => t = c₀.peek ∧ Row s n c₀ 1 [] c)
    (h : Runs (Row s n c₀ 1 []) (f c₀.peek) Q) : Runs P (p >>= f) Q := by
  refine first.bind fun t => ?_
  rintro c ⟨rfl, row⟩
  exact h c row

theorem eatFirst {text : Text} {p q : Parser α} (yes : Runs (Row s n c₀ 1 []) p Q)
    (no : Runs (At s n c₀) q Q) :
    Runs (At s n c₀) (Parser.eat text >>= fun b => if b = true then p else q) Q := by
  have eaten : Runs (At s n c₀) (Parser.eat text)
      fun b c => (b = true ∧ Row s n c₀ 1 [] c) ∨ (b = false ∧ At s n c₀ c) := by
    unfold Parser.eat
    refine .sees ?_ ?_
    · exact .skip (advanceFirst.post fun _ _ h => h.2) (.pure fun _ row => .inl ⟨rfl, row⟩)
    · exact .pure fun _ here => .inr ⟨rfl, here⟩
  refine eaten.bind fun b => ?_
  rintro c (⟨rfl, row⟩ | ⟨rfl, here⟩)
  · exact yes c row
  · exact no c here

/-! ## Nodes -/

theorem got {f : Cursor → Parser α} {P : Cursor → Prop} (h : ∀ c, P c → Runs (· = c) (f c) Q) :
    Runs P (get >>= f) Q :=
  fun c here => h c here c rfl

theorem spanFrom {start : UInt32} {f : Span → Parser α} {P : Cursor → Prop}
    (h : ∀ c, P c → Runs (· = c) (f ⟨c.tree.file, start, c.previousEnd⟩) Q) :
    Runs P (Parser.spanFrom start >>= f) Q :=
  fun c here => h c here c rfl

/-- A node above the whole row. -/
theorem nodeSharing {shape : Shape} (parts : ids.Nodup → Ref.compact shape.refs = ids)
    (read : k < m) :
    Runs (Row s n c₀ m ids) (Parser.node c₀.peek.start shape)
      fun id => Row s n c₀ (k + 1) [id] := by
  unfold Parser.node
  refine .spanFrom fun c row => ?_
  rintro _ rfl
  exact ⟨.single (row.step (parts row.grows.nodup)),
    row.close shape (Nat.zero_lt_of_lt read) read parts rfl⟩

/-- A node above the only node of a row, which it starts with. -/
theorem nodeOnly {id : NodeId} {shape : Shape} {c : Cursor} (row : Row s n c₀ m [id] c)
    (parts : Ref.compact shape.refs = [id]) (read : k < m) :
    Runs (· = c) (Parser.node (c.tree.span (some id)).start shape)
      fun id => Row s n c₀ (k + 1) [id] := by
  unfold Parser.node
  refine .spanFrom ?_
  rintro _ rfl _ rfl
  exact ⟨.single (row.step parts), row.closeOnly shape (Nat.zero_lt_of_lt read) read parts rfl⟩

/-- A node above the whole row, in which no node is there twice. -/
theorem node {shape : Shape} (parts : present shape.refs = ids) (read : k < m) :
    Runs (Row s n c₀ m ids) (Parser.node c₀.peek.start shape)
      fun id => Row s n c₀ (k + 1) [id] := by
  refine nodeSharing (fun distinct => ?_) read
  subst parts
  exact Ref.compact_of_nodup distinct

theorem other {type : Text} {children : List NodeId} (parts : children = ids)
    (read : k < m) :
    Runs (Row s n c₀ m ids) (Parser.other c₀.peek.start type children)
      fun id => Row s n c₀ (k + 1) [id] :=
  node (by simp [parts]) read

theorem identifierNode {name : Text} {ofType : Ref} {optional : Bool}
    (parts : ofType.toList = ids) (read : k < m) :
    Runs (Row s n c₀ m ids) (Parser.identifierNode c₀.peek.start name ofType optional)
      fun id => Row s n c₀ (k + 1) [id] := by
  unfold Parser.identifierNode
  refine .spanFrom fun c row => ?_
  rintro c rfl
  have shape : ids.Nodup → Ref.compact [ofType] = ids := by
    intro _
    rw [← parts]
    cases ofType <;> rfl
  have named := row.withNames (c.tree.names.intern name).1
  exact ⟨.tail (.single (.name name)) (named.step (shape row.grows.nodup)),
    named.close (.identifier ⟨(c.tree.names.intern name).2, ofType, optional⟩)
      (Nat.zero_lt_of_lt read) read shape rfl⟩

end Runs

/-! ## Repetition -/

section Loops

open TreeLint.Script.Parser

variable {nodes : α → List NodeId}

theorem Runs.rounds {f : Nat → Parser β} {Q : β → Cursor → Prop}
    (h : Runs (At s n c₀) (f (c₀.rest.length + 1)) Q) :
    Runs (At s n c₀) (Parser.rounds >>= f) Q := by
  rintro c ⟨rfl, stands⟩
  exact h c ⟨rfl, stands⟩

/-- So many tokens cannot have been read. -/
theorem Runs.exhausted {p : Parser α} (bound : c₀.rest.length < m + 1) :
    Runs (Row s n c₀ m ids) p Q := by
  intro c row
  obtain ⟨read, more, passes⟩ := row.passes
  have := passes.length
  have := List.length_pos_of_ne_nil passes.more
  omega

theorem collect_row {step : Parser (Option α)} (h : Offers s j step nodes) (enough : n ≤ j + m)
    (bound : c₀.rest.length < k + m) :
    Runs (Row s n c₀ m ids) (collect step k) fun l => Row s n c₀ m (ids ++ l.flatMap nodes) := by
  induction k generalizing m ids with
  | zero => exact .exhausted (by omega)
  | succ k ih =>
    unfold collect
    refine h.andThen enough fun o => ?_
    cases o with
    | none => exact .pure fun _ row => row
    | some a =>
      change Runs (Row s n c₀ (m + 1) (ids ++ nodes a)) _ _
      refine Runs.bind (ih (by omega) (by omega)) fun l => .pure fun c row => ?_
      rw [List.append_assoc] at row
      exact row.least (by omega)

theorem many_moves {step : Parser (Option α)} (nodes : α → List NodeId)
    (h : Offers s n step nodes) :
    Moves s n (many step) (fun _ => 0) fun l => l.flatMap nodes := by
  unfold many
  intro c₀
  exact .rounds ((collect_row h (Nat.le_refl n) (Nat.lt_succ_self _)).pre fun _ => At.row)

theorem iterate_row {step : α → Parser (Option α)}
    (h : ∀ a i, m ≤ i → Runs (Row s n c₀ i (nodes a)) (step a)
      fun o => o.elim (Row s n c₀ i (nodes a)) fun b => Row s n c₀ (i + 1) (nodes b))
    (a : α) {i : Nat} (le : m ≤ i) (bound : c₀.rest.length < k + i) :
    Runs (Row s n c₀ i (nodes a)) (iterate step k a) fun b => Row s n c₀ m (nodes b) := by
  -- Each step reads a token, so the bound drops with what is left to read.
  induction k generalizing i a with
  | zero => exact .exhausted (by omega)
  | succ k ih =>
    unfold iterate
    refine (h a i le).bind fun o => ?_
    cases o with
    | none => exact .pure fun _ row => row.least le
    | some b => exact ih b (by omega) (by omega)

/-- What every step keeps holds when no step is left. -/
theorem improve_row {step : α → Parser (Option α)} (nodes : α → List NodeId)
    (h : ∀ a i, m ≤ i → Runs (Row s n c₀ i (nodes a)) (step a)
      fun o => o.elim (Row s n c₀ i (nodes a)) fun b => Row s n c₀ (i + 1) (nodes b)) (a : α) :
    Runs (Row s n c₀ m (nodes a)) (improve step a) fun b => Row s n c₀ m (nodes b) := by
  intro c row
  obtain ⟨read, more, passes⟩ := row.passes
  have length := passes.length
  exact iterate_row h a more (by omega) c (row.exactly passes)

theorem commaItems_row {close : Text} {item : Parser α}
    (h : Moves s j item (fun _ => 1) nodes) (enough : n ≤ j + m) (bound : c₀.rest.length < k + m) :
    Runs (Row s n c₀ m ids) (commaItems close item k)
      fun l => Row s n c₀ m (ids ++ l.flatMap nodes) := by
  induction k generalizing m ids with
  | zero => exact .exhausted (by omega)
  | succ k ih =>
    unfold commaItems
    refine .look fun closed => .ite (fun _ => ?_) fun _ => ?_
    · exact .pure fun _ row => by simpa using row
    refine h.andThen enough fun a => .eat ?_ ?_
    · refine Runs.bind (ih (by omega) (by omega)) fun l => .pure fun c row => ?_
      rw [List.append_assoc] at row
      exact row.least (by omega)
    · exact .pure fun c row => by simpa using row.least (by omega)

theorem commaList_moves {close : Text} {item : Parser α}
    (h : Moves s n item (fun _ => 1) nodes) :
    Moves s n (commaList close item) (fun _ => 1) fun l => l.flatMap nodes := by
  unfold commaList
  intro c₀
  refine .rounds ?_
  refine Runs.bind ((commaItems_row h (Nat.le_refl n) (Nat.lt_succ_self _)).pre fun _ => At.row)
    fun l => ?_
  exact .skip .expect (.pure fun _ row => row)

theorem Runs.roundsFrom {f : Nat → Parser β} {Q : β → Cursor → Prop}
    (h : ∀ i k, m ≤ i → c₀.rest.length < k + i → Runs (Row s n c₀ i ids) (f k) Q) :
    Runs (Row s n c₀ m ids) (Parser.rounds >>= f) Q := by
  intro c row
  obtain ⟨read, more, passes⟩ := row.passes
  have length := passes.length
  exact h read.length (c.rest.length + 1) more (by omega) c (row.exactly passes)

theorem commaChain_row {item : Parser α} (h : Moves s j item (fun _ => 1) nodes)
    (bound : c₀.rest.length < k + m) (enough : n ≤ j + m) :
    Runs (Row s n c₀ m ids) (commaChain item k)
      fun l => Row s n c₀ (m + 1) (ids ++ l.flatMap nodes) := by
  induction k generalizing m ids with
  | zero => exact .exhausted (by omega)
  | succ k ih =>
    unfold commaChain
    refine h.andThen enough fun a => .eat ?_ ?_
    · refine Runs.bind (ih (by omega) (by omega)) fun l => .pure fun c row => ?_
      rw [List.append_assoc] at row
      exact row.least (by omega)
    · exact .pure fun c row => by simpa using row

/-- A chain of nodes after a word, both of which may be left out. -/
theorem Runs.eatChain {text : Text} {item : Parser NodeId} {f : List NodeId → Parser β}
    {Q : β → Cursor → Prop} (h : Yields s j item)
    (enough : n ≤ j + (m + 1)) (rest : ∀ l, Runs (Row s n c₀ m (ids ++ l)) (f l) Q) :
    Runs (Row s n c₀ m ids) (Parser.eat text >>= fun b =>
      if b = true then Parser.rounds >>= fun k => commaChain item k >>= f
      else Pure.pure [] >>= f) Q := by
  refine .eat (.roundsFrom fun i k le bound => ?_) ?_
  · refine .bind (Q := fun l => Row s n c₀ m (ids ++ l)) ?_ rest
    refine (commaChain_row h bound (by omega)).post fun l c row => ?_
    rw [List.flatMap_singleton'] at row
    exact row.least (by omega)
  · exact .bind (.pure fun c row => (List.append_nil ids).symm ▸ row) rest

theorem holeyItems_row {close : Text} {item : Parser NodeId} (h : Yields s j item)
    (enough : n ≤ j + m) (bound : c₀.rest.length < k + m) :
    Runs (Row s n c₀ m ids) (holeyItems close item k)
      fun l => Row s n c₀ m (ids ++ present l) := by
  induction k generalizing m ids with
  | zero => exact .exhausted (by omega)
  | succ k ih =>
    unfold holeyItems
    refine .look fun closed => .ite (fun _ => ?_) fun _ => ?_
    · exact .pure fun _ row => by simpa using row
    refine .eat ?_ ?_
    · exact Runs.bind (ih (by omega) (by omega)) fun l => .pure fun c row =>
        row.least (by omega)
    refine h.andThen enough fun a => .eat ?_ ?_
    · refine Runs.bind (ih (by omega) (by omega)) fun l => .pure fun c row => ?_
      rw [List.append_assoc] at row
      exact row.least (by omega)
    · exact .pure fun c row => row.least (by omega)

theorem holeyList_moves {close : Text} {item : Parser NodeId} (h : Yields s n item) :
    Moves s n (holeyList close item) (fun _ => 1) present := by
  unfold holeyList
  intro c₀
  refine .rounds ?_
  refine Runs.bind ((holeyItems_row h (Nat.le_refl n) (Nat.lt_succ_self _)).pre fun _ => At.row)
    fun l => ?_
  exact .skip .expect (.pure fun _ row => row)

theorem block_moves {close : Text} {unterminated : Problem} {item : Parser α}
    (nodes : α → List NodeId) (h : Moves s n item (fun _ => 1) nodes)
    (problem : unterminated ≠ .tooDeep) :
    Moves s n (block close unterminated item) (fun _ => 1) fun l => l.flatMap nodes := by
  unfold block
  refine .of_row fun c₀ => .bind (Moves.goesOn (many_moves nodes ?_)) fun l => ?_
  · refine .of_row fun c₀ => .look fun closed => .ite (fun _ => ?_) fun _ => ?_
    · exact .pure fun _ row => row
    refine .look fun ended => .ite (fun _ => ?_) fun _ => ?_
    · exact .stop problem
    · exact h.andThen (by omega) fun a => .pure fun _ row => row
  · exact .skip .expect (.pure fun _ row => row)

end Loops

/-! ## Leaves -/

section Leaves

open TreeLint.Script.Parser

theorem identifier_yields : Yields s n identifier := by
  unfold identifier
  exact fun c₀ => .opening .wordFirst (.identifierNode (by simp) (by omega))

theorem kind_ne_of_literalKind? {t : Token} {kind : LiteralKind} (h : literalKind? t = some kind) :
    t.kind ≠ .eof := by
  intro eof
  simp [literalKind?, Token.spells, eof] at h

theorem literal_yields : Yields s n literal := by
  unfold literal
  refine fun c₀ => .peek ?_
  split
  · exact .fail Problem.noConfusion
  next kind known =>
    exact .skip (.advanceLive (kind_ne_of_literalKind? known)) (.node (by simp) (by omega))

theorem stringLiteral_yields : Yields s n stringLiteral := by
  unfold stringLiteral
  refine fun c₀ => .look fun string => .ite (fun _ => ?_) fun _ => ?_
  · exact literal_yields c₀
  · exact .look fun t => .fail Problem.noConfusion

theorem entityName_yields : Yields s n entityName := by
  unfold entityName
  refine fun c₀ => .here (identifier_yields.goesOn.bind fun first => ?_)
  refine improve_row (fun id => [id]) (fun name i le => ?_) first
  refine .eat ?_ ?_
  · refine identifier_yields.goesOn.bind fun right => ?_
    exact .bind (.node (by simp) (by omega)) fun id => .pure fun _ row => row
  · exact .pure fun _ row => row

theorem skipAngles_row {depth : Nat} (bound : c₀.rest.length < k + m) :
    Runs (Row s n c₀ m ids) (skipAngles k depth) fun _ => Row s n c₀ m ids := by
  induction k generalizing m depth with
  | zero => exact .exhausted (by omega)
  | succ k ih =>
    have again : ∀ depth, Runs (Row s n c₀ (m + 1) ids) (skipAngles k depth)
        fun _ => Row s n c₀ m ids := fun depth =>
      (ih (m := m + 1) (by omega)).post fun _ _ row => row.least (by omega)
    unfold skipAngles
    refine .atKind ?_ ?_
    · exact .stop Problem.noConfusion
    · refine Runs.advance.bind fun t => .ite (fun _ => again _) fun _ => .ite (fun _ => ?_) fun _ =>
        again _
      exact .ite (fun _ => .pure fun _ row => row.least (by omega)) fun _ => again _

theorem skipTypeParams_row :
    Runs (Row s n c₀ m ids) skipTypeParams fun _ => Row s n c₀ m ids := by
  unfold skipTypeParams
  refine .look fun opens => .ite (fun _ => ?_) fun _ => ?_
  · exact .roundsFrom fun i k le bound => (skipAngles_row bound).post fun _ _ row => row.least le
  · exact .pure fun _ row => row

end Leaves

end TreeLint.Script
