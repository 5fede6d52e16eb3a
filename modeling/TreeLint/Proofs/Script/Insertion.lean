import TreeLint.Proofs.Edit.Insertion
import TreeLint.Proofs.Script.Piece

/-! # Pieces put into a script

Where text is put in right before tokens, and is cut into pieces of its own, a script is cut into
the pieces that it was cut into, with the new ones among them, and so are its tokens
(`Piece.tokenize_withInserted`). -/

namespace TreeLint

namespace Script.Piece

open Text (byte withInserted)

/-! ## Pieces put in between others -/

variable {put : Nat → List Piece} {offset : Nat} {p : Piece} {ps : List Piece}

/-- Pieces with others put in before them. -/
def insertAll (put : Nat → List Piece) : (offset : Nat) → List Piece → List Piece
  | _, [] => []
  | offset, p :: ps => put offset ++ p :: insertAll put (offset + p.text.length) ps

/-- What is put in stands before tokens, and after pieces that end where they do whatever
follows. -/
inductive Sits (put : Nat → List Piece) : Nat → List Piece → Prop
  | nil {offset : Nat} (nothing : put offset = []) : Sits put offset []
  | cons {offset : Nat} {p : Piece} {ps : List Piece} (some : p.text ≠ [])
      (start : put offset ≠ [] → ∃ k, p.lexeme = .token k)
      (inside : ∀ n, offset < n → n < offset + p.text.length → put n = [])
      (stop : put (offset + p.text.length) ≠ [] → p.Closed)
      (rest : Sits put (offset + p.text.length) ps) : Sits put offset (p :: ps)

/-- A token after those of some pieces. -/
def seenBefore : List Piece → Seen → List Seen
  | [], s => [s.bare]
  | p :: ps, s =>
    match p.lexeme with
    | .token kind => ⟨(Token.ofText kind p.text 0).bare, s.broken⟩ ::
        seenBefore ps { s with broken := false }
    | _ => seenBefore ps { s with broken := s.broken || p.text.contains 10 }

theorem Sits.joined_insertAll (sits : Sits put offset ps) :
    joined (insertAll put offset ps) = withInserted (fun n => joined (put n)) offset (joined ps) := by
  induction sits with
  | nil => rfl
  | @cons offset p ps some start inside stop rest ih =>
    obtain ⟨b, s, text⟩ := List.exists_cons_of_ne_nil some
    have alone : withInserted (fun n => joined (put n)) offset p.text
        = joined (put offset) ++ p.text := by
      rw [text, withInserted, Text.withInserted_of_nil fun n le lt => ?_]
      rw [inside n (by omega) (by rw [text, List.length_cons]; omega), joined_nil]
    rw [insertAll, joined_append, joined_cons, joined_cons, Text.withInserted_append, ih, alone,
      List.append_assoc]

theorem Sits.cut (sits : Sits put offset ps) (cut : Cut ps) (own : ∀ n r, Cut r → Cut (put n ++ r))
    (point : ∀ n, byte '.' ∉ (joined (put n)).head?) : Cut (insertAll put offset ps) := by
  induction sits with
  | nil => exact .nil
  | @cons offset p ps some start inside stop rest ih =>
    cases cut with
    | cons fits cut =>
    refine own _ _ (.cons ?_ (ih cut))
    by_cases nothing : put (offset + p.text.length) = []
    · have none : joined (put (offset + p.text.length)) = [] := by rw [nothing, joined_nil]
      rw [rest.joined_insertAll]
      exact fits.of_head (Text.head?_withInserted none) (Text.twice_of_withInserted none point)
    · exact stop nothing _

/-- What is put in before a token is seen before it. -/
theorem seenFrom_append (offset' offset : Nat) (broken : Bool) (qs : List Piece) {k : TokenKind}
    (kind : p.lexeme = .token k) :
    (seenFrom offset' broken (qs ++ p :: ps)).map Seen.bare
      = seenBefore qs ⟨.ofText k p.text offset, broken⟩
        ++ (seenFrom (offset' + (joined qs).length + p.text.length) false ps).map Seen.bare := by
  induction qs generalizing offset' broken with
  | nil =>
    simp [seenFrom, kind, seenBefore]
    rfl
  | cons q qs ih =>
    cases own : q.lexeme with
    | blank => simp [seenFrom, own, seenBefore, ih, Nat.add_assoc]
    | comment => simp [seenFrom, own, seenBefore, ih, Nat.add_assoc]
    | token k' =>
      simp [seenFrom, own, seenBefore, ih, Nat.add_assoc]
      rfl

theorem Sits.seen (sits : Sits put offset ps) (short : offset + (joined ps).length < UInt32.size)
    (offset' : Nat) (broken : Bool) :
    (seenFrom offset' broken (insertAll put offset ps)).map Seen.bare
      = (seenFrom offset broken ps).flatMap fun s => seenBefore (put s.token.start.toNat) s := by
  induction sits generalizing offset' broken with
  | @nil offset nothing =>
    have start : (Token.ofText .eof [] offset).start.toNat = offset :=
      toNat_offset (by simpa using short)
    simp [insertAll, seenFrom, start, nothing, seenBefore]
    rfl
  | @cons offset p ps some start inside stop rest ih =>
    rw [joined_cons, List.length_append] at short
    have ih := ih (by omega)
    by_cases token : ∃ k, p.lexeme = .token k
    · obtain ⟨k, kind⟩ := token
      have begins : (Token.ofText k p.text offset).start.toNat = offset := toNat_offset (by omega)
      rw [insertAll, seenFrom_append offset' offset broken (put offset) kind, ih]
      simp [seenFrom, kind, begins]
    · have nothing : put offset = [] := by
        by_contra changed
        exact token (start changed)
      rw [insertAll, nothing, List.nil_append]
      cases kind : p.lexeme with
      | token k => exact absurd ⟨k, kind⟩ token
      | blank => simp [seenFrom, kind, ih]
      | comment => simp [seenFrom, kind, ih]

/-! ## Where pieces are put in -/

theorem start_ofText (h : offset < UInt32.size) {k : TokenKind} {t : Text} :
    (Token.ofText k t offset).start.toNat = offset :=
  toNat_offset h

theorem seenFrom_token {k : TokenKind} (kind : p.lexeme = .token k) (broken : Bool) :
    seenFrom offset broken (p :: ps) = ⟨.ofText k p.text offset, broken⟩ ::
      seenFrom (offset + p.text.length) false ps := by
  simp only [seenFrom, kind]

theorem seenFrom_other (none : ¬ ∃ k, p.lexeme = .token k) (broken : Bool) :
    seenFrom offset broken (p :: ps)
      = seenFrom (offset + p.text.length) (broken || p.text.contains 10) ps := by
  cases kind : p.lexeme with
  | token k => exact absurd ⟨k, kind⟩ none
  | blank | comment => simp only [seenFrom, kind]

theorem start_of_mem {broken : Bool} (short : offset + (joined ps).length < UInt32.size) {s : Seen}
    (mem : s ∈ seenFrom offset broken ps) : offset ≤ s.token.start.toNat := by
  induction ps generalizing offset broken with
  | nil =>
    obtain rfl := List.mem_singleton.mp mem
    exact Nat.le_of_eq (start_ofText (by simpa using short)).symm
  | cons p ps ih =>
    rw [joined_cons, List.length_append] at short
    by_cases token : ∃ k, p.lexeme = .token k
    · obtain ⟨k, kind⟩ := token
      rw [seenFrom_token kind, List.mem_cons] at mem
      obtain rfl | mem := mem
      · exact Nat.le_of_eq (start_ofText (by omega)).symm
      · exact Nat.le_of_add_right_le (ih (by omega) mem)
    · rw [seenFrom_other token] at mem
      exact Nat.le_of_add_right_le (ih (by omega) mem)

theorem starts_apart (cut : Cut ps) (short : offset + (joined ps).length < UInt32.size)
    (broken : Bool) :
    (seenFrom offset broken ps).Pairwise fun s t => s.token.start.toNat < t.token.start.toNat := by
  induction cut generalizing offset broken with
  | nil => exact List.pairwise_singleton _ _
  | @cons p ps fits _ ih =>
    rw [joined_cons, List.length_append] at short
    have some : 0 < p.text.length := List.length_pos_of_ne_nil fits.ne_nil
    have rest := @ih (offset + p.text.length) (by omega)
    by_cases token : ∃ k, p.lexeme = .token k
    · obtain ⟨k, kind⟩ := token
      rw [seenFrom_token kind]
      refine List.pairwise_cons.mpr ⟨fun s mem => ?_, rest _⟩
      have later := start_of_mem (by omega) mem
      rw [start_ofText (by omega)]
      omega
    · rw [seenFrom_other token]
      exact rest _

/-- No token begins with a line break. -/
theorem Fits.head_ne_break {after : Text} {k : TokenKind} (fits : p.Fits after)
    (kind : p.lexeme = .token k) : ∀ c ∈ p.text.head?, c ≠ 10 := by
  intro c first line
  subst line
  cases fits.takes with
  | blank | line | block => contradiction
  | word start =>
    cases first
    contradiction
  | number start =>
    cases first
    obtain digit | ⟨point, -⟩ := start <;> contradiction
  | string start =>
    cases first
    obtain quote | quote := start <;> contradiction
  | template =>
    cases first
  | punctuator mem =>
    have blank := ((head_of_mem_punctuators _ mem).2 10 first).1
    contradiction

/-- Tokens that pieces are put in before: they stand apart from the token before, or that one ends
where it does whatever follows. -/
def Stands (put : Nat → List Piece) (ts : List Token) (n : Nat) : Prop :=
  put n ≠ [] → ∃ before t after, ts = before ++ t :: after ∧ t.kind ≠ .eof ∧ t.start.toNat = n ∧
    ∀ s ∈ before.getLast?, s.stop = t.start → Closed ⟨.token s.kind, s.text⟩

/-- A comment that a token follows at once is not ended by the end of its line. -/
theorem Fits.closed_of_token {q : Piece} {qs : List Piece} {k : TokenKind}
    (fits : p.Fits (joined (q :: qs))) (other : ¬ ∃ k, p.lexeme = .token k)
    (after : q.Fits (joined qs)) (token : q.lexeme = .token k) :
    p.Closed := by
  obtain ⟨b, s, text⟩ := List.exists_cons_of_ne_nil after.ne_nil
  have first := after.head_ne_break token b (by rw [text]; rfl)
  have taken := fits.takes
  cases taken with
  | blank start => exact closed_blank start
  | block inside => exact fun after => fits_iff.mpr (.block inside)
  | line inside ends => exact absurd (ends b (by rw [joined_cons, text]; rfl)) first
  | _ => exact absurd ⟨_, rfl⟩ other

theorem sits_of_stands (cut : Cut ps) (short : offset + (joined ps).length < UInt32.size)
    (broken : Bool)
    (stands : ∀ n, offset ≤ n → Stands put ((seenFrom offset broken ps).map Seen.token) n) :
    Sits put offset ps := by
  induction cut generalizing offset broken with
  | nil =>
    refine .nil ?_
    by_contra some
    obtain ⟨before, t, after, tokens, live, -⟩ := stands offset (Nat.le_refl _) some
    have last : t ∈ [Token.ofText .eof [] offset] := by
      change t ∈ (seenFrom offset broken []).map Seen.token
      rw [tokens]
      exact List.mem_append_right _ List.mem_cons_self
    rw [List.mem_singleton.mp last] at live
    exact live rfl
  | @cons p ps fits cut ih =>
    rw [joined_cons, List.length_append] at short
    have some : 0 < p.text.length := List.length_pos_of_ne_nil fits.ne_nil
    have later {broken : Bool} {t : Token} {before after : List Token}
        (tokens : (seenFrom (offset + p.text.length) broken ps).map Seen.token
          = before ++ t :: after) : offset + p.text.length ≤ t.start.toNat := by
      have mem : t ∈ (seenFrom (offset + p.text.length) broken ps).map Seen.token := by
        rw [tokens]
        exact List.mem_append_right _ List.mem_cons_self
      obtain ⟨s, inside, rfl⟩ := List.mem_map.mp mem
      exact start_of_mem (by omega) inside
    by_cases token : ∃ k, p.lexeme = .token k
    · obtain ⟨k, kind⟩ := token
      rw [seenFrom_token kind, List.map_cons] at stands
      have own : p = ⟨.token k, p.text⟩ := by rw [← kind]
      have split {n : Nat} (le : offset ≤ n) (changed : put n ≠ []) (ne : n ≠ offset) :
          ∃ before t after, (seenFrom (offset + p.text.length) false ps).map Seen.token
              = before ++ t :: after ∧ t.kind ≠ .eof ∧ t.start.toNat = n ∧
            ∀ s ∈ (Token.ofText k p.text offset :: before).getLast?, s.stop = t.start →
              Closed ⟨.token s.kind, s.text⟩ := by
        obtain ⟨before, t, after, tokens, live, start, closed⟩ := stands n le changed
        cases before with
        | nil =>
          obtain ⟨rfl, -⟩ := List.cons.inj tokens
          exact absurd (start.symm.trans (start_ofText (by omega))) ne
        | cons x before =>
          obtain ⟨rfl, more⟩ := List.cons.inj tokens
          exact ⟨before, t, after, more, live, start, closed⟩
      refine .cons fits.ne_nil (fun _ => ⟨k, kind⟩) (fun n gt lt => ?_) (fun changed => ?_)
        (ih (by omega) false fun n le changed => ?_)
      · by_contra changed
        obtain ⟨before, t, after, tokens, -, rfl, -⟩ := split (by omega) changed (by omega)
        have := later tokens
        omega
      · obtain ⟨before, t, after, tokens, -, start, closed⟩ := split (by omega) changed (by omega)
        have first : before = [] := by
          cases before with
          | nil => rfl
          | cons x before =>
            have apart : ((seenFrom (offset + p.text.length) false ps).map Seen.token).Pairwise
                fun s t => s.start.toNat < t.start.toNat :=
              List.pairwise_map.mpr (starts_apart cut (by omega) false)
            have least : offset + p.text.length ≤ x.start.toNat :=
              later (tokens.trans (List.nil_append (x :: (before ++ t :: after))).symm)
            rw [tokens] at apart
            have less := (List.pairwise_append.mp apart).2.2 x List.mem_cons_self t
              List.mem_cons_self
            omega
        subst first
        have same : (Token.ofText k p.text offset).stop = t.start := by
          rw [← UInt32.toNat_inj, start]
          exact toNat_offset (by omega)
        exact own ▸ closed _ rfl same
      · obtain ⟨before, t, after, tokens, live, start, closed⟩ :=
          split (by omega) changed (by omega)
        refine ⟨before, t, after, tokens, live, start, fun s last => closed s ?_⟩
        rw [List.getLast?_cons, last]
        rfl
    · rw [seenFrom_other token] at stands
      have rest := ih (by omega) _ fun n le => stands n (by omega)
      have none {n : Nat} (le : offset ≤ n) (lt : n < offset + p.text.length) : put n = [] := by
        by_contra changed
        obtain ⟨before, t, after, tokens, -, rfl, -⟩ := stands n le changed
        have := later tokens
        omega
      refine .cons fits.ne_nil (fun changed => (changed (none (Nat.le_refl _) (by omega))).elim)
        (fun n gt lt => none (by omega) lt) (fun changed => ?_) rest
      cases rest with
      | nil nothing => exact absurd nothing changed
      | @cons _ q qs _ start =>
        obtain ⟨k, kind⟩ := start changed
        cases cut with
        | cons after => exact fits.closed_of_token token after kind

/-- The tokens of a script start one after the other. -/
theorem seen_apart {file : FileId} {source : Text} {found : Tokens}
    (short : source.length < UInt32.size) (cut : tokenize file source = .ok found) :
    (seen source 0 found.tokens).Pairwise fun s t => s.token.start < t.token.start := by
  obtain ⟨ps, rfl, pieces⟩ := exists_cut cut
  obtain ⟨found', cut', tokens⟩ := pieces.tokensFrom file 0 false
  obtain rfl : found' = found := Except.ok.inj (cut'.symm.trans cut)
  have whole : seen (joined ps) 0 ((seenFrom 0 false ps).map Seen.token) = seenFrom 0 false ps :=
    seen_eq_seenFrom (List.nil_append (joined ps)).symm short (Nat.le_refl _) rfl
  rw [tokens, whole]
  exact starts_apart pieces (by simpa using short) false

/-- Pieces put in before tokens of a script leave the other tokens what they were. -/
theorem tokenize_withInserted {file : FileId} {source : Text} {found : Tokens}
    (short : source.length < UInt32.size) (cut : tokenize file source = .ok found)
    (stands : ∀ n, Stands put found.tokens n) (own : ∀ n r, Cut r → Cut (put n ++ r))
    (point : ∀ n, byte '.' ∉ (joined (put n)).head?)
    (short' : (withInserted (fun n => joined (put n)) 0 source).length < UInt32.size)
    (file' : FileId) :
    ∃ found', tokenize file' (withInserted (fun n => joined (put n)) 0 source) = .ok found' ∧
      (seen (withInserted (fun n => joined (put n)) 0 source) 0 found'.tokens).map Seen.bare
        = (seen source 0 found.tokens).flatMap fun s =>
          seenBefore (put s.token.start.toNat) s := by
  obtain ⟨ps, rfl, pieces⟩ := exists_cut cut
  have whole {qs : List Piece} (short : (joined qs).length < UInt32.size) :
      seen (joined qs) 0 ((seenFrom 0 false qs).map Seen.token) = seenFrom 0 false qs :=
    seen_eq_seenFrom (List.nil_append (joined qs)).symm short (Nat.le_refl _) rfl
  obtain ⟨found₁, cut₁, tokens⟩ := pieces.tokensFrom file 0 false
  obtain rfl : found₁ = found := Except.ok.inj (cut₁.symm.trans cut)
  rw [tokens] at stands
  have sits : Sits put 0 ps :=
    sits_of_stands pieces (by simpa using short) false fun n _ => stands n
  obtain ⟨found', cut', tokens'⟩ := (sits.cut pieces own point).tokensFrom file' 0 false
  rw [sits.joined_insertAll] at cut'
  refine ⟨found', cut', ?_⟩
  rw [tokens, tokens', whole short, ← sits.seen (by simpa using short) 0, ← sits.joined_insertAll]
  rw [← sits.joined_insertAll] at short'
  rw [whole short']

end Script.Piece
end TreeLint
