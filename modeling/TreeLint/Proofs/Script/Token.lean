import TreeLint.Script.Token

/-! # Tokens in order

Tokens stand one after the other: none is empty, each starts where the one before it has
ended or later, and the mark of the end comes last (`Ordered`).  The tokens of a text are
in order if its offsets can be counted in words (`tokenize_ordered`), since no step of the
cutting takes more bytes than there are (`next_proper`).
-/

namespace TreeLint.Script

/-- Tokens in order from an offset on, and after them the end, which is where it should be. -/
inductive Ordered (limit : UInt32) : UInt32 → List Token → Prop where
  | eof {before : UInt32} {t : Token} (kind : t.kind = .eof) (start : t.start = limit)
    (apart : before ≤ limit) : Ordered limit before [t]
  | cons {before : UInt32} {t : Token} {ts : List Token} (kind : t.kind ≠ .eof)
    (apart : before ≤ t.start) (proper : t.start < t.stop) (rest : Ordered limit t.stop ts) :
    Ordered limit before (t :: ts)

namespace Ordered

variable {limit before : UInt32} {ts : List Token}

theorem le_limit (h : Ordered limit before ts) : before ≤ limit := by
  induction h with
  | eof _ _ apart => exact apart
  | cons _ apart proper _ ih =>
    exact UInt32.le_trans apart (UInt32.le_trans (UInt32.le_of_lt proper) ih)

theorem stop_le {t : Token} (h : Ordered limit before ts) (mem : t ∈ ts) (live : t.kind ≠ .eof) :
    t.stop ≤ limit := by
  induction h with
  | eof kind => exact absurd (List.mem_singleton.mp mem ▸ kind) live
  | cons _ _ _ rest ih =>
    obtain rfl | mem := List.mem_cons.mp mem
    · exact rest.le_limit
    · exact ih mem

theorem of_le {before' : UInt32} (h : Ordered limit before ts)
    (le : before' ≤ before) : Ordered limit before' ts := by
  cases h with
  | eof kind start apart => exact .eof kind start (UInt32.le_trans le apart)
  | cons kind apart proper rest => exact .cons kind (UInt32.le_trans le apart) proper rest

theorem ne_nil (h : Ordered limit before ts) : ts ≠ [] := by
  cases h <;> exact List.cons_ne_nil _ _

/-- A token with more after it is not the end. -/
theorem of_cons {t : Token} (h : Ordered limit before (t :: ts)) (more : ts ≠ []) :
    t.kind ≠ .eof ∧ before ≤ t.start ∧ t.start < t.stop ∧ Ordered limit t.stop ts := by
  cases h with
  | eof => contradiction
  | cons kind apart proper rest => exact ⟨kind, apart, proper, rest⟩

/-- Only the last token is the end. -/
theorem live_of_append {xs ys : List Token} {t : Token} (h : Ordered limit before (xs ++ t :: ys))
    (more : ys ≠ []) : t.kind ≠ .eof := by
  induction xs generalizing before with
  | nil => exact (h.of_cons more).1
  | cons x xs ih => exact ih (h.of_cons (by simp)).2.2.2

end Ordered

/-! ## Lengths -/

theorem exists_of_map_eq_ok {ε α β : Type} {x : Except ε α} {f : α → β} {b : β}
    (h : x.map f = .ok b) : ∃ a, x = .ok a ∧ f a = b := by
  cases x with
  | error e => contradiction
  | ok a => exact ⟨a, rfl, Except.ok.inj h⟩

theorem stringLength_le {quote : UInt8} {t : Text} {n : Nat} (h : stringLength quote t = .ok n) :
    n ≤ t.length := by
  fun_induction stringLength quote t generalizing n with
  | case1 | case2 | case4 => contradiction
  | case3 b escape c rest ih =>
    obtain ⟨m, inner, rfl⟩ := exists_of_map_eq_ok h
    exact Nat.add_le_add_right (ih inner) 2
  | case5 b rest =>
    cases h
    exact Nat.le_add_left 1 _
  | case6 b rest _ _ _ ih =>
    obtain ⟨m, inner, rfl⟩ := exists_of_map_eq_ok h
    exact Nat.add_le_add_right (ih inner) 1

theorem templateLength_le {t : Text} {n : Nat} (h : templateLength t = .ok n) :
    n ≤ t.length := by
  fun_induction templateLength t generalizing n with
  | case1 | case2 => contradiction
  | case3 b escape c rest ih =>
    obtain ⟨m, inner, rfl⟩ := exists_of_map_eq_ok h
    exact Nat.add_le_add_right (ih inner) 2
  | case4 b rest =>
    cases h
    exact Nat.le_add_left 1 _
  | case5 b rest _ _ ih =>
    obtain ⟨m, inner, rfl⟩ := exists_of_map_eq_ok h
    exact Nat.add_le_add_right (ih inner) 1

theorem takeWhile_length_le (p : UInt8 → Bool) (t : Text) : (t.takeWhile p).length ≤ t.length :=
  (List.takeWhile_sublist p).length_le

theorem comment?_proper {second : UInt8} {rest : Text} {lexeme : Lexeme} {n : Nat}
    (h : comment? second rest = some (.ok (lexeme, n))) :
    lexeme ≠ .token .eof ∧ n ≤ rest.length + 2 := by
  simp only [comment?] at h
  split at h
  · cases h
    have := takeWhile_length_le (· != 10) rest
    exact ⟨Lexeme.noConfusion, by omega⟩
  split at h
  · split at h
    next body after cut =>
      cases h
      have := Text.cut?_length cut
      have : (utf8 "*/").length = 2 := by decide
      exact ⟨Lexeme.noConfusion, by omega⟩
    · cases h
  · contradiction

theorem nextToken_proper {b : UInt8} {rest : Text} {lexeme : Lexeme} {n : Nat}
    (h : nextToken b rest = .ok (lexeme, n)) : lexeme ≠ .token .eof ∧ n ≤ rest.length + 1 := by
  simp only [nextToken] at h
  split at h
  · cases h
    have := takeWhile_length_le isWordPart rest
    exact ⟨by simp, by omega⟩
  split at h
  · cases h
    have := takeWhile_length_le (fun c => isWordPart c || c == Text.byte '.') rest
    exact ⟨by simp, by omega⟩
  split at h
  · obtain ⟨m, inner, eq⟩ := exists_of_map_eq_ok h
    cases eq
    have := stringLength_le inner
    exact ⟨by simp, by omega⟩
  split at h
  · obtain ⟨m, inner, eq⟩ := exists_of_map_eq_ok h
    cases eq
    have := templateLength_le inner
    exact ⟨by simp, by omega⟩
  split at h
  next p found =>
    cases h
    have begins := List.find?_some found
    rw [Text.startsWith] at begins
    exact ⟨by simp, (List.isPrefixOf_iff_prefix.mp begins).length_le⟩
  · contradiction

/-- A step takes no more than there is, and never finds the end. -/
theorem next_proper {b : UInt8} {rest : Text} {lexeme : Lexeme} {n : Nat}
    (h : next b rest = .ok (lexeme, n)) : lexeme ≠ .token .eof ∧ n ≤ rest.length + 1 := by
  simp only [next] at h
  split at h
  · cases h
    exact ⟨Lexeme.noConfusion, Nat.le_add_left 1 _⟩
  · split at h
    next second rest =>
      split at h
      next slash =>
        cases found : comment? second rest with
        | none =>
          rw [found] at h
          exact nextToken_proper h
        | some result =>
          rw [found, Option.getD_some] at h
          exact comment?_proper (found.trans (congrArg some h))
      · exact nextToken_proper h
    · exact nextToken_proper h

/-! ## Cutting -/

theorem toNat_offset {n : Nat} (h : n < UInt32.size) : n.toUInt32.toNat = n := by
  simpa using Nat.mod_eq_of_lt h

/-- What is left after a step ends where the text did. -/
theorem length_after {rest : Text} {length : Nat} (le : length ≤ rest.length + 1) (offset : Nat) :
    offset + 1 + (length - 1) + (rest.drop (length - 1)).length = offset + (rest.length + 1) := by
  rw [List.length_drop]
  omega

theorem tokensFrom_ordered {file : FileId} (offset : Nat) {t : Text} {found : Tokens}
    (short : offset + t.length < UInt32.size) (h : tokensFrom file offset t = .ok found)
    {before : UInt32} (behind : before.toNat ≤ offset) :
    Ordered (offset + t.length).toUInt32 before found.tokens := by
  fun_induction tokensFrom file offset t generalizing found before with
  | case1 offset =>
    cases h
    refine .eof rfl rfl (UInt32.le_iff_toNat_le.mpr ?_)
    rw [toNat_offset short]
    exact Nat.le_add_right_of_le behind
  | case2 => contradiction
  | case3 => contradiction
  | case4 offset b rest length more cut step ih =>
    cases h
    rw [length_after (next_proper step).2 offset] at ih
    exact ih short cut (by omega)
  | case5 offset b rest length more cut span step =>
    rename_i ih
    cases h
    rw [length_after (next_proper step).2 offset] at ih
    exact ih short cut (by omega)
  | case6 offset b rest length more cut kind token step =>
    rename_i ih
    cases h
    obtain ⟨proper, le⟩ := next_proper step
    rw [length_after le offset] at ih
    rw [List.length_cons] at short
    have length_eq : (b :: rest.take (length - 1)).length = 1 + (length - 1) := by
      rw [List.length_cons, List.length_take]
      omega
    have start : token.start.toNat = offset := toNat_offset (by omega)
    have stop : token.stop.toNat = offset + 1 + (length - 1) := by
      rw [Nat.add_assoc, ← length_eq]
      exact toNat_offset (by omega)
    refine .cons (fun eof => proper (congrArg Lexeme.token eof)) ?_ ?_
      (ih short cut (Nat.le_of_eq stop))
    · rwa [UInt32.le_iff_toNat_le, start]
    · rw [UInt32.lt_iff_toNat_lt, start, stop]
      omega

/-- The tokens of a text whose offsets fit are in order up to its end. -/
theorem tokenize_ordered {file : FileId} {source : Text} {found : Tokens}
    (short : source.length < UInt32.size) (h : tokenize file source = .ok found) :
    Ordered source.length.toUInt32 0 found.tokens := by
  have behind : UInt32.toNat 0 ≤ 0 := Nat.le_refl 0
  have ordered := tokensFrom_ordered 0 (by rwa [Nat.zero_add]) h behind
  rwa [Nat.zero_add] at ordered

end TreeLint.Script
