import TreeLint.Proofs.Edit.Rewriting

/-! # Exactly the edits that splice

Splicing makes its edits one after the other on a text that has changed already, and it looks
at each edit only when its turn comes.  What it refuses and what it gives can be said of the
text as it was, though: edits of one file splice exactly if they keep apart and fit the text,
and the result copies the text with each new text in its place (`splice_eq_ok_iff`).

Edits that fit splice by `splice_eq_rewritten`.  The other way around, edits that splice lie
in the text, since every one of them has its turn; so they lie one after the other, the bytes
under each are still those of the text when its turn comes, and the guard that is compared
with them there is a guard of the text (`fits_of_foldlM_spliceOne`).
-/

namespace TreeLint.Edit

variable {text out rest : Text} {e : Edit} {edits : List Edit}

/-- How edits, with their places in a list, follow each other in a text.  One stops before
the next starts.  Two that start together only insert, and then their places decide. -/
def Leads (a b : Edit × Nat) : Prop :=
  a.1.span.stop ≤ b.1.span.start ∧ (a.1.span.start < b.1.span.start ∨
    a.1.span.start = b.1.span.start ∧ a.1.span.isEmpty ∧ b.1.span.isEmpty ∧ a.2 < b.2)

instance (a b : Edit × Nat) : Decidable (Leads a b) := inferInstanceAs (Decidable (_ ∧ _))

theorem Leads.asymm {a b : Edit × Nat} (h : Leads a b) (h' : Leads b a) : False := by
  simp only [Leads, Span.isEmpty, beq_iff_eq] at h h'
  simp only [← UInt32.toNat_inj, UInt32.le_iff_toNat_le, UInt32.lt_iff_toNat_lt] at h h'
  omega

/-! ## What an edit that was made says -/

/-- Steps that go well one after the other each go well. -/
theorem exists_of_bind {ε α β : Type} {first : Except ε α} {next : α → Except ε β} {b : β}
    (h : (first >>= next) = .ok b) : ∃ a, first = .ok a ∧ next a = .ok b := by
  cases first with
  | error e => contradiction
  | ok a => exact ⟨a, rfl, h⟩

theorem inside_of_spliceOne {size : Nat} (made : spliceOne size text e = .ok out) :
    e.span.start ≤ e.span.stop ∧ e.span.stop.toNat ≤ size := by
  simp only [spliceOne] at made
  split at made
  · contradiction
  next inside =>
    rw [UInt32.le_iff_toNat_le]
    omega

/-- An edit was made of a text that nothing had touched up to its stop: its guard is met. -/
theorem fits_of_spliceOne
    (made : spliceOne text.length (text.take e.span.stop.toNat ++ rest) e = .ok out) :
    Fits text e := by
  obtain ⟨forward, inside⟩ := inside_of_spliceOne made
  refine ⟨forward, inside, ?_⟩
  have found : Text.slice (text.take e.span.stop.toNat ++ rest) e.span.start.toNat
      e.span.stop.toNat = text.slice e.span.start.toNat e.span.stop.toNat :=
    slice_untouched (UInt32.le_iff_toNat_le.mp forward) inside
  simp only [spliceOne, found] at made
  rw [if_neg (by rw [UInt32.le_iff_toNat_le] at forward; omega)] at made
  split at made
  · contradiction
  split at made
  · contradiction
  next matching =>
    simp only [Bool.and_eq_true, Bool.not_eq_true', bne_iff_ne, ne_eq, not_and,
      Decidable.not_not] at matching
    by_cases none : e.oldText = []
    · exact .inl none
    · exact .inr (matching (List.isEmpty_eq_false_iff.mpr none))

theorem inside_of_foldlM_spliceOne {size : Nat} {es : List Edit} :
    ∀ {text : Text}, es.foldlM (spliceOne size) text = .ok out →
      ∀ e ∈ es, e.span.start ≤ e.span.stop ∧ e.span.stop.toNat ≤ size := by
  induction es with
  | nil => simp
  | cons e es ih =>
    intro text made
    rw [List.foldlM_cons] at made
    obtain ⟨next, first, others⟩ := exists_of_bind made
    exact List.forall_mem_cons.mpr ⟨inside_of_spliceOne first, ih others⟩

/-- Edits that lie one after the other have all been made: they fit the text they were
made of. -/
theorem fits_of_foldlM_spliceOne {es : List Edit} (ordered : es.Pairwise Before)
    (made : es.reverse.foldlM (spliceOne text.length) text = .ok out) : ∀ e ∈ es, Fits text e := by
  induction es generalizing out with
  | nil => simp
  | cons e es ih =>
    rw [List.pairwise_cons] at ordered
    rw [List.reverse_cons, List.foldlM_append] at made
    obtain ⟨mid, others, last⟩ := exists_of_bind made
    have fits := ih ordered.2 others
    rw [List.foldlM_cons] at last
    obtain ⟨done, here, -⟩ := exists_of_bind last
    have spliced := foldlM_spliceOne fits ordered.2 e.span.stop.toNat
      (inside_of_spliceOne here).2 fun f mem => UInt32.le_iff_toNat_le.mp (ordered.1 f mem)
    rw [others, Except.ok.injEq] at spliced
    rw [spliced] at here
    exact List.forall_mem_cons.mpr ⟨fits_of_spliceOne here, fits⟩

/-- Edits of one file that splice keep apart and fit the text. -/
theorem of_splice (file : ∀ a ∈ edits, ∀ b ∈ edits, a.span.file = b.span.file)
    (spliced : splice text edits = .ok out) :
    edits.Pairwise Apart ∧ ∀ e ∈ edits, Fits text e := by
  rw [splice] at spliced
  split at spliced
  · contradiction
  next none =>
    split at spliced
    · contradiction
    have apart := overlap?_eq_none.mp none
    have turn : ∀ e ∈ edits, e ∈ applicationOrder edits := by
      intro e mem
      obtain ⟨place, there⟩ := List.mem_iff_getElem?.mp mem
      have owned : (e, place) ∈ edits.zipIdx := List.mem_zipIdx_iff_getElem?.mpr there
      exact List.mem_map.mpr ⟨(e, place), List.mem_mergeSort.mpr owned, rfl⟩
    have inside := fun e mem => inside_of_foldlM_spliceOne spliced e (turn e mem)
    have compatible : Compatible edits := ⟨file, fun e mem => (inside e mem).1, apart⟩
    rw [compatible.applicationOrder_eq] at spliced
    have fits := fits_of_foldlM_spliceOne compatible.before spliced
    exact ⟨apart, fun e mem => fits e (mem_inOrder.mpr mem)⟩

/-! ## The order of the new texts -/

/-- By their starts and then by their places, compatible edits follow each other. -/
theorem Compatible.leads (h : Compatible edits) :
    (edits.zipIdx.mergeSort (List.zipIdxLE startsFirst)).Pairwise Leads := by
  have sorted := List.pairwise_mergeSort (List.zipIdxLE_trans startsFirst_trans)
    (List.zipIdxLE_total startsFirst_total) edits.zipIdx
  have distinct : (edits.zipIdx.mergeSort (List.zipIdxLE startsFirst)).Pairwise
      fun a b => a.2 ≠ b.2 := by
    refine (List.mergeSort_perm _ _).symm.pairwise ?_ Ne.symm
    rw [← List.pairwise_map, ← List.Nodup, List.zipIdx_map_snd]
    exact List.nodup_range'
  refine (sorted.and distinct).imp_of_mem ?_
  rintro a b ha hb ⟨order, ne⟩
  rw [List.mem_mergeSort] at ha hb
  have ma := List.fst_mem_of_mem_zipIdx ha
  have mb := List.fst_mem_of_mem_zipIdx hb
  have forward := h.forward _ ma
  have forward' := h.forward _ mb
  obtain ⟨cases, together⟩ :=
    Span.apart_cases (h.file _ ma _ mb) forward forward' (h.apart_of_ne ha hb ne)
  simp only [List.zipIdxLE, startsFirst] at order
  simp only [Leads, Span.isEmpty, beq_iff_eq]
  grind

/-- Edits of one file splice exactly if no two of them overlap and each lies in the text and
finds there what its guard asks for.  The result is the text with all edits made at once: in
the order of their starts, and of their places where they start together, which only
insertions do, each new text stands in the place of the bytes under its span, and the bytes
between them are copied. -/
theorem splice_eq_ok_iff (small : text.length < UInt32.size)
    (file : ∀ a ∈ edits, ∀ b ∈ edits, a.span.file = b.span.file) :
    ((∃ out, splice text edits = .ok out) ↔
      edits.Pairwise Apart ∧ ∀ e ∈ edits, Fits text e) ∧
    ∀ out, splice text edits = .ok out ↔
      (edits.Pairwise Apart ∧ ∀ e ∈ edits, Fits text e) ∧
        ∃ order : List (Edit × Nat), order.Perm edits.zipIdx ∧ order.Pairwise Leads ∧
          out = weave text 0 (order.map Prod.fst) := by
  have made : ∀ (apart : edits.Pairwise Apart) (fits : ∀ e ∈ edits, Fits text e),
      splice text edits = .ok (weave text 0
        ((edits.zipIdx.mergeSort (List.zipIdxLE startsFirst)).map Prod.fst)) := by
    intro apart fits
    rw [splice_eq_rewritten small file fits apart, rewritten, inOrder, List.mergeSort_zipIdx]
  have leads : ∀ (apart : edits.Pairwise Apart) (fits : ∀ e ∈ edits, Fits text e),
      (edits.zipIdx.mergeSort (List.zipIdxLE startsFirst)).Pairwise Leads := fun apart fits =>
    Compatible.leads ⟨file, fun e mem => (fits e mem).start_le_stop, apart⟩
  refine ⟨⟨?_, fun fine => ⟨_, made fine.1 fine.2⟩⟩, fun out => ⟨fun spliced => ?_, ?_⟩⟩
  · rintro ⟨out, spliced⟩
    exact of_splice file spliced
  · obtain ⟨apart, fits⟩ := of_splice file spliced
    refine ⟨⟨apart, fits⟩, _, List.mergeSort_perm _ _, leads apart fits, ?_⟩
    rw [made apart fits] at spliced
    exact (Except.ok.inj spliced).symm
  · rintro ⟨⟨apart, fits⟩, order, perm, ordered, rfl⟩
    -- No two edits lead each other, so there is one such order only.
    have same := (perm.trans (List.mergeSort_perm _ _).symm).eq_of_pairwise
      (fun a b _ _ ab ba => (ab.asymm ba).elim) ordered (leads apart fits)
    rw [same, made apart fits]

/-- Two insertions in one place, a guarded replacement behind them and a deletion before
them, listed in no order. -/
theorem splice_eq_ok_iff_insertions :
    let text : Text := "abc def"
    let edits : List Edit := [⟨⟨0, 3, 3⟩, "X", []⟩, ⟨⟨0, 4, 7⟩, "D", "def"⟩, ⟨⟨0, 3, 3⟩, "Y", []⟩,
      ⟨⟨0, 0, 1⟩, [], "a"⟩]
    text.length < UInt32.size ∧ (∀ a ∈ edits, ∀ b ∈ edits, a.span.file = b.span.file) ∧
      splice text edits = .ok "bcXY D" := by
  intro text edits
  have small : text.length < UInt32.size := by decide
  have file : ∀ a ∈ edits, ∀ b ∈ edits, a.span.file = b.span.file := by decide
  refine ⟨small, file, ((splice_eq_ok_iff small file).2 _).mpr ⟨⟨by decide, by decide⟩, ?_⟩⟩
  exact ⟨[(edits[3], 3), (edits[0], 0), (edits[2], 2), (edits[1], 1)], by decide, by decide,
    by decide⟩

end TreeLint.Edit
