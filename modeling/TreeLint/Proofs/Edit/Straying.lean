import Mathlib.Algebra.GroupWithZero.Nat
import TreeLint.Proofs.Diagnostic.InFile
import TreeLint.Proofs.Edit.Splicing

/-! # Edits of several files

Splicing asks whether edits overlap only of those that name one file, and makes all of them
in one text.  So two edits of different files may take the same bytes out of the text, and
one that was to be made between them is looked for behind the end of what they have left.

That is the only way to stray (`not_strays_of_clear`): every edit lies in the text as it was,
the edits made before it start where it starts or behind, and if no two of them share bytes
they leave the text in front of them alone.  It depends on nothing but the lengths of what was
taken out and put in (`splice_strays_iff`).  Edits that do not share bytes are made as if they
were of one file, whichever they name (`eq_rewritten_of_clear`).
-/

namespace TreeLint.Edit

variable {text out : Text} {e : Edit} {edits : List Edit}

/-- The number of bytes under the spans of edits. -/
def removed (edits : List Edit) : Nat :=
  (edits.map fun e => e.span.stop.toNat - e.span.start.toNat).sum

/-- The number of bytes in the new texts of edits. -/
def added (edits : List Edit) : Nat := (edits.map fun e => e.newText.length).sum

/-- Edits that do not overlap are made up to one that lies in the text as it was, and what they
have left of the text ends before that one does. -/
def Strays (text : Text) (edits : List Edit) : Prop :=
  edits.Pairwise Apart ∧ text.length < UInt32.size ∧
    ∃ before e after, applicationOrder edits = before ++ e :: after ∧
      (∃ left, before.foldlM (spliceOne text.length) text = .ok left) ∧
      e.span.start ≤ e.span.stop ∧ e.span.stop.toNat ≤ text.length ∧
      text.length + added before < e.span.stop.toNat + removed before

/-- Two edits that would not conflict in one file. -/
def Clear (a b : Edit) : Prop := Apart (a.inFile b.span.file) b

theorem clear_of_apart {a b : Edit} (file : a.span.file = b.span.file) (apart : Apart a b) :
    Clear a b := by
  rw [Clear, ← file]
  exact apart

theorem Clear.inFile {a b : Edit} (h : Clear a b) (file : FileId) :
    Apart (a.inFile file) (b.inFile file) := by
  have same : (a.inFile b.span.file).span.file = b.span.file := rfl
  exact (Span.overlaps_inFile same file).trans h

/-! ## The length of what is left -/

theorem length_of_spliceOne {size : Nat} (made : spliceOne size text e = .ok out) :
    out.length + (e.span.stop.toNat - e.span.start.toNat) = text.length + e.newText.length := by
  have forward := UInt32.le_iff_toNat_le.mp (inside_of_spliceOne made).1
  simp only [spliceOne] at made
  split at made
  · contradiction
  split at made
  · contradiction
  split at made
  · contradiction
  · rw [← Except.ok.inj made]
    simp only [List.length_append, List.length_take, List.length_drop]
    omega

/-- Edits that were made have taken out what is under their spans and put in their new texts. -/
theorem length_of_foldlM_spliceOne {size : Nat} {es : List Edit} :
    ∀ {text : Text}, es.foldlM (spliceOne size) text = .ok out →
      out.length + removed es = text.length + added es := by
  induction es with
  | nil =>
    intro text made
    rw [← Except.ok.inj made]
    rfl
  | cons e es ih =>
    intro text made
    obtain ⟨next, first, others⟩ := exists_of_bind made
    have one := length_of_spliceOne first
    have rest := ih others
    simp only [removed, added, List.map_cons, List.sum_cons] at rest ⊢
    omega

theorem spliceOne_eq_tooShort {size : Nat} {span : Span} :
    spliceOne size text e = .error (.textTooShort span) ↔
      e.span = span ∧ e.span.start ≤ e.span.stop ∧ e.span.stop.toNat ≤ size ∧
        text.length < e.span.stop.toNat := by
  rw [UInt32.le_iff_toNat_le]
  simp only [spliceOne]
  split
  · simp only [Except.error.injEq, reduceCtorEq, false_iff]
    omega
  split
  · simp only [Except.error.injEq, SpliceError.textTooShort.injEq, iff_self_and]
    omega
  split
  all_goals
    simp only [Except.error.injEq, reduceCtorEq, false_iff]
    omega

/-- Steps in a row fail where the first of them does that fails. -/
theorem foldlM_eq_error {ε α β : Type} {step : β → α → Except ε β} {items : List α} {reason : ε} :
    ∀ {b : β}, items.foldlM step b = .error reason ↔
      ∃ before a after left, items = before ++ a :: after ∧
        before.foldlM step b = .ok left ∧ step left a = .error reason := by
  induction items with
  | nil => simp [pure, Except.pure]
  | cons a items ih =>
    intro b
    rw [List.foldlM_cons]
    cases first : step b a with
    | error other =>
      constructor
      · intro failed
        exact ⟨[], a, items, b, rfl, rfl, first.trans failed⟩
      · rintro ⟨before, a', after, left, split, done, failed⟩
        cases before with
        | nil =>
          injection split with same
          subst same
          injection done with same
          rw [← same, first] at failed
          exact failed
        | cons a'' before =>
          injection split with same
          rw [← same, List.foldlM_cons, first] at done
          contradiction
    | ok next =>
      refine (ih (b := next)).trans ⟨?_, ?_⟩
      · rintro ⟨before, a', after, left, rfl, done, failed⟩
        refine ⟨a :: before, a', after, left, rfl, ?_, failed⟩
        rw [List.foldlM_cons, first]
        exact done
      · rintro ⟨before, a', after, left, split, done, failed⟩
        cases before with
        | nil =>
          injection split with same
          subst same
          injection done with same
          rw [← same, first] at failed
          contradiction
        | cons a'' before =>
          injection split with same rest
          rw [← same, List.foldlM_cons, first] at done
          exact ⟨before, a', after, left, rest, done, failed⟩

/-- Splicing looks for an edit behind the end of the text exactly if the edits stray, which the
lengths of their spans and new texts decide. -/
theorem splice_strays_iff :
    (∃ span, splice text edits = .error (.textTooShort span)) ↔ Strays text edits := by
  rw [splice]
  cases conflict : overlap? edits with
  | some pair =>
    have notApart : ¬ edits.Pairwise Apart := by rw [← overlap?_eq_none, conflict]; simp
    simp [Strays, notApart]
  | none =>
    have apart := overlap?_eq_none.mp conflict
    simp only
    split
    next large =>
      simp only [Except.error.injEq, reduceCtorEq, exists_const, Strays, false_iff]
      omega
    next small =>
      simp only [foldlM_eq_error, spliceOne_eq_tooShort]
      constructor
      · rintro ⟨span, before, e, after, left, order, done, -, forward, inside, short⟩
        have length := length_of_foldlM_spliceOne done
        exact ⟨apart, by omega, before, e, after, order, ⟨left, done⟩, forward, inside, by omega⟩
      · rintro ⟨-, -, before, e, after, order, ⟨left, done⟩, forward, inside, short⟩
        have length := length_of_foldlM_spliceOne done
        exact ⟨e.span, before, e, after, left, order, done, rfl, forward, inside, by omega⟩

/-! ## Straying takes two files -/

theorem applicationOrder_perm (edits : List Edit) : (applicationOrder edits).Perm edits := by
  have sorted := (List.mergeSort_perm edits.zipIdx appliesFirst).map Prod.fst
  rwa [List.zipIdx_map_fst] at sorted

/-- The edits are made from the last start on. -/
theorem applicationOrder_sorted (edits : List Edit) :
    (applicationOrder edits).Pairwise fun a b => b.span.start ≤ a.span.start := by
  rw [applicationOrder, List.pairwise_map]
  refine (List.pairwise_mergeSort appliesFirst_trans appliesFirst_total edits.zipIdx).imp ?_
  intro a b first
  simp only [appliesFirst] at first
  grind

/-- Edits that lie one after the other take no more out of a text than there is of it. -/
theorem removed_le {size done : Nat} (ordered : edits.Pairwise Before)
    (forward : ∀ e ∈ edits, e.span.start ≤ e.span.stop)
    (inside : ∀ e ∈ edits, e.span.stop.toNat ≤ size)
    (first : ∀ e ∈ edits, done ≤ e.span.start.toNat) (bound : done ≤ size) :
    done + removed edits ≤ size := by
  induction edits generalizing done with
  | nil => exact bound
  | cons e es ih =>
    rw [List.pairwise_cons] at ordered
    rw [List.forall_mem_cons] at forward inside first
    have rest := ih ordered.2 forward.2 inside.2
      (fun f mem => UInt32.le_iff_toNat_le.mp (ordered.1 f mem)) inside.1
    have upright := UInt32.le_iff_toNat_le.mp forward.1
    simp only [removed, List.map_cons, List.sum_cons] at rest ⊢
    omega

theorem removed_inFile (edits : List Edit) (file : FileId) :
    removed (edits.map (inFile file)) = removed edits := by
  rw [removed, List.map_map]
  rfl

/-- Edits of which no two share bytes do not stray. -/
theorem not_strays_of_clear (clear : edits.Pairwise Clear) : ¬ Strays text edits := by
  rintro ⟨-, -, before, e, after, order, ⟨left, done⟩, forward, inside, short⟩
  have apart : (applicationOrder edits).Pairwise fun a b => Apart (a.inFile 0) (b.inFile 0) :=
    (applicationOrder_perm edits).symm.pairwise (clear.imp fun h => h.inFile 0) Apart.symm
  have sorted := applicationOrder_sorted edits
  rw [order, ← List.singleton_append, ← List.append_assoc, List.pairwise_append] at apart sorted
  have made := inside_of_foldlM_spliceOne done
  have upright : ∀ a ∈ before ++ [e], a.span.start ≤ a.span.stop ∧
      a.span.stop.toNat ≤ text.length := by
    rw [List.forall_mem_append, List.forall_mem_singleton]
    exact ⟨made, forward, inside⟩
  have last : ∀ a ∈ before ++ [e], e.span.start.toNat ≤ a.span.start.toNat := by
    rw [List.forall_mem_append, List.forall_mem_singleton]
    exact ⟨fun a mem => UInt32.le_iff_toNat_le.mp
      ((List.pairwise_append.mp sorted.1).2.2 a mem e List.mem_cons_self), Nat.le_refl _⟩
  have compatible : Compatible ((before ++ [e]).map (inFile 0)) := by
    refine ⟨?_, ?_, List.pairwise_map.mpr apart.1⟩
    · intro a ha b hb
      obtain ⟨a, -, rfl⟩ := List.mem_map.mp ha
      obtain ⟨b, -, rfl⟩ := List.mem_map.mp hb
      rfl
    · exact List.forall_mem_map.mpr fun a mem => (upright a mem).1
  have moved : (∀ a ∈ (before ++ [e]).map (inFile 0), a.span.stop.toNat ≤ text.length) ∧
      ∀ a ∈ (before ++ [e]).map (inFile 0), e.span.start.toNat ≤ a.span.start.toNat :=
    ⟨List.forall_mem_map.mpr fun a mem => (upright a mem).2, List.forall_mem_map.mpr last⟩
  have within := removed_le compatible.before
    (fun a mem => compatible.forward a (mem_inOrder.mp mem))
    (fun a mem => moved.1 a (mem_inOrder.mp mem)) (fun a mem => moved.2 a (mem_inOrder.mp mem))
    (Nat.le_trans (UInt32.le_iff_toNat_le.mp forward) inside)
  have same : removed (inOrder ((before ++ [e]).map (inFile 0))) = removed (before ++ [e]) := by
    rw [← removed_inFile (before ++ [e]) 0]
    exact ((List.mergeSort_perm _ _).map _).sum_nat
  rw [same] at within
  have upright := UInt32.le_iff_toNat_le.mp forward
  simp only [removed, List.map_append, List.map_cons, List.map_nil, List.sum_append_nat,
    List.sum_cons, List.sum_nil] at within short
  omega

/-- Edits that stray name two files and share bytes in them. -/
theorem files_of_strays (strays : Strays text edits) :
    ∃ a ∈ edits, ∃ b ∈ edits, a.span.file ≠ b.span.file ∧ ¬ Clear a b := by
  by_contra none
  simp only [not_exists, not_and, not_not] at none
  refine not_strays_of_clear (strays.1.imp_of_mem fun {a b} ha hb apart => ?_) strays
  by_cases file : a.span.file = b.span.file
  · exact clear_of_apart file apart
  · exact none a ha b hb file

/-! ## Edits that share no bytes -/

theorem spliceOne_inFile {size : Nat} (made : spliceOne size text e = .ok out) (file : FileId) :
    spliceOne size text (e.inFile file) = .ok out := by
  simp only [spliceOne] at made
  split at made
  · contradiction
  next inside =>
    split at made
    · contradiction
    next long =>
      split at made
      · contradiction
      next matching =>
        exact (if_neg inside).trans ((if_neg long).trans ((if_neg matching).trans made))

theorem foldlM_spliceOne_inFile {size : Nat} {es : List Edit} (file : FileId) :
    ∀ {text : Text}, es.foldlM (spliceOne size) text = .ok out →
      (es.map (inFile file)).foldlM (spliceOne size) text = .ok out := by
  induction es with
  | nil => exact fun made => made
  | cons e es ih =>
    intro text made
    obtain ⟨next, first, others⟩ := exists_of_bind made
    rw [List.map_cons, List.foldlM_cons, spliceOne_inFile first]
    exact ih others

theorem applicationOrder_inFile (edits : List Edit) (file : FileId) :
    applicationOrder (edits.map (inFile file)) = (applicationOrder edits).map (inFile file) := by
  have sorted : (edits.zipIdx.map (Prod.map (inFile file) id)).mergeSort appliesFirst
      = (edits.zipIdx.mergeSort appliesFirst).map (Prod.map (inFile file) id) := by
    refine (List.map_mergeSort ?_).symm
    intros
    rfl
  rw [applicationOrder, List.zipIdx_map, sorted, applicationOrder, List.map_map, List.map_map]
  rfl

theorem weave_inFile (text : Text) (file : FileId) :
    ∀ (done : Nat) (es : List Edit), weave text done (es.map (inFile file)) = weave text done es
  | _, [] => rfl
  | done, e :: es => by
    rw [List.map_cons, weave, weave, weave_inFile text file _ es]
    rfl

theorem rewritten_inFile (text : Text) (edits : List Edit) (file : FileId) :
    rewritten text (edits.map (inFile file)) = rewritten text edits := by
  have sorted : inOrder (edits.map (inFile file)) = (inOrder edits).map (inFile file) := by
    refine (List.map_mergeSort ?_).symm
    intros
    rfl
  rw [rewritten, sorted, weave_inFile, rewritten]

/-- Edits of which no two share bytes are made at once, whichever files they name. -/
theorem eq_rewritten_of_clear (clear : edits.Pairwise Clear)
    (spliced : splice text edits = .ok out) : out = rewritten text edits := by
  have apart : (edits.map (inFile 0)).Pairwise Apart :=
    List.pairwise_map.mpr (clear.imp fun h => h.inFile 0)
  have one : ∀ a ∈ edits.map (inFile 0), ∀ b ∈ edits.map (inFile 0),
      a.span.file = b.span.file := by
    intro a ha b hb
    obtain ⟨a, -, rfl⟩ := List.mem_map.mp ha
    obtain ⟨b, -, rfl⟩ := List.mem_map.mp hb
    rfl
  rw [splice] at spliced
  split at spliced
  · contradiction
  split at spliced
  · contradiction
  next small =>
    have moved : splice text (edits.map (inFile 0)) = .ok out := by
      rw [splice, overlap?_eq_none.mpr apart]
      simp only
      rw [if_neg small, applicationOrder_inFile]
      exact foldlM_spliceOne_inFile 0 spliced
    have fits := (of_splice one moved).2
    rw [splice_eq_rewritten (by omega) one fits apart] at moved
    rw [← rewritten_inFile text edits 0]
    exact (Except.ok.inj moved).symm

end TreeLint.Edit
