import TreeLint.Proofs.Edit.Rewriting
import TreeLint.Proofs.Fix.Independence
import TreeLint.Proofs.Fix.Selection

/-! # Merging and accepting

Merging holds the edits of the fixes it has taken in one list, and it looks at nothing but
conflicts.  Accepting holds them by file, and it looks at the files as well.  On fixes that
have nothing wrong with them they come to the same: whatever was accepted, a fix is accepted
next exactly if it is merged (`Accepting.acceptOne_merges`), since an edit of another file is
in nobody's way.

They differ on a fix without edits, which merging leaves out and accepting has no reason to
decline; but collecting does not let such a fix through (`collect_sieved`), so it is left out
by a whole pass too (`merge_eq_apply`).
-/

namespace TreeLint.Fix

open Edit (Apart takenFrom taken hasEdits)

/-- The fixes of a list that merging takes. -/
def merged (cs : List Candidate) : List Candidate := taken (·.fix.edits) cs

/-- The fixes of a list that have edits. -/
def editing (cs : List Candidate) : List Candidate := cs.filter (hasEdits (·.fix.edits))

theorem ne_nil_of_mem_editing {cs : List Candidate} {c : Candidate} (mem : c ∈ editing cs) :
    c.fix.edits ≠ [] := by
  have some := (List.mem_filter.mp mem).2
  simpa [hasEdits] using some

/-! ## The loop -/

namespace Accepting

variable {files : FileSet} {start : List Skipped} {done accepted : List Candidate}
  {declined : List (Candidate × SkipReason)} {p : Progress}

/-- A fix without a fault is accepted next exactly if it is merged next. -/
theorem acceptOne_merges (h : Accepting files true start done accepted declined p) {c : Candidate}
    (sound : c.fix.Sound files) (some : c.fix.edits ≠ []) :
    ∃ declined, Accepting files true start (done ++ [c])
      (accepted ++ takenFrom (·.fix.edits) (editsOf accepted) [c]) declined
      (acceptOne files true p c) := by
  cases conflict : c.fix.edits.any (Edit.conflicts (editsOf accepted)) with
  | false =>
    have apart : (editsOf accepted ++ c.fix.edits).Pairwise Apart :=
      List.pairwise_append.mpr ⟨h.apart, sound.apart, Edit.any_conflicts_eq_false.mp conflict⟩
    rw [Edit.takenFrom_cons_of_apart (f := c) some conflict, takenFrom]
    exact ⟨declined, h.accept_of_apart sound.placed apart⟩
  | true =>
    rw [Edit.takenFrom_cons_of_conflict (f := c) conflict, takenFrom, List.append_nil]
    unfold acceptOne
    split
    next reason problem => exact ⟨_, h.decline problem⟩
    next fine =>
      have apart := (h.accept fine).apart
      have edits : editsOf (accepted ++ [c]) = editsOf accepted ++ c.fix.edits := by simp [editsOf]
      rw [edits, List.pairwise_append] at apart
      rw [Edit.any_conflicts_eq_false.mpr apart.2.2] at conflict
      contradiction

/-- So it is for a list of fixes, after any other. -/
theorem foldl_merges (h : Accepting files true start done accepted declined p)
    {cs : List Candidate} (sound : ∀ c ∈ cs, c.fix.Sound files)
    (some : ∀ c ∈ cs, c.fix.edits ≠ []) :
    ∃ declined, Accepting files true start (done ++ cs)
      (accepted ++ takenFrom (·.fix.edits) (editsOf accepted) cs) declined
      (cs.foldl (acceptOne files true) p) := by
  induction cs generalizing done accepted declined p with
  | nil => exact ⟨declined, by simpa [takenFrom] using h⟩
  | cons c cs ih =>
    rw [List.forall_mem_cons] at sound some
    obtain ⟨declined', next⟩ := h.acceptOne_merges sound.1 some.1
    obtain ⟨declined'', rest⟩ := ih next sound.2 some.2
    have later : takenFrom (·.fix.edits) (editsOf accepted) (c :: cs) = _ :=
      Edit.takenFrom_append (editsOf accepted) [c] cs
    rw [later]
    refine ⟨declined'', ?_⟩
    simpa [editsOf] using rest

end Accepting

/-- The loop accepts of fixes without a fault those that are merged. -/
theorem applied_foldl_acceptOne {files : FileSet} {cs : List Candidate}
    (sound : ∀ c ∈ cs, c.fix.Sound files) (start : List Skipped) :
    ((editing cs).foldl (acceptOne files true) ⟨[], [], start⟩).applied
      = (merged cs).map (·.record files) := by
  have initial : Accepting files true start [] [] [] ⟨[], [], start⟩ := .initial
  have editingSound : ∀ c ∈ editing cs, c.fix.Sound files := fun c mem =>
    sound c (List.mem_filter.mp mem).1
  obtain ⟨declined, inv⟩ := initial.foldl_merges editingSound fun c mem => ne_nil_of_mem_editing mem
  rw [inv.applied]
  exact congrArg _ (Edit.takenFrom_filter [] cs)

/-! ## Collecting -/

/-- What collecting has come to after fixes whose ids are all different. -/
structure Sieved (met : List Candidate) (c : Collected) : Prop where
  candidates : c.candidates = editing met
  seen : ∀ id ∈ c.seen, ∃ b ∈ met, b.fix.id = id
  empty : ∀ b ∈ met, b.fix.edits = [] → skip b.fix .noEdits ∈ c.skipped

namespace Sieved

variable {met : List Candidate} {c : Collected}

theorem collectFix (h : Sieved met c) (d : Diagnostic) (fn : Fix × Nat)
    (new : ∀ b ∈ met, b.fix.id ≠ (named d fn).id) :
    Sieved (met ++ [⟨d, named d fn⟩]) (Fix.collectFix d c fn) := by
  have older {s : List Text} (seen : ∀ id ∈ s, ∃ b ∈ met, b.fix.id = id) :
      ∀ id ∈ s, ∃ b ∈ met ++ [⟨d, named d fn⟩], b.fix.id = id := fun id mem =>
    let ⟨b, met, same⟩ := seen id mem
    ⟨b, List.mem_append_left _ met, same⟩
  have unseen : (named d fn).id ∉ c.seen := by
    intro mem
    obtain ⟨b, met, same⟩ := h.seen _ mem
    exact new b met same
  simp only [Fix.collectFix]
  split
  next none =>
    rw [List.isEmpty_iff, named_edits] at none
    refine ⟨?_, older h.seen, ?_⟩
    · simp [h.candidates, editing, hasEdits, none]
    · rw [List.forall_mem_append, List.forall_mem_singleton]
      exact ⟨fun b mem empty => List.mem_append_left _ (h.empty b mem empty),
        fun _ => List.mem_append_right _ List.mem_cons_self⟩
  next some =>
    rw [List.isEmpty_iff, named_edits] at some
    rw [if_neg (by simpa using unseen)]
    refine ⟨?_, ?_, ?_⟩
    · simp [h.candidates, editing, hasEdits, some]
    · exact List.forall_mem_cons.mpr ⟨⟨⟨d, named d fn⟩, by simp, rfl⟩, older h.seen⟩
    · rw [List.forall_mem_append, List.forall_mem_singleton]
      exact ⟨h.empty, fun none => absurd ((named_edits d fn).symm.trans none) some⟩

theorem fail (h : Sieved met c) (more : List Skipped) :
    Sieved met { c with skipped := c.skipped ++ more } where
  candidates := h.candidates
  seen := h.seen
  empty b mem none := List.mem_append_left _ (h.empty b mem none)

theorem foldl_collectFix (h : Sieved met c) (d : Diagnostic) (fns : List (Fix × Nat))
    (distinct : (met ++ fns.map fun fn => (⟨d, named d fn⟩ : Candidate)).Pairwise
      fun a b => a.fix.id ≠ b.fix.id) :
    Sieved (met ++ fns.map fun fn => ⟨d, named d fn⟩) (fns.foldl (Fix.collectFix d) c) := by
  induction fns generalizing met c with
  | nil => simpa using h
  | cons fn fns ih =>
    rw [List.map_cons, ← List.singleton_append, ← List.append_assoc] at distinct ⊢
    have new := (List.pairwise_append.mp (List.pairwise_append.mp distinct).1).2.2
    exact ih (h.collectFix d fn fun b mem => new b mem _ List.mem_cons_self) distinct

theorem collectFrom (h : Sieved met c) (d : Diagnostic)
    (distinct : (met ++ resolvedOf d).Pairwise fun a b => a.fix.id ≠ b.fix.id) :
    Sieved (met ++ resolvedOf d) (Fix.collectFrom c d) := by
  have start : Sieved met (if (resolveAll d.fixes).2.isEmpty then c else { c with
      skipped := c.skipped ++
        [⟨[], d.message, (SkipReason.failedToBuild (resolveAll d.fixes).2).message⟩] }) := by
    split
    · exact h
    · exact h.fail _
  exact start.foldl_collectFix d _ distinct

theorem foldl (h : Sieved met c) (ds : List Diagnostic)
    (distinct : (met ++ ds.flatMap resolvedOf).Pairwise fun a b => a.fix.id ≠ b.fix.id) :
    Sieved (met ++ ds.flatMap resolvedOf) (ds.foldl Fix.collectFrom c) := by
  induction ds generalizing met c with
  | nil => simpa using h
  | cons d ds ih =>
    rw [List.flatMap_cons, ← List.append_assoc] at distinct ⊢
    exact ih (h.collectFrom d (List.pairwise_append.mp distinct).1) distinct

end Sieved

/-- Of fixes whose ids are all different collecting drops those without edits. -/
theorem collect_sieved {ds : List Diagnostic}
    (distinct : (ds.flatMap resolvedOf).Pairwise fun a b => a.fix.id ≠ b.fix.id) :
    Sieved (ds.flatMap resolvedOf) (collect ds) := by
  have start : Sieved [] ⟨[], [], []⟩ := ⟨rfl, by simp, by simp⟩
  exact start.foldl ds distinct

/-! ## The pass -/

/-- Diagnostics whose fixes are those of a list, in its order: all of them are safe, no id
occurs twice, and the list goes by the places of the diagnostics already. -/
structure Presents (ds : List Diagnostic) (cs : List Candidate) : Prop where
  fixes : ds.flatMap resolvedOf = cs
  safe : ∀ c ∈ cs, c.fix.applicability = .alwaysSafe
  distinct : cs.Pairwise fun a b => a.fix.id ≠ b.fix.id
  ordered : cs.Pairwise fun a b => a.atMost b

namespace Presents

variable {ds : List Diagnostic} {cs : List Candidate}

theorem sieved (h : Presents ds cs) : Sieved cs (collect ds) := by
  rw [← h.fixes]
  exact collect_sieved (h.fixes ▸ h.distinct)

/-- The fixes that have edits come to the loop in the order of the list. -/
theorem chosen (h : Presents ds cs) : choose .all (inPlaceOrder ds) = (editing cs, []) := by
  have sorted : (editing cs).mergeSort Candidate.atMost = editing cs :=
    List.mergeSort_of_pairwise (h.ordered.sublist List.filter_sublist)
  rw [inPlaceOrder, h.sieved.candidates, sorted]
  exact choose_all_of_safe fun c mem => h.safe c (List.mem_filter.mp mem).1

/-- The outcome of a dry run is that of the loop over the fixes that have edits. -/
theorem applyAll_eq (h : Presents ds cs) (files : FileSet) :
    let p := (editing cs).foldl (acceptOne files true) ⟨[], [], (collect ds).skipped⟩
    (applyAll files ds .all true).applied = p.applied ∧
      (applyAll files ds .all true).skipped = p.skipped := by
  have chosen := h.chosen
  have candidates := h.sieved.candidates
  rw [inPlaceOrder] at chosen
  simp only [applyAll, chosen, List.append_nil]
  split
  next none =>
    rw [List.isEmpty_iff, candidates] at none
    rw [none]
    exact ⟨rfl, rfl⟩
  split
  next none =>
    rw [List.isEmpty_iff] at none
    exact ⟨none.symm, rfl⟩
  split
  all_goals exact ⟨rfl, rfl⟩

end Presents

/-- What the loop has skipped before stays in the report. -/
theorem skipped_foldl_acceptOne {files : FileSet} {dryRun : Bool} {start : List Skipped}
    {s : Skipped} (mem : s ∈ start) (cs : List Candidate) :
    s ∈ (cs.foldl (acceptOne files dryRun) ⟨[], [], start⟩).skipped := by
  have initial : Accepting files dryRun start [] [] [] ⟨[], [], start⟩ := .initial
  obtain ⟨accepted, declined, inv⟩ := initial.foldl cs
  rw [inv.skipped]
  exact List.mem_append_left _ mem

/-- Merging fixes that have no fault takes those that a dry run would accept of the same
list, fixes without edits being left out by both.  It returns the edits of those it takes, of
which no two conflict, and the number of the others.  The first fix that has edits is taken.
Whether a fix is taken is settled by those before it: it is, unless it has no edits or one that
conflicts with an edit of a fix taken earlier. -/
theorem merge_eq_apply {files : FileSet} {cs : List Candidate}
    (sound : ∀ c ∈ cs, c.fix.Sound files) :
    (∀ start, ((editing cs).foldl (acceptOne files true) ⟨[], [], start⟩).applied
      = (merged cs).map (·.record files)) ∧
    (∀ ds, Presents ds cs →
      (apply (some files) ds .all true).applied = (merged cs).map (·.record files) ∧
      ∀ c ∈ cs, c.fix.edits = [] →
        skip c.fix .noEdits ∈ (apply (some files) ds .all true).skipped) ∧
    Edit.mergeFixes (cs.map (·.fix.edits))
      = (editsOf (merged cs), cs.length - (merged cs).length) ∧
    (editsOf (merged cs)).Pairwise Apart ∧
    (∀ before c rest, cs = before ++ c :: rest → (∀ b ∈ before, b.fix.edits = []) →
      c.fix.edits ≠ [] → ∃ more, merged cs = c :: more) ∧
    ∀ done c rest, cs = done ++ c :: rest →
      (∃ more, merged cs = merged (done ++ [c]) ++ more) ∧
        (c.fix.edits ≠ [] ∧ merged (done ++ [c]) = merged done ++ [c] ∨
          merged (done ++ [c]) = merged done ∧ (c.fix.edits = [] ∨
            ∃ b ∈ merged done, ∃ t ∈ b.fix.edits, ∃ e ∈ c.fix.edits, Clash t e)) := by
  refine ⟨applied_foldl_acceptOne sound, ?_, Edit.mergeFixes_eq cs, ?_, ?_, ?_⟩
  · intro ds presents
    obtain ⟨applied, skipped⟩ := presents.applyAll_eq files
    simp only [apply]
    rw [applied, skipped]
    exact ⟨applied_foldl_acceptOne sound _, fun c mem none =>
      skipped_foldl_acceptOne (presents.sieved.empty c mem none) _⟩
  · exact Edit.pairwise_takenFrom .nil fun c mem => (sound c mem).apart
  · rintro before c rest rfl none some
    exact Edit.taken_first none some
  · rintro done c rest rfl
    have first : done ++ c :: rest = (done ++ [c]) ++ rest := by simp
    refine ⟨first ▸ Edit.taken_prefix (done ++ [c]) rest, ?_⟩
    by_cases some : c.fix.edits ≠ []
    · obtain taken | ⟨left, b, mem, t, owns, e, own, clash⟩ :=
        @Edit.taken_concat Candidate (·.fix.edits) c some done
      · exact .inl ⟨some, taken⟩
      · exact .inr ⟨left, .inr ⟨b, mem, t, owns, e, own, (Bool.not_eq_false _).mp clash⟩⟩
    · have none : c.fix.edits = [] := Decidable.not_not.mp some
      exact .inr ⟨Edit.taken_concat_of_isEmpty (f := c) none done, .inl none⟩

/-- Four fixes of one diagnostic: one without edits, a deletion, one that conflicts with the
deletion by its second edit, and one that stands where the first edit of that one does. -/
theorem merge_eq_apply_conflict :
    let files : FileSet := ⟨[⟨0, "a.ts", "abc", ⟨true, false, false⟩⟩,
      ⟨1, "b.ts", "de", ⟨true, false, false⟩⟩], [], "/"⟩
    let ds := [{ Diagnostic.new .warning "r" [] ⟨0, 0, 1⟩ "m" with
      fixes := [{ Fix.quick "t" [] with id := "0" },
        { Fix.quick "t" [.delete ⟨0, 0, 2⟩] with id := "1" },
        { Fix.quick "t" [.insertBefore ⟨1, 0, 0⟩ "x", .delete ⟨0, 1, 3⟩] with id := "2" },
        { Fix.quick "t" [.insertBefore ⟨1, 0, 0⟩ "y"] with id := "3" }] }]
    let cs := ds.flatMap resolvedOf
    (∀ c ∈ cs, c.fix.Sound files) ∧ Presents ds cs ∧
      Edit.mergeFixes (cs.map (·.fix.edits))
        = ([.delete ⟨0, 0, 2⟩, .insertBefore ⟨1, 0, 0⟩ "y"], 2) ∧
      (apply (some files) ds .all true).applied.map (·.id) = [utf8 "1", utf8 "3"] := by
  intro files ds cs
  have placed : ∀ e ∈ editsOf cs, Placed files e := by
    have all : editsOf cs = [.delete ⟨0, 0, 2⟩, .insertBefore ⟨1, 0, 0⟩ "x", .delete ⟨0, 1, 3⟩,
      .insertBefore ⟨1, 0, 0⟩ "y"] := rfl
    simp only [all, List.forall_mem_cons, List.not_mem_nil, false_implies, implies_true, and_true]
    exact ⟨⟨_, rfl, by decide⟩, ⟨_, rfl, by decide⟩, ⟨_, rfl, by decide⟩, ⟨_, rfl, by decide⟩⟩
  have apart : ∀ c ∈ cs, c.fix.edits.Pairwise Apart := by decide
  have sound : ∀ c ∈ cs, c.fix.Sound files := fun c mem =>
    ⟨fun e own => placed e (List.mem_flatMap.mpr ⟨c, mem, own⟩), apart c mem⟩
  have presents : Presents ds cs := ⟨rfl, by decide, by decide, by decide⟩
  obtain ⟨-, applies, merges, -⟩ := merge_eq_apply sound
  refine ⟨sound, presents, ?_, ?_⟩
  · rw [merges]
    decide
  · rw [(applies ds presents).1]
    decide

end TreeLint.Fix
