import TreeLint.Proofs.Fix.Application

/-! # Dry runs and files in memory

A dry run also takes fixes of files that are only held in memory, and an edit there can be in the
way of another.  That is all that sets it apart: the two runs make the same changes exactly if the
dry run changes no file in memory (`changes_dryRun_iff`).
-/

namespace TreeLint.Fix

/-! ## Files that are touched -/

namespace Pending

variable {p : Pending} {id : FileId}

theorem mem_touched_insert {e : Edit} :
    id ∈ (p.insert e).touched ↔ id ∈ p.touched ∨ e.span.file = id := by
  by_cases there : p.any (·.1 == e.span.file)
  · rw [touched_insert there]
    refine ⟨.inl, ?_⟩
    rintro (old | rfl)
    · exact old
    · obtain ⟨g, mem, same⟩ := List.any_eq_true.mp there
      exact beq_iff_eq.mp same ▸ List.mem_map_of_mem mem
  · rw [Pending.insert, if_neg there, touched, List.map_append, List.mem_append, List.map_singleton,
      List.mem_singleton, eq_comm (a := id)]
    rfl

theorem mem_touched_foldl {edits : List Edit} :
    id ∈ (edits.foldl Pending.insert p).touched ↔
      id ∈ p.touched ∨ ∃ e ∈ edits, e.span.file = id := by
  induction edits generalizing p with
  | nil => simp
  | cons e edits ih =>
    rw [List.foldl_cons, ih, mem_touched_insert, or_assoc]
    simp

end Pending

/-! ## Accepting -/

/-- A file that is not only held in memory. -/
def OnDisk (files : FileSet) (id : FileId) : Prop :=
  ∀ f, files.get? id = some f → f.flags.inMemory = false

section Accepting

variable {files : FileSet} {dryRun : Bool} {p q : Progress} {cs : List Candidate} {id : FileId}

/-- A run that is not dry asks of an edit that its file is on disk, and all else that a dry run
asks. -/
theorem editProblem?_false_iff {p : Pending} {e : Edit} :
    editProblem? files false p e = none ↔
      editProblem? files true p e = none ∧ OnDisk files e.span.file := by
  cases found : files.get? e.span.file with
  | none => simp [editProblem?, found]
  | some f => cases kept : f.flags.inMemory <;> simp [editProblem?, OnDisk, found, kept]

theorem problem?_false_iff {p : Pending} {f : Fix} :
    problem? files false p f = none ↔
      problem? files true p f = none ∧ ∀ e ∈ f.edits, OnDisk files e.span.file := by
  simp only [problem?]
  split
  · simp
  · simp only [List.findSome?_eq_none_iff, editProblem?_false_iff, forall_and]

theorem mem_touched_acceptOne {c : Candidate} :
    id ∈ (acceptOne files dryRun p c).pending.touched ↔ id ∈ p.pending.touched ∨
      problem? files dryRun p.pending c.fix = none ∧ ∃ e ∈ c.fix.edits, e.span.file = id := by
  rw [acceptOne]
  split
  next reason problem => simp [problem]
  next fine => simp [fine, Pending.mem_touched_foldl]

theorem touched_subset_foldl (files : FileSet) (dryRun : Bool) (p : Progress)
    (cs : List Candidate) :
    p.pending.touched ⊆ (cs.foldl (acceptOne files dryRun) p).pending.touched := by
  induction cs generalizing p with
  | nil => exact List.Subset.refl _
  | cons c cs ih => exact fun id mem => ih _ (mem_touched_acceptOne.mpr (.inl mem))

/-- A run that is not dry touches files on disk only. -/
theorem onDisk_of_touched (before : ∀ id ∈ p.pending.touched, OnDisk files id)
    (touched : id ∈ (cs.foldl (acceptOne files false) p).pending.touched) : OnDisk files id := by
  induction cs generalizing p with
  | nil => exact before id touched
  | cons c cs ih =>
    refine ih (fun id mem => ?_) touched
    rcases mem_touched_acceptOne.mp mem with old | ⟨fine, e, owns, rfl⟩
    · exact before id old
    · exact (problem?_false_iff.mp fine).2 e owns

/-- If a dry run comes to touch files on disk only, it accepts what the other run accepts. -/
theorem pending_foldl_acceptOne (same : q.pending = p.pending)
    (disk : ∀ id ∈ (cs.foldl (acceptOne files true) p).pending.touched, OnDisk files id) :
    (cs.foldl (acceptOne files false) q).pending = (cs.foldl (acceptOne files true) p).pending := by
  induction cs generalizing p q with
  | nil => exact same
  | cons c cs ih =>
    refine ih ?_ disk
    cases fine : problem? files true p.pending c.fix with
    | some reason =>
      cases problem : problem? files false q.pending c.fix with
      | some reason' => simpa only [acceptOne, fine, problem] using same
      | none =>
        rw [same, problem?_false_iff, fine] at problem
        exact absurd problem.1 (Option.some_ne_none _)
    | none =>
      have onDisk : ∀ e ∈ c.fix.edits, OnDisk files e.span.file := fun e owns =>
        disk _ (touched_subset_foldl files true _ cs
          (mem_touched_acceptOne.mpr (.inr ⟨fine, e, owns, rfl⟩)))
      have fine' : problem? files false q.pending c.fix = none := by
        rw [same]
        exact problem?_false_iff.mpr ⟨fine, onDisk⟩
      simp only [acceptOne, fine, fine']
      rw [same]

end Accepting

/-! ## Changes -/

/-- What accepting comes to in a pass. -/
def progress (files : FileSet) (ds : List Diagnostic) (mode : Mode) (dryRun : Bool) : Progress :=
  (choose mode (inPlaceOrder ds)).1.foldl (acceptOne files dryRun)
    ⟨[], [], (collect ds).skipped ++ (choose mode (inPlaceOrder ds)).2⟩

theorem progress_accepting (files : FileSet) (ds : List Diagnostic) (mode : Mode) (dryRun : Bool) :
    ∃ accepted declined, Accepting files dryRun
      ((collect ds).skipped ++ (choose mode (inPlaceOrder ds)).2) (choose mode (inPlaceOrder ds)).1
      accepted declined (progress files ds mode dryRun) :=
  Accepting.initial.foldl (choose mode (inPlaceOrder ds)).1

section Changes

variable {files : FileSet} {ds : List Diagnostic} {mode : Mode} {dryRun : Bool}
  (small : ∀ f ∈ files.files, f.content.length < UInt32.size)
include small

/-- The changes of a pass are those of what it has accepted, in the order of their paths. -/
theorem changes_applyAll :
    (applyAll files ds mode dryRun).changes
      = (changesOf files (progress files ds mode dryRun).pending).1.mergeSort
        fun a b => a.path.atMost b.path := by
  obtain ⟨accepted, declined, inv⟩ := progress_accepting files ds mode dryRun
  obtain ⟨fine, changes⟩ := inv.changesOf_eq small
  have quiet (nothing : accepted = []) :
      (changesOf files (progress files ds mode dryRun).pending).1 = [] := by
    have untouched : (progress files ds mode dryRun).pending.touched = [] := by
      rw [List.eq_nil_iff_forall_not_mem]
      intro id mem
      obtain ⟨e, owns, -⟩ := (inv.groups.mem_touched id).mp mem
      simp [nothing, editsOf] at owns
    rwa [untouched, List.map_nil, List.map_eq_nil_iff] at changes
  by_cases none : (collect ds).candidates = []
  · have chosen := choose_sublist mode (inPlaceOrder ds)
    have empty : inPlaceOrder ds = [] := by simp [inPlaceOrder, none]
    rw [empty, List.sublist_nil] at chosen
    have nothing : accepted = [] := by simpa [empty, chosen] using inv.sublist
    rw [quiet nothing]
    simp [applyAll, none]
  · simp only [applyAll, List.isEmpty_iff, none, if_false, mergeSort_candidates]
    rw [← progress]
    split
    next nothing =>
      rw [inv.applied, List.map_eq_nil_iff] at nothing
      rw [quiet nothing, List.mergeSort_nil]
    · rcases result : changesOf files (progress files ds mode dryRun).pending with ⟨made, error?⟩
      rw [result] at fine
      dsimp only at fine
      subst fine
      rfl

/-- Each change is of a file that was touched, and each file that was touched is changed. -/
theorem mem_changes_applyAll :
    (∀ c ∈ (applyAll files ds mode dryRun).changes,
      ∃ id ∈ (progress files ds mode dryRun).pending.touched, files.get? id = some c.file) ∧
    ∀ id ∈ (progress files ds mode dryRun).pending.touched,
      ∃ c ∈ (applyAll files ds mode dryRun).changes, files.get? id = some c.file := by
  obtain ⟨accepted, declined, inv⟩ := progress_accepting files ds mode dryRun
  obtain ⟨-, changes⟩ := inv.changesOf_eq small
  have file {id : FileId} {c : Change} (made : rewriting files accepted id = some c) :
      files.get? id = some c.file := by
    obtain ⟨f, found, rfl⟩ := Option.map_eq_some_iff.mp made
    exact found
  simp only [changes_applyAll small, List.mem_mergeSort]
  constructor
  · intro c mem
    have mem : some c ∈ (progress files ds mode dryRun).pending.touched.map
        (rewriting files accepted) := changes ▸ List.mem_map_of_mem mem
    obtain ⟨id, touched, made⟩ := List.mem_map.mp mem
    exact ⟨id, touched, file made⟩
  · intro id touched
    have mem : rewriting files accepted id ∈
        (changesOf files (progress files ds mode dryRun).pending).1.map some :=
      changes ▸ List.mem_map_of_mem touched
    obtain ⟨c, mem, made⟩ := List.mem_map.mp mem
    exact ⟨c, mem, file made.symm⟩

/-- A run that is not dry changes files on disk only. -/
theorem onDisk_of_mem_changes {c : Change} (mem : c ∈ (applyAll files ds mode false).changes) :
    c.file ∈ files.files ∧ c.file.flags.inMemory = false := by
  obtain ⟨id, touched, found⟩ := (mem_changes_applyAll small).1 c mem
  refine ⟨List.mem_of_getElem? found, onDisk_of_touched ?_ touched c.file found⟩
  simp [Pending.touched]

/-- Both runs make the same changes if no change of the dry run is to a file in memory, and only
then. -/
theorem changes_dryRun_iff :
    (applyAll files ds mode false).changes = (applyAll files ds mode true).changes ↔
      ∀ c ∈ (applyAll files ds mode true).changes, c.file.flags.inMemory = false := by
  constructor
  · intro same c mem
    exact (onDisk_of_mem_changes small (same ▸ mem)).2
  · intro disk
    have pending :
        (progress files ds mode false).pending = (progress files ds mode true).pending := by
      refine pending_foldl_acceptOne rfl fun id touched f found => ?_
      obtain ⟨c, mem, found'⟩ := (mem_changes_applyAll small).2 id touched
      rw [found, Option.some.injEq] at found'
      exact found' ▸ disk c mem
    rw [changes_applyAll small, changes_applyAll small, pending]

end Changes

end TreeLint.Fix
