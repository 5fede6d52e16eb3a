import TreeLint.Proofs.Diagnostic.InFile
import TreeLint.Proofs.Fix.Selection

/-! # Fixes that were stored

Diagnostics that were stored come back with their fixes resolved, and without those that do not
resolve.  A pass over them does what a pass over the diagnostics themselves does: it applies the
same fixes, changes the same files and fails alike.  It only has nothing to say of the fixes that
failed (`apply_stored`).

Every stage of a pass treats a diagnostic and its resolved form alike.  Collecting resolves the
fixes first, so it finds the same ones and makes up the same ids for them, which count the fixes
that resolve (`collect_resolved`).  All later stages look at a diagnostic for its place, its code
and its message only (`choose_resolved`, `foldl_acceptOne_resolved`).
-/

namespace TreeLint

namespace Fix

/-! ## Resolving twice -/

/-- A resolved fix is resolved as it is. -/
theorem resolve_of_resolve {f g : Fix} (h : f.resolve = .ok g) : g.resolve = .ok g := by
  have late := deferred_of_resolve h
  have apart := overlap?_of_resolve h
  simp only [resolve, resolution, built, late, apart, Option.map_none]

theorem resolveAll_resolved (d : Diagnostic) :
    resolveAll d.resolved.fixes = ((resolveAll d.fixes).1, []) := by
  rw [resolveAll_fst]
  refine resolveAll_of_resolved fun g mem => ?_
  obtain ⟨f, -, resolved⟩ := List.mem_filterMap.mp mem
  exact resolve_of_resolve (toOption_eq_some.mp resolved)

/-! ## Reports of failures -/

/-- What is said of every fix that cannot be built, whatever the cause. -/
def failureNotice : Text := "failed to build fixes: "

/-- Whether a report is about fixes that cannot be built. -/
def Skipped.failed (s : Skipped) : Bool := failureNotice.isPrefixOf s.reason

def SkipReason.isFailure : SkipReason → Bool
  | failedToBuild _ => true
  | _ => false

/-- No other reason reads like a failure. -/
@[simp] theorem failed_mk (id title : Text) (reason : SkipReason) :
    Skipped.failed ⟨id, title, reason.message⟩ = reason.isFailure := by
  have same : failureNotice <+: reason.message ↔ failureNotice = reason.opening :=
    ⟨SkipReason.opening_eq (r := .failedToBuild []), fun eq => eq ▸ reason.opening_prefix⟩
  rw [Bool.eq_iff_iff, Skipped.failed, List.isPrefixOf_iff_prefix, same]
  cases reason <;>
    · simp only [SkipReason.opening, SkipReason.isFailure]
      decide

@[simp] theorem failed_skip (f : Fix) (reason : SkipReason) :
    (skip f reason).failed = reason.isFailure := failed_mk f.id f.title reason

/-- The reports but those of fixes that cannot be built. -/
def withoutFailures (reports : List Skipped) : List Skipped := reports.filter (!·.failed)

@[simp] theorem withoutFailures_append (reports more : List Skipped) :
    withoutFailures (reports ++ more) = withoutFailures reports ++ withoutFailures more :=
  List.filter_append ..

/-! ## Collecting -/

/-- A candidate as it comes from a resolved diagnostic. -/
def Candidate.resolved (c : Candidate) : Candidate := ⟨c.diagnostic.resolved, c.fix⟩

@[simp] theorem Candidate.fix_resolved (c : Candidate) : c.resolved.fix = c.fix := rfl

/-- What is collected from resolved diagnostics. -/
def Collected.resolved (c : Collected) : Collected :=
  ⟨c.candidates.map Candidate.resolved, withoutFailures c.skipped, c.seen⟩

theorem collectFix_resolved (d : Diagnostic) (c : Collected) (fn : Fix × Nat) :
    collectFix d.resolved c.resolved fn = (collectFix d c fn).resolved := by
  have name : named d.resolved fn = named d fn := rfl
  have seen : c.resolved.seen = c.seen := rfl
  simp only [collectFix, name, seen]
  split
  · simp [Collected.resolved, withoutFailures, SkipReason.isFailure]
  split
  · simp [Collected.resolved, withoutFailures, SkipReason.isFailure]
  · simp [Collected.resolved, Candidate.resolved]

theorem foldl_collectFix_resolved (d : Diagnostic) (c : Collected) (fns : List (Fix × Nat)) :
    fns.foldl (collectFix d.resolved) c.resolved = (fns.foldl (collectFix d) c).resolved := by
  induction fns generalizing c with
  | nil => rfl
  | cons fn fns ih => rw [List.foldl_cons, List.foldl_cons, collectFix_resolved, ih]

theorem collectFrom_resolved (c : Collected) (d : Diagnostic) :
    collectFrom c.resolved d.resolved = (collectFrom c d).resolved := by
  simp only [collectFrom, resolveAll_resolved, List.isEmpty_nil, if_true]
  rw [← foldl_collectFix_resolved]
  split
  · rfl
  · simp [Collected.resolved, withoutFailures, SkipReason.isFailure]

/-- The same fixes are found under the same ids, and none of them failed. -/
theorem collect_resolved (ds : List Diagnostic) :
    collect (ds.map Diagnostic.resolved) = (collect ds).resolved := by
  have fold : ∀ c : Collected, (ds.map Diagnostic.resolved).foldl collectFrom c.resolved
      = (ds.foldl collectFrom c).resolved := by
    induction ds with
    | nil => exact fun _ => rfl
    | cons d ds ih =>
      intro c
      rw [List.map_cons, List.foldl_cons, List.foldl_cons, collectFrom_resolved, ih]
  exact fold ⟨[], [], []⟩

/-! ## Choosing -/

theorem chooseOnce_resolved (fallback : Option Candidate) (cs : List Candidate) :
    chooseOnce (fallback.map Candidate.resolved) (cs.map Candidate.resolved)
      = ((chooseOnce fallback cs).1.map Candidate.resolved, (chooseOnce fallback cs).2) := by
  induction cs generalizing fallback with
  | nil => cases fallback <;> rfl
  | cons c cs ih =>
    rw [List.map_cons, chooseOnce, chooseOnce]
    by_cases all : c.fix.requiresAll
    · rw [if_pos all, if_pos (show c.resolved.fix.requiresAll from all), ih]
      rfl
    rw [if_neg all, if_neg (show ¬ c.resolved.fix.requiresAll from all)]
    by_cases safe : c.isSafe
    · rw [if_pos safe, if_pos (show c.resolved.isSafe from safe)]
      rfl
    rw [if_neg safe, if_neg (show ¬ c.resolved.isSafe from safe)]
    cases fallback with
    | none => exact ih (some c)
    | some b => exact ih (some b)

/-- A mode looks at the fixes of the candidates only. -/
theorem choose_resolved (mode : Mode) (cs : List Candidate) :
    choose mode (cs.map Candidate.resolved)
      = ((choose mode cs).1.map Candidate.resolved, (choose mode cs).2) := by
  cases mode with
  | once => exact chooseOnce_resolved none cs
  | all =>
    simp only [choose, List.filter_map, List.map_map]
    rfl
  | byId id =>
    have found : (cs.map Candidate.resolved).find? (fun c => c.fix.id == id)
        = (cs.find? fun c => c.fix.id == id).map Candidate.resolved := by
      rw [List.find?_map]
      rfl
    simp only [choose, found]
    cases cs.find? fun c => c.fix.id == id with
    | none => rfl
    | some c =>
      by_cases all : c.fix.requiresAll <;> simp [all]
  | nothing => rfl

/-- A mode passes over fixes, but none of them fails by that. -/
theorem withoutFailures_choose (mode : Mode) (cs : List Candidate) :
    withoutFailures (choose mode cs).2 = (choose mode cs).2 := by
  refine List.filter_eq_self.mpr fun s mem => ?_
  obtain ⟨id, title, reason, rfl, passedOver⟩ := passedOver_of_mem_choose mem
  rw [failed_mk]
  cases passedOver <;> rfl

/-! ## Accepting -/

/-- How far accepting has got with fixes of resolved diagnostics. -/
def Progress.resolved (p : Progress) : Progress :=
  ⟨p.pending, p.applied, withoutFailures p.skipped⟩

theorem isFailure_of_editProblem? {files : FileSet} {dryRun : Bool} {p : Pending} {e : Edit}
    {reason : SkipReason} (h : editProblem? files dryRun p e = some reason) :
    reason.isFailure = false := by
  simp only [editProblem?] at h
  grind [SkipReason.isFailure]

theorem isFailure_of_problem? {files : FileSet} {dryRun : Bool} {p : Pending} {f : Fix}
    {reason : SkipReason} (h : problem? files dryRun p f = some reason) :
    reason.isFailure = false := by
  simp only [problem?] at h
  split at h
  · cases h
    rfl
  · obtain ⟨e, -, eq⟩ := List.exists_of_findSome?_eq_some h
    exact isFailure_of_editProblem? eq

theorem acceptOne_resolved (files : FileSet) (dryRun : Bool) (p : Progress) (c : Candidate) :
    acceptOne files dryRun p.resolved c.resolved = (acceptOne files dryRun p c).resolved := by
  have problem : problem? files dryRun p.resolved.pending c.resolved.fix
      = problem? files dryRun p.pending c.fix := rfl
  simp only [acceptOne, problem]
  cases result : problem? files dryRun p.pending c.fix with
  | none => rfl
  | some reason =>
    simp [Progress.resolved, Candidate.resolved, withoutFailures, isFailure_of_problem? result]

theorem foldl_acceptOne_resolved (files : FileSet) (dryRun : Bool) (p : Progress)
    (cs : List Candidate) :
    (cs.map Candidate.resolved).foldl (acceptOne files dryRun) p.resolved
      = (cs.foldl (acceptOne files dryRun) p).resolved := by
  induction cs generalizing p with
  | nil => rfl
  | cons c cs ih => rw [List.map_cons, List.foldl_cons, List.foldl_cons, acceptOne_resolved, ih]

/-! ## The pass -/

theorem applyAll_resolved (files : FileSet) (ds : List Diagnostic) (mode : Mode) (dryRun : Bool) :
    applyAll files (ds.map Diagnostic.resolved) mode dryRun
      = { applyAll files ds mode dryRun with
          skipped := withoutFailures (applyAll files ds mode dryRun).skipped } := by
  have sorted : ((collect ds).candidates.map Candidate.resolved).mergeSort Candidate.atMost
      = (inPlaceOrder ds).map Candidate.resolved :=
    (List.map_mergeSort (f := Candidate.resolved) fun _ _ _ _ => rfl).symm
  have inOrder : (collect ds).candidates.mergeSort Candidate.atMost = inPlaceOrder ds := rfl
  simp only [applyAll, collect_resolved, Collected.resolved, List.isEmpty_map, sorted, inOrder,
    choose_resolved]
  split
  · rfl
  have accepted := foldl_acceptOne_resolved files dryRun
    ⟨[], [], (collect ds).skipped ++ (choose mode (inPlaceOrder ds)).2⟩
    (choose mode (inPlaceOrder ds)).1
  simp only [Progress.resolved, withoutFailures_append, withoutFailures_choose] at accepted
  rw [accepted]
  generalize (choose mode (inPlaceOrder ds)).1.foldl (acceptOne files dryRun) _ = p
  by_cases none : p.applied.isEmpty
  · simp only [if_pos none]
  · simp only [if_neg none]
    split <;> rfl

/-- Diagnostics that are stored and read back are those they were, with all spans in the file
they are read for, with every fix in its resolved form and without those that do not resolve.
Read back for the file they were in, they lead any pass to the same applied fixes, the same
changes and the same error, and it skips the same fixes but those that failed. -/
theorem apply_stored (files? : Option FileSet) (here : FileId) (path : Text)
    {ds : List Diagnostic} (own : ∀ d ∈ ds, d.inFile here = d) :
    (∀ there, (Payload.ofDiagnostics path ds).diagnosticsIn there
      = ds.map fun d => d.resolved.inFile there) ∧
    ∀ mode dryRun, apply files? ((Payload.ofDiagnostics path ds).diagnosticsIn here) mode dryRun
      = { apply files? ds mode dryRun with
          skipped := withoutFailures (apply files? ds mode dryRun).skipped } := by
  have read : ∀ there, (Payload.ofDiagnostics path ds).diagnosticsIn there
      = ds.map fun d => d.resolved.inFile there := by
    intro there
    have current : (Payload.ofDiagnostics path ds).isCurrent :=
      beq_self_eq_true Payload.currentSchema
    rw [Payload.diagnosticsIn, if_pos current, Payload.ofDiagnostics, List.map_map]
    exact List.map_congr_left fun d _ => Stored.inFile_ofDiagnostic there d
  refine ⟨read, fun mode dryRun => ?_⟩
  have back : (Payload.ofDiagnostics path ds).diagnosticsIn here = ds.map Diagnostic.resolved :=
    (read here).trans (List.map_congr_left fun d mem => Diagnostic.resolved_inFile (own d mem))
  cases files? with
  | none => rfl
  | some files => rw [back, apply, apply, applyAll_resolved]

/-- Of two late fixes one cannot be built.  It is not stored, the other one is applied with the
id that it goes by, and nothing is skipped. -/
theorem apply_stored_late :
    let files : FileSet := ⟨[⟨0, "a.ts", "ab", ⟨true, false, false⟩⟩], [], "/"⟩
    let d := { Diagnostic.new .warning "r" [] ⟨0, 0, 1⟩ "m" with
      fixes := [.late "t" "1" (.error "no type"), .late "u" "2" (.ok [.delete ⟨0, 0, 1⟩])] }
    let stored := (Payload.ofDiagnostics "a.ts" [d]).diagnosticsIn 0
    (∀ e ∈ [d], e.inFile 0 = e) ∧
      (apply (some files) stored .all true).applied.map (·.id) = [utf8 "2"] ∧
      (apply (some files) [d] .all true).skipped ≠ [] ∧
      (apply (some files) stored .all true).skipped = [] := by
  intro files d stored
  have own : ∀ e ∈ [d], e.inFile 0 = e := by
    intro e mem
    rw [List.mem_singleton] at mem
    subst mem
    rfl
  have same := (apply_stored (some files) 0 "a.ts" own).2 .all true
  refine ⟨own, ?_, by decide +kernel, ?_⟩
  · rw [same]
    decide +kernel
  · rw [same]
    decide +kernel

end Fix
end TreeLint
