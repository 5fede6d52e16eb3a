import TreeLint.Proofs.Fix.Acceptance

/-! # Choosing fixes

Between the fixes that resolve and those that are offered for acceptance stand two
filters: collecting drops the fixes without edits and those whose id was seen before, and
a mode chooses among the candidates.  Nothing gets lost on the way.  A fix that resolves
ends up a candidate or is reported with a reason (`collect_collecting`), and the mode that
takes all fixes chooses every candidate or reports it (`choose_all`).

A fix is ready if there is nothing wrong with it by itself: it is resolved, it has edits, they
fit the file they are in, and they keep apart from each other.  A pass over ready fixes may have
to leave some of them out, since another one has their id or is in their way, but it never finds
a fault in one (`apply_ready`). -/

namespace TreeLint.Fix

theorem toOption_eq_some {ε α : Type} {x : Except ε α} {a : α} :
    x.toOption = some a ↔ x = .ok a := by
  cases x <;> simp [Except.toOption]

/-! ## Collecting -/

theorem resolveAll_fst (fs : List Fix) :
    (resolveAll fs).1 = fs.filterMap fun f => f.resolve.toOption := by
  induction fs with
  | nil => rfl
  | cons f fs ih =>
    rw [resolveAll, List.filterMap_cons]
    cases f.resolve <;> simp [ih, Except.toOption]

theorem resolveAll_of_resolved {fs : List Fix} (h : ∀ f ∈ fs, f.resolve = .ok f) :
    resolveAll fs = (fs, []) := by
  induction fs with
  | nil => rfl
  | cons f fs ih =>
    rw [List.forall_mem_cons] at h
    simp only [resolveAll, h.1, ih h.2]

@[simp] theorem named_edits (d : Diagnostic) (fn : Fix × Nat) :
    (named d fn).edits = fn.1.edits := by
  unfold named
  split <;> rfl

/-- The fixes of a diagnostic that resolve, with their ids. -/
def resolvedOf (d : Diagnostic) : List Candidate :=
  (resolveAll d.fixes).1.zipIdx.map fun fn => ⟨d, named d fn⟩

/-- What is reported of the fixes of a diagnostic that do not resolve. -/
def failuresOf (d : Diagnostic) : List Skipped :=
  let errors := (resolveAll d.fixes).2
  if errors.isEmpty then []
  else [⟨[], d.message, (SkipReason.failedToBuild errors).message⟩]

/-- The candidates in the order of their places. -/
def inPlaceOrder (ds : List Diagnostic) : List Candidate :=
  (collect ds).candidates.mergeSort Candidate.atMost

/-- What collecting has come to after some fixes and some reports of fixes that failed. -/
structure Collecting (resolved : List Candidate) (failed : List Skipped)
    (declined : List (Candidate × SkipReason)) (c : Collected) : Prop where
  split : resolved.Perm (c.candidates ++ declined.map Prod.fst)
  skipped : c.skipped.Perm (failed ++ reportOf declined)
  quiet : ∀ x ∈ declined, ¬ conflictNotice <+: x.2.message

theorem quiet_of_ne {reason : SkipReason} (h : ∀ path, reason ≠ .conflict path) :
    ¬ conflictNotice <+: reason.message := by
  intro notice
  obtain ⟨path, eq⟩ := conflictNotice_prefix notice
  exact h path eq

namespace Collecting

variable {resolved : List Candidate} {failed : List Skipped}
  {declined : List (Candidate × SkipReason)} {c : Collected}

theorem decline (h : Collecting resolved failed declined c) {b : Candidate} {reason : SkipReason}
    (quiet : ∀ path, reason ≠ .conflict path) :
    Collecting (resolved ++ [b]) failed (declined ++ [(b, reason)])
      { c with skipped := c.skipped ++ [skip b.fix reason] } where
  split := by
    rw [List.map_append, ← List.append_assoc]
    exact h.split.append_right _
  skipped := by
    rw [reportOf, List.map_append, ← List.append_assoc]
    exact h.skipped.append_right _
  quiet := by
    intro x mem
    rcases List.mem_append.mp mem with old | new
    · exact h.quiet x old
    · rw [List.mem_singleton] at new
      subst new
      exact quiet_of_ne quiet

theorem fail (h : Collecting resolved failed declined c) (more : List Skipped) :
    Collecting resolved (failed ++ more) declined { c with skipped := c.skipped ++ more } where
  split := h.split
  skipped := by
    refine (h.skipped.append_right more).trans ?_
    rw [List.append_assoc, List.append_assoc]
    exact List.perm_append_comm.append_left failed
  quiet := h.quiet

theorem collectFix (h : Collecting resolved failed declined c) (d : Diagnostic) (fn : Fix × Nat) :
    ∃ declined, Collecting (resolved ++ [⟨d, named d fn⟩]) failed declined
      (Fix.collectFix d c fn) := by
  simp only [Fix.collectFix]
  split
  · exact ⟨declined ++ [(⟨d, named d fn⟩, .noEdits)], h.decline (by simp)⟩
  split
  · exact ⟨declined ++ [(⟨d, named d fn⟩, .duplicateId)], h.decline (by simp)⟩
  refine ⟨declined, ?_, h.skipped, h.quiet⟩
  refine (h.split.append_right _).trans ?_
  rw [List.append_assoc, List.append_assoc]
  exact List.perm_append_comm.append_left c.candidates

theorem foldl_collectFix (h : Collecting resolved failed declined c) (d : Diagnostic)
    (fns : List (Fix × Nat)) :
    ∃ declined, Collecting (resolved ++ fns.map fun fn => ⟨d, named d fn⟩) failed declined
      (fns.foldl (Fix.collectFix d) c) := by
  induction fns generalizing resolved declined c with
  | nil => exact ⟨declined, by simpa using h⟩
  | cons fn fns ih =>
    obtain ⟨declined', next⟩ := h.collectFix d fn
    simpa using ih next

theorem collectFrom (h : Collecting resolved failed declined c) (d : Diagnostic) :
    ∃ declined, Collecting (resolved ++ resolvedOf d) (failed ++ failuresOf d) declined
      (Fix.collectFrom c d) := by
  have start : Collecting resolved (failed ++ failuresOf d) declined
      (if (resolveAll d.fixes).2.isEmpty then c else { c with
        skipped := c.skipped ++
          [⟨[], d.message, (SkipReason.failedToBuild (resolveAll d.fixes).2).message⟩] }) := by
    simp only [failuresOf]
    split
    · simpa using h
    · exact h.fail _
  exact start.foldl_collectFix d _

theorem foldl (h : Collecting resolved failed declined c) (ds : List Diagnostic) :
    ∃ declined, Collecting (resolved ++ ds.flatMap resolvedOf) (failed ++ ds.flatMap failuresOf)
      declined (ds.foldl Fix.collectFrom c) := by
  induction ds generalizing resolved failed declined c with
  | nil => exact ⟨declined, by simpa using h⟩
  | cons d ds ih =>
    obtain ⟨declined', next⟩ := h.collectFrom d
    simpa using ih next

end Collecting

/-- Every fix that resolves is a candidate or was declined, and the report names those
that were declined beside those that failed. -/
theorem collect_collecting (ds : List Diagnostic) :
    ∃ declined, Collecting (ds.flatMap resolvedOf) (ds.flatMap failuresOf) declined
      (collect ds) := by
  have start : Collecting [] [] [] ⟨[], [], []⟩ := ⟨.nil, .nil, by simp⟩
  simpa [collect] using start.foldl ds

/-! ## Choosing -/

theorem chooseOnce_sublist (fallback : Option Candidate) (cs : List Candidate) :
    (chooseOnce fallback cs).1.Sublist (fallback.toList ++ cs) := by
  induction cs generalizing fallback with
  | nil => simp [chooseOnce]
  | cons c cs ih =>
    unfold chooseOnce
    split
    · exact (ih fallback).trans (.append_left (List.sublist_cons_self c cs) _)
    split
    · exact .trans (by simp) (List.sublist_append_right fallback.toList (c :: cs))
    · cases fallback with
      | none => exact ih (some c)
      | some b => exact (ih (some b)).trans (by simp)

/-- A mode never changes the order of the candidates and never takes one twice. -/
theorem choose_sublist (mode : Mode) (cs : List Candidate) : (choose mode cs).1.Sublist cs := by
  cases mode with
  | once => exact chooseOnce_sublist none cs
  | all => exact List.filter_sublist
  | byId id =>
    simp only [choose]
    split
    · exact List.nil_sublist cs
    next c found =>
      split
      · exact List.nil_sublist cs
      · exact List.singleton_sublist.mpr (List.mem_of_find?_eq_some found)
  | nothing => exact List.nil_sublist cs

/-- A fix is passed over for want of the id that was asked for, because it needs all others, or
because it is not safe. -/
inductive PassedOver : SkipReason → Prop where
  | idNotFound : PassedOver .idNotFound
  | requiresAll : PassedOver .requiresAll
  | applicability (a : Applicability) : PassedOver (.applicability a)

theorem passedOver_of_mem_chooseOnce {fallback : Option Candidate} {cs : List Candidate}
    {s : Skipped} (mem : s ∈ (chooseOnce fallback cs).2) :
    ∃ id title reason, s = ⟨id, title, reason.message⟩ ∧ PassedOver reason := by
  induction cs generalizing fallback with
  | nil => contradiction
  | cons c cs ih =>
    unfold chooseOnce at mem
    split at mem
    · obtain rfl | later := List.mem_cons.mp mem
      · exact ⟨_, _, _, rfl, .requiresAll⟩
      · exact ih later
    split at mem
    · contradiction
    · exact ih mem

theorem passedOver_of_mem_choose {mode : Mode} {cs : List Candidate} {s : Skipped}
    (mem : s ∈ (choose mode cs).2) :
    ∃ id title reason, s = ⟨id, title, reason.message⟩ ∧ PassedOver reason := by
  cases mode with
  | once => exact passedOver_of_mem_chooseOnce mem
  | all =>
    obtain ⟨c, -, rfl⟩ := List.mem_map.mp mem
    exact ⟨_, _, _, rfl, .applicability _⟩
  | byId id =>
    simp only [choose] at mem
    split at mem
    · exact ⟨_, _, _, List.mem_singleton.mp mem, .idNotFound⟩
    split at mem
    · exact ⟨_, _, _, List.mem_singleton.mp mem, .requiresAll⟩
    · contradiction
  | nothing => contradiction

/-- The mode that takes all fixes chooses every candidate or declines it. -/
theorem choose_all (cs : List Candidate) :
    ∃ declined : List (Candidate × SkipReason),
      cs.Perm ((choose .all cs).1 ++ declined.map Prod.fst) ∧
      (choose .all cs).2 = reportOf declined ∧
      ∀ x ∈ declined, ¬ conflictNotice <+: x.2.message := by
  refine ⟨(cs.filter fun c => !c.isSafe).map fun c => (c, .applicability c.fix.applicability),
    ?_, ?_, ?_⟩
  · simpa [choose, Function.comp_def] using (List.filter_append_perm Candidate.isSafe cs).symm
  · simp [choose, reportOf, Function.comp_def]
  · intro x mem
    obtain ⟨c, -, rfl⟩ := List.mem_map.mp mem
    exact quiet_of_ne (by simp)

/-! ## Fixes that are ready -/

open Edit (Apart Fits)

/-- A fix that can be applied to a file as it is. -/
structure Ready (file : FileId) (content : Text) (f : Fix) : Prop where
  resolves : f.resolve = .ok f
  nonempty : f.edits ≠ []
  own : ∀ e ∈ f.edits, e.span.file = file
  fits : ∀ e ∈ f.edits, Fits content e
  apart : f.edits.Pairwise Apart

/-- What is composed of edits that fit a file is ready, for edits that overlap are not
composed. -/
theorem compose_ready {title content : Text} {edits : List Edit} {file : FileId} {f : Fix}
    (composed : compose title edits = .ok f) (nonempty : edits ≠ [])
    (own : ∀ e ∈ edits, e.span.file = file) (fits : ∀ e ∈ edits, Fits content e) :
    f.Ready file content := by
  simp only [compose] at composed
  split at composed
  · contradiction
  next apart =>
    cases composed
    refine ⟨?_, nonempty, own, fits, Edit.overlap?_eq_none.mp apart⟩
    simp only [resolve, resolution, built, quick, apart, Option.map_none]

/-! ## Faults -/

/-- The reasons that are faults of a fix by itself. -/
def SkipReason.isFault : SkipReason → Bool
  | failedToBuild _ | noEdits | overlap _ _ | unknownFile | outOfRange | guardMismatch => true
  | _ => false

theorem SkipReason.isFault_congr {r s : SkipReason} (same : r.opening = s.opening) :
    r.isFault = s.isFault := by
  have told : ∀ r : SkipReason, r.isFault =
      ([failedToBuild [], noEdits, overlap ⟨0, 0, 0⟩ ⟨0, 0, 0⟩, unknownFile, outOfRange,
        guardMismatch].map opening).contains r.opening := by
    intro r
    cases r <;>
      · simp only [isFault, opening]
        decide
  rw [told, told, same]

/-- A report of something else than a fault. -/
def Skipped.Harmless (s : Skipped) : Prop :=
  ∃ reason : SkipReason, reason.isFault = false ∧ s.reason = reason.message

theorem harmless_skip (f : Fix) {reason : SkipReason} (h : reason.isFault = false) :
    (skip f reason).Harmless := ⟨reason, h, rfl⟩

/-- What is harmless does not read like a fault. -/
theorem Skipped.Harmless.reason_ne {s : Skipped} (h : s.Harmless) {fault : SkipReason}
    (faulty : fault.isFault) : s.reason ≠ fault.message := by
  obtain ⟨reason, harmless, eq⟩ := h
  intro same
  have opening : reason.opening = fault.opening :=
    SkipReason.opening_eq (same ▸ eq ▸ reason.opening_prefix)
  rw [SkipReason.isFault_congr opening, faulty] at harmless
  contradiction

/-! ## A pass -/

/-- What accepting asks of a fix, as far as it is on its own. -/
structure Sound (files : FileSet) (f : Fix) : Prop where
  placed : ∀ e ∈ f.edits, Placed files e
  apart : f.edits.Pairwise Apart

theorem Ready.sound {files : FileSet} {file : FileId} {g : File} {f : Fix}
    (h : f.Ready file g.content) (found : files.get? file = some g) : f.Sound files where
  placed e mem := ⟨g, (h.own e mem).symm ▸ found, h.fits e mem⟩
  apart := h.apart

/-- Nothing that was collected is at fault. -/
structure Collected.Sound (files : FileSet) (c : Collected) : Prop where
  candidates : ∀ b ∈ c.candidates, b.fix.Sound files
  skipped : ∀ s ∈ c.skipped, s.Harmless

section

variable {files : FileSet} {dryRun : Bool}

theorem Collected.Sound.collectFix {c : Collected} (h : c.Sound files) (d : Diagnostic)
    {fn : Fix × Nat} (nonempty : fn.1.edits ≠ []) (sound : fn.1.Sound files) :
    (Fix.collectFix d c fn).Sound files := by
  simp only [Fix.collectFix, named_edits, List.isEmpty_iff, nonempty, if_false]
  split
  · refine ⟨h.candidates, List.forall_mem_append.mpr ⟨h.skipped, ?_⟩⟩
    exact List.forall_mem_singleton.mpr (harmless_skip _ rfl)
  · refine ⟨List.forall_mem_append.mpr ⟨h.candidates, ?_⟩, h.skipped⟩
    refine List.forall_mem_singleton.mpr ⟨?_, ?_⟩
    · simpa only [named_edits] using sound.placed
    · simpa only [named_edits] using sound.apart

theorem Collected.Sound.collectFrom {c : Collected} (h : c.Sound files) {d : Diagnostic}
    (ready : ∀ f ∈ d.fixes, ∃ file g, files.get? file = some g ∧ f.Ready file g.content) :
    (Fix.collectFrom c d).Sound files := by
  have resolved : resolveAll d.fixes = (d.fixes, []) := resolveAll_of_resolved fun f mem =>
    let ⟨_, _, _, ready⟩ := ready f mem
    ready.resolves
  simp only [Fix.collectFrom, resolved, List.isEmpty_nil, if_true]
  refine List.foldlRecOn d.fixes.zipIdx _ h fun c kept fn mem => ?_
  obtain ⟨file, g, found, ready⟩ := ready fn.1 (List.fst_mem_of_mem_zipIdx mem)
  exact kept.collectFix d ready.nonempty (ready.sound found)

theorem isFault_of_editProblem? {p : Pending} {e : Edit} (placed : Placed files e)
    {reason : SkipReason} (h : editProblem? files dryRun p e = some reason) :
    reason.isFault = false := by
  obtain ⟨g, found, upright, inside, guard⟩ := placed
  have range : (decide (e.span.stop < e.span.start)
      || decide (g.content.length < e.span.stop.toNat)) = false := by
    simp [UInt32.not_lt.mpr upright, inside]
  have matching : (!e.oldText.isEmpty && g.text e.span != e.oldText) = false := by
    obtain none | same := guard
    · simp [none]
    · simp [File.text, same]
  simp only [editProblem?, found, range, matching, Bool.false_eq_true, if_false] at h
  split at h
  · cases h
    rfl
  split at h
  · cases h
    rfl
  · contradiction

theorem isFault_of_problem? {p : Pending} {f : Fix} (sound : f.Sound files) {reason : SkipReason}
    (h : problem? files dryRun p f = some reason) : reason.isFault = false := by
  rw [problem?, Edit.overlap?_eq_none.mpr sound.apart] at h
  obtain ⟨e, mem, eq⟩ := List.exists_of_findSome?_eq_some h
  exact isFault_of_editProblem? (sound.placed e mem) eq

theorem harmless_acceptOne {p : Progress} {c : Candidate} (sound : c.fix.Sound files)
    (h : ∀ s ∈ p.skipped, s.Harmless) : ∀ s ∈ (acceptOne files dryRun p c).skipped, s.Harmless := by
  simp only [acceptOne]
  split
  next reason problem =>
    refine List.forall_mem_append.mpr ⟨h, List.forall_mem_singleton.mpr ?_⟩
    exact harmless_skip _ (isFault_of_problem? sound problem)
  · exact h

/-- A pass over fixes that are ready, of whatever files of the set, finds no fault in any. -/
theorem apply_ready {ds : List Diagnostic}
    (ready : ∀ d ∈ ds, ∀ f ∈ d.fixes, ∃ file g, files.get? file = some g ∧ f.Ready file g.content)
    (mode : Mode) (dryRun : Bool) {s : Skipped}
    (mem : s ∈ (apply (some files) ds mode dryRun).skipped) : s.Harmless := by
  have collected : (collect ds).Sound files :=
    List.foldlRecOn ds _ ⟨by simp, by simp⟩ fun c kept d mem => kept.collectFrom (ready d mem)
  have chosen : ∀ c ∈ (choose mode (inPlaceOrder ds)).1, c.fix.Sound files := fun c mem =>
    collected.candidates c (List.mem_mergeSort.mp ((choose_sublist mode _).subset mem))
  have passed : ∀ s ∈ (choose mode (inPlaceOrder ds)).2, s.Harmless := by
    intro s mem
    obtain ⟨id, title, reason, rfl, passedOver⟩ := passedOver_of_mem_choose mem
    exact ⟨reason, by cases passedOver <;> rfl, rfl⟩
  have accepted := List.foldlRecOn (motive := fun p : Progress => ∀ s ∈ p.skipped, s.Harmless)
    (choose mode (inPlaceOrder ds)).1 (acceptOne files dryRun)
    (b := ⟨[], [], (collect ds).skipped ++ (choose mode (inPlaceOrder ds)).2⟩)
    (List.forall_mem_append.mpr ⟨collected.skipped, passed⟩)
    fun p kept c mem => harmless_acceptOne (chosen c mem) kept
  have inOrder : (collect ds).candidates.mergeSort Candidate.atMost = inPlaceOrder ds := rfl
  simp only [apply, applyAll, inOrder] at mem
  generalize (choose mode (inPlaceOrder ds)).1.foldl (acceptOne files dryRun) _ = p at mem accepted
  split at mem
  · exact collected.skipped s mem
  split at mem
  · exact accepted s mem
  split at mem <;> exact accepted s mem

end
end TreeLint.Fix
