import TreeLint.Proofs.Edit.Rewriting
import TreeLint.Fix.Apply

/-! # Accepting fixes

Chosen fixes are accepted one by one, each against the edits that are pending.  What the
loop keeps up is `Accepting`: the pending edits are those of the accepted fixes, grouped
by file; all of them fit their files and keep apart from each other, across files and
fixes; and a fix that was declined for a conflict overlaps one that was accepted earlier.

A step keeps it (`Accepting.step`), and so does a run over any list of fixes
(`Accepting.foldl`).  That the splicing afterwards cannot fail is one consequence
(`Accepting.changesOf_eq`).

What is reported of a skipped fix is a text, and some texts go on with parts that could be
anything, such as a path.  The words that a text opens with are enough to tell why the fix was
skipped: no opening begins with another one, so a text has one opening only
(`SkipReason.opening_eq`).
-/

/-! ## Telling reasons apart -/

namespace TreeLint.Fix.SkipReason

/-- The words that a message begins with, whatever else it has to say. -/
def opening : SkipReason → Text
  | failedToBuild _ => "failed to build fixes: "
  | noEdits => "fix has no edits"
  | duplicateId => "duplicate fix id"
  | idNotFound => "fix id not found"
  | requiresAll => "fix requires all fixes to be applied"
  | applicability _ => "applicability is "
  | overlap _ _ => "fix edits overlap: "
  | unknownFile => "target file is unknown"
  | fileInMemory => "target file is virtual"
  | outOfRange => "edit span out of range"
  | guardMismatch => "existing text does not match expected content"
  | conflict _ => "conflicts with previously applied edits in "

def openings : List Text :=
  [failedToBuild [], noEdits, duplicateId, idNotFound, requiresAll, applicability .alwaysSafe,
    overlap ⟨0, 0, 0⟩ ⟨0, 0, 0⟩, unknownFile, fileInMemory, outOfRange, guardMismatch,
    conflict []].map opening

theorem opening_mem (r : SkipReason) : r.opening ∈ openings := by
  cases r <;> simp [openings, opening]

theorem opening_prefix (r : SkipReason) : r.opening <+: r.message := by
  cases r with
  | failedToBuild | applicability | conflict => exact List.prefix_append _ _
  | overlap a b =>
    simp only [message, Edit.overlapMessage, List.append_assoc]
    exact List.prefix_append _ _
  | _ => exact List.prefix_refl _

/-- A message begins with its own opening and with no other. -/
theorem opening_eq {r s : SkipReason} (h : r.opening <+: s.message) : r.opening = s.opening := by
  have apart : ∀ a ∈ openings, ∀ b ∈ openings, a <+: b → a = b := by
    decide
  obtain shorter | longer := List.prefix_or_prefix_of_prefix h s.opening_prefix
  · exact apart _ r.opening_mem _ s.opening_mem shorter
  · exact (apart _ s.opening_mem _ r.opening_mem longer).symm

end TreeLint.Fix.SkipReason

namespace TreeLint.Fix

open Edit (Apart Fits)

/-! ## Pending edits -/

namespace Pending

/-- The files that have pending edits. -/
def touched (p : Pending) : List FileId := p.map Prod.fst

/-- The pending edits are those of a list, grouped by their files. -/
structure Groups (p : Pending) (edits : List Edit) : Prop where
  nodup : p.touched.Nodup
  mem_touched : ∀ file, file ∈ p.touched ↔ ∃ e ∈ edits, e.span.file = file
  group : ∀ g ∈ p, g.2 = edits.filter (·.span.file == g.1)

theorem Groups.nil : Groups [] [] := ⟨List.nodup_nil, by simp [touched], by simp⟩

/-- The pending edits of one file are those of the list that are in it. -/
theorem Groups.edits_eq {p : Pending} {edits : List Edit} (h : p.Groups edits) (file : FileId) :
    p.edits file = edits.filter (·.span.file == file) := by
  rw [Pending.edits]
  cases found : p.lookup file with
  | some group =>
    obtain ⟨before, after, eq, -⟩ := List.lookup_eq_some_iff.mp found
    exact h.group (file, group) (eq ▸ by simp)
  | none =>
    rw [List.lookup_eq_none_iff] at found
    have absent : file ∉ p.touched := by
      intro mem
      obtain ⟨g, entry, rfl⟩ := List.mem_map.mp mem
      exact bne_iff_ne.mp (found g entry) rfl
    rw [h.mem_touched] at absent
    refine (List.filter_eq_nil_iff.mpr ?_).symm
    intro e mem same
    exact absent ⟨e, mem, beq_iff_eq.mp same⟩

/-- An edit of a file that has edits pending opens no group. -/
theorem touched_insert {p : Pending} {e : Edit} (there : p.any (·.1 == e.span.file)) :
    (p.insert e).touched = p.touched := by
  rw [Pending.insert, if_pos there, touched, List.map_map]
  refine List.map_congr_left fun g _ => ?_
  simp only [Function.comp]
  split <;> rfl

/-- One more edit goes to the group of its file, or opens one. -/
theorem Groups.insert {p : Pending} {edits : List Edit} (h : p.Groups edits) (e : Edit) :
    (p.insert e).Groups (edits ++ [e]) := by
  by_cases there : p.any (·.1 == e.span.file)
  · have same := touched_insert there
    have mem : e.span.file ∈ p.touched := by
      obtain ⟨g, mem, eq⟩ := List.any_eq_true.mp there
      exact beq_iff_eq.mp eq ▸ List.mem_map_of_mem mem
    refine ⟨same ▸ h.nodup, ?_, ?_⟩
    · intro file
      rw [same, h.mem_touched]
      simp only [List.mem_append, List.mem_singleton, or_and_right, exists_or, exists_eq_left]
      refine ⟨Or.inl, ?_⟩
      rintro (old | rfl)
      · exact old
      · exact (h.mem_touched _).mp mem
    · intro g' mem'
      rw [Pending.insert, if_pos there] at mem'
      obtain ⟨g, mem, rfl⟩ := List.mem_map.mp mem'
      have group := h.group g mem
      simp only
      split
      next here => simp [group, beq_iff_eq.mp here]
      next elsewhere =>
        rw [beq_iff_eq] at elsewhere
        simp [group, Ne.symm elsewhere]
  · rw [Pending.insert, if_neg there]
    have absent : e.span.file ∉ p.touched := by
      intro mem
      obtain ⟨g, mem, eq⟩ := List.mem_map.mp mem
      exact there (List.any_eq_true.mpr ⟨g, mem, beq_iff_eq.mpr eq⟩)
    have none : edits.filter (·.span.file == e.span.file) = [] := by
      rw [List.filter_eq_nil_iff]
      intro other mem same
      exact absent ((h.mem_touched _).mpr ⟨other, mem, beq_iff_eq.mp same⟩)
    refine ⟨?_, ?_, ?_⟩
    · rw [touched, List.map_append, List.nodup_append]
      refine ⟨h.nodup, by simp, ?_⟩
      intro file mem other new same
      rw [List.map_singleton, List.mem_singleton] at new
      rw [same, new] at mem
      exact absent mem
    · intro file
      rw [touched, List.map_append, List.mem_append, ← touched, h.mem_touched]
      simp [or_and_right, exists_or, eq_comm]
    · intro g mem
      rcases List.mem_append.mp mem with old | new
      · have other : ¬ e.span.file = g.1 := fun same =>
          absent (same ▸ List.mem_map_of_mem old)
        simp [h.group g old, other]
      · rw [List.mem_singleton] at new
        simp [new, none]

theorem Groups.foldl {p : Pending} {edits : List Edit} (h : p.Groups edits) (more : List Edit) :
    (more.foldl Pending.insert p).Groups (edits ++ more) := by
  induction more generalizing p edits with
  | nil => simpa using h
  | cons e more ih => simpa using ih (h.insert e)

end Pending

/-! ## Why a fix is declined -/

/-- An edit that fits the content of a file of the set. -/
def Placed (files : FileSet) (e : Edit) : Prop :=
  ∃ f, files.get? e.span.file = some f ∧ Fits f.content e

/-- Two edits that conflict. -/
def Clash (a b : Edit) : Prop := a.span.overlaps b.span = true

/-- What is said of every conflict, whatever the file. -/
def conflictNotice : Text := "conflicts with previously applied edits in "

theorem apart_of_file_ne {a b : Edit} (file : a.span.file ≠ b.span.file) : Apart a b := by
  simp [Apart, Span.overlaps, file]

/-- No other reason reads like a conflict. -/
theorem conflictNotice_prefix {reason : SkipReason} (h : conflictNotice <+: reason.message) :
    ∃ path, reason = .conflict path := by
  have opening : conflictNotice = reason.opening := SkipReason.opening_eq (r := .conflict []) h
  cases reason with
  | conflict path => exact ⟨path, rfl⟩
  | _ =>
    simp only [SkipReason.opening] at opening
    exact absurd opening (by decide)

/-- An edit without a problem fits its file and keeps apart from what is pending there. -/
theorem editProblem?_eq_none {files : FileSet} {dryRun : Bool} {p : Pending} {e : Edit}
    (h : editProblem? files dryRun p e = none) :
    Placed files e ∧ ∀ t ∈ p.edits e.span.file, Apart t e := by
  simp only [editProblem?] at h
  cases found : files.get? e.span.file with
  | none => simp [found] at h
  | some f =>
    simp only [found] at h
    split at h
    · contradiction
    split at h
    · contradiction
    next range =>
      split at h
      · contradiction
      next guard =>
        split at h
        · contradiction
        next free =>
          rw [Bool.not_eq_true, Edit.conflicts_eq_false] at free
          simp only [Bool.or_eq_true, decide_eq_true_eq, not_or, UInt32.not_lt, Nat.not_lt] at range
          refine ⟨⟨f, found, range.1, range.2, ?_⟩, free⟩
          simp only [Bool.and_eq_true, Bool.not_eq_true', List.isEmpty_eq_false_iff, bne_iff_ne,
            not_and, ne_eq, Decidable.not_not, File.text] at guard
          by_cases none : e.oldText = []
          · exact .inl none
          · exact .inr (guard none)

/-- In a dry run that is all that is asked of an edit. -/
theorem editProblem?_of_placed {files : FileSet} {p : Pending} {e : Edit}
    (placed : Placed files e) (free : ∀ t ∈ p.edits e.span.file, Apart t e) :
    editProblem? files true p e = none := by
  obtain ⟨f, found, fits⟩ := placed
  have upright : ¬ e.span.stop < e.span.start := UInt32.not_lt.mpr fits.start_le_stop
  have inside : ¬ f.content.length < e.span.stop.toNat := Nat.not_lt.mpr fits.stop_le_length
  have guard : e.oldText = [] ∨ f.text e.span = e.oldText := fits.guard
  rw [← Edit.conflicts_eq_false] at free
  rcases guard with unguarded | same
  · simp [editProblem?, found, upright, inside, free, unguarded]
  · simp [editProblem?, found, upright, inside, free, same]

/-- A conflict is one with a pending edit of the same file. -/
theorem editProblem?_eq_conflict {files : FileSet} {dryRun : Bool} {p : Pending} {e : Edit}
    {path : Text} (h : editProblem? files dryRun p e = some (.conflict path)) :
    ∃ t ∈ p.edits e.span.file, Clash t e := by
  simp only [editProblem?] at h
  cases found : files.get? e.span.file with
  | none => simp [found] at h
  | some f =>
    simp only [found] at h
    split at h
    · simp at h
    split at h
    · simp at h
    split at h
    · simp at h
    split at h
    next clash => simpa [Edit.conflicts, Clash] using clash
    next => simp at h

theorem problem?_eq_none {files : FileSet} {dryRun : Bool} {p : Pending} {f : Fix}
    (h : problem? files dryRun p f = none) :
    f.edits.Pairwise Apart ∧ ∀ e ∈ f.edits, editProblem? files dryRun p e = none := by
  simp only [problem?] at h
  split at h
  · contradiction
  next free =>
    rw [List.findSome?_eq_none_iff] at h
    exact ⟨Edit.overlap?_eq_none.mp free, h⟩

theorem problem?_of_placed {files : FileSet} {p : Pending} {f : Fix}
    (apart : f.edits.Pairwise Apart)
    (each : ∀ e ∈ f.edits, Placed files e ∧ ∀ t ∈ p.edits e.span.file, Apart t e) :
    problem? files true p f = none := by
  rw [problem?, Edit.overlap?_eq_none.mpr apart]
  rw [List.findSome?_eq_none_iff]
  intro e mem
  exact editProblem?_of_placed (each e mem).1 (each e mem).2

theorem problem?_eq_conflict {files : FileSet} {dryRun : Bool} {p : Pending} {f : Fix}
    {path : Text} (h : problem? files dryRun p f = some (.conflict path)) :
    ∃ e ∈ f.edits, ∃ t ∈ p.edits e.span.file, Clash t e := by
  simp only [problem?] at h
  split at h
  · simp at h
  next free =>
    obtain ⟨e, mem, eq⟩ := List.exists_of_findSome?_eq_some h
    exact ⟨e, mem, editProblem?_eq_conflict eq⟩

/-! ## The loop -/

/-- The edits of fixes, in the order of the fixes. -/
def editsOf (cs : List Candidate) : List Edit := cs.flatMap (·.fix.edits)

/-- Fixes that were declined, as a report lists them. -/
def reportOf (declined : List (Candidate × SkipReason)) : List Skipped :=
  declined.map fun x => skip x.1.fix x.2

/-- What accepting has come to after the fixes `done`, when the report began with `start`. -/
structure Accepting (files : FileSet) (dryRun : Bool) (start : List Skipped)
    (done accepted : List Candidate) (declined : List (Candidate × SkipReason))
    (p : Progress) : Prop where
  split : done.Perm (accepted ++ declined.map Prod.fst)
  sublist : accepted.Sublist done
  groups : p.pending.Groups (editsOf accepted)
  applied : p.applied = accepted.map (·.record files)
  skipped : p.skipped = start ++ reportOf declined
  placed : ∀ e ∈ editsOf accepted, Placed files e
  apart : (editsOf accepted).Pairwise Apart
  /-- Who conflicts, does so with a fix that came earlier and was accepted. -/
  earlier : ∀ x ∈ declined, conflictNotice <+: x.2.message →
    ∃ b ∈ accepted, [b, x.1].Sublist done ∧ ∃ t ∈ b.fix.edits, ∃ e ∈ x.1.fix.edits, Clash t e

namespace Accepting

variable {files : FileSet} {dryRun : Bool} {start : List Skipped} {done accepted : List Candidate}
  {declined : List (Candidate × SkipReason)} {p : Progress}

theorem initial : Accepting files dryRun start [] [] [] ⟨[], [], start⟩ where
  split := .nil
  sublist := .slnil
  groups := .nil
  applied := rfl
  skipped := by simp [reportOf]
  placed := by simp [editsOf]
  apart := .nil
  earlier := by simp

/-- A fix with a problem is declined, and nothing else changes. -/
theorem decline (h : Accepting files dryRun start done accepted declined p) {c : Candidate}
    {reason : SkipReason} (problem : problem? files dryRun p.pending c.fix = some reason) :
    Accepting files dryRun start (done ++ [c]) accepted (declined ++ [(c, reason)])
      { p with skipped := p.skipped ++ [skip c.fix reason] } where
  split := by
    rw [List.map_append, ← List.append_assoc]
    exact h.split.append_right _
  sublist := h.sublist.trans (List.sublist_append_left _ _)
  groups := h.groups
  applied := h.applied
  skipped := by simp [h.skipped, reportOf]
  placed := h.placed
  apart := h.apart
  earlier := by
    intro x mem notice
    rcases List.mem_append.mp mem with old | new
    · obtain ⟨b, accepted, order, clash⟩ := h.earlier x old notice
      exact ⟨b, accepted, order.trans (List.sublist_append_left _ _), clash⟩
    · rw [List.mem_singleton] at new
      subst new
      obtain ⟨path, rfl⟩ := conflictNotice_prefix notice
      obtain ⟨e, mem, t, pending, clash⟩ := problem?_eq_conflict problem
      rw [h.groups.edits_eq, List.mem_filter] at pending
      obtain ⟨b, accepted, owns⟩ := List.mem_flatMap.mp pending.1
      have seen : [b].Sublist done :=
        List.singleton_sublist.mpr (h.sublist.subset accepted)
      exact ⟨b, accepted, seen.append_right [c], t, owns, e, mem, clash⟩

/-- A fix without a problem is accepted with all its edits. -/
theorem accept (h : Accepting files dryRun start done accepted declined p) {c : Candidate}
    (fine : problem? files dryRun p.pending c.fix = none) :
    Accepting files dryRun start (done ++ [c]) (accepted ++ [c]) declined
      { p with
        pending := c.fix.edits.foldl Pending.insert p.pending
        applied := p.applied ++ [c.record files] } := by
  obtain ⟨own, each⟩ := problem?_eq_none fine
  have edits : editsOf (accepted ++ [c]) = editsOf accepted ++ c.fix.edits := by simp [editsOf]
  refine ⟨?_, h.sublist.append_right [c], ?_, ?_, h.skipped, ?_, ?_, ?_⟩
  · refine (h.split.append_right [c]).trans ?_
    rw [List.append_assoc, List.append_assoc]
    exact List.perm_append_comm.append_left accepted
  · rw [edits]
    exact h.groups.foldl c.fix.edits
  · simp [h.applied]
  · intro e mem
    rw [edits, List.mem_append] at mem
    rcases mem with old | new
    · exact h.placed e old
    · exact (editProblem?_eq_none (each e new)).1
  · rw [edits, List.pairwise_append]
    refine ⟨h.apart, own, ?_⟩
    intro t old e new
    by_cases file : t.span.file = e.span.file
    · refine (editProblem?_eq_none (each e new)).2 t ?_
      rw [h.groups.edits_eq, List.mem_filter]
      exact ⟨old, beq_iff_eq.mpr file⟩
    · exact apart_of_file_ne file
  · intro x mem notice
    obtain ⟨b, accepted, order, clash⟩ := h.earlier x mem notice
    exact ⟨b, List.mem_append_left _ accepted, order.trans (List.sublist_append_left _ _), clash⟩

theorem step (h : Accepting files dryRun start done accepted declined p) (c : Candidate) :
    ∃ accepted declined, Accepting files dryRun start (done ++ [c]) accepted declined
      (acceptOne files dryRun p c) := by
  unfold acceptOne
  split
  next reason problem => exact ⟨_, _, h.decline problem⟩
  next fine => exact ⟨_, _, h.accept fine⟩

theorem foldl (h : Accepting files dryRun start done accepted declined p) (cs : List Candidate) :
    ∃ accepted declined, Accepting files dryRun start (done ++ cs) accepted declined
      (cs.foldl (acceptOne files dryRun) p) := by
  induction cs generalizing done accepted declined p with
  | nil => exact ⟨accepted, declined, by simpa using h⟩
  | cons c cs ih =>
    obtain ⟨accepted', declined', next⟩ := h.step c
    simpa using ih next

/-- Nothing keeps a dry run from a fix whose edits fit their files and keep apart from
those that were accepted. -/
theorem accept_of_apart (h : Accepting files true start done accepted declined p) {c : Candidate}
    (placed : ∀ e ∈ c.fix.edits, Placed files e)
    (apart : (editsOf accepted ++ c.fix.edits).Pairwise Apart) :
    Accepting files true start (done ++ [c]) (accepted ++ [c]) declined
      (acceptOne files true p c) := by
  rw [List.pairwise_append] at apart
  have fine : problem? files true p.pending c.fix = none := by
    apply problem?_of_placed apart.2.1
    intro e mem
    refine ⟨placed e mem, fun t pending => ?_⟩
    rw [h.groups.edits_eq, List.mem_filter] at pending
    exact apart.2.2 t pending.1 e mem
  have next := h.accept fine
  unfold acceptOne
  rw [fine]
  exact next

/-- Fixes that are all apart from each other are all accepted. -/
theorem foldl_of_apart (h : Accepting files true start done accepted declined p)
    (cs : List Candidate) (placed : ∀ e ∈ editsOf cs, Placed files e)
    (apart : (editsOf (accepted ++ cs)).Pairwise Apart) :
    Accepting files true start (done ++ cs) (accepted ++ cs) declined
      (cs.foldl (acceptOne files true) p) := by
  induction cs generalizing done accepted p with
  | nil => simpa using h
  | cons c cs ih =>
    rw [editsOf, List.flatMap_cons] at placed
    have front : (editsOf accepted ++ c.fix.edits).Sublist (editsOf (accepted ++ c :: cs)) := by
      simp [editsOf, ← List.append_assoc]
    have next := h.accept_of_apart (fun e mem => placed e (List.mem_append_left _ mem))
      (apart.sublist front)
    simpa using ih next (fun e mem => placed e (List.mem_append_right _ mem))
      (by simpa using apart)

end Accepting

end TreeLint.Fix
