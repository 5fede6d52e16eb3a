import TreeLint.Proofs.Fix.Selection

/-! # One pass over the fixes

Accepting checks fixes one edit at a time; splicing checks all edits of a file again.  The
second check never objects to what the first has let through, so a pass that has a file
set fails in one way only, by finding nothing to apply.  When it does apply fixes, each
file they touch is changed once, to its content with all their edits made at once
(`Applies`).  And the mode that takes all fixes accounts for each of them: it is applied,
or reported once with a reason, and the reason of a conflict is a fix that came before
(`Accounts`).

Both are parts of `apply_dryRun`.
-/

namespace TreeLint.Fix

open Edit (Apart)

/-- The edits that fixes have in one file, in the order of the fixes. -/
def editsIn (file : FileId) (cs : List Candidate) : List Edit :=
  (editsOf cs).filter (·.span.file == file)

/-- A file with the edits of fixes made at once. -/
def rewriting (files : FileSet) (cs : List Candidate) (id : FileId) : Option Change :=
  (files.get? id).map fun f =>
    ⟨f, Path.display files.cwd .relative f.path files.baseDir, (editsIn id cs).length,
      Edit.rewritten f.content (editsIn id cs)⟩

/-- The changes of a pass are those of the fixes it accepted: one for each file that they
have edits in, and no other. -/
structure Applies (files : FileSet) (accepted : List Candidate) (changes : List Change) : Prop where
  placed : ∀ e ∈ editsOf accepted, Placed files e
  apart : (editsOf accepted).Pairwise Apart
  changes : ∃ touched : List FileId, touched.Nodup ∧
    (∀ id, id ∈ touched ↔ ∃ c ∈ accepted, ∃ e ∈ c.fix.edits, e.span.file = id) ∧
    (changes.map some).Perm (touched.map (rewriting files accepted))

/-- Every fix that resolves was either accepted or declined, and the report of those not
applied lists the declined ones beside those that did not resolve. -/
structure Accounts (ds : List Diagnostic) (accepted : List Candidate)
    (declined : List (Candidate × SkipReason)) (skipped : List Skipped) : Prop where
  split : (ds.flatMap resolvedOf).Perm (accepted ++ declined.map Prod.fst)
  skipped : skipped.Perm (ds.flatMap failuresOf ++ reportOf declined)
  earlier : ∀ x ∈ declined, conflictNotice <+: x.2.message →
    ∃ b ∈ accepted, [b, x.1].Sublist (inPlaceOrder ds) ∧
      ∃ t ∈ b.fix.edits, ∃ e ∈ x.1.fix.edits, Clash t e

/-! ## Splicing what was accepted -/

section Changes

variable {files : FileSet} {dryRun : Bool} {start : List Skipped} {done accepted : List Candidate}
  {declined : List (Candidate × SkipReason)} {p : Progress}

theorem change_eq_rewriting (small : ∀ f ∈ files.files, f.content.length < UInt32.size)
    (placed : ∀ e ∈ editsOf accepted, Placed files e) (apart : (editsOf accepted).Pairwise Apart)
    {id : FileId} (touched : ∃ e ∈ editsOf accepted, e.span.file = id) :
    ∃ c, change files (id, editsIn id accepted) = .ok [c] ∧
      rewriting files accepted id = some c := by
  obtain ⟨e, mem, rfl⟩ := touched
  obtain ⟨f, found, -⟩ := placed e mem
  have inFile : ∀ a ∈ editsIn e.span.file accepted, a.span.file = e.span.file := fun a mem =>
    beq_iff_eq.mp (List.mem_filter.mp mem).2
  have fits : ∀ a ∈ editsIn e.span.file accepted, Edit.Fits f.content a := by
    intro a mem
    obtain ⟨g, found', fits⟩ := placed a (List.mem_filter.mp mem).1
    rw [inFile a mem, found, Option.some.injEq] at found'
    exact found' ▸ fits
  have spliced := Edit.splice_eq_rewritten (small f (List.mem_of_getElem? found))
    (fun a ha b hb => (inFile a ha).trans (inFile b hb).symm) fits (apart.filter _)
  simp only [change, rewriting, found, spliced, Option.map_some]
  exact ⟨_, rfl, rfl⟩

theorem changesOf_eq_map {change' : FileId → Option Change} {groups : Pending}
    (each : ∀ g ∈ groups, ∃ c, change files g = .ok [c] ∧ change' g.1 = some c) :
    (changesOf files groups).2 = none ∧
      (changesOf files groups).1.map some = groups.touched.map change' := by
  induction groups with
  | nil => exact ⟨rfl, rfl⟩
  | cons g groups ih =>
    obtain ⟨c, here, eq⟩ := each g List.mem_cons_self
    obtain ⟨fine, rest⟩ := ih fun g mem => each g (List.mem_cons_of_mem _ mem)
    simp [changesOf, here, fine, rest, eq, Pending.touched]

/-- Splicing the pending edits cannot fail, and gives each file its rewriting. -/
theorem Accepting.changesOf_eq (h : Accepting files dryRun start done accepted declined p)
    (small : ∀ f ∈ files.files, f.content.length < UInt32.size) :
    (changesOf files p.pending).2 = none ∧
      (changesOf files p.pending).1.map some
        = p.pending.touched.map (rewriting files accepted) := by
  refine changesOf_eq_map fun g mem => ?_
  have touched := (h.groups.mem_touched g.1).mp (List.mem_map_of_mem mem)
  have group : g = (g.1, editsIn g.1 accepted) := Prod.ext rfl (h.groups.group g mem)
  rw [group]
  exact change_eq_rewriting small h.placed h.apart touched

theorem Accepting.applies (h : Accepting files dryRun start done accepted declined p)
    {changes : List Change} (eq : (changes.map some).Perm
      (p.pending.touched.map (rewriting files accepted))) :
    Applies files accepted changes := by
  refine ⟨h.placed, h.apart, p.pending.touched, h.groups.nodup, fun id => ?_, eq⟩
  rw [h.groups.mem_touched]
  simp only [editsOf, List.mem_flatMap]
  constructor
  · rintro ⟨e, ⟨c, mem, owns⟩, file⟩
    exact ⟨c, mem, e, owns, file⟩
  · rintro ⟨c, mem, e, owns, file⟩
    exact ⟨e, ⟨c, mem, owns⟩, file⟩

end Changes

/-! ## The whole pass -/

/-- What a pass comes to: nothing to apply, or the changes of the fixes it accepted. -/
structure Passes (files : FileSet) (ds : List Diagnostic) (mode : Mode) (dryRun : Bool)
    (accepted : List Candidate) (declined : List (Candidate × SkipReason)) (o : Outcome) :
    Prop where
  applied : o.applied = accepted.map (·.record files)
  sublist : accepted.Sublist (inPlaceOrder ds)
  outcome : o.error? = none ∧ accepted ≠ [] ∧ Applies files accepted o.changes ∨
    o.error? = some .noFixes ∧ accepted = [] ∧ o.changes = []
  split : (choose mode (inPlaceOrder ds)).1.Perm (accepted ++ declined.map Prod.fst)
  skipped : (collect ds).candidates = [] ∧ o.skipped = (collect ds).skipped ∨
    o.skipped = (collect ds).skipped ++ (choose mode (inPlaceOrder ds)).2 ++ reportOf declined
  earlier : ∀ x ∈ declined, conflictNotice <+: x.2.message →
    ∃ b ∈ accepted, [b, x.1].Sublist (inPlaceOrder ds) ∧
      ∃ t ∈ b.fix.edits, ∃ e ∈ x.1.fix.edits, Clash t e

theorem mergeSort_candidates (ds : List Diagnostic) :
    (collect ds).candidates.mergeSort Candidate.atMost = inPlaceOrder ds := rfl

section Pass

variable {files : FileSet} {ds : List Diagnostic} {mode : Mode} {dryRun : Bool}

theorem passes_of_no_candidates (none : (collect ds).candidates = []) :
    Passes files ds mode dryRun [] [] (applyAll files ds mode dryRun) := by
  have chosen := choose_sublist mode (inPlaceOrder ds)
  have empty : inPlaceOrder ds = [] := by simp [inPlaceOrder, none]
  rw [empty, List.sublist_nil] at chosen
  simp only [applyAll, none, List.isEmpty_nil, if_true]
  exact {
    applied := rfl
    sublist := List.nil_sublist _
    outcome := .inr ⟨rfl, rfl, rfl⟩
    split := by rw [empty, chosen]; exact .nil
    skipped := .inl ⟨none, rfl⟩
    earlier := by simp }

theorem passes_of_accepting {accepted : List Candidate}
    {declined : List (Candidate × SkipReason)}
    (small : ∀ f ∈ files.files, f.content.length < UInt32.size)
    (some : (collect ds).candidates ≠ [])
    (inv : Accepting files dryRun ((collect ds).skipped ++ (choose mode (inPlaceOrder ds)).2)
      (choose mode (inPlaceOrder ds)).1 accepted declined
      ((choose mode (inPlaceOrder ds)).1.foldl (acceptOne files dryRun)
        ⟨[], [], (collect ds).skipped ++ (choose mode (inPlaceOrder ds)).2⟩)) :
    Passes files ds mode dryRun accepted declined (applyAll files ds mode dryRun) := by
  have chosen := choose_sublist mode (inPlaceOrder ds)
  have earlier : ∀ x ∈ declined, conflictNotice <+: x.2.message →
      ∃ b ∈ accepted, [b, x.1].Sublist (inPlaceOrder ds) ∧
        ∃ t ∈ b.fix.edits, ∃ e ∈ x.1.fix.edits, Clash t e := by
    intro x mem notice
    obtain ⟨b, accepted, order, clash⟩ := inv.earlier x mem notice
    exact ⟨b, accepted, order.trans chosen, clash⟩
  obtain ⟨fine, changes⟩ := inv.changesOf_eq small
  simp only [applyAll, List.isEmpty_iff, some, if_false, mergeSort_candidates]
  -- From here on the invariant is all that is known of what the loop has left.
  generalize (choose mode (inPlaceOrder ds)).1.foldl (acceptOne files dryRun)
    ⟨[], [], (collect ds).skipped ++ (choose mode (inPlaceOrder ds)).2⟩ = p at *
  split
  next nothing =>
    rw [inv.applied, List.map_eq_nil_iff] at nothing
    exact {
      applied := by simp [nothing]
      sublist := inv.sublist.trans chosen
      outcome := .inr ⟨rfl, nothing, rfl⟩
      split := inv.split
      skipped := .inr inv.skipped
      earlier }
  next something =>
    rw [inv.applied, List.map_eq_nil_iff] at something
    cases result : changesOf files p.pending with | mk made error? =>
    rw [result] at fine changes
    simp only at fine changes
    subst fine
    exact {
      applied := inv.applied
      sublist := inv.sublist.trans chosen
      outcome := .inl ⟨rfl, something,
        inv.applies (changes ▸ (List.mergeSort_perm made _).map Option.some)⟩
      split := inv.split
      skipped := .inr inv.skipped
      earlier }

theorem applyAll_passes (files : FileSet)
    (small : ∀ f ∈ files.files, f.content.length < UInt32.size) (ds : List Diagnostic)
    (mode : Mode) (dryRun : Bool) :
    ∃ accepted declined,
      Passes files ds mode dryRun accepted declined (applyAll files ds mode dryRun) := by
  by_cases empty : (collect ds).candidates = []
  · exact ⟨[], [], passes_of_no_candidates empty⟩
  · let start := (collect ds).skipped ++ (choose mode (inPlaceOrder ds)).2
    have initial : Accepting files dryRun start [] [] [] ⟨[], [], start⟩ := .initial
    obtain ⟨accepted, declined, inv⟩ := initial.foldl (choose mode (inPlaceOrder ds)).1
    exact ⟨accepted, declined, passes_of_accepting small empty inv⟩

/-- Three stages decline fixes one after the other, and what they leave is accepted. -/
theorem Passes.accounts {accepted : List Candidate} {declined : List (Candidate × SkipReason)}
    {o : Outcome} (pass : Passes files ds .all dryRun accepted declined o) :
    ∃ declined, Accounts ds accepted declined o.skipped := by
  obtain ⟨uncollected, collecting⟩ := collect_collecting ds
  obtain ⟨unchosen, choice, notices, quiet⟩ := choose_all (inPlaceOrder ds)
  have order : (collect ds).candidates.Perm (inPlaceOrder ds) := (List.mergeSort_perm _ _).symm
  have taken := order.trans (choice.trans (pass.split.append_right _))
  refine ⟨uncollected ++ unchosen ++ declined, ?_, ?_, ?_⟩
  · refine (collecting.split.trans (taken.append_right _)).trans ?_
    simp only [List.append_assoc, List.map_append]
    refine List.Perm.append_left accepted ?_
    rw [← List.append_assoc (uncollected.map Prod.fst)]
    exact List.perm_append_comm.trans (List.perm_append_comm.append_right _)
  · rcases pass.skipped with ⟨empty, skipped⟩ | skipped
    · rw [empty, List.nil_perm, List.append_eq_nil_iff, List.append_eq_nil_iff,
        List.map_eq_nil_iff, List.map_eq_nil_iff] at taken
      simpa [skipped, taken] using collecting.skipped
    · rw [skipped, notices]
      refine ((collecting.skipped.append_right _).append_right _).trans ?_
      simp [reportOf]
  · intro x mem notice
    rcases List.mem_append.mp mem with before | here
    · rcases List.mem_append.mp before with uncollected | unchosen
      · exact absurd notice (collecting.quiet x uncollected)
      · exact absurd notice (quiet x unchosen)
    · exact pass.earlier x here notice

end Pass

/-- A dry run needs a file set and something to apply, and nothing else.  What it applies
it applies exactly, and the mode that takes all fixes accounts for every one. -/
theorem apply_dryRun (files? : Option FileSet) (ds : List Diagnostic) (mode : Mode)
    (small : ∀ files, files? = some files → ∀ f ∈ files.files,
      f.content.length < UInt32.size) :
    (files? = none ∧ (apply files? ds mode true).error? = some .noFileSet) ∨
    ∃ files accepted, files? = some files ∧ accepted.Sublist (inPlaceOrder ds) ∧
      (apply files? ds mode true).applied = accepted.map (·.record files) ∧
      ((apply files? ds mode true).error? = none ∧ accepted ≠ [] ∧
          Applies files accepted (apply files? ds mode true).changes ∨
        (apply files? ds mode true).error? = some .noFixes ∧ accepted = [] ∧
          (apply files? ds mode true).changes = []) ∧
      (mode = .all → ∃ declined,
        Accounts ds accepted declined (apply files? ds mode true).skipped) := by
  cases files? with
  | none => exact .inl ⟨rfl, rfl⟩
  | some files =>
    right
    obtain ⟨accepted, declined, pass⟩ := applyAll_passes files (small files rfl) ds mode true
    refine ⟨files, accepted, rfl, pass.sublist, pass.applied, pass.outcome, ?_⟩
    rintro rfl
    exact pass.accounts

/-- A safe insertion into a file that is only held in memory is applied, and the one change shows
the file with it. -/
theorem apply_dryRun_insertion :
    let files : FileSet := ⟨[⟨0, "a.ts", "ab", ⟨true, false, false⟩⟩], [], "/"⟩
    let d := { Diagnostic.new .warning "r" [] ⟨0, 0, 1⟩ "m" with
      fixes := [.quick "t" [.insertBefore ⟨0, 1, 1⟩ "x"]] }
    let o := apply (some files) [d] .all true
    (∀ f ∈ files.files, f.content.length < UInt32.size) ∧ o.error? = none ∧
    o.changes.map (·.content) = [utf8 "axb"] ∧
    ∃ accepted, accepted ≠ [] ∧ o.applied = accepted.map (·.record files) ∧
      Applies files accepted o.changes ∧
      ∃ declined, Accounts [d] accepted declined o.skipped := by
  intro files d o
  have small : ∀ f ∈ files.files, f.content.length < UInt32.size := by decide
  have done : o.error? ≠ some .noFixes := by decide +kernel
  have shown : o.changes.map (·.content) = [utf8 "axb"] := by decide +kernel
  obtain ⟨absent, -⟩ | ⟨_, accepted, eq, -, applied, outcome, accounts⟩ :=
    apply_dryRun (some files) [d] .all fun _ eq => Option.some.inj eq ▸ small
  · contradiction
  cases eq
  rcases outcome with ⟨none, some, applies⟩ | ⟨noFixes, -⟩
  · exact ⟨small, none, shown, accepted, some, applied, applies, accounts rfl⟩
  · contradiction

end TreeLint.Fix
