import Mathlib.Data.List.Basic
import TreeLint.Proofs.Tree.InFile
import TreeLint.Run.Stored

/-! # Diagnostics in another file

What is stored of a diagnostic is the diagnostic with its fixes resolved and its spans
without their file; reading it back puts all spans into one file
(`Stored.inFile_ofDiagnostic`).  So nothing is lost by storing it when its spans were all
in that file, and the spans that were not are moved.
-/

namespace TreeLint

def Edit.inFile (file : FileId) (e : Edit) : Edit := { e with span := e.span.inFile file }

def Built.inFile (file : FileId) (b : Built) : Built :=
  { b with edits := b.edits.map (Edit.inFile file) }

def Deferred.inFile (file : FileId) (d : Deferred) : Deferred :=
  { d with build := d.build.map (Built.inFile file) }

/-- A fix with its edits in another file, those included that are still to be built. -/
def Fix.inFile (file : FileId) (f : Fix) : Fix :=
  { f with
    edits := f.edits.map (Edit.inFile file)
    deferred := f.deferred.map (Deferred.inFile file) }

namespace Diagnostic

/-- A diagnostic with its fixes resolved, without those that do not resolve. -/
def resolved (d : Diagnostic) : Diagnostic :=
  { d with fixes := d.fixes.filterMap fun f => f.resolve.toOption }

/-- A diagnostic with all its spans in one file. -/
def inFile (file : FileId) (d : Diagnostic) : Diagnostic :=
  { d with
    primary := d.primary.inFile file
    notes := d.notes.map fun n => ⟨n.span.inFile file, n.message⟩
    fixes := d.fixes.map (Fix.inFile file) }

end Diagnostic

/-! ## Edits and fixes -/

theorem Fix.inFile_inFile (file : FileId) (f : Fix) :
    (f.inFile file).inFile file = f.inFile file := by
  have edits (es : List Edit) :
      (es.map (Edit.inFile file)).map (Edit.inFile file) = es.map (Edit.inFile file) := by
    rw [List.map_map]
    rfl
  have deferred : (f.deferred.map (Deferred.inFile file)).map (Deferred.inFile file)
      = f.deferred.map (Deferred.inFile file) := by
    cases f.deferred with
    | none => rfl
    | some d =>
      simp only [Option.map_some, Deferred.inFile]
      cases d.build with
      | error reason => rfl
      | ok b => simp only [Except.map, Built.inFile, edits]
  simp only [inFile, edits, deferred]

theorem Diagnostic.inFile_inFile (file : FileId) (d : Diagnostic) :
    (d.inFile file).inFile file = d.inFile file := by
  simp [inFile, Function.comp_def, Fix.inFile_inFile]

theorem Edit.overlap?_inFile {edits : List Edit} {here : FileId}
    (h : ∀ e ∈ edits, e.span.file = here) (there : FileId) :
    overlap? (edits.map (Edit.inFile there))
      = (overlap? edits).map fun (s, t) => (s.inFile there, t.inFile there) := by
  induction edits with
  | nil => rfl
  | cons e es ih =>
    have rest : ∀ e ∈ es, e.span.file = here := fun e mem => h e (List.mem_cons_of_mem _ mem)
    have found : (es.map (Edit.inFile there)).find? (fun other =>
          (e.inFile there).span.overlaps other.span)
        = (es.find? fun other => e.span.overlaps other.span).map (Edit.inFile there) := by
      rw [List.find?_map, ← List.head?_filter, ← List.head?_filter]
      refine congrArg (fun l => (List.head? l).map _) (List.filter_congr fun other mem => ?_)
      exact Span.overlaps_inFile ((h e List.mem_cons_self).trans (rest other mem).symm) there
    rw [List.map_cons, overlap?, overlap?, found]
    cases es.find? fun other => e.span.overlaps other.span with
    | none => exact ih rest
    | some other => rfl

theorem Edit.overlap?_inFile_inFile (edits : List Edit) (here there : FileId) :
    overlap? (edits.map (Edit.inFile there))
      = (overlap? (edits.map (Edit.inFile here))).map
          fun (s, t) => (s.inFile there, t.inFile there) := by
  have own : ∀ e ∈ edits.map (Edit.inFile here), e.span.file = here := by
    intro e mem
    obtain ⟨e, -, rfl⟩ := List.mem_map.mp mem
    rfl
  rw [← overlap?_inFile own there, List.map_map]
  rfl

theorem Fix.compose_inFile (title : Text) (here : FileId) {edits : List Edit}
    (h : ∀ e ∈ edits, e.span.file = here) (there : FileId) :
    (compose title (edits.map (Edit.inFile there))).toOption
      = (compose title edits).toOption.map (Fix.inFile there) := by
  simp only [compose, Edit.overlap?_inFile h there]
  cases Edit.overlap? edits <;> rfl

/-- A resolved fix is the fix itself, or the fix with what was built for it. -/
theorem Fix.resolve_eq_ok {f g : Fix} (h : f.resolve = .ok g) :
    (f.deferred = none ∧ g = f) ∨
      ∃ d b, f.deferred = some d ∧ d.build = .ok b ∧ g = f.withBuilt d.key b := by
  simp only [resolve, resolution, built] at h
  cases late : f.deferred with
  | none =>
    simp only [late] at h
    split at h
    · contradiction
    next kept eq =>
      cases h
      exact .inl ⟨rfl, (Prod.mk.inj eq).1.symm⟩
  | some d =>
    simp only [late] at h
    cases made : d.build with
    | error reason =>
      simp only [made] at h
      contradiction
    | ok b =>
      simp only [made] at h
      split at h
      · contradiction
      next kept eq =>
        cases h
        exact .inr ⟨d, b, rfl, made, (Prod.mk.inj eq).1.symm⟩

theorem Fix.deferred_of_resolve {f g : Fix} (h : f.resolve = .ok g) : g.deferred = none := by
  obtain ⟨none, rfl⟩ | ⟨d, b, -, -, rfl⟩ := resolve_eq_ok h
  · exact none
  · rfl

/-- The edits of a fix that resolves do not overlap each other. -/
theorem Fix.overlap?_of_resolve {f g : Fix} (h : f.resolve = .ok g) :
    Edit.overlap? g.edits = none := by
  simp only [resolve, resolution] at h
  split at h
  · contradiction
  next kept eq =>
    rw [Except.ok.injEq] at h
    subst h
    split at eq
    · simp at eq
    · simp only [Prod.mk.injEq, Option.map_eq_none_iff] at eq
      exact eq.1 ▸ eq.2

theorem Fix.inFile_of_resolve {f g : Fix} {here : FileId} (own : f.inFile here = f)
    (h : f.resolve = .ok g) : g.inFile here = g := by
  obtain ⟨-, rfl⟩ | ⟨d, b, late, made, rfl⟩ := resolve_eq_ok h
  · exact own
  · have deferred : some (d.inFile here) = some d := by
      have moved := congrArg Fix.deferred own
      rwa [inFile, late] at moved
    have build : d.build.map (Built.inFile here) = d.build :=
      congrArg Deferred.build (Option.some.inj deferred)
    rw [made] at build
    have edits : b.edits.map (Edit.inFile here) = b.edits :=
      congrArg Built.edits (Except.ok.inj build)
    simp only [inFile, withBuilt, edits, Option.map_none]

/-- The resolved form of a diagnostic of one file is all in that file. -/
theorem Diagnostic.resolved_inFile {d : Diagnostic} {here : FileId} (own : d.inFile here = d) :
    d.resolved.inFile here = d.resolved := by
  have fixes : (d.resolved.fixes).map (Fix.inFile here) = d.resolved.fixes := by
    simp only [resolved, List.map_filterMap]
    refine List.filterMap_congr fun f mem => ?_
    have inside : f.inFile here = f := by
      have moved : d.fixes.map (Fix.inFile here) = d.fixes.map id :=
        (congrArg Diagnostic.fixes own).trans (List.map_id _).symm
      exact List.map_inj_left.mp moved f mem
    cases result : f.resolve with
    | error e => rfl
    | ok g => exact congrArg some (Fix.inFile_of_resolve inside result)
  have primary : d.resolved.primary.inFile here = d.resolved.primary :=
    congrArg Diagnostic.primary own
  have notes : d.resolved.notes.map (fun n => ⟨n.span.inFile here, n.message⟩) = d.resolved.notes :=
    congrArg Diagnostic.notes own
  rw [inFile, fixes, primary, notes]

/-! ## The stored form -/

namespace Stored

theorem Fix.ofFix?_eq (f : TreeLint.Fix) (file : FileId) :
    (Fix.ofFix? f).map (Fix.inFile file) = f.resolve.toOption.map (TreeLint.Fix.inFile file) := by
  unfold Fix.ofFix?
  cases resolved : f.resolve with
  | error e => rfl
  | ok g =>
    simp only [Option.map_some, Except.toOption, Fix.inFile, TreeLint.Fix.inFile, List.map_map]
    have none := TreeLint.Fix.deferred_of_resolve resolved
    obtain ⟨id, title, kind, applicability, preferred, requiresAll, edits, deferred⟩ := g
    cases none
    rfl

/-- What is stored of a fix with all its edits in one file does not depend on the file. -/
theorem Fix.ofFix?_inFile (f : TreeLint.Fix) (here there : FileId) :
    Fix.ofFix? (f.inFile there) = Fix.ofFix? (f.inFile here) := by
  have stored (file : FileId) (edits : List TreeLint.Edit) :
      (edits.map (TreeLint.Edit.inFile file)).map Edit.ofEdit = edits.map Edit.ofEdit := by
    rw [List.map_map]
    rfl
  have overlap (edits : List TreeLint.Edit) := TreeLint.Edit.overlap?_inFile_inFile edits here there
  simp only [ofFix?, TreeLint.Fix.resolve, TreeLint.Fix.resolution, TreeLint.Fix.built,
    TreeLint.Fix.inFile]
  cases f.deferred with
  | none =>
    simp only [Option.map_none, overlap f.edits]
    cases TreeLint.Edit.overlap? (f.edits.map (TreeLint.Edit.inFile here)) with
    | none => simp only [Option.map_none, stored]
    | some pair => rfl
  | some d =>
    simp only [Option.map_some, Deferred.inFile]
    cases d.build with
    | error reason => rfl
    | ok b =>
      simp only [Except.map, Built.inFile, TreeLint.Fix.withBuilt, overlap b.edits]
      cases TreeLint.Edit.overlap? (b.edits.map (TreeLint.Edit.inFile here)) with
      | none => simp only [Option.map_none, stored]
      | some pair => rfl

/-- A diagnostic that is read back for a file is the resolved one moved there. -/
theorem inFile_ofDiagnostic (file : FileId) (d : TreeLint.Diagnostic) :
    (Diagnostic.ofDiagnostic d).inFile file = d.resolved.inFile file := by
  have fixes : (d.fixes.filterMap Fix.ofFix?).map (Fix.inFile file)
      = (d.fixes.filterMap fun f => f.resolve.toOption).map (TreeLint.Fix.inFile file) := by
    rw [List.map_filterMap, List.map_filterMap]
    simp only [Fix.ofFix?_eq]
  simp only [Diagnostic.inFile, Diagnostic.ofDiagnostic, TreeLint.Diagnostic.inFile,
    TreeLint.Diagnostic.resolved, fixes, List.map_map]
  rfl

end Stored
end TreeLint
