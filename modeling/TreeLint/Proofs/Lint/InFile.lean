import Mathlib.Data.List.Basic
import TreeLint.Proofs.Lint.Entries
import TreeLint.Proofs.Rule.Uniform

/-! # A lint of the same text in another file

What is stored of the diagnostics of a file depends on its path and content, on its tree and
on the entries, and not on the number that the file has in its set (`lintFile_stored`).

The walk is followed for two linters side by side that store the same of whatever they
find.  In the end the diagnostics are sorted, and as those of a file are all in that file,
their order is one of what is stored of them.
-/

namespace TreeLint

/-- The order of diagnostics of one file, by what is stored of them. -/
def Stored.Diagnostic.atMost (d e : Stored.Diagnostic) : Bool := (d.inFile 0).atMost (e.inFile 0)

theorem Stored.Diagnostic.atMost_ofDiagnostic {d e : TreeLint.Diagnostic}
    (same : d.primary.file = e.primary.file) :
    d.atMost e = (Diagnostic.ofDiagnostic d).atMost (.ofDiagnostic e) := by
  simp only [atMost, TreeLint.Diagnostic.atMost, same, bne_self_eq_false]
  rfl

theorem sortDiagnostics_stored {ds ds' : List Diagnostic} {here there : FileId}
    (own : ∀ d ∈ ds, d.primary.file = here) (own' : ∀ d ∈ ds', d.primary.file = there)
    (same : ds'.map Stored.Diagnostic.ofDiagnostic = ds.map Stored.Diagnostic.ofDiagnostic) :
    (sortDiagnostics ds').map Stored.Diagnostic.ofDiagnostic
      = (sortDiagnostics ds).map Stored.Diagnostic.ofDiagnostic := by
  have sorted {ds : List Diagnostic} {file : FileId} (own : ∀ d ∈ ds, d.primary.file = file) :
      (sortDiagnostics ds).map Stored.Diagnostic.ofDiagnostic
        = (ds.map Stored.Diagnostic.ofDiagnostic).mergeSort Stored.Diagnostic.atMost :=
    List.map_mergeSort fun d mem e mem' =>
      Stored.Diagnostic.atMost_ofDiagnostic ((own d mem).trans (own e mem').symm)
  rw [sorted own', sorted own, same]

theorem Rule.diagnostic_stored {r : Rule} (severity : Severity) {f g : Finding}
    (same : g.stored = f.stored) :
    Stored.Diagnostic.ofDiagnostic (r.diagnostic severity g)
      = Stored.Diagnostic.ofDiagnostic (r.diagnostic severity f) := by
  have fixes (f : Finding) :
      f.fix.toList.filterMap Stored.Fix.ofFix? = (f.fix.bind Stored.Fix.ofFix?).toList := by
    cases f.fix with
    | none => rfl
    | some fix =>
      simp only [Option.toList_some, List.filterMap_cons, List.filterMap_nil, Option.bind_some]
      cases Stored.Fix.ofFix? fix <;> rfl
  simp only [Finding.stored, Prod.mk.injEq] at same
  obtain ⟨range, messageId, data, fix⟩ := same
  simp only [diagnostic, Stored.Diagnostic.ofDiagnostic, Diagnostic.new, range, messageId, data,
    fixes, fix]

/-- Computations that look alike, continued so that what they give looks alike again. -/
theorem map_bind_congr {ε α β γ δ : Type} {x y : Except ε α} {view : α → β}
    (same : y.map view = x.map view) {next next' : α → Except ε γ} {view' : γ → δ}
    (alike : ∀ a b, view b = view a → (next' b).map view' = (next a).map view') :
    (y >>= next').map view' = (x >>= next).map view' := by
  cases x with
  | error e =>
    cases y with
    | error e' => rw [Except.error.inj same]; rfl
    | ok b => contradiction
  | ok a =>
    cases y with
    | error e' => contradiction
    | ok b => exact alike a b (Except.ok.inj same)

theorem Rule.diagnostic_inFile {r : Rule} {severity : Severity} {f : Finding} {here : FileId}
    (own : f.inFile here = f) :
    (r.diagnostic severity f).inFile here = r.diagnostic severity f := by
  have span : f.span.inFile here = f.span := congrArg Finding.span own
  have fixes : f.fix.toList.map (Fix.inFile here) = f.fix.toList := by
    have fix : f.fix.map (Fix.inFile here) = f.fix := congrArg Finding.fix own
    conv_rhs => rw [← fix]
    cases f.fix <;> rfl
  simp only [Diagnostic.inFile, diagnostic, Diagnostic.new, span, fixes, List.map_nil]

namespace Running

/-! ## Two walks side by side -/

/-- A running rule as far as what is stored of its findings. -/
def stored (r : Running) : Entry × (Memory → Visit → Except Fault (Memory ×
    List (Stored.Range × Text × Template.Data × Option Stored.Fix))) × Memory :=
  (r.entry, r.visitor.stored, r.memory)

theorem diagnostics_stored {r : Rule} (severity : Severity) {found found' : List Finding}
    (same : found'.map Finding.stored = found.map Finding.stored) :
    (found'.map (r.diagnostic severity)).map Stored.Diagnostic.ofDiagnostic
      = (found.map (r.diagnostic severity)).map Stored.Diagnostic.ofDiagnostic := by
  induction found generalizing found' with
  | nil => rw [List.map_eq_nil_iff.mp same]
  | cons f fs ih =>
    cases found' with
    | nil => contradiction
    | cons g gs =>
      obtain ⟨head, tail⟩ := List.cons.inj same
      simp only [List.map_cons, Rule.diagnostic_stored severity head, ih tail]

/-- Rules that store the same still do after a step, and so for what they find at it. -/
theorem step_stored {r r' : Running} (same : r'.stored = r.stored) (v : Visit) :
    (r'.step v).map (Prod.map stored (List.map Stored.Diagnostic.ofDiagnostic))
      = (r.step v).map (Prod.map stored (List.map Stored.Diagnostic.ofDiagnostic)) := by
  obtain ⟨entry, visitor, memory⟩ := r
  obtain ⟨entry', visitor', memory'⟩ := r'
  simp only [stored, Prod.mk.injEq] at same
  obtain ⟨rfl, visitors, rfl⟩ := same
  refine map_bind_congr (congrFun (congrFun visitors memory') v) fun x y eq => ?_
  obtain ⟨memories, found⟩ := Prod.mk.inj eq
  simp only [pure, Except.pure, Except.map, Prod.map, stored, memories, visitors,
    diagnostics_stored _ found]

theorem stepAll_stored {rs rs' : List Running} (same : rs'.map stored = rs.map stored)
    (v : Visit) :
    (stepAll v rs').map (Prod.map (List.map stored) (List.map Stored.Diagnostic.ofDiagnostic))
      = (stepAll v rs).map
          (Prod.map (List.map stored) (List.map Stored.Diagnostic.ofDiagnostic)) := by
  induction rs generalizing rs' with
  | nil => rw [List.map_eq_nil_iff.mp same]
  | cons r rs ih =>
    cases rs' with
    | nil => contradiction
    | cons r' rs' =>
      obtain ⟨head, tail⟩ := List.cons.inj same
      refine map_bind_congr (step_stored head v) fun x y first => ?_
      refine map_bind_congr (ih tail) fun xs ys rest => ?_
      obtain ⟨firsts, found⟩ := Prod.mk.inj first
      obtain ⟨rests, more⟩ := Prod.mk.inj rest
      simp only [pure, Except.pure, Except.map, Prod.map, List.map_cons, List.map_append, firsts,
        found, rests, more]

theorem walk_stored {rs rs' : List Running} (same : rs'.map stored = rs.map stored)
    (vs : List Visit) :
    (walk rs' vs).map (List.map Stored.Diagnostic.ofDiagnostic)
      = (walk rs vs).map (List.map Stored.Diagnostic.ofDiagnostic) := by
  induction vs generalizing rs rs' with
  | nil => rfl
  | cons v vs ih =>
    refine map_bind_congr (stepAll_stored same v) fun x y here => ?_
    obtain ⟨after, found⟩ := Prod.mk.inj here
    refine map_bind_congr (ih after) fun xs ys later => ?_
    simp only [pure, Except.pure, Except.map, List.map_append, found, later]

end Running

section Lint

variable {tree : Tree} {file other : File} (cwd : Text)

theorem Entry.start_stored (whole : tree.Whole) (path : other.path = file.path)
    (content : other.content = file.content) (there : FileId) {e : Entry} (blind : e.rule.Blind) :
    ((e.start (tree.inFile there) other cwd).mapError Stored.Diagnostic.ofDiagnostic).map
        Running.stored
      = ((e.start tree file cwd).mapError Stored.Diagnostic.ofDiagnostic).map Running.stored := by
  have same := blind.stored ⟨tree, file, cwd, e.options⟩ there other whole path content
  simp only [Context.inFile] at same
  simp only [Entry.start]
  cases here : e.rule.create ⟨tree, file, cwd, e.options⟩ with
  | error reason =>
    rw [here] at same
    cases moved : e.rule.create ⟨tree.inFile there, other, cwd, e.options⟩ with
    | error reason' =>
      rw [moved] at same
      rw [Except.error.inj same, Tree.root_inFile, Tree.span_of_deref? there tree whole.root]
      rfl
    | ok v' => rw [moved] at same; contradiction
  | ok v =>
    rw [here] at same
    cases moved : e.rule.create ⟨tree.inFile there, other, cwd, e.options⟩ with
    | error reason' => rw [moved] at same; contradiction
    | ok v' =>
      rw [moved] at same
      exact congrArg (fun step => Except.ok (e, step, [])) (Except.ok.inj same)

theorem Entry.started_stored (whole : tree.Whole) (path : other.path = file.path)
    (content : other.content = file.content) (there : FileId) {entries : List Entry}
    (blind : ∀ e ∈ entries, e.rule.Blind) :
    (started (tree.inFile there) other cwd entries).map Running.stored
      = (started tree file cwd entries).map Running.stored := by
  simp only [started, List.map_filterMap]
  refine List.filterMap_congr fun e mem => ?_
  have alike := start_stored cwd whole path content there (blind e mem)
  cases here : e.start tree file cwd <;> cases moved : e.start (tree.inFile there) other cwd <;>
    simp_all [Except.map, Except.mapError, Except.toOption]

theorem Entry.rejected_stored (whole : tree.Whole) (path : other.path = file.path)
    (content : other.content = file.content) (there : FileId) {entries : List Entry}
    (blind : ∀ e ∈ entries, e.rule.Blind) :
    (rejected (tree.inFile there) other cwd entries).map Stored.Diagnostic.ofDiagnostic
      = (rejected tree file cwd entries).map Stored.Diagnostic.ofDiagnostic := by
  simp only [rejected, List.map_filterMap]
  refine List.filterMap_congr fun e mem => ?_
  have alike := start_stored cwd whole path content there (blind e mem)
  cases here : e.start tree file cwd <;> cases moved : e.start (tree.inFile there) other cwd <;>
    simp_all [Except.map, Except.mapError]

/-! ## Where diagnostics are -/

/-- What a running rule finds has a property, whatever it remembers. -/
def Running.Finds (p : Finding → Prop) (r : Running) : Prop :=
  ∀ memory visit memory' found, r.visitor.step memory visit = .ok (memory', found) →
    ∀ f ∈ found, p f

/-- The diagnostics of findings with a property. -/
def Diagnostic.Of (p : Finding → Prop) (d : Diagnostic) : Prop :=
  ∃ (r : Rule) (severity : Severity) (f : Finding), p f ∧ d = r.diagnostic severity f

section Finds

variable {p : Finding → Prop}

theorem Running.step_finds {r r' : Running} (finds : r.Finds p) {v : Visit}
    {found : List Diagnostic} (h : r.step v = .ok (r', found)) :
    r'.Finds p ∧ ∀ d ∈ found, d.Of p := by
  simp only [step, bind, Except.bind, pure, Except.pure] at h
  split at h
  · contradiction
  next x stepped =>
    cases h
    refine ⟨finds, fun d mem => ?_⟩
    obtain ⟨f, owned, rfl⟩ := List.mem_map.mp mem
    exact ⟨_, _, f, finds _ _ _ _ stepped f owned, rfl⟩

theorem Running.stepAll_finds {rs rs' : List Running} (finds : ∀ r ∈ rs, r.Finds p)
    {v : Visit} {found : List Diagnostic} (h : stepAll v rs = .ok (rs', found)) :
    (∀ r ∈ rs', r.Finds p) ∧ ∀ d ∈ found, d.Of p := by
  induction rs generalizing rs' found with
  | nil =>
    cases h
    simp
  | cons r rs ih =>
    obtain ⟨r', own, rest, others, stepped, all, rfl, rfl⟩ := stepAll_cons h
    obtain ⟨first, here⟩ := step_finds (finds r List.mem_cons_self) stepped
    obtain ⟨later, there⟩ := ih (fun r mem => finds r (List.mem_cons_of_mem _ mem)) all
    exact ⟨List.forall_mem_cons.mpr ⟨first, later⟩, List.forall_mem_append.mpr ⟨here, there⟩⟩

theorem Running.walk_finds {rs : List Running} (finds : ∀ r ∈ rs, r.Finds p)
    {vs : List Visit} {found : List Diagnostic} (h : walk rs vs = .ok found) :
    ∀ d ∈ found, d.Of p := by
  induction vs generalizing rs found with
  | nil =>
    cases h
    simp
  | cons v vs ih =>
    obtain ⟨rs', here, later, stepped, walked, rfl⟩ := walk_cons_eq_ok h
    obtain ⟨after, found⟩ := stepAll_finds finds stepped
    exact List.forall_mem_append.mpr ⟨found, ih after walked⟩

end Finds

theorem Entry.started_finds {p : Finding → Prop} {entries : List Entry}
    (finds : ∀ e ∈ entries, ∀ v, e.rule.create ⟨tree, file, cwd, e.options⟩ = .ok v →
      Running.Finds p ⟨e, v, []⟩) :
    ∀ r ∈ started tree file cwd entries, r.Finds p := by
  intro r mem
  obtain ⟨e, owned, set_up⟩ := mem_started.mp mem
  simp only [start] at set_up
  split at set_up
  next v created =>
    cases set_up
    exact finds e owned v created
  · contradiction

/-- The report of a rule that cannot be set up is at the root. -/
theorem Entry.rejected_inFile (whole : tree.Whole) (entries : List Entry) :
    ∀ d ∈ rejected tree file cwd entries, d.inFile tree.file = d := by
  intro d mem
  obtain ⟨e, -, failed⟩ := mem_rejected.mp mem
  simp only [start] at failed
  split at failed
  · contradiction
  · cases failed
    have root := Tree.span_inFile_self whole.own whole.root
    simp only [Diagnostic.inFile, Diagnostic.new, ← Span.startPoint_inFile, root, List.map_nil]

/-- All that is found of a file is in that file. -/
theorem Entry.found_primary (whole : tree.Whole) {entries : List Entry}
    (blind : ∀ e ∈ entries, e.rule.Blind) {vs : List Visit} {found : List Diagnostic}
    (h : Running.walk (started tree file cwd entries) vs = .ok found) :
    ∀ d ∈ rejected tree file cwd entries ++ found, d.primary.file = tree.file := by
  have finds : ∀ r ∈ started tree file cwd entries, r.Finds (·.span.file = tree.file) :=
    started_finds cwd fun e mem v created =>
      (blind e mem).primary ⟨tree, file, cwd, e.options⟩ v whole created
  refine List.forall_mem_append.mpr ⟨fun d mem => ?_, fun d mem => ?_⟩
  · rw [← rejected_inFile cwd whole entries d mem]
    rfl
  · obtain ⟨r, severity, f, own, rfl⟩ := Running.walk_finds finds h d mem
    exact own

/-- What rules find that are blind to the file is in that file as a whole. -/
theorem Entry.found_inFile (whole : tree.Whole) {entries : List Entry}
    (uniform : ∀ e ∈ entries, e.rule.Uniform) {vs : List Visit} {found : List Diagnostic}
    (h : Running.walk (started tree file cwd entries) vs = .ok found) :
    ∀ d ∈ rejected tree file cwd entries ++ found, d.inFile tree.file = d := by
  have finds : ∀ r ∈ started tree file cwd entries,
      r.Finds fun f => f.inFile tree.file = f := by
    refine started_finds cwd fun e mem v created memory visit memory' found step f owned => ?_
    have own := (uniform e mem).own (c := ⟨tree, file, cwd, e.options⟩) whole created
    have moved := (Visitor.inFile_found own step).trans (List.map_id found).symm
    exact List.map_inj_left.mp moved f owned
  refine List.forall_mem_append.mpr ⟨rejected_inFile cwd whole entries, fun d mem => ?_⟩
  obtain ⟨r, severity, f, own, rfl⟩ := Running.walk_finds finds h d mem
  exact Rule.diagnostic_inFile own

/-! ## Two lints side by side -/

/-- What is stored of the diagnostics of a file does not depend on its number. -/
theorem lintFile_stored (whole : tree.Whole) (path : other.path = file.path)
    (content : other.content = file.content) (there : FileId) {entries : List Entry}
    (blind : ∀ e ∈ entries, e.rule.Blind) :
    (lintFile entries cwd (tree.inFile there) other).map
        (List.map Stored.Diagnostic.ofDiagnostic)
      = (lintFile entries cwd tree file).map (List.map Stored.Diagnostic.ofDiagnostic) := by
  have started := Entry.started_stored cwd whole path content there blind
  have rejected := Entry.rejected_stored cwd whole path content there blind
  have walked := Running.walk_stored started (tree.visits (fun _ => false) tree.root)
  simp only [lintFile, Tree.visits_inFile, Tree.root_inFile]
  cases here : Running.walk (Entry.started tree file cwd entries)
      (tree.visits (fun _ => false) tree.root) with
  | error f =>
    cases moved : Running.walk (Entry.started (tree.inFile there) other cwd entries)
        (tree.visits (fun _ => false) tree.root) with
    | error f' =>
      rw [here, moved] at walked
      rw [Except.error.inj walked]
    | ok found' => rw [here, moved] at walked; contradiction
  | ok found =>
    cases moved : Running.walk (Entry.started (tree.inFile there) other cwd entries)
        (tree.visits (fun _ => false) tree.root) with
    | error f' => rw [here, moved] at walked; contradiction
    | ok found' =>
      rw [here, moved] at walked
      refine congrArg Except.ok (sortDiagnostics_stored (Entry.found_primary cwd whole blind here)
        (Entry.found_primary cwd (whole.inFile there) blind moved) ?_)
      rw [List.map_append, List.map_append, rejected, Except.ok.inj walked]

/-- The diagnostics of a file are in that file. -/
theorem lintFile_primary (whole : tree.Whole) {entries : List Entry}
    (blind : ∀ e ∈ entries, e.rule.Blind) {ds : List Diagnostic}
    (h : lintFile entries cwd tree file = .ok ds) : ∀ d ∈ ds, d.primary.file = tree.file := by
  obtain ⟨found, walked, rfl⟩ := lintFile_eq_ok h
  intro d mem
  rw [sortDiagnostics, List.mem_mergeSort] at mem
  exact Entry.found_primary cwd whole blind walked d mem

/-- The diagnostics of rules that are blind to the file are in that file as a whole. -/
theorem lintFile_inFile (whole : tree.Whole) {entries : List Entry}
    (uniform : ∀ e ∈ entries, e.rule.Uniform) {ds : List Diagnostic}
    (h : lintFile entries cwd tree file = .ok ds) : ∀ d ∈ ds, d.inFile tree.file = d := by
  obtain ⟨found, walked, rfl⟩ := lintFile_eq_ok h
  intro d mem
  rw [sortDiagnostics, List.mem_mergeSort] at mem
  exact Entry.found_inFile cwd whole uniform walked d mem

end Lint
end TreeLint
