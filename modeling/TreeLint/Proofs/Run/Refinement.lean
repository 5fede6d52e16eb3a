import Mathlib.Data.List.Forall2
import TreeLint.Proofs.Run.Invariant

/-! # Runs with a cache

A run with a sound cache gives, in whatever order its tasks go, what a run without any cache
gives that lints one file after the other (`yields_agrees`).  The results that were found in
the cache have their fixes resolved, and all spans of them are in the file.  The one rule
that puts an edit anywhere else is the one about comments on queries, so without it resolving
the fixes is all the difference there is.

The invariant of schedules relates the outcomes one by one; here the relation is carried
through merging, sorting and dropping to the results of the run.
-/

namespace TreeLint

/-! ## Merging diagnostics -/

/-- Lists that are related item by item are so after sorting, if the relation respects the
order. -/
theorem forall₂_mergeSort {α : Type} {ρ : α → α → Prop} {le : α → α → Bool}
    (respects : ∀ a b c d, ρ a b → ρ c d → le a c = le b d) {l m : List α}
    (h : List.Forall₂ ρ l m) : List.Forall₂ ρ (l.mergeSort le) (m.mergeSort le) := by
  obtain ⟨length, related⟩ := List.forall₂_iff_zip.mp h
  have pairs : ∀ p ∈ l.zip m, ρ p.1 p.2 := fun p mem => related mem
  have first : ((l.zip m).mergeSort fun p q => le p.1 q.1).map Prod.fst = l.mergeSort le := by
    conv => rhs; rw [← List.map_fst_zip (Nat.le_of_eq length)]
    exact List.map_mergeSort (by simp)
  have second : ((l.zip m).mergeSort fun p q => le p.1 q.1).map Prod.snd = m.mergeSort le := by
    conv => rhs; rw [← List.map_snd_zip (Nat.le_of_eq length.symm)]
    exact List.map_mergeSort fun p mem q mem' =>
      respects _ _ _ _ (pairs p mem) (pairs q mem')
  rw [← first, ← second, List.forall₂_map_left_iff, List.forall₂_map_right_iff, List.forall₂_same]
  exact fun p mem => pairs p (List.mem_mergeSort.mp mem)

/-- Whether a diagnostic is another one with its fixes resolved, or the same. -/
def Diagnostic.Kept (d fresh : Diagnostic) : Prop := d = fresh ∨ d = fresh.resolved

/-- Whether a diagnostic is another one with its fixes resolved and all of it in the file where
it begins, or the same. -/
def Diagnostic.Moved (d fresh : Diagnostic) : Prop :=
  d = fresh ∨ d = fresh.resolved.inFile fresh.primary.file

/-- Relations of diagnostics that are shown alike in a list. -/
def Diagnostic.Respects (ρ : Diagnostic → Diagnostic → Prop) : Prop :=
  ∀ d e, ρ d e → d.primary = e.primary ∧ d.severity = e.severity ∧ d.code = e.code

theorem Diagnostic.respects_kept : Respects Kept := by
  rintro d e (rfl | rfl) <;> exact ⟨rfl, rfl, rfl⟩

theorem Diagnostic.respects_moved : Respects Moved := by
  rintro d e (rfl | rfl) <;> exact ⟨rfl, rfl, rfl⟩

theorem Diagnostic.Respects.atMost {ρ : Diagnostic → Diagnostic → Prop} (h : Respects ρ)
    (a b c d : Diagnostic) (ab : ρ a b) (cd : ρ c d) : a.atMost c = b.atMost d := by
  obtain ⟨primary, severity, code⟩ := h a b ab
  obtain ⟨primary', severity', code'⟩ := h c d cd
  simp only [Diagnostic.atMost, primary, severity, code, primary', severity', code']

namespace Run

section Merge

variable {ρ : Diagnostic → Diagnostic → Prop}

/-- Bags of related diagnostics. -/
structure BagsRelated (ρ : Diagnostic → Diagnostic → Prop) (b c : Bag × Nat) : Prop where
  limit : b.1.limit = c.1.limit
  items : List.Forall₂ ρ b.1.items c.1.items
  dropped : b.2 = c.2

theorem merge_forall₂ (respects : Diagnostic.Respects ρ) (limit : Int) {ds es : List Diagnostic}
    (h : List.Forall₂ ρ ds es) : BagsRelated ρ (merge limit ds) (merge limit es) := by
  refine List.rel_foldl (P := BagsRelated ρ) ?_ ⟨rfl, .nil, rfl⟩
    (forall₂_mergeSort respects.atMost h)
  rintro ⟨b, m⟩ ⟨c, n⟩ ⟨limits, items, rfl⟩ d e related
  simp only [Bag.add?, show b.limit = c.limit from limits, items.length_eq]
  by_cases full : 0 < c.limit ∧ c.limit ≤ c.items.length
  · simp only [if_pos full]
    exact ⟨limits, items, rfl⟩
  · simp only [if_neg full]
    exact ⟨rfl, List.rel_append items (.cons related .nil), rfl⟩

end Merge

/-! ## Results -/

/-- Results for one file whose diagnostics are related, and equal unless they were found in the
cache. -/
structure FileResult.AgreesBy (ρ : Diagnostic → Diagnostic → Prop) (r fresh : FileResult) :
    Prop where
  path : r.path = fresh.path
  file : r.file = fresh.file
  diagnostics : List.Forall₂ ρ r.diagnostics fresh.diagnostics
  uncached : r.cached = false → r.diagnostics = fresh.diagnostics

/-- Results of runs over the same files, with related diagnostics for each file and in the bag. -/
structure Result.AgreesBy (ρ : Diagnostic → Diagnostic → Prop) (r fresh : Result) : Prop where
  files : r.files = fresh.files
  results : List.Forall₂ (FileResult.AgreesBy ρ) r.results fresh.results
  limit : r.bag.limit = fresh.bag.limit
  items : List.Forall₂ ρ r.bag.items fresh.bag.items
  dropped : r.dropped = fresh.dropped

/-- Whether what was found in the cache has, with its fixes resolved, all its spans in its file. -/
def Result.SettledBy (r fresh : Result) : Prop :=
  List.Forall₂ (fun x y : FileResult => x.cached = true →
    ∀ d ∈ y.diagnostics, d.resolved.inFile y.file = d.resolved) r.results fresh.results

/-- The result of one source. -/
def resultOf (x : Loaded × Outcome) : FileResult :=
  ⟨x.1.path, x.1.file, x.2.cached, x.2.diagnostics⟩

section Results

variable {s : Settings} {disk : Disk} {files : FileSet} {paths : List Text}
  {outcomes freshes : List (Loaded × Outcome)} {cache last : Option Cache}

theorem results_assemble (s : Settings) (files : FileSet) (paths : List Text)
    (outcomes : List (Loaded × Outcome)) (last : Option Cache) :
    (assemble s files paths outcomes last).results = outcomes.map resultOf := rfl

theorem forall₂_results {ρ : FileResult → FileResult → Prop} :
    List.Forall₂ ρ (assemble s files paths outcomes last).results
        (assemble s files paths freshes cache).results
      ↔ List.Forall₂ (fun x y => ρ (resultOf x) (resultOf y)) outcomes freshes := by
  rw [results_assemble, results_assemble, List.forall₂_map_left_iff, List.forall₂_map_right_iff]

theorem assemble_agreesBy {ρ : Diagnostic → Diagnostic → Prop} (respects : Diagnostic.Respects ρ)
    (h : List.Forall₂ (fun x y => FileResult.AgreesBy ρ (resultOf x) (resultOf y))
      outcomes freshes) :
    (assemble s files paths outcomes last).AgreesBy ρ (assemble s files paths freshes cache) := by
  have results : List.Forall₂ (FileResult.AgreesBy ρ) (outcomes.map resultOf)
      (freshes.map resultOf) := by
    rwa [List.forall₂_map_left_iff, List.forall₂_map_right_iff]
  have diagnostics := List.rel_flatMap results fun x y agrees => agrees.diagnostics
  obtain ⟨limit, items, dropped⟩ := merge_forall₂ respects s.limit diagnostics
  exact ⟨rfl, results, limit, items, dropped⟩

/-- An outcome that agrees with a fresh one differs from it in where its spans are, and in that
its fixes are resolved. -/
theorem Outcome.Agrees.moved {source : Loaded} {o fresh : Outcome}
    (h : o.Agrees s source.file fresh) :
    FileResult.AgreesBy Diagnostic.Moved (resultOf (source, o)) (resultOf (source, fresh)) := by
  refine ⟨rfl, rfl, ?_, ?_⟩
  · cases h with
    | same uncached diagnostics =>
      simp only [resultOf, diagnostics]
      exact List.forall₂_same.mpr fun d _ => .inl rfl
    | stored cached settled diagnostics =>
      simp only [resultOf, diagnostics, List.forall₂_map_left_iff]
      exact List.forall₂_same.mpr fun d mem => .inr (by rw [settled.primary d mem])
  · intro uncached
    cases h with
    | same _ diagnostics => exact diagnostics
    | stored cached =>
      rw [resultOf, cached] at uncached
      contradiction

/-- It differs from it in its fixes alone if all that it found in the cache was in the file. -/
theorem Outcome.Agrees.kept_iff {source : Loaded} {o fresh : Outcome}
    (h : o.Agrees s source.file fresh) :
    FileResult.AgreesBy Diagnostic.Kept (resultOf (source, o)) (resultOf (source, fresh)) ↔
      (o.cached = true → ∀ d ∈ fresh.diagnostics, d.resolved.inFile source.file = d.resolved) := by
  cases h with
  | same uncached diagnostics =>
    refine ⟨fun _ cached => by rw [uncached] at cached; contradiction, fun _ => ?_⟩
    refine ⟨rfl, rfl, ?_, fun _ => diagnostics⟩
    simp only [resultOf, diagnostics]
    exact List.forall₂_same.mpr fun d _ => .inl rfl
  | stored cached settled diagnostics =>
    have related : List.Forall₂ Diagnostic.Kept o.diagnostics fresh.diagnostics ↔
        ∀ d ∈ fresh.diagnostics, (d.resolved.inFile source.file).Kept d := by
      rw [diagnostics, List.forall₂_map_left_iff, List.forall₂_same]
    constructor
    · intro agrees _ d mem
      obtain same | same := related.mp agrees.diagnostics d mem
      · refine Diagnostic.resolved_inFile ?_
        rw [← same, Diagnostic.inFile_inFile]
      · exact same
    · intro inside
      refine ⟨rfl, rfl, related.mpr fun d mem => .inr (inside cached d mem), fun uncached => ?_⟩
      rw [resultOf, cached] at uncached
      contradiction

/-- Without the rule about comments on queries all that is found in the cache was in the file. -/
theorem Outcome.Agrees.inside {source : Loaded} {o fresh : Outcome}
    (h : o.Agrees s source.file fresh)
    (others : ∀ e ∈ s.entries, e.name ≠ Rule.sequelizeComment.name) (cached : o.cached = true) :
    ∀ d ∈ fresh.diagnostics, d.resolved.inFile source.file = d.resolved := by
  cases h with
  | same uncached => rw [uncached] at cached; contradiction
  | stored _ settled =>
    exact fun d mem => Diagnostic.resolved_inFile (settled.inFile others d mem)

/-- The outcomes of some sources and those of lints of them without a cache. -/
def Paired (s : Settings) (disk : Disk) (files : FileSet) (x y : Loaded × Outcome) : Prop :=
  x.1 = y.1 ∧ lintLoaded s disk files none y.1 = .ok y.2 ∧ x.2.Agrees s y.1.file y.2

theorem exists_paired (h : ∀ x ∈ outcomes, Agreed s disk files x.1 x.2) :
    ∃ freshes, List.Forall₂ (Paired s disk files) outcomes freshes := by
  induction outcomes with
  | nil => exact ⟨[], .nil⟩
  | cons x rest ih =>
    rw [List.forall_mem_cons] at h
    obtain ⟨fresh, linted, agrees⟩ := h.1
    obtain ⟨freshes, paired⟩ := ih h.2
    exact ⟨(x.1, fresh) :: freshes, .cons ⟨rfl, linted, agrees⟩ paired⟩

theorem lintAll_of_paired (h : List.Forall₂ (Paired s disk files) outcomes freshes) :
    lintAll s disk files none (outcomes.map Prod.fst) = .ok (freshes, none) := by
  have sources : outcomes.map Prod.fst = freshes.map Prod.fst := by
    induction h with
    | nil => rfl
    | cons paired _ ih => rw [List.map_cons, List.map_cons, paired.1, ih]
  have linted : ∀ y ∈ freshes, lintLoaded s disk files none y.1 = .ok y.2 := by
    clear sources
    induction h with
    | nil => simp
    | cons paired _ ih => exact List.forall_mem_cons.mpr ⟨paired.2.1, ih⟩
  rw [sources, lintAll_fresh linted]

end Results

/-! ## Runs -/

/-- The jobs of the sources at some paths. -/
def JobAt (s : Settings) (disk : Disk) (paths : List Text) (j : Job) : Prop :=
  ∃ files sources, loadAll disk (FileSet.empty disk.cwd s.cwd) paths = (files, sources) ∧
    ∃ source ∈ sources, Takes s disk files source j

theorem sound_of_reaches {optionsOf : Text → Text → Options} {jobs : Job → Prop}
    (known : Jobs optionsOf jobs) {s : Settings} {disk : Disk} {cache : Option Cache}
    {paths : List Text} (own : ∀ j, JobAt s disk paths j → jobs j)
    (sound : ∀ c ∈ cache, c.Sound jobs) {files : FileSet} {sources : List Loaded}
    (loaded : loadAll disk (FileSet.empty disk.cwd s.cwd) paths = (files, sources)) {last : State}
    (path : Reaches s disk files (.start cache sources) last) :
    last.Sound jobs s disk files sources :=
  reaches_sound known (fun _ _ => id_of_get? loaded)
    (fun source mem j takes => own j ⟨files, sources, loaded, source, mem, takes⟩)
    (start_sound sound) path

/-- A run with a sound cache, however its tasks take turns, ends as one without a cache that
lints one file after the other: in an error if that does, and else with the same files and as
many diagnostics dropped, and the cache it leaves is sound.

What was found in the cache has its fixes resolved and all its spans in its file.  So the fixes
are all that differs just when the spans were in the file to begin with, as they are without the
rule about comments on queries. -/
theorem yields_agrees {optionsOf : Text → Text → Options} {jobs : Job → Prop}
    (known : Jobs optionsOf jobs) {s : Settings} {disk : Disk} {cache : Option Cache}
    {paths : List Text} (own : ∀ j, JobAt s disk paths j → jobs j)
    (sound : ∀ c ∈ cache, c.Sound jobs) {result : Except Error Result} :
    Yields s disk cache paths result → match result with
    | .error _ => ∃ e, lint s disk none false paths = .error e
    | .ok r => (∀ c ∈ r.cache, c.Sound jobs) ∧
      ∃ fresh, lint s disk none false paths = .ok fresh ∧
        r.AgreesBy Diagnostic.Moved fresh ∧
        (r.AgreesBy Diagnostic.Kept fresh ↔ r.SettledBy fresh) ∧
        ((∀ e ∈ s.entries, e.name ≠ Rule.sequelizeComment.name) → r.SettledBy fresh) := by
  intro yields
  cases yields with
  | @error files sources last tasks source e loaded path failed =>
    have invariant := sound_of_reaches known own sound loaded path
    have mem : source ∈ sources := by
      rw [← invariant.sources]
      exact List.mem_map_of_mem failed
    obtain ⟨e', stuck⟩ := lintAll_stuck mem (invariant.tasks _ failed)
    exact ⟨e', by rw [lint_eq loaded, stuck]; rfl⟩
  | @ok files sources outcomes last loaded path =>
    have invariant := sound_of_reaches known own sound loaded path
    have agreed : ∀ x ∈ outcomes, Agreed s disk files x.1 x.2 := by
      intro x mem
      exact invariant.tasks (x.1, .done x.2) (List.mem_map_of_mem mem)
    obtain ⟨freshes, paired⟩ := exists_paired agreed
    have order : outcomes.map Prod.fst = sources := by
      rw [← invariant.sources, List.map_map]
      rfl
    have alone : lint s disk none false paths = .ok (assemble s files paths freshes none) := by
      rw [lint_eq loaded, ← order, lintAll_of_paired paired]
      rfl
    have agrees : List.Forall₂ (fun x y => x.1 = y.1 ∧ x.2.Agrees s y.1.file y.2)
        outcomes freshes := paired.imp fun x y p => ⟨p.1, p.2.2⟩
    refine ⟨invariant.cache, _, alone, ?_, ⟨fun kept => ?_, fun settled => ?_⟩, fun others => ?_⟩
    · refine assemble_agreesBy Diagnostic.respects_moved (agrees.imp ?_)
      rintro ⟨source, o⟩ y ⟨same, h⟩
      cases same
      exact h.moved
    · refine forall₂_results.mpr (agrees.mp ?_ (forall₂_results.mp kept.results))
      rintro ⟨source, o⟩ y ⟨same, h⟩ both
      cases same
      exact h.kept_iff.mp both
    · refine assemble_agreesBy Diagnostic.respects_kept
        (agrees.mp ?_ (forall₂_results.mp settled))
      rintro ⟨source, o⟩ y ⟨same, h⟩ inside
      cases same
      exact h.kept_iff.mpr inside
    · exact forall₂_results.mpr (agrees.imp fun x y h => h.2.inside others)

/-- A call in a function is found twice alike, the second time with the cache that the first
run has left. -/
theorem yields_agrees_call :
    let document : Text :=
      "\x7b\"type\":\"Program\",\"range\":[0,9],\"body\":[\x7b" ++
        "\"type\":\"FunctionDeclaration\",\"range\":[0,9]," ++
        "\"id\":\x7b\"type\":\"Identifier\",\"range\":[0,1],\"name\":\"f\"\x7d," ++
        "\"body\":\x7b\"type\":\"CallExpression\",\"range\":[1,9]," ++
          "\"callee\":\x7b\"type\":\"MemberExpression\",\"range\":[1,2],\"property\":" ++
            "\x7b\"type\":\"Identifier\",\"range\":[1,2],\"name\":\"findAll\"\x7d\x7d," ++
          "\"arguments\":[\x7b\"type\":\"ObjectExpression\",\"range\":[3,5]," ++
            "\"properties\":[null]\x7d]\x7d\x7d]\x7d"
    let s : Settings := ⟨[⟨Rule.sequelizeComment, .error, .empty⟩], "/", [], 0, []⟩
    let disk : Disk := ⟨.cons "a" (.file "f(m.findAll([]))")
      (.cons "a.ast.json" (.file document) .empty), "/"⟩
    let empty : Cache := ⟨"/cache", ⟨.empty, "/"⟩⟩
    ∃ first second fresh, lint s disk (some empty) false ["/a"] = .ok first ∧
      lint s disk first.cache false ["/a"] = .ok second ∧
      lint s disk none false ["/a"] = .ok fresh ∧ second.AgreesBy Diagnostic.Moved fresh := by
  intro document s disk empty
  let job : Job := ⟨"/a", "f(m.findAll([]))", document, "/", [], s.entries⟩
  let f : File := ⟨0, "/a", "f(m.findAll([]))", ⟨false, false, false⟩⟩
  let files : FileSet := ⟨[f], "/", "/"⟩
  have regular : Entry.Regular s.entries := by
    refine ⟨fun e mem => ?_, by decide⟩
    obtain rfl := List.mem_singleton.mp mem
    simp [Rule.all]
  have codec : ∀ p, job.Stores p → Payload.read? p.write = some p := by
    have kept : ∃ q ∈ ((lintDocument s files none "/a" f document).toOption.bind (·.keeps)),
        Payload.read? q.2.write = some q.2 := by decide +kernel
    obtain ⟨⟨i, q⟩, mem, back⟩ := kept
    obtain ⟨o, linted, keeps⟩ := Option.bind_eq_some_iff.mp mem
    intro p stores
    have fresh : job.Fresh o := by
      refine ⟨s, files, "/a", f, document, rfl, rfl, ?_⟩
      generalize lintDocument s files none "/a" f document = result at linted ⊢
      cases result with
      | error e => cases linted
      | ok o' => exact congrArg Except.ok (Option.some.inj linted)
    obtain rfl : q = p := Job.Stores.unique regular ⟨o, i, fresh, keeps⟩ stores
    exact back
  have known : Jobs (fun _ _ => .empty) (· = job) := by
    refine ⟨?_, ?_, ?_, ?_, ?_, ?_, ?_, ?_⟩
    · rintro i j rfl rfl -
      rfl
    · rintro i j rfl rfl -
      rfl
    · rintro i j rfl rfl -
      rfl
    · rintro j rfl
      exact regular
    · rintro j rfl
      decide
    · rintro j rfl e mem
      rw [List.mem_singleton.mp mem]
    · rintro j rfl
      decide
    · rintro j p rfl
      exact codec p
  have loaded : loadAll disk (FileSet.empty "/" "/") ["/a"] = (files, [⟨"/a", 0, none⟩]) := rfl
  have own : ∀ j, JobAt s disk ["/a"] j → j = job := by
    rintro j ⟨files', sources, loaded', source, mem, -, f', document', found, read, rfl⟩
    cases loaded.symm.trans loaded'
    obtain rfl := List.mem_singleton.mp mem
    cases (show files.get? 0 = some f from rfl).symm.trans found
    cases (show disk.read "/a.ast.json" = .ok document from rfl).symm.trans read
    rfl
  have sound : ∀ c ∈ some empty, c.Sound (· = job) := by
    rintro c ⟨⟩
    exact Cache.sound_empty _ _ rfl
  have ends : (lint s disk none false ["/a"]).toOption.isSome := by decide +kernel
  have never : ¬ ∃ e, lint s disk none false ["/a"] = .error e := by
    rintro ⟨e, failed⟩
    rw [failed] at ends
    contradiction
  clear_value document s disk empty job f files
  have one := yields_lint s disk (some empty) ["/a"]
  cases linted : lint s disk (some empty) false ["/a"] with
  | error e =>
    rw [linted] at one
    exact absurd (yields_agrees known own sound one) never
  | ok first =>
    rw [linted] at one
    obtain ⟨kept, -⟩ := yields_agrees known own sound one
    have two := yields_lint s disk first.cache ["/a"]
    cases again : lint s disk first.cache false ["/a"] with
    | error e =>
      rw [again] at two
      exact absurd (yields_agrees known own kept two) never
    | ok second =>
      rw [again] at two
      obtain ⟨-, fresh, alone, agrees, -⟩ := yields_agrees known own kept two
      exact ⟨first, second, fresh, rfl, again, alone, agrees⟩

end Run
end TreeLint
