import TreeLint.Proofs.Run.Schedule
import TreeLint.Proofs.Run.Sound

/-! # The invariant of a schedule

Whatever the order in which tasks look into the cache and add to it, the cache stays sound,
and each task has, when it has anything, what agrees with a lint of its source without the
cache (`State.Sound`).  No step breaks this (`step_sound`), and so no schedule does
(`reaches_sound`).

Without a cache there is only one outcome for each source, and a run gives just those
(`lintAll_fresh`) or fails with one that does (`lintAll_stuck`).
-/

namespace TreeLint.Run

/-! ## Numbers of files -/

/-- Whether the files of a set have their positions as numbers. -/
def Numbered (files : FileSet) : Prop :=
  ∀ (n : Nat) (f : File), files.files[n]? = some f → f.id = n.toUInt32

theorem numbered_add {files : FileSet} (h : Numbered files) (path content : Text)
    (flags : FileFlags) : Numbered (files.add path content flags).1 := by
  intro n f found
  simp only [FileSet.add] at found
  by_cases old : n < files.files.length
  · rw [List.getElem?_append_left old] at found
    exact h n f found
  · rw [List.getElem?_append_right (Nat.le_of_not_lt old)] at found
    obtain ⟨last, eq⟩ := List.getElem?_eq_some_iff.mp found
    have only : n = files.files.length := by
      simp only [List.length_singleton] at last
      omega
    subst only
    simp only [Nat.sub_self, List.getElem_cons_zero] at eq
    rw [← eq]

theorem numbered_loadAll {disk : Disk} {files loaded : FileSet} {paths : List Text}
    {sources : List Loaded} (h : Numbered files)
    (eq : loadAll disk files paths = (loaded, sources)) : Numbered loaded := by
  induction paths generalizing files loaded sources with
  | nil =>
    cases eq
    exact h
  | cons path paths ih =>
    cases read : disk.read path with
    | error e =>
      simp only [loadAll, read] at eq
      obtain ⟨rfl, -⟩ := Prod.mk.inj eq
      exact ih (numbered_add h _ _ _) rfl
    | ok bytes =>
      simp only [loadAll, read] at eq
      obtain ⟨rfl, -⟩ := Prod.mk.inj eq
      refine ih ?_ rfl
      rw [FileSet.load]
      split <;> exact numbered_add h _ _ _

/-- The files that a run loads are found under their own numbers. -/
theorem id_of_get? {disk : Disk} {cwd base : Text} {paths : List Text} {files : FileSet}
    {sources : List Loaded}
    (loaded : loadAll disk (FileSet.empty cwd base) paths = (files, sources)) {id : FileId}
    {f : File} (found : files.get? id = some f) : f.id = id := by
  have start : Numbered (FileSet.empty cwd base) := by
    intro n f found
    simp [FileSet.empty] at found
  rw [numbered_loadAll start loaded _ f found]
  simp

/-! ## The invariant of a schedule -/

/-- An outcome agrees with that of a lint of its source without a cache. -/
def Agreed (s : Settings) (disk : Disk) (files : FileSet) (source : Loaded) (o : Outcome) : Prop :=
  ∃ fresh, lintLoaded s disk files none source = .ok fresh ∧ o.Agrees s source.file fresh

/-- What an outcome is to keep is what a lint of a job keeps. -/
def Keeps (jobs : Job → Prop) (o : Outcome) : Prop :=
  ∀ i p, o.keeps = some (i, p) → ∃ j, jobs j ∧ j.input = i ∧ j.Stores p

/-- A task that has what a lint of its source without a cache gives. -/
def Task.Sound (jobs : Job → Prop) (s : Settings) (disk : Disk) (files : FileSet)
    (source : Loaded) : Task → Prop
  | waiting => True
  | ran o => Agreed s disk files source o ∧ Keeps jobs o
  | done o => Agreed s disk files source o
  | failed e => lintLoaded s disk files none source = .error e

structure State.Sound (jobs : Job → Prop) (s : Settings) (disk : Disk) (files : FileSet)
    (sources : List Loaded) (st : State) : Prop where
  sources : st.tasks.map Prod.fst = sources
  cache : ∀ c ∈ st.cache, c.Sound jobs
  tasks : ∀ t ∈ st.tasks, t.2.Sound jobs s disk files t.1

section Invariant

variable {optionsOf : Text → Text → Options} {jobs : Job → Prop}
variable {s : Settings} {disk : Disk} {files : FileSet} {sources : List Loaded}

theorem start_sound {cache : Option Cache} (sound : ∀ c ∈ cache, c.Sound jobs) :
    (State.start cache sources).Sound jobs s disk files sources where
  sources := by simp [State.start, Function.comp_def]
  cache := sound
  tasks := by
    intro t mem
    obtain ⟨source, -, rfl⟩ := List.mem_map.mp mem
    trivial

theorem State.Sound.update {cache last : Option Cache} {before after : List (Loaded × Task)}
    {source : Loaded} {task next : Task}
    (h : State.Sound jobs s disk files sources ⟨cache, before ++ (source, task) :: after⟩)
    (kept : ∀ c ∈ last, c.Sound jobs) (own : next.Sound jobs s disk files source) :
    State.Sound jobs s disk files sources ⟨last, before ++ (source, next) :: after⟩ where
  sources := by simpa using h.sources
  cache := kept
  tasks := by
    have tasks := h.tasks
    rw [List.forall_mem_append, List.forall_mem_cons] at tasks ⊢
    exact ⟨tasks.1, own, tasks.2.2⟩

variable (known : Jobs optionsOf jobs) (numbered : ∀ id f, files.get? id = some f → f.id = id)
  (own : ∀ source ∈ sources, ∀ j, Takes s disk files source j → jobs j)

include known numbered own

theorem step_sound {st st' : State} (h : st.Sound jobs s disk files sources)
    (step : Step s disk files st st') : st'.Sound jobs s disk files sources := by
  cases step with
  | @run cache before after source o linted =>
    have mem : source ∈ sources := by simp [← h.sources]
    exact h.update h.cache (lintLoaded_agrees known h.cache numbered (own source mem) linted)
  | fail failed => exact h.update h.cache (lintLoaded_error failed)
  | finish =>
    obtain ⟨agreed, keeps⟩ := h.tasks _ (List.mem_append_right _ List.mem_cons_self)
    exact h.update (keep_sound known h.cache keeps) agreed

theorem reaches_sound {st st' : State} (h : st.Sound jobs s disk files sources)
    (path : Reaches s disk files st st') : st'.Sound jobs s disk files sources := by
  induction path with
  | refl => exact h
  | tail _ step ih => exact step_sound known numbered own ih step

end Invariant

/-! ## Runs without a cache -/

section Fresh

variable {s : Settings} {disk : Disk} {files : FileSet}

theorem keep_none (keeps : Option (CacheInput × Payload)) : keep none keeps = none := by
  cases keeps <;> rfl

theorem lintAll_fresh {outcomes : List (Loaded × Outcome)}
    (h : ∀ x ∈ outcomes, lintLoaded s disk files none x.1 = .ok x.2) :
    lintAll s disk files none (outcomes.map Prod.fst) = .ok (outcomes, none) := by
  induction outcomes with
  | nil => rfl
  | cons x rest ih =>
    rw [List.forall_mem_cons] at h
    rw [List.map_cons, lintAll_cons, h.1]
    simp only [keep_none, ih h.2]
    rfl

theorem lintAll_stuck {sources : List Loaded} {source : Loaded} {e : Error} (mem : source ∈ sources)
    (h : lintLoaded s disk files none source = .error e) :
    ∃ e', lintAll s disk files none sources = .error e' := by
  induction sources with
  | nil => contradiction
  | cons first rest ih =>
    rw [lintAll_cons]
    cases result : lintLoaded s disk files none first with
    | error e' => exact ⟨e', rfl⟩
    | ok o =>
      rcases List.mem_cons.mp mem with rfl | later
      · rw [h] at result
        contradiction
      · obtain ⟨e', stuck⟩ := ih later
        exact ⟨e', by simp only [keep_none, stuck]; rfl⟩

end Fresh

end TreeLint.Run
