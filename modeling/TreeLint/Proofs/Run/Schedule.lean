import Mathlib.Algebra.GroupWithZero.Nat
import Mathlib.Logic.Relation
import TreeLint.Run.Lint

/-! # Schedules

The files of a run are linted by tasks that work at the same time.  A task looks into the
cache and lints its file, and some time later puts what it has found into the cache; between
the two, and between any two tasks, others may do the same.  A schedule is a path of such
steps from the state in which all tasks wait (`Step`).

Every schedule comes to an end (`Step.work_lt`, `exists_step`), and the run that lints one
file after the other is one of them (`yields_lint`).
-/

namespace TreeLint.Run

/-- How far the task of a source is. -/
inductive Task where
  | waiting
  /-- It has an outcome, of which nothing has been put into the cache. -/
  | ran (o : Outcome)
  | done (o : Outcome)
  | failed (e : Error)

structure State where
  cache : Option Cache
  tasks : List (Loaded × Task)

/-- The state in which no task has begun. -/
def State.start (cache : Option Cache) (sources : List Loaded) : State :=
  ⟨cache, sources.map (·, .waiting)⟩

/-- What one task may do next, whatever the others do. -/
inductive Step (s : Settings) (disk : Disk) (files : FileSet) : State → State → Prop where
  | run {cache before after source o} (h : lintLoaded s disk files cache source = .ok o) :
    Step s disk files ⟨cache, before ++ (source, .waiting) :: after⟩
      ⟨cache, before ++ (source, .ran o) :: after⟩
  | fail {cache before after source e} (h : lintLoaded s disk files cache source = .error e) :
    Step s disk files ⟨cache, before ++ (source, .waiting) :: after⟩
      ⟨cache, before ++ (source, .failed e) :: after⟩
  | finish {cache before after source o} :
    Step s disk files ⟨cache, before ++ (source, .ran o) :: after⟩
      ⟨keep cache o.keeps, before ++ (source, .done o) :: after⟩

/-- A path of steps from the start of a run. -/
abbrev Reaches (s : Settings) (disk : Disk) (files : FileSet) : State → State → Prop :=
  Relation.ReflTransGen (Step s disk files)

/-- What a run may end with: a result when all tasks are done, and the error of a task that
failed when none is left that could do anything. -/
inductive Yields (s : Settings) (disk : Disk) (cache : Option Cache) (paths : List Text) :
    Except Error Result → Prop where
  | ok {files sources outcomes last}
    (loaded : loadAll disk (FileSet.empty disk.cwd s.cwd) paths = (files, sources))
    (path : Reaches s disk files (.start cache sources)
      ⟨last, outcomes.map fun (source, o) => (source, .done o)⟩) :
    Yields s disk cache paths (.ok (assemble s files paths outcomes last))
  | error {files sources last tasks source e}
    (loaded : loadAll disk (FileSet.empty disk.cwd s.cwd) paths = (files, sources))
    (path : Reaches s disk files (.start cache sources) ⟨last, tasks⟩)
    (failed : (source, .failed e) ∈ tasks) : Yields s disk cache paths (.error e)

/-! ## Schedules end -/

/-- The number of steps a task still takes at most. -/
def Task.work : Task → Nat
  | waiting => 2
  | ran _ => 1
  | done _ | failed _ => 0

def State.work (st : State) : Nat := (st.tasks.map fun t => t.2.work).sum

section

variable {s : Settings} {disk : Disk} {files : FileSet}

theorem Step.work_lt {st st' : State} (h : Step s disk files st st') : st'.work < st.work := by
  cases h <;> simp [State.work, Task.work]

/-- As long as there is work some task can do it. -/
theorem exists_step {st : State} (h : 0 < st.work) : ∃ st', Step s disk files st st' := by
  obtain ⟨cache, tasks⟩ := st
  obtain ⟨n, mem, some⟩ := List.sum_pos_iff_exists_pos_nat.mp h
  obtain ⟨⟨source, task⟩, owned, rfl⟩ := List.mem_map.mp mem
  obtain ⟨before, after, rfl⟩ := List.append_of_mem owned
  cases task with
  | waiting =>
    cases result : lintLoaded s disk files cache source with
    | ok o => exact ⟨_, .run result⟩
    | error e => exact ⟨_, .fail result⟩
  | ran o => exact ⟨_, .finish⟩
  | done o => contradiction
  | failed e => contradiction

/-- A run that does not stop halfway comes to an end. -/
theorem reaches_end (st : State) : ∃ last, Reaches s disk files st last ∧ last.work = 0 := by
  by_cases rest : st.work = 0
  · exact ⟨st, .refl, rest⟩
  · obtain ⟨next, step⟩ : ∃ next, Step s disk files st next :=
      exists_step (Nat.pos_of_ne_zero rest)
    have less := step.work_lt
    obtain ⟨last, path, idle⟩ := reaches_end next
    exact ⟨last, .head step path, idle⟩
termination_by st.work

theorem done_or_failed {tasks : List (Loaded × Task)} (idle : ∀ t ∈ tasks, t.2.work = 0) :
    (∃ outcomes : List (Loaded × Outcome),
        tasks = outcomes.map fun (source, o) => (source, .done o)) ∨
      ∃ source e, (source, .failed e) ∈ tasks := by
  induction tasks with
  | nil => exact .inl ⟨[], rfl⟩
  | cons t rest ih =>
    obtain ⟨source, task⟩ := t
    rw [List.forall_mem_cons] at idle
    cases task with
    | waiting => exact absurd idle.1 (by simp [Task.work])
    | ran o => exact absurd idle.1 (by simp [Task.work])
    | failed e => exact .inr ⟨source, e, List.mem_cons_self⟩
    | done o =>
      obtain ⟨outcomes, rfl⟩ | ⟨other, e, mem⟩ := ih idle.2
      · exact .inl ⟨(source, o) :: outcomes, rfl⟩
      · exact .inr ⟨other, e, List.mem_cons_of_mem _ mem⟩

/-- When nothing is left to do there is a result or an error. -/
theorem yields_of_end {cache : Option Cache} {paths : List Text} {sources : List Loaded}
    (loaded : loadAll disk (FileSet.empty disk.cwd s.cwd) paths = (files, sources)) {last : State}
    (path : Reaches s disk files (.start cache sources) last) (idle : last.work = 0) :
    ∃ result, Yields s disk cache paths result := by
  obtain ⟨final, tasks⟩ := last
  have none : ∀ t ∈ tasks, t.2.work = 0 := by
    intro t mem
    exact List.sum_eq_zero_iff_forall_eq_nat.mp idle _ (List.mem_map_of_mem mem)
  obtain ⟨outcomes, rfl⟩ | ⟨source, e, mem⟩ := done_or_failed none
  · exact ⟨_, .ok loaded path⟩
  · exact ⟨_, .error loaded path mem⟩

/-! ## One file after the other -/

theorem lintAll_cons {cache : Option Cache} (source : Loaded) (sources : List Loaded) :
    lintAll s disk files cache (source :: sources)
      = match lintLoaded s disk files cache source with
        | .error e => .error e
        | .ok o => (lintAll s disk files (keep cache o.keeps) sources).map fun (rest, last) =>
            ((source, o) :: rest, last) := by
  simp only [lintAll, bind, Except.bind]
  cases lintLoaded s disk files cache source with
  | error e => rfl
  | ok o => cases lintAll s disk files (keep cache o.keeps) sources <;> rfl

theorem reaches_done {cache : Option Cache} {source : Loaded} {o : Outcome}
    (h : lintLoaded s disk files cache source = .ok o) (before after : List (Loaded × Task)) :
    Reaches s disk files ⟨cache, before ++ (source, .waiting) :: after⟩
      ⟨keep cache o.keeps, before ++ (source, .done o) :: after⟩ :=
  (Relation.ReflTransGen.single (.run h)).tail .finish

theorem reaches_lintAll {cache last : Option Cache} {sources : List Loaded}
    {outcomes : List (Loaded × Outcome)} (before : List (Loaded × Task))
    (h : lintAll s disk files cache sources = .ok (outcomes, last)) :
    Reaches s disk files ⟨cache, before ++ sources.map (·, .waiting)⟩
      ⟨last, before ++ outcomes.map fun (source, o) => (source, .done o)⟩ := by
  induction sources generalizing cache outcomes before with
  | nil =>
    cases h
    exact .refl
  | cons source sources ih =>
    rw [lintAll_cons] at h
    split at h
    · contradiction
    next o linted =>
      cases rest : lintAll s disk files (keep cache o.keeps) sources with
      | error e => rw [rest] at h; contradiction
      | ok r =>
        rw [rest] at h
        cases h
        have later := ih (before ++ [(source, .done o)]) rest
        simp only [List.append_assoc, List.singleton_append] at later
        exact (reaches_done linted before _).trans later

theorem reaches_lintAll_error {cache : Option Cache} {sources : List Loaded} {e : Error}
    (before : List (Loaded × Task)) (h : lintAll s disk files cache sources = .error e) :
    ∃ last tasks source, Reaches s disk files ⟨cache, before ++ sources.map (·, .waiting)⟩
      ⟨last, tasks⟩ ∧ (source, .failed e) ∈ tasks := by
  induction sources generalizing cache before with
  | nil => contradiction
  | cons source sources ih =>
    rw [lintAll_cons] at h
    split at h
    next e' failed =>
      cases h
      exact ⟨_, _, source, .single (.fail failed), by simp⟩
    next o linted =>
      cases rest : lintAll s disk files (keep cache o.keeps) sources with
      | ok r => rw [rest] at h; contradiction
      | error e' =>
        rw [rest] at h
        cases h
        obtain ⟨last, tasks, failed, path, mem⟩ := ih (before ++ [(source, .done o)]) rest
        simp only [List.append_assoc, List.singleton_append] at path
        exact ⟨last, tasks, failed, (reaches_done linted before _).trans path, mem⟩

theorem lint_eq {paths : List Text} {sources : List Loaded}
    (loaded : loadAll disk (FileSet.empty disk.cwd s.cwd) paths = (files, sources))
    (cache : Option Cache) :
    lint s disk cache false paths = (lintAll s disk files cache sources).map
      fun (outcomes, last) => assemble s files paths outcomes last := by
  simp only [lint, loaded, Bool.false_and, Bool.false_eq_true, if_false, bind, Except.bind]
  cases lintAll s disk files cache sources <;> rfl

/-- Linting one file after the other is one way for a run to go. -/
theorem yields_lint (s : Settings) (disk : Disk) (cache : Option Cache) (paths : List Text) :
    Yields s disk cache paths (lint s disk cache false paths) := by
  cases loaded : loadAll disk (FileSet.empty disk.cwd s.cwd) paths with
  | mk files sources =>
    rw [lint_eq loaded]
    cases result : lintAll s disk files cache sources with
    | ok r => exact .ok loaded (reaches_lintAll [] result)
    | error e =>
      obtain ⟨last, tasks, source, path, mem⟩ := reaches_lintAll_error [] result
      exact .error loaded path mem

end
end TreeLint.Run
