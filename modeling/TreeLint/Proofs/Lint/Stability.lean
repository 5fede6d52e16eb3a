import TreeLint.Lint.Stable

/-! # Fixing until stable

A run of passes that ends well has come to rest: its output parses, its diagnostics are
those of its output, and no fix is left that another pass would apply.  The count of
passes and the count of fixes are those of a chain of single passes (`Passes`) that leads
from the input to the output.  Where the passes run out, the chain is as long as it may
be and goes on.

A pass that has a fix to apply applies one: whatever the conflicts, the first fix in
order meets none (`FixPass.run_eq_ok_zero`).  So a pass without effect means that there
was nothing to do, and not that everything stood in the way of something else.
-/

namespace TreeLint

/-! ## A single pass -/

namespace Edit

theorem mergeOne_skipped_le (merged : List Edit × Nat) (edits : List Edit) :
    (mergeOne merged edits).2 ≤ merged.2 + 1 := by
  simp only [mergeOne]
  split <;> simp

theorem foldl_mergeOne_skipped_le (fixes : List (List Edit)) (merged : List Edit × Nat) :
    (fixes.foldl mergeOne merged).2 ≤ merged.2 + fixes.length := by
  induction fixes generalizing merged with
  | nil => simp
  | cons edits fixes ih =>
    have one := mergeOne_skipped_le merged edits
    have rest := ih (mergeOne merged edits)
    rw [List.foldl_cons, List.length_cons]
    omega

/-- With nothing taken before, a fix that has edits is taken. -/
theorem mergeOne_first {edits : List Edit} (some : edits ≠ []) :
    mergeOne ([], 0) edits = (edits, 0) := by
  simp [mergeOne, some, conflicts]

/-- Merging fixes that have edits leaves out fewer than there are. -/
theorem mergeFixes_skipped_lt {fixes : List (List Edit)} (some : fixes ≠ [])
    (nonempty : ∀ edits ∈ fixes, edits ≠ []) : (mergeFixes fixes).2 < fixes.length := by
  cases fixes with
  | nil => contradiction
  | cons edits fixes =>
    have rest := foldl_mergeOne_skipped_le fixes (edits, 0)
    rw [mergeFixes, List.foldl_cons, mergeOne_first (nonempty edits List.mem_cons_self),
      List.length_cons]
    simp only at rest
    omega

end Edit

namespace FixPass

theorem editsOf?_ne_nil {id : FileId} {d : Diagnostic} {edits : List Edit}
    (h : editsOf? id d = some edits) : edits ≠ [] := by
  simp only [editsOf?] at h
  split at h
  · contradiction
  split at h
  · contradiction
  split at h
  · split at h
    · contradiction
    next some => simpa [← Option.some.inj h] using some
  · contradiction

theorem ordered_ne_nil {fixes : List (List Edit)} (some : fixes ≠ []) :
    (fixes.mergeSort fun a b => firstStart a ≤ firstStart b) ≠ [] := by
  rw [ne_eq, ← List.length_eq_zero_iff, List.length_mergeSort, List.length_eq_zero_iff]
  exact some

/-- A pass applies no fix only when no diagnostic of the file begins with one. -/
theorem run_eq_ok_zero {files : FileSet} {id : FileId} {ds : List Diagnostic} {next : Text}
    (h : run files id ds = .ok (next, 0)) : ∀ d ∈ ds, editsOf? id d = none := by
  suffices none : ds.filterMap (editsOf? id) = [] by
    simpa [List.filterMap_eq_nil_iff] using none
  simp only [run] at h
  split at h
  · contradiction
  split at h
  next none => simpa using none
  next some =>
    rw [List.isEmpty_iff] at some
    split at h
    · contradiction
    next content _ =>
      have fewer := Edit.mergeFixes_skipped_lt (ordered_ne_nil some) fun edits mem => by
        obtain ⟨d, -, eq⟩ := List.mem_filterMap.mp (List.mem_mergeSort.mp mem)
        exact editsOf?_ne_nil eq
      rw [List.length_mergeSort] at fewer
      simp only [Except.ok.injEq, Prod.mk.injEq] at h
      omega

end FixPass

/-! ## A run of passes -/

namespace Stable

section

variable (entries : List Entry) (cwd : Text) (parse : Parser) (path : Text)

/-- The file set that holds one content, and the number of its file. -/
def alone (content : Text) : FileSet × FileId := (FileSet.empty "/" []).addInMemory path content

/-- A content parses, and `ds` are its diagnostics. -/
def Lints (content : Text) (ds : List Diagnostic) : Prop :=
  ∃ tree, parse (alone path content).1 (alone path content).2 = .ok tree ∧
    lint entries cwd false (alone path content).1 (some tree) = .ok ds

/-- One pass of fixes takes a content to `next` with `n` fixes. -/
def Pass (content : Text) (ds : List Diagnostic) (next : Text) (n : Nat) : Prop :=
  Lints entries cwd parse path content ds ∧
    FixPass.run (alone path content).1 (alone path content).2 ds = .ok (next, n)

/-- Passes in a row, each with some fix, with their number and that of their fixes. -/
inductive Passes : Text → Nat → Nat → Text → Prop
  | rest (content : Text) : Passes content 0 0 content
  | more {content next last : Text} {ds : List Diagnostic} {n passes applied : Nat} :
    Pass entries cwd parse path content ds next n → 0 < n → Passes next passes applied last →
      Passes content (passes + 1) (n + applied) last

/-- A run of passes came to rest. -/
structure Settled (content : Text) (p : Progress) : Prop where
  passes_le : p.passes ≤ maxPasses
  passes : Passes entries cwd parse path content p.passes p.applied p.output
  diagnostics : Lints entries cwd parse path p.output p.diagnostics
  nothing : ∀ d ∈ p.diagnostics, FixPass.editsOf? (alone path p.output).2 d = none
  another : ∃ next, Pass entries cwd parse path p.output p.diagnostics next 0
  again : run entries cwd parse path p.output = (⟨p.output, 0, 0, p.diagnostics⟩, none)

/-- A run of passes was stopped before it came to rest. -/
structure Unsettled (content : Text) (p : Progress) : Prop where
  passes_eq : p.passes = maxPasses
  passes : Passes entries cwd parse path content p.passes p.applied p.output
  another : ∃ next n, 0 < n ∧ Pass entries cwd parse path p.output p.diagnostics next n

/-- The ways to go on from a content. -/
inductive Goes (left : Nat) (content : Text) (p q : Progress) (e? : Option Error) : Prop
  | rests {next : Text} {ds : List Diagnostic} :
    Pass entries cwd parse path content ds next 0 →
      q = { p with output := content, diagnostics := ds } → e? = none → Goes left content p q e?
  | stops {next : Text} {ds : List Diagnostic} {n : Nat} :
    Pass entries cwd parse path content ds next n → 0 < n → left = 0 →
      q = { p with output := content, diagnostics := ds } → e? = some (.notStable path) →
      Goes left content p q e?
  | passes {next : Text} {ds : List Diagnostic} {n rest : Nat} :
    Pass entries cwd parse path content ds next n → 0 < n → left = rest + 1 →
      continueFrom entries cwd parse path rest next ⟨content, p.passes + 1, p.applied + n, ds⟩
        = (q, e?) → Goes left content p q e?
  | fails {e : Error} : e? = some e → (∀ path, e ≠ .notStable path) → Goes left content p q e?

end

variable {entries : List Entry} {cwd : Text} {parse : Parser} {path : Text}

/-- A look that goes well gives the diagnostics of the content and what a pass does to
it, whatever the number of the pass. -/
theorem look_eq_ok {content : Text} {pass : Nat} {ds : List Diagnostic}
    {outcome : Except FixPass.Error (Text × Nat)} :
    look entries cwd parse path content pass = .ok (ds, outcome) ↔
      Lints entries cwd parse path content ds ∧
        outcome = FixPass.run (alone path content).1 (alone path content).2 ds := by
  simp only [look, Lints, alone]
  cases parse ((FileSet.empty "/" []).addInMemory path content).1
    ((FileSet.empty "/" []).addInMemory path content).2 with
  | error reason => simp [bind, Except.bind]
  | ok tree =>
    cases result : lint entries cwd false ((FileSet.empty "/" []).addInMemory path content).1
      (some tree) with
    | error e => simp [bind, Except.bind, result]
    | ok found =>
      simp only [bind, Except.bind, result, pure, Except.pure, Except.ok.injEq, Prod.mk.injEq,
        exists_eq_left']
      constructor
      · rintro ⟨rfl, rfl⟩
        exact ⟨rfl, rfl⟩
      · rintro ⟨rfl, rfl⟩
        exact ⟨rfl, rfl⟩

theorem look_eq_error {content : Text} {pass : Nat} {e : Error}
    (h : look entries cwd parse path content pass = .error e) : ∀ path, e ≠ .notStable path := by
  simp only [look, bind, Except.bind, pure, Except.pure] at h
  split at h
  next tree parsed =>
    split at h
    · rw [← Except.error.inj h]
      simp
    · contradiction
  next reason stuck =>
    rw [← Except.error.inj h]
    simp

theorem continueFrom_goes {left : Nat} {content : Text} {p q : Progress} {e? : Option Error}
    (h : continueFrom entries cwd parse path left content p = (q, e?)) :
    Goes entries cwd parse path left content p q e? := by
  unfold continueFrom at h
  split at h
  next e looked =>
    cases h
    exact .fails rfl (look_eq_error looked)
  next ds outcome looked =>
    obtain ⟨lints, eq⟩ := look_eq_ok.mp looked
    simp only at h
    split at h
    · cases h
      exact .fails rfl (by simp)
    next next applied =>
      have pass : Pass entries cwd parse path content ds next applied := ⟨lints, eq.symm⟩
      split at h
      next zero =>
        cases h
        rw [beq_iff_eq] at zero
        exact .rests (zero ▸ pass) rfl rfl
      next some =>
        have some : 0 < applied := by
          rw [beq_iff_eq] at some
          omega
        split at h
        · cases h
          exact .stops pass some rfl rfl rfl
        next rest => exact .passes pass some rfl h

/-- A content at rest stays as it is. -/
theorem run_of_pass_zero {content next : Text} {ds : List Diagnostic}
    (h : Pass entries cwd parse path content ds next 0) :
    run entries cwd parse path content = (⟨content, 0, 0, ds⟩, none) := by
  obtain ⟨lints, fixes⟩ := h
  unfold run continueFrom
  rw [look_eq_ok.mpr ⟨lints, rfl⟩, fixes]
  rfl

theorem continueFrom_rests {left : Nat} {content : Text} {p q : Progress}
    (h : continueFrom entries cwd parse path left content p = (q, none)) :
    ∃ passes applied next, passes ≤ left ∧
      Passes entries cwd parse path content passes applied q.output ∧
      q.passes = p.passes + passes ∧ q.applied = p.applied + applied ∧
      Pass entries cwd parse path q.output q.diagnostics next 0 := by
  -- On the passes left; what was counted before is added to at the front of the chain.
  induction left using Nat.strongRecOn generalizing content p with
  | ind left ih =>
    cases continueFrom_goes h with
    | rests pass eq =>
      subst eq
      exact ⟨0, 0, _, Nat.zero_le left, .rest content, rfl, rfl, pass⟩
    | stops _ _ _ _ eq => contradiction
    | passes pass some eq next =>
      subst eq
      obtain ⟨passes, applied, last, bound, chain, count, sum, rests⟩ :=
        ih _ (Nat.lt_succ_self _) next
      refine ⟨passes + 1, _, last, by omega, .more pass some chain, ?_, ?_, rests⟩
      · simp only at count
        omega
      · simp only at sum
        omega
    | fails eq => contradiction

theorem continueFrom_stops {left : Nat} {content : Text} {p q : Progress} {path' : Text}
    (h : continueFrom entries cwd parse path left content p = (q, some (.notStable path'))) :
    ∃ applied next n, Passes entries cwd parse path content left applied q.output ∧
      q.passes = p.passes + left ∧ q.applied = p.applied + applied ∧ 0 < n ∧
      Pass entries cwd parse path q.output q.diagnostics next n := by
  induction left using Nat.strongRecOn generalizing content p with
  | ind left ih =>
    cases continueFrom_goes h with
    | rests _ _ eq => contradiction
    | stops pass some last eq =>
      subst eq last
      exact ⟨0, _, _, .rest content, rfl, rfl, some, pass⟩
    | passes pass some eq next =>
      subst eq
      obtain ⟨applied, last, n, chain, count, sum, goesOn⟩ := ih _ (Nat.lt_succ_self _) next
      refine ⟨_, last, n, .more pass some chain, ?_, ?_, goesOn⟩
      · simp only at count
        omega
      · simp only at sum
        omega
    | fails eq other => exact absurd (Option.some.inj eq).symm (other path')

/-- Fixing until stable comes to rest when it ends well, and was stopped short of it when
it says that it was. -/
theorem run_until_stable (entries : List Entry) (cwd : Text) (parse : Parser)
    (path content : Text) (p : Progress) :
    (run entries cwd parse path content = (p, none) →
      Settled entries cwd parse path content p) ∧
    (∀ path', run entries cwd parse path content = (p, some (.notStable path')) →
      Unsettled entries cwd parse path content p) := by
  refine ⟨fun h => ?_, fun path' h => ?_⟩
  · obtain ⟨passes, applied, next, bound, chain, count, sum, pass⟩ := continueFrom_rests h
    simp only [Progress.initial, Nat.zero_add] at count sum
    exact {
      passes_le := count ▸ bound
      passes := count ▸ sum ▸ chain
      diagnostics := pass.1
      nothing := FixPass.run_eq_ok_zero pass.2
      another := ⟨next, pass⟩
      again := run_of_pass_zero pass }
  · obtain ⟨applied, next, n, chain, count, sum, some, pass⟩ := continueFrom_stops h
    simp only [Progress.initial, Nat.zero_add] at count sum
    exact {
      passes_eq := count
      passes := count ▸ sum ▸ chain
      another := ⟨next, n, some, pass⟩ }

/-! ## An example -/

/-- A rule that takes one leading `a` off a text at a time. -/
def noLeadingA : Rule where
  name := "no-leading-a"
  description := []
  type := .problem
  fixable := true
  recommended := false
  messages := []
  create c := .ok ⟨fun memory visit =>
    match visit with
    | .enter _ =>
      let first : Span := ⟨c.file.id, 0, 1⟩
      .ok (memory, if c.file.content.startsWith "a" then
        [⟨first, [], [], some (.quick [] [.delete first])⟩] else [])
    | .leave _ => .ok (memory, [])⟩

/-- Reads every text as an empty program. -/
def readNothing : Parser := fun _ id => .ok ((Tree.empty id).addProgram ⟨id, 0, 0⟩ default).1

/-- Three letters take three passes, and with more than ten of them the passes run out. -/
theorem run_until_stable_noLeadingA :
    (∃ p, run [⟨noLeadingA, .warning, default⟩] "/" readNothing "a.ts" "aaab" = (p, none) ∧
      p.passes = 3 ∧ Settled [⟨noLeadingA, .warning, default⟩] "/" readNothing "a.ts" "aaab" p) ∧
    ∃ p, run [⟨noLeadingA, .warning, default⟩] "/" readNothing "a.ts" "aaaaaaaaaaaab"
        = (p, some (.notStable "a.ts")) ∧
      Unsettled [⟨noLeadingA, .warning, default⟩] "/" readNothing "a.ts" "aaaaaaaaaaaab" p := by
  have rests : run [⟨noLeadingA, .warning, default⟩] "/" readNothing "a.ts" "aaab"
      = ((run [⟨noLeadingA, .warning, default⟩] "/" readNothing "a.ts" "aaab").1, none) :=
    Prod.ext rfl (by decide +kernel)
  have stops : run [⟨noLeadingA, .warning, default⟩] "/" readNothing "a.ts" "aaaaaaaaaaaab"
      = ((run [⟨noLeadingA, .warning, default⟩] "/" readNothing "a.ts" "aaaaaaaaaaaab").1,
        some (.notStable "a.ts")) :=
    Prod.ext rfl (by decide +kernel)
  exact ⟨⟨_, rests, by decide +kernel, (run_until_stable _ _ _ _ _ _).1 rests⟩,
    ⟨_, stops, (run_until_stable _ _ _ _ _ _).2 _ stops⟩⟩

end Stable
end TreeLint
