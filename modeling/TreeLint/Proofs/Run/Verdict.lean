import TreeLint.Proofs.Run.Schedule

/-! # The verdict of a run

What was found is sorted by its place and put into a bag until that is full, and the bag is
all that is asked whether there were errors.  So the verdict is about the diagnostics that
fit under the limit: an error counts as far as fewer than that many diagnostics stand before
it, whatever their severity, and one that stands behind them is passed over
(`yields_hasErrors`).
-/

namespace TreeLint.Run

/-- All that was found, in the order it is shown in. -/
def Result.found (r : Result) : List Diagnostic :=
  sortDiagnostics (r.results.flatMap (·.diagnostics))

/-- A file of the run has an error, shown or not. -/
def Result.FoundError (r : Result) : Prop :=
  ∃ f ∈ r.results, ∃ d ∈ f.diagnostics, d.severity.isError

/-! ## Filling a bag -/

/-- Puts a diagnostic into a bag, or counts it when it does not fit. -/
def putOrCount (filled : Bag × Nat) (d : Diagnostic) : Bag × Nat :=
  match filled.1.add? d with
  | some bag => (bag, filled.2)
  | none => (filled.1, filled.2 + 1)

theorem merge_eq_foldl (limit : Int) (ds : List Diagnostic) :
    merge limit ds = (sortDiagnostics ds).foldl putOrCount (Bag.new limit, 0) := rfl

/-- What filling a bag has come to after some diagnostics: the first of them are in it and
the others have been counted, of which there are none before it is full. -/
structure Filled (limit : Int) (met : List Diagnostic) (filled : Bag × Nat) : Prop where
  same : filled.1.limit = limit
  split : ∃ left, met = filled.1.items ++ left ∧ filled.2 = left.length ∧
    (left ≠ [] → 0 < limit ∧ limit ≤ filled.1.items.length)
  bounded : limit ≤ 0 ∨ filled.1.items.length ≤ limit

namespace Filled

variable {limit : Int} {met : List Diagnostic} {filled : Bag × Nat}

theorem step (h : Filled limit met filled) (d : Diagnostic) :
    Filled limit (met ++ [d]) (putOrCount filled d) := by
  obtain ⟨left, split, counted, full⟩ := h.split
  simp only [putOrCount, Bag.add?, h.same]
  by_cases room : 0 < limit ∧ limit ≤ filled.1.items.length
  · simp only [if_pos room]
    refine ⟨h.same, ⟨left ++ [d], ?_, ?_, fun _ => room⟩, h.bounded⟩
    · rw [split, List.append_assoc]
    · rw [counted, List.length_append, List.length_singleton]
  · simp only [if_neg room]
    have none : left = [] := Decidable.byContradiction fun some => room (full some)
    rw [none, List.append_nil] at split
    rw [none] at counted
    refine ⟨rfl, ⟨[], by simp [split], counted, by simp⟩, ?_⟩
    simp only [List.length_append, List.length_singleton]
    omega

theorem foldl (h : Filled limit met filled) (ds : List Diagnostic) :
    Filled limit (met ++ ds) (ds.foldl putOrCount filled) := by
  induction ds generalizing met filled with
  | nil => simpa using h
  | cons d ds ih => simpa using ih (h.step d)

/-- What is in the bag is what has fewer diagnostics before it than the limit allows. -/
theorem exists_mem_items (h : Filled limit met filled) {p : Diagnostic → Prop} :
    (∃ d ∈ filled.1.items, p d) ↔
      ∃ before d after, met = before ++ d :: after ∧ p d ∧ (limit ≤ 0 ∨ before.length < limit) := by
  obtain ⟨left, split, -, full⟩ := h.split
  have bounded := h.bounded
  constructor
  · rintro ⟨d, mem, holds⟩
    obtain ⟨before, after, eq⟩ := List.append_of_mem mem
    refine ⟨before, d, after ++ left, by simp [split, eq], holds, ?_⟩
    rw [eq, List.length_append, List.length_cons] at bounded
    omega
  · rintro ⟨before, d, after, eq, holds, room⟩
    rw [split, List.append_eq_append_iff] at eq
    rcases eq with ⟨more, here, later⟩ | ⟨more, here, later⟩
    · have length := congrArg List.length here
      rw [List.length_append] at length
      have := full (by simp [later])
      omega
    · cases more with
      | nil =>
        have length := congrArg List.length here
        rw [List.append_nil] at length
        rw [List.nil_append] at later
        have := full (by simp [← later])
        omega
      | cons c more =>
        rw [List.cons_append, List.cons.injEq] at later
        exact ⟨d, by simp [here, later.1], holds⟩

theorem exists_met (h : Filled limit met filled) {p : Diagnostic → Prop}
    (some : ∃ d ∈ filled.1.items, p d) : ∃ d ∈ met, p d := by
  obtain ⟨left, split, -, -⟩ := h.split
  obtain ⟨d, mem, holds⟩ := some
  exact ⟨d, by simp [split, mem], holds⟩

/-- The bag tells whether there is anything of a kind when and only when the first of that
kind is in it. -/
theorem tells_iff (h : Filled limit met filled) {p : Diagnostic → Bool} :
    ((∃ d ∈ filled.1.items, p d) ↔ ∃ d ∈ met, p d) ↔
      ∀ before d after, met = before ++ d :: after → p d → (∀ e ∈ before, ¬ p e) →
        limit ≤ 0 ∨ before.length < limit := by
  constructor
  · intro tells before d after eq holds first
    obtain ⟨before', d', after', eq', holds', room⟩ :=
      h.exists_mem_items.mp (tells.mpr ⟨d, by simp [eq], holds⟩)
    -- Whatever there is room for does not come before the first.
    have order : ¬ before'.length < before.length := by
      intro earlier
      have mem : d' ∈ before := by
        have here : met[before'.length]? = some d' := by simp [eq']
        rw [eq, List.getElem?_append_left earlier] at here
        exact List.mem_of_getElem? here
      exact first d' mem holds'
    omega
  · intro room
    refine ⟨h.exists_met, ?_⟩
    rintro ⟨d, mem, holds⟩
    obtain ⟨first, found⟩ : ∃ first, met.find? p = some first := by
      rw [← Option.isSome_iff_exists, List.find?_isSome]
      exact ⟨d, mem, holds⟩
    obtain ⟨holds', before, after, eq, others⟩ := List.find?_eq_some_iff_append.mp found
    have others' : ∀ e ∈ before, ¬ p e := by simpa using others
    exact h.exists_mem_items.mpr
      ⟨before, first, after, eq, holds', room before first after eq holds' others'⟩

theorem items_eq (h : Filled limit met filled) (complete : filled.2 = 0) :
    met = filled.1.items := by
  obtain ⟨left, split, counted, -⟩ := h.split
  have none : left = [] := List.length_eq_zero_iff.mp (counted.symm.trans complete)
  rw [split, none, List.append_nil]

end Filled

theorem merge_filled (limit : Int) (ds : List Diagnostic) :
    Filled limit (sortDiagnostics ds) (merge limit ds) := by
  have start : Filled limit [] (Bag.new limit, 0) :=
    ⟨rfl, ⟨[], rfl, rfl, by simp⟩, by simp only [Bag.new, List.length_nil]; omega⟩
  simpa [merge_eq_foldl] using start.foldl (sortDiagnostics ds)

/-! ## The verdict -/

theorem assemble_filled (s : Settings) (files : FileSet) (paths : List Text)
    (outcomes : List (Loaded × Outcome)) (last : Option Cache) :
    let r := assemble s files paths outcomes last
    Filled s.limit r.found (r.bag, r.dropped) :=
  merge_filled s.limit _

theorem Result.foundError_iff {r : Result} : r.FoundError ↔ ∃ d ∈ r.found, d.severity.isError := by
  simp only [FoundError, found, sortDiagnostics, List.mem_mergeSort, List.mem_flatMap]
  constructor
  · rintro ⟨f, among, d, mem, error⟩
    exact ⟨d, ⟨f, among, mem⟩, error⟩
  · rintro ⟨d, ⟨f, among, mem⟩, error⟩
    exact ⟨f, among, d, mem, error⟩

/-- A run counts an error as far as there is room for it under the limit.  Whether some file
has an error it tells when and only when there is room for the first of them all, and always
when nothing was left out. -/
theorem yields_hasErrors {s : Settings} {disk : Disk} {cache : Option Cache} {paths : List Text}
    {r : Result} (yields : Yields s disk cache paths (.ok r)) :
    (r.hasErrors = true ↔ ∃ before d after, r.found = before ++ d :: after ∧
      d.severity.isError ∧ (s.limit ≤ 0 ∨ before.length < s.limit)) ∧
    ((r.hasErrors = true ↔ r.FoundError) ↔
      ∀ before d after, r.found = before ++ d :: after → d.severity.isError →
        (∀ e ∈ before, ¬ e.severity.isError) → s.limit ≤ 0 ∨ before.length < s.limit) ∧
    (r.dropped = 0 → (r.hasErrors = true ↔ r.FoundError)) := by
  have filled : Filled s.limit r.found (r.bag, r.dropped) := by
    cases yields with
    | ok loaded path => exact assemble_filled s _ paths _ _
  have shown : r.hasErrors = true ↔ ∃ d ∈ r.bag.items, d.severity.isError := by
    rw [Result.hasErrors, Bag.hasErrors, List.any_eq_true]
  rw [shown, Result.foundError_iff]
  refine ⟨filled.exists_mem_items, filled.tells_iff, fun complete => ?_⟩
  rw [filled.items_eq complete]

/-- A warning takes the only place there is, and the error of the file after it is passed
over. -/
theorem yields_hasErrors_second :
    let document : Text :=
      "\x7b\"type\":\"Program\",\"range\":[0,9],\"body\":[\x7b" ++
        "\"type\":\"FunctionDeclaration\",\"range\":[0,9]," ++
        "\"id\":\x7b\"type\":\"Identifier\",\"range\":[0,1],\"name\":\"f\"\x7d," ++
        "\"params\":[\x7b\"type\":\"Identifier\",\"range\":[1,2],\"name\":\"a\"\x7d]\x7d]\x7d"
    let s : Settings := ⟨[⟨Rule.paramTypes, .warning, .empty⟩], "/", [], 1, []⟩
    let disk : Disk := ⟨.cons "a" (.file "f(a)     ")
      (.cons "a.ast.json" (.file document) (.cons "b" (.file "b") .empty)), "/"⟩
    ∃ r, lint s disk none false ["/a", "/b"] = .ok r ∧ ¬ (r.hasErrors = true ↔ r.FoundError) := by
  intro document s disk
  have shown : ((lint s disk none false ["/a", "/b"]).toOption.map fun r =>
      (r.results.flatMap (·.diagnostics)).map fun d => (d.severity, d.primary.file)) =
        some [(.warning, 0), (.error, 1)] := by decide +kernel
  obtain ⟨r, ended, reported⟩ := Option.map_eq_some_iff.mp shown
  have linted : lint s disk none false ["/a", "/b"] = .ok r := by
    generalize lint s disk none false ["/a", "/b"] = result at ended
    cases result with
    | error e => cases ended
    | ok r' => exact congrArg Except.ok (Option.some.inj ended)
  refine ⟨r, linted, ?_⟩
  obtain ⟨w, others, all, first, rest⟩ := List.map_eq_cons_iff.mp reported
  obtain ⟨e, left, rfl, second, last⟩ := List.map_eq_cons_iff.mp rest
  rw [List.map_eq_nil_iff] at last
  subst last
  rw [Prod.mk.injEq] at first second
  have found : r.found = [w] ++ e :: [] := by
    rw [Result.found, all, sortDiagnostics]
    apply List.mergeSort_of_pairwise
    simp [Diagnostic.atMost, first.2, second.2]
  have yields := yields_lint s disk none ["/a", "/b"]
  rw [linted] at yields
  rw [(yields_hasErrors yields).2.1]
  intro room
  have fits := room [w] e [] found (by rw [second.1]; decide) (by simp [first.1]; decide)
  simp [s] at fits

end TreeLint.Run
