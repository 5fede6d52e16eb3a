import Mathlib.Data.List.Nodup
import TreeLint.Lint.Linter
import TreeLint.Proofs.Order
import TreeLint.Proofs.Tree.Tour

/-! # Rules side by side

All rules of a linter share one walk, and what they find is mixed into one list that is
sorted in the end.  Still each rule works as if it were alone: what a lint says under the
name of a rule is what the rule says when it is the only one (`lintFile_alone`), and so the
order of the entries shows nowhere in the result (`lint_perm`).

A walk is taken apart into those of its rules one step at a time (`stepAll_mem`), and then
as a whole (`walk_eq_ok`).  Sorting does not mix the rules up: where two diagnostics tie
their codes agree, and a code begins with the name of its rule (`Diagnostic.rule_of_code`).

Most rules look at the nodes of one kind when these are entered, and remember nothing.  Told of
a whole walk, such a rule finds what there is to find at each node of the kind that the walk
enters (`Running.walk_onEnter`), and this is all that a lint with the rule alone reports
(`lint_onEnter`).
-/

namespace TreeLint

/-- Whether a diagnostic was reported under a name. -/
def Diagnostic.under (name : Text) (d : Diagnostic) : Bool := d.rule == name

theorem Diagnostic.under_iff {name : Text} {d : Diagnostic} : d.under name ↔ d.rule = name :=
  beq_iff_eq

/-! ## One walk for all rules -/

namespace Running

def name (r : Running) : Text := r.entry.rule.name

theorem step_eq_ok {r r' : Running} {v : Visit} {found : List Diagnostic}
    (h : r.step v = .ok (r', found)) : r'.entry = r.entry ∧ ∀ d ∈ found, d.rule = r.name := by
  simp only [step, bind, Except.bind, pure, Except.pure] at h
  split at h
  · contradiction
  · simp only [Except.ok.injEq, Prod.mk.injEq] at h
    obtain ⟨rfl, rfl⟩ := h
    refine ⟨rfl, fun d mem => ?_⟩
    obtain ⟨f, -, rfl⟩ := List.mem_map.mp mem
    rfl

theorem stepAll_cons {v : Visit} {r : Running} {rs rs' : List Running} {found : List Diagnostic}
    (h : stepAll v (r :: rs) = .ok (rs', found)) :
    ∃ r' own rest others, r.step v = .ok (r', own) ∧ stepAll v rs = .ok (rest, others) ∧
      rs' = r' :: rest ∧ found = own ++ others := by
  simp only [stepAll, bind, Except.bind, pure, Except.pure] at h
  split at h
  · contradiction
  next own stepped =>
    split at h
    · contradiction
    next others rest =>
      simp only [Except.ok.injEq, Prod.mk.injEq] at h
      exact ⟨own.1, own.2, others.1, others.2, stepped, rest, h.1.symm, h.2.symm⟩

/-- A step of all rules is one step of each of them. -/
theorem stepAll_eq_ok {v : Visit} {rs rs' : List Running} {found : List Diagnostic}
    (h : stepAll v rs = .ok (rs', found)) :
    rs'.map entry = rs.map entry ∧ (∀ d ∈ found, ∃ r ∈ rs, d.rule = r.name) ∧
      ∀ r' ∈ rs', ∃ r ∈ rs, ∃ own, r.step v = .ok (r', own) := by
  induction rs generalizing rs' found with
  | nil =>
    simp only [stepAll, Except.ok.injEq, Prod.mk.injEq] at h
    simp [← h.1, ← h.2]
  | cons r rs ih =>
    obtain ⟨r', own, rest, others, stepped, all, rfl, rfl⟩ := stepAll_cons h
    obtain ⟨entries, named, origin⟩ := ih all
    obtain ⟨entry, own_named⟩ := step_eq_ok stepped
    refine ⟨by simp [entry, entries], ?_, ?_⟩
    · intro d mem
      rcases List.mem_append.mp mem with here | there
      · exact ⟨r, List.mem_cons_self, own_named d here⟩
      · obtain ⟨s, mem, eq⟩ := named d there
        exact ⟨s, List.mem_cons_of_mem _ mem, eq⟩
    · intro s mem
      rcases List.mem_cons.mp mem with rfl | there
      · exact ⟨r, List.mem_cons_self, own, stepped⟩
      · obtain ⟨t, mem, own, eq⟩ := origin s there
        exact ⟨t, List.mem_cons_of_mem _ mem, own, eq⟩

/-- What all rules find at a step is, under the name of one of them, what it finds. -/
theorem stepAll_mem {v : Visit} {rs rs' : List Running} {found : List Diagnostic}
    (distinct : (rs.map name).Nodup) (h : stepAll v rs = .ok (rs', found)) {r : Running}
    (mem : r ∈ rs) : ∃ r' ∈ rs', r.step v = .ok (r', found.filter (·.under r.name)) := by
  induction rs generalizing rs' found with
  | nil => contradiction
  | cons s rs ih =>
    obtain ⟨s', own, rest, others, stepped, all, rfl, rfl⟩ := stepAll_cons h
    rw [List.map_cons, List.nodup_cons] at distinct
    obtain ⟨-, own_named⟩ := step_eq_ok stepped
    obtain ⟨-, others_named, -⟩ := stepAll_eq_ok all
    rw [List.filter_append]
    rcases List.mem_cons.mp mem with rfl | there
    · have all_own : own.filter (·.under r.name) = own :=
        List.filter_eq_self.mpr fun d mem => Diagnostic.under_iff.mpr (own_named d mem)
      have no_other : others.filter (·.under r.name) = [] := by
        refine List.filter_eq_nil_iff.mpr fun d mem same => distinct.1 ?_
        obtain ⟨t, mem, eq⟩ := others_named d mem
        rw [← Diagnostic.under_iff.mp same, eq]
        exact List.mem_map_of_mem mem
      exact ⟨s', List.mem_cons_self, by rw [all_own, no_other, List.append_nil]; exact stepped⟩
    · have no_own : own.filter (·.under r.name) = [] := by
        refine List.filter_eq_nil_iff.mpr fun d mem same => distinct.1 ?_
        rw [← own_named d mem, Diagnostic.under_iff.mp same]
        exact List.mem_map_of_mem there
      obtain ⟨r', mem, eq⟩ := ih distinct.2 all there
      exact ⟨r', List.mem_cons_of_mem _ mem, by rw [no_own]; exact eq⟩

theorem stepAll_eq_error {v : Visit} {rs : List Running} {f : Fault}
    (h : stepAll v rs = .error f) : ∃ r ∈ rs, r.step v = .error f := by
  induction rs with
  | nil => contradiction
  | cons r rs ih =>
    simp only [stepAll, bind, Except.bind, pure, Except.pure] at h
    split at h
    next f' failed =>
      rw [Except.error.inj h] at failed
      exact ⟨r, List.mem_cons_self, failed⟩
    · split at h
      next f' failed =>
        rw [Except.error.inj h] at failed
        obtain ⟨s, mem, eq⟩ := ih failed
        exact ⟨s, List.mem_cons_of_mem _ mem, eq⟩
      · contradiction

theorem walk_cons_eq_ok {rs : List Running} {v : Visit} {vs : List Visit}
    {found : List Diagnostic} (h : walk rs (v :: vs) = .ok found) :
    ∃ rs' here later, stepAll v rs = .ok (rs', here) ∧ walk rs' vs = .ok later ∧
      found = here ++ later := by
  simp only [walk, bind, Except.bind, pure, Except.pure] at h
  split at h
  · contradiction
  next here stepped =>
    split at h
    · contradiction
    next later walked => exact ⟨here.1, here.2, later, stepped, walked, (Except.ok.inj h).symm⟩

theorem walk_alone_cons {r r' : Running} {v : Visit} {vs : List Visit} {own : List Diagnostic}
    (h : r.step v = .ok (r', own)) :
    walk [r] (v :: vs) = (walk [r'] vs).map (own ++ ·) := by
  simp only [walk, stepAll, h, bind, Except.bind, pure, Except.pure, List.append_nil]
  cases walk [r'] vs <;> rfl

/-- What all rules find on a walk is, under the name of one of them, what it finds on a
walk of its own. -/
theorem walk_eq_ok {rs : List Running} {vs : List Visit} {found : List Diagnostic}
    (distinct : (rs.map name).Nodup) (h : walk rs vs = .ok found) :
    (∀ d ∈ found, ∃ r ∈ rs, d.rule = r.name) ∧
      ∀ r ∈ rs, walk [r] vs = .ok (found.filter (·.under r.name)) := by
  induction vs generalizing rs found with
  | nil =>
    rw [walk, Except.ok.injEq] at h
    subst h
    exact ⟨by simp, fun r _ => rfl⟩
  | cons v vs ih =>
    obtain ⟨rs', here, later, stepped, walked, rfl⟩ := walk_cons_eq_ok h
    obtain ⟨entries, named, origin⟩ := stepAll_eq_ok stepped
    have names : rs'.map name = rs.map name := by
      have := congrArg (List.map fun e => e.rule.name) entries
      rw [List.map_map, List.map_map] at this
      exact this
    obtain ⟨later_named, alone⟩ := ih (names ▸ distinct) walked
    refine ⟨fun d mem => ?_, fun r mem => ?_⟩
    · rcases List.mem_append.mp mem with mem | mem
      · exact named d mem
      · obtain ⟨r', mem, eq⟩ := later_named d mem
        obtain ⟨r, mem, own, step⟩ := origin r' mem
        exact ⟨r, mem, eq.trans (congrArg (·.rule.name) (step_eq_ok step).1)⟩
    · obtain ⟨r', mem', step⟩ := stepAll_mem distinct stepped mem
      have same : r'.name = r.name := congrArg (·.rule.name) (step_eq_ok step).1
      rw [walk_alone_cons step, alone r' mem', same, List.filter_append]
      rfl

theorem walk_eq_error {rs : List Running} {vs : List Visit} {f : Fault}
    (h : walk rs vs = .error f) : ∃ r ∈ rs, walk [r] vs = .error f := by
  induction vs generalizing rs with
  | nil => contradiction
  | cons v vs ih =>
    simp only [walk, bind, Except.bind, pure, Except.pure] at h
    split at h
    next f' failed =>
      rw [Except.error.inj h] at failed
      obtain ⟨r, mem, step⟩ := stepAll_eq_error failed
      exact ⟨r, mem, by simp [walk, stepAll, step, bind, Except.bind]⟩
    next stepped step =>
      split at h
      next f' failed =>
        rw [Except.error.inj h] at failed
        obtain ⟨r', mem', stuck⟩ := ih failed
        obtain ⟨-, -, origin⟩ := stepAll_eq_ok step
        obtain ⟨r, mem, own, step⟩ := origin r' mem'
        exact ⟨r, mem, by rw [walk_alone_cons step, stuck]; rfl⟩
      · contradiction

end Running

/-! ## Setting the rules up -/

namespace Entry

variable {tree : Tree} {file : File} {cwd : Text}

def name (e : Entry) : Text := e.rule.name

theorem entry_of_start {e : Entry} {r : Running} (h : e.start tree file cwd = .ok r) :
    r.entry = e := by
  simp only [start] at h
  split at h
  · rw [← Except.ok.inj h]
  · contradiction

theorem rule_of_start {e : Entry} {d : Diagnostic} (h : e.start tree file cwd = .error d) :
    d.rule = e.name := by
  simp only [start] at h
  split at h
  · contradiction
  · rw [← Except.error.inj h]
    rfl

theorem mem_started {entries : List Entry} {r : Running} :
    r ∈ started tree file cwd entries ↔ ∃ e ∈ entries, e.start tree file cwd = .ok r := by
  simp only [started, List.mem_filterMap]
  refine exists_congr fun e => and_congr_right fun _ => ?_
  cases e.start tree file cwd <;> simp [Except.toOption]

theorem mem_rejected {entries : List Entry} {d : Diagnostic} :
    d ∈ rejected tree file cwd entries ↔ ∃ e ∈ entries, e.start tree file cwd = .error d := by
  simp only [rejected, List.mem_filterMap]
  refine exists_congr fun e => and_congr_right fun _ => ?_
  cases e.start tree file cwd <;> simp

theorem name_of_mem_started {entries : List Entry} {r : Running}
    (h : r ∈ started tree file cwd entries) : r.name ∈ entries.map name := by
  obtain ⟨e, mem, eq⟩ := mem_started.mp h
  exact List.mem_map.mpr ⟨e, mem, congrArg name (entry_of_start eq).symm⟩

theorem rule_of_mem_rejected {entries : List Entry} {d : Diagnostic}
    (h : d ∈ rejected tree file cwd entries) : d.rule ∈ entries.map name := by
  obtain ⟨e, mem, eq⟩ := mem_rejected.mp h
  exact List.mem_map.mpr ⟨e, mem, (rule_of_start eq).symm⟩

theorem started_distinct {entries : List Entry} (distinct : (entries.map name).Nodup) :
    ((started tree file cwd entries).map Running.name).Nodup := by
  induction entries with
  | nil => exact List.nodup_nil
  | cons e entries ih =>
    rw [List.map_cons, List.nodup_cons] at distinct
    have rest := ih distinct.2
    simp only [started, List.filterMap_cons] at rest ⊢
    split
    · exact rest
    next r eq =>
      have entry : r.entry = e := by
        cases result : e.start tree file cwd with
        | error d => simp [result, Except.toOption] at eq
        | ok r' =>
          rw [result, Except.toOption, Option.some.injEq] at eq
          exact eq ▸ entry_of_start result
      rw [List.map_cons, List.nodup_cons]
      refine ⟨fun mem => distinct.1 ?_, rest⟩
      obtain ⟨s, mem, eq⟩ := List.mem_map.mp mem
      have := name_of_mem_started mem
      rwa [eq, Running.name, entry] at this

/-- The report of a rule that cannot be set up is what all reports have under its name. -/
theorem rejected_filter {entries : List Entry} (distinct : (entries.map name).Nodup) {e : Entry}
    (mem : e ∈ entries) :
    (rejected tree file cwd entries).filter (·.under e.name) = rejected tree file cwd [e] := by
  obtain ⟨before, after, rfl⟩ := List.append_of_mem mem
  rw [List.map_append, List.map_cons, List.nodup_append, List.nodup_cons] at distinct
  have apart : ∀ es : List Entry, e.name ∉ es.map name →
      (rejected tree file cwd es).filter (·.under e.name) = [] := by
    intro es absent
    refine List.filter_eq_nil_iff.mpr fun d mem same => absent ?_
    rw [← Diagnostic.under_iff.mp same]
    exact rule_of_mem_rejected mem
  have own : (rejected tree file cwd [e]).filter (·.under e.name) = rejected tree file cwd [e] := by
    refine List.filter_eq_self.mpr fun d mem => Diagnostic.under_iff.mpr ?_
    simpa using rule_of_mem_rejected mem
  have split : rejected tree file cwd (before ++ e :: after) = rejected tree file cwd before
      ++ (rejected tree file cwd [e] ++ rejected tree file cwd after) := by
    simp only [rejected, ← List.filterMap_append, List.singleton_append]
  have here : e.name ∈ (e :: after).map name := List.mem_map_of_mem List.mem_cons_self
  have absent : e.name ∉ before.map name := fun mem => distinct.2.2 _ mem _ here rfl
  rw [split, List.filter_append, List.filter_append, apart before absent,
    apart after distinct.2.1.1, own, List.nil_append, List.append_nil]

theorem walk_nil (vs : List Visit) : Running.walk [] vs = .ok [] := by
  induction vs with
  | nil => rfl
  | cons v vs ih => simp [Running.walk, Running.stepAll, ih, bind, Except.bind, pure, Except.pure]

/-- What all rules find on a walk is, under the name of an entry, what the rule of that
entry finds, if it can be set up at all. -/
theorem walk_started_alone {entries : List Entry} {vs : List Visit} {found : List Diagnostic}
    (distinct : (entries.map name).Nodup)
    (walked : Running.walk (started tree file cwd entries) vs = .ok found) {e : Entry}
    (mem : e ∈ entries) :
    Running.walk (started tree file cwd [e]) vs = .ok (found.filter (·.under e.name)) := by
  obtain ⟨named, alone⟩ := Running.walk_eq_ok (started_distinct distinct) walked
  cases result : e.start tree file cwd with
  | ok r =>
    have single : started tree file cwd [e] = [r] := by simp [started, result, Except.toOption]
    have same : r.name = e.name := congrArg name (entry_of_start result)
    rw [single, ← same]
    exact alone r (mem_started.mpr ⟨e, mem, result⟩)
  | error d =>
    have single : started tree file cwd [e] = [] := by simp [started, result, Except.toOption]
    have none : found.filter (·.under e.name) = [] := by
      refine List.filter_eq_nil_iff.mpr fun d mem_d same => ?_
      obtain ⟨r, mem_r, eq⟩ := named d mem_d
      obtain ⟨other, mem_other, set_up⟩ := mem_started.mp mem_r
      have names : other.name = e.name := by
        rw [← Diagnostic.under_iff.mp same, eq, Running.name, entry_of_start set_up, name]
      rw [List.inj_on_of_nodup_map distinct mem_other mem names, result] at set_up
      contradiction
    rw [single, none, walk_nil]

end Entry

/-! ## Linting -/

section Lint

variable {tree : Tree} {file : File} {cwd : Text}

theorem lintFile_eq_ok {entries : List Entry} {ds : List Diagnostic}
    (h : lintFile entries cwd tree file = .ok ds) :
    ∃ found, Running.walk (Entry.started tree file cwd entries)
        (tree.visits (fun _ => false) tree.root) = .ok found ∧
      ds = sortDiagnostics (Entry.rejected tree file cwd entries ++ found) := by
  simp only [lintFile] at h
  split at h
  next found walked => exact ⟨found, walked, (Except.ok.inj h).symm⟩
  · contradiction

theorem lintFile_alone {entries : List Entry} {ds : List Diagnostic}
    (distinct : (entries.map Entry.name).Nodup) (h : lintFile entries cwd tree file = .ok ds)
    {e : Entry} (mem : e ∈ entries) :
    lintFile [e] cwd tree file = .ok (ds.filter (·.under e.name)) := by
  obtain ⟨found, walked, rfl⟩ := lintFile_eq_ok h
  rw [lintFile, Entry.walk_started_alone distinct walked mem]
  simp only [sortDiagnostics]
  rw [filter_mergeSort Diagnostic.atMost_trans Diagnostic.atMost_total, List.filter_append,
    Entry.rejected_filter distinct mem]

theorem lintFile_named {entries : List Entry} {ds : List Diagnostic}
    (distinct : (entries.map Entry.name).Nodup) (h : lintFile entries cwd tree file = .ok ds) :
    ∀ d ∈ ds, d.rule ∈ entries.map Entry.name := by
  obtain ⟨found, walked, rfl⟩ := lintFile_eq_ok h
  intro d mem
  rw [sortDiagnostics, List.mem_mergeSort, List.mem_append] at mem
  rcases mem with rejected | here
  · exact Entry.rule_of_mem_rejected rejected
  · obtain ⟨r, mem, eq⟩ := (Running.walk_eq_ok (Entry.started_distinct distinct) walked).1 d here
    exact eq ▸ Entry.name_of_mem_started mem

theorem lintFile_eq_error {entries : List Entry} {x : LintError}
    (h : lintFile entries cwd tree file = .error x) :
    ∃ f, x = .fault f ∧ ∃ e ∈ entries, lintFile [e] cwd tree file = .error (.fault f) := by
  simp only [lintFile] at h
  split at h
  · contradiction
  next f stuck =>
    obtain ⟨r, mem, alone⟩ := Running.walk_eq_error stuck
    obtain ⟨e, mem, set_up⟩ := Entry.mem_started.mp mem
    refine ⟨f, (Except.error.inj h).symm, e, mem, ?_⟩
    have single : Entry.started tree file cwd [e] = [r] := by
      simp [Entry.started, set_up, Except.toOption]
    rw [lintFile, single, alone]

/-- A code begins with the name of its rule, when that is a name that ends at a slash. -/
theorem Diagnostic.rule_of_code {d : Diagnostic} (named : d.rule ≠ []) (whole : 47 ∉ d.rule) :
    d.code.takeWhile (· != 47) = d.rule := by
  have all : ∀ b ∈ d.rule, (b != 47) = true := by
    intro b mem
    exact bne_iff_ne.mpr fun eq => whole (eq ▸ mem)
  have slash : utf8 "/" = [47] := by decide
  simp only [code, List.isEmpty_iff, named, if_false]
  split
  · rw [← List.append_nil d.rule, List.takeWhile_append_of_pos (by simpa using all)]
    simp
  · rw [List.append_assoc, List.takeWhile_append_of_pos all, slash]
    simp

/-- Sorted lists of diagnostics of such rules are equal when they are so rule by rule. -/
theorem Diagnostic.sorted_ext_under {ds ds' : List Diagnostic}
    (sorted : ds.Pairwise fun a b => a.atMost b) (sorted' : ds'.Pairwise fun a b => a.atMost b)
    (whole : ∀ d ∈ ds, d.rule ≠ [] ∧ 47 ∉ d.rule) (whole' : ∀ d ∈ ds', d.rule ≠ [] ∧ 47 ∉ d.rule)
    (same : ∀ name, ds.filter (·.under name) = ds'.filter (·.under name)) : ds = ds' := by
  refine sorted_ext atMost_total sorted sorted' fun a => ?_
  have one : ∀ es : List Diagnostic, (∀ d ∈ es, d.rule ≠ [] ∧ 47 ∉ d.rule) →
      es.filter (ties atMost a)
        = (es.filter (·.under (a.code.takeWhile (· != 47)))).filter (ties atMost a) := by
    intro es whole
    rw [List.filter_filter]
    refine List.filter_congr fun d mem => ?_
    cases tie : ties atMost a d with
    | false => rfl
    | true =>
      have named : d.under (a.code.takeWhile (· != 47)) := by
        rw [under_iff, code_eq_of_ties tie, rule_of_code (whole d mem).1 (whole d mem).2]
      rw [named, Bool.and_self]
  rw [one ds whole, one ds' whole', same]

theorem lintFile_perm {entries others : List Entry} (perm : others.Perm entries)
    (distinct : (entries.map Entry.name).Nodup)
    (whole : ∀ e ∈ entries, e.name ≠ [] ∧ 47 ∉ e.name) {ds ds' : List Diagnostic}
    (h : lintFile entries cwd tree file = .ok ds) (h' : lintFile others cwd tree file = .ok ds') :
    ds' = ds := by
  have distinct' : (others.map Entry.name).Nodup := (perm.map Entry.name).nodup_iff.mpr distinct
  have sorted : ∀ {es : List Entry} {ds : List Diagnostic}, lintFile es cwd tree file = .ok ds →
      ds.Pairwise fun a b => a.atMost b := by
    intro es ds h
    obtain ⟨found, -, rfl⟩ := lintFile_eq_ok h
    exact List.pairwise_mergeSort Diagnostic.atMost_trans Diagnostic.atMost_total _
  have rules : ∀ d ∈ ds, d.rule ∈ entries.map Entry.name := lintFile_named distinct h
  have rules' : ∀ d ∈ ds', d.rule ∈ entries.map Entry.name := fun d mem =>
    (perm.map Entry.name).mem_iff.mp (lintFile_named distinct' h' d mem)
  have named : ∀ name ∈ entries.map Entry.name, name ≠ [] ∧ 47 ∉ name := by
    intro name mem
    obtain ⟨e, owned, rfl⟩ := List.mem_map.mp mem
    exact whole e owned
  refine Diagnostic.sorted_ext_under (sorted h') (sorted h) (fun d mem => named _ (rules' d mem))
    (fun d mem => named _ (rules d mem)) fun name => ?_
  -- Under the name of an entry both hold what it says alone, under any other nothing.
  by_cases known : name ∈ entries.map Entry.name
  · obtain ⟨e, mem, rfl⟩ := List.mem_map.mp known
    have alone := lintFile_alone distinct h mem
    rw [lintFile_alone distinct' h' (perm.mem_iff.mpr mem)] at alone
    exact Except.ok.inj alone
  · have none : ∀ es : List Diagnostic, (∀ d ∈ es, d.rule ∈ entries.map Entry.name) →
        es.filter (·.under name) = [] := fun es rules =>
      List.filter_eq_nil_iff.mpr fun d mem under =>
        known (Diagnostic.under_iff.mp under ▸ rules d mem)
    rw [none ds rules, none ds' rules']

theorem lintFile_perm_cases {entries others : List Entry} (perm : others.Perm entries)
    (distinct : (entries.map Entry.name).Nodup)
    (whole : ∀ e ∈ entries, e.name ≠ [] ∧ 47 ∉ e.name) :
    lintFile others cwd tree file = lintFile entries cwd tree file ∨
      ∃ f f', lintFile others cwd tree file = .error (.fault f) ∧
        lintFile entries cwd tree file = .error (.fault f') := by
  have distinct' : (others.map Entry.name).Nodup := (perm.map Entry.name).nodup_iff.mpr distinct
  cases h' : lintFile others cwd tree file with
  | ok ds' =>
    left
    cases h : lintFile entries cwd tree file with
    | ok ds => rw [lintFile_perm perm distinct whole h h']
    | error x =>
      obtain ⟨f, -, e, mem, stuck⟩ := lintFile_eq_error h
      rw [lintFile_alone distinct' h' (perm.mem_iff.mpr mem)] at stuck
      contradiction
  | error x' =>
    obtain ⟨f', rfl, e, mem, stuck⟩ := lintFile_eq_error h'
    cases h : lintFile entries cwd tree file with
    | ok ds =>
      rw [lintFile_alone distinct h (perm.mem_iff.mp mem)] at stuck
      contradiction
    | error x =>
      obtain ⟨f, rfl, -⟩ := lintFile_eq_error h
      exact .inr ⟨f', f, rfl, rfl⟩

end Lint

/-- The order of entries of distinct names does not show in the diagnostics, and those
under the name of an entry are those of a lint with that entry alone.  A rule that gets
stuck among others gets stuck alone. -/
theorem lint_perm (cwd : Text) (cancelled : Bool) (files : FileSet) (tree? : Option Tree)
    {entries others : List Entry} (perm : others.Perm entries)
    (distinct : (entries.map Entry.name).Nodup)
    (whole : ∀ e ∈ entries, e.name ≠ [] ∧ 47 ∉ e.name) :
    (lint others cwd cancelled files tree? = lint entries cwd cancelled files tree? ∨
      ∃ f f', lint others cwd cancelled files tree? = .error (.fault f) ∧
        lint entries cwd cancelled files tree? = .error (.fault f')) ∧
    (∀ ds, lint entries cwd cancelled files tree? = .ok ds → ∀ e ∈ entries,
      lint [e] cwd cancelled files tree? = .ok (ds.filter (·.under e.name))) ∧
    ∀ f, lint entries cwd cancelled files tree? = .error (.fault f) → ∃ e ∈ entries,
      lint [e] cwd cancelled files tree? = .error (.fault f) := by
  unfold lint
  cases cancelled with
  | true => simp
  | false =>
    cases tree? with
    | none => simp
    | some tree =>
      cases found : files.get? tree.file with
      | none => simp [found]
      | some file =>
        simp only [found, Bool.false_eq_true, if_false]
        refine ⟨lintFile_perm_cases perm distinct whole, fun ds h e mem => ?_, fun f h => ?_⟩
        · exact lintFile_alone distinct h mem
        · obtain ⟨f', eq, alone⟩ := lintFile_eq_error h
          rwa [← LintError.fault.inj eq] at alone

/-- Two rules that object to the same class do so in either order of their entries. -/
theorem lint_perm_itly :
    let entries : List Entry :=
      [⟨.requireItlyConstant, .error, .empty⟩, ⟨.requireItlyEventSource, .error, .empty⟩]
    let files : FileSet := ⟨[⟨0, "a.ts", "class C {}", ⟨false, false, false⟩⟩], [], "/"⟩
    let tree : Tree := ⟨0, some ⟨0⟩, #[⟨⟨0, 0, 10⟩, none, .program ⟨[some ⟨1⟩], []⟩⟩,
      ⟨⟨0, 0, 10⟩, some ⟨0⟩, .classNode ⟨.declaration, none, none, [], none, false⟩⟩], .initial⟩
    entries.reverse.Perm entries ∧ (entries.map Entry.name).Nodup ∧
      (∀ e ∈ entries, e.name ≠ [] ∧ 47 ∉ e.name) ∧
    ∃ ds, ds.length = 2 ∧ lint entries "/" false files (some tree) = .ok ds ∧
      lint entries.reverse "/" false files (some tree) = .ok ds ∧
      lint [⟨.requireItlyConstant, .error, .empty⟩] "/" false files (some tree)
        = .ok (ds.filter (·.under "require-itly-constant")) := by
  intro entries files tree
  have perm : entries.reverse.Perm entries := List.reverse_perm entries
  have distinct : (entries.map Entry.name).Nodup := by decide
  have whole : ∀ e ∈ entries, e.name ≠ [] ∧ 47 ∉ e.name := by decide
  obtain ⟨order, alone, -⟩ := lint_perm "/" false files (some tree) perm distinct whole
  have two : (lint entries "/" false files (some tree)).toOption.map List.length = some 2 := by
    let f : File := ⟨0, "a.ts", "class C {}", ⟨false, false, false⟩⟩
    have rejected : (Entry.rejected tree f "/" entries).length = 0 := by decide +kernel
    have walked : (Running.walk (Entry.started tree f "/" entries)
        (tree.visits (fun _ => false) tree.root)).toOption.map List.length = some 2 := by
      decide +kernel
    have alone : lint entries "/" false files (some tree) = lintFile entries "/" tree f := rfl
    rw [alone, lintFile]
    generalize Running.walk _ _ = walk at walked ⊢
    cases walk with
    | error x => cases walked
    | ok found =>
      rw [← walked]
      simp only [Except.toOption, Option.map_some, sortDiagnostics, List.length_mergeSort,
        List.length_append, rejected, Nat.zero_add]
  cases result : lint entries "/" false files (some tree) with
  | error x => simp [result, Except.toOption] at two
  | ok ds =>
    rw [result] at two
    refine ⟨perm, distinct, whole, ds, Option.some.inj two, rfl, ?_,
      alone ds result _ List.mem_cons_self⟩
    rcases order with same | ⟨f, f', -, stuck⟩
    · rw [same, result]
    · rw [result] at stuck
      contradiction

end TreeLint

namespace TreeLint

namespace Running

/-- A rule that was set up to look at nodes of one kind. -/
def onEnter (e : Entry) (t : Tree) (k : Kind) (find : NodeId → List Finding) : Running :=
  ⟨e, .onEnter t k fun id => .ok (find id), []⟩

/-- What such a rule has to report of nodes. -/
def reports (e : Entry) (t : Tree) (k : Kind) (find : NodeId → List Finding) (ids : List NodeId) :
    List Diagnostic :=
  ((ids.filter fun id => t.hasKind (some id) k).flatMap find).map
    (e.rule.diagnostic e.severity)

variable {e : Entry} {t : Tree} {k : Kind} {find : NodeId → List Finding}

theorem step_onEnter (v : Visit) : (onEnter e t k find).step v
    = .ok (onEnter e t k find, reports e t k find v.entered?.toList) := by
  cases v with
  | leave id => rfl
  | enter id =>
    simp only [step, onEnter, Visitor.onEnter, reports, Visit.entered?, Option.toList_some,
      List.filter_singleton]
    cases t.hasKind (some id) k <;> simp [Except.map, bind, Except.bind, pure, Except.pure]

theorem walk_onEnter (vs : List Visit) : walk [onEnter e t k find] vs
    = .ok (reports e t k find (vs.filterMap Visit.entered?)) := by
  induction vs with
  | nil => rfl
  | cons v vs ih =>
    have split : (v :: vs).filterMap Visit.entered?
        = v.entered?.toList ++ vs.filterMap Visit.entered? := by
      cases v <;> rfl
    rw [walk_alone_cons (step_onEnter v), ih, split]
    simp [Except.map, reports]

end Running

/-- Alone in a lint such a rule never fails, and its reports are those of the nodes that a walk
from the root enters. -/
theorem lint_onEnter {files : FileSet} {f : File} {t : Tree} (known : files.get? t.file = some f)
    (e : Entry) (cwd : Text) {k : Kind} {find : NodeId → List Finding}
    (created : e.rule.create ⟨t, f, cwd, e.options⟩ = .ok (.onEnter t k fun id => .ok (find id))) :
    ∃ ds, lint [e] cwd false files (some t) = .ok ds ∧
      ds.Perm (Running.reports e t k find (t.walk.filterMap Visit.entered?)) := by
  have started : Entry.started t f cwd [e] = [Running.onEnter e t k find] := by
    simp only [Entry.started, List.filterMap_cons, List.filterMap_nil, Entry.start, created]
    rfl
  have rejected : Entry.rejected t f cwd [e] = [] := by
    simp only [Entry.rejected, List.filterMap_cons, List.filterMap_nil, Entry.start, created]
  refine ⟨_, ?_, List.mergeSort_perm _ Diagnostic.atMost⟩
  rw [lint]
  simp only [Bool.false_eq_true, if_false, known]
  rw [lintFile, started, ← Tree.walk, Running.walk_onEnter, rejected]
  rfl

/-- Nodes at which there is one thing to find or nothing. -/
theorem flatMap_eq_map_filter {α β : Type} {f : α → List β} {g : α → β} {p : α → Prop}
    [DecidablePred p] {l : List α} (some : ∀ a ∈ l, p a → f a = [g a])
    (none : ∀ a ∈ l, ¬ p a → f a = []) : l.flatMap f = (l.filter p).map g := by
  induction l with
  | nil => rfl
  | cons a l ih =>
    rw [List.forall_mem_cons] at some none
    rw [List.flatMap_cons, ih some.2 none.2]
    by_cases holds : p a
    · simp [holds, some.1 holds]
    · simp [holds, none.1 holds]

end TreeLint
