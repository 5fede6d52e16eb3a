import TreeLint.Proofs.Document.Building
import TreeLint.Proofs.Rule.Registry

/-! # Lints that complete

A rule looks nodes up by their place and by what it expects there, and it has to cope with
trees in which a node is missing or is of some other kind.  All rules but one cope with every
tree (`Rule.calm_of_mem_all`).  The rule about inline exports takes each item of a local list
of exports for an exported name, and its walk ends early where an item is none.

So the lint of a tree that was read from a document completes if and only if that rule does
not run or the lists of the tree hold names only (`lint_completes_iff`).  The bounds in the
definitions of walks are no limits there: in such a tree children come before their parents.
-/

namespace TreeLint

section Traversal

variable {ε α β : Type} {f : α → Except ε β}

theorem exists_mapM_eq_ok {l : List α} :
    (∃ found, l.mapM f = .ok found) ↔ ∀ a ∈ l, ∃ b, f a = .ok b := by
  induction l with
  | nil => exact iff_of_true ⟨[], rfl⟩ (by simp)
  | cons a l ih =>
    rw [List.forall_mem_cons, ← ih, List.mapM_cons]
    cases f a with
    | error e => simp [bind, Except.bind]
    | ok b => cases l.mapM f <;> simp [bind, Except.bind, pure, Except.pure]

end Traversal

/-! ## Visitors that never stop -/

/-- A visitor that can be told of each of these steps, whatever it remembers. -/
def Visitor.Calm (v : Visitor) (vs : List Visit) : Prop :=
  ∀ memory, ∀ x ∈ vs, ∃ out, v.step memory x = .ok out

theorem Visitor.onEnter_calm {t : Tree} {k : Kind} {find : NodeId → Except Fault (List Finding)}
    {vs : List Visit}
    (finds : ∀ id, .enter id ∈ vs → t.hasKind (some id) k → ∃ found, find id = .ok found) :
    (onEnter t k find).Calm vs := by
  intro memory x mem
  cases x with
  | leave id => exact ⟨_, rfl⟩
  | enter id =>
    simp only [onEnter]
    split
    next kind =>
      obtain ⟨found, eq⟩ := finds id mem kind
      exact ⟨_, by rw [eq]; rfl⟩
    · exact ⟨_, rfl⟩

namespace Rule

theorem importStyle_calm {c : Context} {v : Visitor} (h : importStyle.create c = .ok v)
    (vs : List Visit) : v.Calm vs := by
  obtain ⟨s, -, rfl⟩ := importStyle_created h
  intro memory x _
  cases x with
  | leave id => exact ⟨_, rfl⟩
  | enter id =>
    simp only [ImportStyle.visitor]
    split
    · split <;> exact ⟨_, rfl⟩
    · exact ⟨_, rfl⟩
    · exact ⟨_, rfl⟩

theorem paramTypes_calm {c : Context} {v : Visitor} (h : paramTypes.create c = .ok v)
    (vs : List Visit) : v.Calm vs := by
  obtain ⟨s, -, rfl⟩ := paramTypes_created h
  intro memory x _
  cases x with
  | leave id => exact ⟨_, rfl⟩
  | enter id =>
    simp only [ParamTypes.visitor]
    split <;> exact ⟨_, rfl⟩

/-- All rules but the one about inline exports cope with every tree. -/
theorem calm_of_mem_all {r : Rule} (known : r ∈ all) (other : r ≠ exportInline) {c : Context}
    {v : Visitor} (h : r.create c = .ok v) (vs : List Visit) : v.Calm vs := by
  simp only [all, List.mem_cons, List.not_mem_nil, or_false] at known
  obtain rfl | rfl | rfl | rfl | rfl | rfl | rfl | rfl := known
  case inl => exact absurd rfl other
  case inr.inl => exact importStyle_calm h vs
  case inr.inr.inl => exact paramTypes_calm h vs
  all_goals
    cases h
    exact Visitor.onEnter_calm fun _ _ _ => ⟨_, rfl⟩

end Rule

/-! ## Lists of exports -/

namespace Tree

/-- The statements of the program. -/
def statements (t : Tree) : List Ref := ((t.program? t.root).map Program.body).getD []

/-- The local lists of exports hold names only. -/
def ListsNames (t : Tree) : Prop :=
  ∀ r ∈ t.statements, ∀ d ∈ t.exportNamed? r, d.declaration = none → d.source = none →
    ∀ s ∈ d.specifiers, (t.exportSpecifier? s).isSome

instance (t : Tree) : Decidable t.ListsNames :=
  inferInstanceAs (Decidable (∀ r ∈ t.statements, ∀ d ∈ t.exportNamed? r,
    d.declaration = none → d.source = none → ∀ s ∈ d.specifiers, (t.exportSpecifier? s).isSome))

end Tree

namespace Rule.ExportInline

variable {c : Context}

theorem exists_itemFinding?_eq_ok (c : Context) (body : List Ref) (r : Ref) {s : Ref} :
    (∃ found, itemFinding? c body r s = .ok found) ↔ (c.tree.exportSpecifier? s).isSome := by
  cases found : c.tree.exportSpecifier? s <;> simp [itemFinding?, found]

theorem exists_statementFindings_eq_ok (c : Context) (body : List Ref) {r : Ref} :
    (∃ found, statementFindings c body r = .ok found) ↔
      ∀ d ∈ c.tree.exportNamed? r, d.declaration = none → d.source = none →
        ∀ s ∈ d.specifiers, (c.tree.exportSpecifier? s).isSome := by
  simp only [statementFindings]
  cases c.tree.exportNamed? r with
  | none => simp
  | some d =>
    simp only [Option.mem_some_iff, forall_eq']
    split
    next other =>
      refine iff_of_true ⟨_, rfl⟩ fun none none' => ?_
      simp [none, none'] at other
    next own =>
      have declaration : d.declaration = none := by
        cases eq : d.declaration <;> simp [eq] at own ⊢
      have source : d.source = none := by
        cases eq : d.source <;> simp [eq] at own ⊢
      rw [forall_prop_of_true declaration, forall_prop_of_true source]
      split
      next empty =>
        rw [List.isEmpty_iff] at empty
        refine iff_of_true ?_ (by simp [empty])
        split <;> exact ⟨_, rfl⟩
      · simp only [← exists_itemFinding?_eq_ok c body r, ← exists_mapM_eq_ok]
        cases d.specifiers.mapM (itemFinding? c body r) <;>
          simp [bind, Except.bind, pure, Except.pure]

/-- The rule copes with a program whose local lists of exports hold names only. -/
theorem exists_programFindings_eq_ok {id : NodeId} (root : c.tree.root = some id) :
    (∃ found, programFindings c id = .ok found) ↔ c.tree.ListsNames := by
  have statements : ((c.tree.program? (some id)).map Program.body).getD [] = c.tree.statements := by
    rw [Tree.statements, root]
  simp only [programFindings, statements, Tree.ListsNames, ←
    exists_statementFindings_eq_ok c c.tree.statements, ← exists_mapM_eq_ok]
  cases c.tree.statements.mapM (statementFindings c c.tree.statements) <;>
    simp [bind, Except.bind, pure, Except.pure]

end Rule.ExportInline

/-! ## Walks -/

namespace Running

/-- Rules are told of a step if and only if each of them is. -/
theorem exists_stepAll_eq_ok {v : Visit} {rs : List Running} :
    (∃ out, stepAll v rs = .ok out) ↔ ∀ r ∈ rs, ∃ out, r.visitor.step r.memory v = .ok out := by
  induction rs with
  | nil => exact iff_of_true ⟨_, rfl⟩ (by simp)
  | cons r rs ih =>
    rw [List.forall_mem_cons, ← ih, stepAll, step]
    cases r.visitor.step r.memory v with
    | error f => simp [bind, Except.bind]
    | ok out => cases stepAll v rs <;> simp [bind, Except.bind, pure, Except.pure]

theorem step_visitor {r r' : Running} {v : Visit} {found : List Diagnostic}
    (h : r.step v = .ok (r', found)) : r'.visitor = r.visitor := by
  simp only [step, bind, Except.bind, pure, Except.pure] at h
  split at h
  · contradiction
  · cases h
    rfl

/-- A walk of calm rules comes to its end. -/
theorem walk_of_calm {rs : List Running} {vs : List Visit}
    (calm : ∀ r ∈ rs, r.visitor.Calm vs) : ∃ found, walk rs vs = .ok found := by
  induction vs generalizing rs with
  | nil => exact ⟨[], rfl⟩
  | cons v vs ih =>
    obtain ⟨⟨rs', here⟩, stepped⟩ : ∃ out, stepAll v rs = .ok out :=
      exists_stepAll_eq_ok.mpr fun r mem => calm r mem r.memory v List.mem_cons_self
    obtain ⟨-, -, origin⟩ := stepAll_eq_ok stepped
    have still : ∀ r' ∈ rs', r'.visitor.Calm vs := by
      intro r' mem' memory x mem_x
      obtain ⟨r, mem, own, step⟩ := origin r' mem'
      rw [step_visitor step]
      exact calm r mem memory x (List.mem_cons_of_mem v mem_x)
    obtain ⟨later, walked⟩ := ih still
    exact ⟨here ++ later, by simp [walk, stepped, walked, bind, Except.bind, pure, Except.pure]⟩

end Running

namespace Tree.Rooted

variable {t : Tree} {root : NodeId}

/-- A walk begins at the root. -/
theorem visits_eq_cons (h : t.Rooted root) :
    ∃ vs, t.visits (fun _ => false) t.root = .enter root :: vs := by
  obtain ⟨n, found, -⟩ := hasKind_iff.mp h.program
  have inside : 0 < t.size := Nat.lt_of_le_of_lt (Nat.zero_le _) (index_lt_size found)
  obtain ⟨depth, deep⟩ := Nat.exists_eq_succ_of_ne_zero (Nat.ne_of_gt inside)
  rw [h.at_root, visits.eq_def, deep]
  simp only [visitsWithin, found, List.cons_append]
  exact ⟨_, rfl⟩

end Tree.Rooted

namespace Entry

variable {t : Tree} {root : NodeId} {f : File} {cwd : Text} {entries : List Entry}

theorem visitor_of_start {e : Entry} {r : Running} (h : e.start t f cwd = .ok r) :
    e.rule.create ⟨t, f, cwd, e.options⟩ = .ok r.visitor := by
  simp only [start] at h
  split at h
  next v made => rw [← Except.ok.inj h, made]
  · contradiction

/-- All rules of a run walk the tree to the end if and only if the one about inline exports
is not among them or copes with the tree. -/
theorem exists_walk_eq_ok (rooted : t.Rooted root) (known : ∀ e ∈ entries, e.rule ∈ Rule.all)
    (f : File) (cwd : Text) :
    (∃ found, Running.walk (started t f cwd entries) (t.visits (fun _ => false) t.root) = .ok found)
      ↔ (Rule.exportInline ∈ entries.map (·.rule) → t.ListsNames) := by
  constructor
  · rintro ⟨found, walked⟩ mem
    obtain ⟨vs, first⟩ := rooted.visits_eq_cons
    rw [first] at walked
    obtain ⟨rs', here, later, stepped, -, -⟩ := Running.walk_cons_eq_ok walked
    obtain ⟨e, there, inline⟩ := List.mem_map.mp mem
    have set_up : e.start t f cwd = .ok ⟨e, .onEnter t .program
        (Rule.ExportInline.programFindings ⟨t, f, cwd, e.options⟩), []⟩ := by
      rw [start, inline]
      rfl
    obtain ⟨out, step⟩ := Running.exists_stepAll_eq_ok.mp ⟨_, stepped⟩ _
      (mem_started.mpr ⟨e, there, set_up⟩)
    rw [← Rule.ExportInline.exists_programFindings_eq_ok (c := ⟨t, f, cwd, e.options⟩)
      rooted.at_root]
    simp only [Visitor.onEnter, rooted.program, if_true] at step
    cases findings : Rule.ExportInline.programFindings ⟨t, f, cwd, e.options⟩ root with
    | ok found => exact ⟨found, rfl⟩
    | error fault => simp [findings, Except.map] at step
  · intro copes
    refine Running.walk_of_calm fun r mem => ?_
    obtain ⟨e, there, set_up⟩ := mem_started.mp mem
    have made := visitor_of_start set_up
    by_cases inline : e.rule = Rule.exportInline
    · rw [inline] at made
      cases r with
      | mk entry visitor memory =>
        cases made
        refine Visitor.onEnter_calm fun id _ kind => ?_
        cases rooted.only id kind
        exact (Rule.ExportInline.exists_programFindings_eq_ok rooted.at_root).mpr
          (copes (List.mem_map.mpr ⟨e, there, inline⟩))
    · exact Rule.calm_of_mem_all (known e there) inline made _

end Entry

/-- A lint of the tree of a document completes if and only if the rule about inline exports
does not run or the local lists of exports hold names only.  No walk, down or up, is cut off. -/
theorem lint_completes_iff {files : FileSet} {id : FileId} {f : File} {document : Text}
    {t : Tree} (found : files.get? id = some f)
    (decoded : Document.decode files id document = .ok t) {entries : List Entry}
    (known : ∀ e ∈ entries, e.rule ∈ Rule.all) (cwd : Text) :
    ((∃ ds, lint entries cwd false files (some t) = .ok ds) ↔
      (Rule.exportInline ∈ entries.map (·.rule) → t.ListsNames)) ∧
    ∀ depth ≥ t.size,
      (∀ skip top, t.visitsWithin skip depth top = t.visits skip (some top)) ∧
      ∀ r, t.ancestorsWithin depth r = t.ancestors r := by
  obtain ⟨root, rooted⟩ := Document.decode_rooted found decoded
  refine ⟨?_, fun depth deep => ⟨fun skip => rooted.climbing.visitsWithin_eq skip deep,
    rooted.climbing.ancestorsWithin_eq deep⟩⟩
  have file : t.file = id := (Document.decode_whole found decoded).2
  rw [← Entry.exists_walk_eq_ok rooted known f cwd]
  simp only [lint, Bool.false_eq_true, if_false, file, found, lintFile]
  cases Running.walk (Entry.started t f cwd entries) (t.visits (fun _ => false) t.root) <;> simp

/-- A list of exports with a hole in it is where the rule stops. -/
theorem lint_completes_iff_hole :
    let f : File := ⟨0, "a.ts", "export \x7b\x7d;", ⟨true, false, false⟩⟩
    let files : FileSet := ⟨[f], [], "/"⟩
    let document : Text :=
      "\x7b\"type\":\"Program\",\"range\":[0,10],\"body\":[\x7b" ++
        "\"type\":\"ExportNamedDeclaration\",\"range\":[0,10],\"specifiers\":[null]\x7d]\x7d"
    ∃ t, Document.decode files 0 document = .ok t ∧ ¬ t.ListsNames ∧
      ¬ ∃ ds, lint [⟨Rule.exportInline, .error, .empty⟩] "/" false files (some t) = .ok ds := by
  intro f files document
  have holes : (match Document.decode files 0 document with
      | .ok t => decide (¬ t.ListsNames)
      | .error _ => false) = true := by
    decide +kernel
  split at holes
  next t decoded =>
    rw [decide_eq_true_eq] at holes
    refine ⟨t, decoded, holes, ?_⟩
    have known : ∀ e ∈ [Entry.mk Rule.exportInline .error .empty], e.rule ∈ Rule.all :=
      List.forall_mem_singleton.mpr List.mem_cons_self
    rw [(lint_completes_iff (f := f) rfl decoded known "/").1]
    exact fun copes => holes (copes List.mem_cons_self)
  · contradiction

end TreeLint
