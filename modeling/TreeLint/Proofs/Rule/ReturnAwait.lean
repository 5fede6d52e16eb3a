import TreeLint.Proofs.Lint.Entries
import TreeLint.Proofs.Script.Program

/-! # Calls returned from try blocks

A call that an asynchronous function returns from the block of a try statement has to be
awaited there.  Such a call is told by the way that leads down to it: from the innermost
function around the return statement, through no other function, and through a try statement by
its block (`Unawaited`).

The rule looks for that way from its other end, along the parent links.  In a tree without
defect these are the inverse of the children, so what stands above a statement are the ways down
to it (`Planted.descent_iff`), and the rule reports just the calls of this kind, each once
(`lint_returnAwait`).
-/

namespace TreeLint

namespace Tree

variable {t : Tree} {root : NodeId} {b : Branch}

/-! ## Ways down -/

/-- Nodes each of which is a child of the one before it. -/
def Descent (t : Tree) (nodes : List NodeId) : Prop := nodes.IsChain fun x y => y ∈ t.children x

theorem Descent.leads {x y : NodeId} {between : List NodeId}
    (h : t.Descent (x :: between ++ [y])) : t.Leads x y := by
  have steps : (x :: (between ++ [y])).IsChain fun x y => ∃ n, t.node? x = some n ∧ y ∈ n.children :=
    List.IsChain.imp (fun _ _ => mem_children.mp) h
  exact List.relationReflTransGen_of_exists_isChain_cons _ steps (by simp)

theorem descent_concat {nodes : List NodeId} {x y : NodeId} :
    t.Descent (nodes ++ [x] ++ [y]) ↔ t.Descent (nodes ++ [x]) ∧ y ∈ t.children x := by
  rw [Descent, List.isChain_append]
  simp [Descent]

/-- What stands above a node up to another one, read downward, leads from there to the node. -/
theorem Planted.descent_iff (h : t.Planted root b) {top id : NodeId} {above between : List NodeId}
    (leads : t.Leads root id) (up : t.Ancestry id above) :
    (∃ outer, above = between ++ top :: outer) ↔
      t.Leads root top ∧ t.Descent (top :: between.reverse ++ [id]) := by
  induction between generalizing id above with
  | nil =>
    have parent : (∃ outer, above = top :: outer) ↔ t.parent (some id) = some top := by
      cases up with
      | top orphan => simp [orphan]
      | step up more => simp [up]
    simp [parent, h.parent_iff leads, Descent]
  | cons p between ih =>
    have last : top :: (p :: between).reverse ++ [id]
        = top :: between.reverse ++ [p] ++ [id] := by simp
    rw [last, descent_concat]
    constructor
    · rintro ⟨outer, rfl⟩
      cases up with
      | step up more =>
        obtain ⟨first, child⟩ := (h.parent_iff leads).mp up
        obtain ⟨below, way⟩ := (ih first more).mp ⟨outer, rfl⟩
        exact ⟨below, way, child⟩
    · rintro ⟨below, way, child⟩
      have first : t.Leads root p := below.trans way.leads
      have parent := (h.parent_iff leads).mpr ⟨first, child⟩
      cases up with
      | top orphan => simp [parent] at orphan
      | step up more =>
        cases parent.symm.trans up
        obtain ⟨outer, rfl⟩ := (ih first more).mpr ⟨below, way⟩
        exact ⟨outer, rfl⟩

theorem mem_children_of_target {id c : NodeId} (h : t.target (some id) = some c) :
    c ∈ t.children id := by
  rw [target, Option.getD_eq_iff] at h
  have there := h.resolve_right fun missing => Option.some_ne_none c missing.2.symm
  refine mem_children_of_part? there fun s picked => ?_
  split at picked
  · simp [Shape.refs, Option.some.inj picked]
  · contradiction

end Tree

namespace Rule.ReturnAwait

variable {t : Tree} {root id : NodeId} {b : Branch}

/-! ## Calls to be awaited -/

/-- On a way a try statement is followed by its block. -/
def ByBlock (t : Tree) (way : List NodeId) : Prop :=
  ∃ statement block, [statement, block] <:+: way ∧ t.tryBlock? (some statement) = some (some block)

/-- A way down to a node from the innermost function around it. -/
structure Inside (t : Tree) (root top : NodeId) (between : List NodeId) (id : NodeId) : Prop where
  leads : t.Leads root top
  descent : t.Descent (top :: between ++ [id])
  inner : ∀ x ∈ between, t.function? (some x) = none

/-- The innermost function around a node is asynchronous, and the way down from there enters a
try statement by its block. -/
def Caught (t : Tree) (root id : NodeId) : Prop :=
  ∃ top between f, Inside t root top between id ∧ t.function? (some top) = some f ∧ f.isAsync ∧
    ByBlock t (top :: between ++ [id])

/-- A call that is the argument of such a return statement. -/
def Unawaited (t : Tree) (root call : NodeId) : Prop :=
  t.hasKind (some call) .callExpression ∧ ∃ statement,
    t.hasKind (some statement) .returnStatement ∧ t.target (some statement) = some call ∧
      Caught t root statement

/-! ## The way up -/

theorem byBlock_concat {way : List NodeId} {x y : NodeId} :
    ByBlock t (way ++ [x] ++ [y]) ↔
      ByBlock t (way ++ [x]) ∨ t.tryBlock? (some x) = some (some y) := by
  have last (s c : NodeId) : [s, c] <:+ way ++ [x] ++ [y] ↔ s = x ∧ c = y := by
    constructor
    · rintro ⟨before, eq⟩
      rw [List.append_assoc] at eq
      simpa using (List.append_inj' eq rfl).2
    · rintro ⟨rfl, rfl⟩
      exact ⟨way, by simp⟩
  have within (s c : NodeId) : [s, c] <:+: way ++ [x] ++ [y] ↔
      (s = x ∧ c = y) ∨ [s, c] <:+: way ++ [x] := by
    rw [← last, List.infix_concat_iff]
  simp only [ByBlock, within, or_and_right, exists_or]
  rw [or_comm]
  simp

theorem not_byBlock_singleton (x : NodeId) : ¬ ByBlock t [x] := by
  rintro ⟨statement, block, inside, -⟩
  simpa using inside.length_le

/-- A function is no try statement. -/
theorem tryBlock?_of_function? {r : Ref} {f : FunctionNode} (h : t.function? r = some f) :
    t.tryBlock? r = none := by
  obtain ⟨n, at_node, picked⟩ := Option.bind_eq_some_iff.mp h
  rw [Tree.tryBlock?, Tree.part?, at_node, Option.bind_some]
  cases shape : n.shape <;> simp [shape] at picked ⊢

/-- Going up from a node, a try statement may have been entered by its block before. -/
theorem reachesAsyncTry_iff {inTry : Bool} {above : List NodeId} :
    reachesAsyncTry t inTry id above ↔ ∃ between top outer f, above = between ++ top :: outer ∧
      (∀ x ∈ between, t.function? (some x) = none) ∧ t.function? (some top) = some f ∧ f.isAsync ∧
      (inTry ∨ ByBlock t (top :: between.reverse ++ [id])) := by
  induction above generalizing inTry id with
  | nil => simp [reachesAsyncTry]
  | cons node above ih =>
    rw [reachesAsyncTry]
    split
    next f function =>
      have first : ¬ ByBlock t ([] ++ [node] ++ [id]) := by
        rw [byBlock_concat, tryBlock?_of_function? function]
        simpa using not_byBlock_singleton node
      constructor
      · intro inside
        rw [Bool.and_eq_true] at inside
        exact ⟨[], node, above, f, rfl, by simp, function, inside.2, .inl inside.1⟩
      · rintro ⟨between, top, outer, f', split, inner, function', isAsync, entered⟩
        cases between with
        | nil =>
          cases split
          cases function.symm.trans function'
          rw [entered.resolve_right first, isAsync]
          rfl
        | cons x between =>
          cases split
          simp [inner] at function
    next other =>
      rw [ih]
      have longer (top : NodeId) (between : List NodeId) :
          top :: (node :: between).reverse ++ [id] = top :: between.reverse ++ [node] ++ [id] := by
        simp
      have entered (top : NodeId) (between : List NodeId) :
          (inTry || t.tryBlock? (some node) == some (some id)) = true ∨
            ByBlock t (top :: between.reverse ++ [node]) ↔
          inTry ∨ ByBlock t (top :: (node :: between).reverse ++ [id]) := by
        rw [longer, byBlock_concat, Bool.or_eq_true, beq_iff_eq, or_assoc]
        exact or_congr_right or_comm
      constructor
      · rintro ⟨between, top, outer, f, rfl, inner, function, isAsync, enters⟩
        exact ⟨node :: between, top, outer, f, rfl, List.forall_mem_cons.mpr ⟨other, inner⟩,
          function, isAsync, (entered top between).mp enters⟩
      · rintro ⟨between, top, outer, f, split, inner, function, isAsync, enters⟩
        cases between with
        | nil =>
          cases split
          simp [other] at function
        | cons x between =>
          cases split
          exact ⟨between, top, outer, f, rfl, (List.forall_mem_cons.mp inner).2, function, isAsync,
            (entered top between).mpr enters⟩

theorem insideAsyncTry_iff (h : t.Planted root b) (leads : t.Leads root id) :
    insideAsyncTry t id ↔ Caught t root id := by
  have up := h.ancestry leads
  rw [insideAsyncTry, reachesAsyncTry_iff]
  constructor
  · rintro ⟨between, top, outer, f, above, inner, function, isAsync, byBlock⟩
    obtain ⟨first, descent⟩ := (h.descent_iff leads up).mp ⟨outer, above⟩
    have inner' : ∀ x ∈ between.reverse, t.function? (some x) = none := fun x mem =>
      inner x (List.mem_reverse.mp mem)
    exact ⟨top, between.reverse, f, ⟨first, descent, inner'⟩, function, isAsync,
      byBlock.resolve_left (by simp)⟩
  · rintro ⟨top, between, f, ⟨first, descent, inner⟩, function, isAsync, byBlock⟩
    rw [← between.reverse_reverse] at descent byBlock
    obtain ⟨outer, above⟩ := (h.descent_iff leads up).mpr ⟨first, descent⟩
    exact ⟨between.reverse, top, outer, f, above, fun x mem => inner x (List.mem_reverse.mp mem),
      function, isAsync, .inr byBlock⟩

/-! ## The way down, step by step -/

/-- Where a way down has come to: whether the innermost function is asynchronous, and whether a try
statement has been entered by its block since. -/
structure Place where
  isAsync : Bool
  entered : Bool

/-- One step further down, from a node to a child of it. -/
def Place.below (t : Tree) (x c : NodeId) (p : Place) : Place :=
  match t.function? (some x) with
  | some f => ⟨f.isAsync, false⟩
  | none => ⟨p.isAsync, p.entered || t.tryBlock? (some x) == some (some c)⟩

/-- A way from the root down to a node comes to a place. -/
inductive Under (t : Tree) (root : NodeId) : NodeId → Place → Prop
  | root : Under t root root ⟨false, false⟩
  | step {x c : NodeId} {p : Place} (above : Under t root x p) (child : c ∈ t.children x) :
    Under t root c (p.below t x c)

namespace Under

theorem leads {p : Place} (h : Under t root id p) : t.Leads root id := by
  induction h with
  | root => exact .refl
  | step _ child ih => exact ih.tail (Tree.mem_children.mp child)

theorem of_leads (h : t.Leads root id) : ∃ p, Under t root id p := by
  induction h with
  | refl => exact ⟨_, .root⟩
  | tail _ child ih =>
    obtain ⟨p, above⟩ := ih
    exact ⟨_, above.step (Tree.mem_children.mpr child)⟩

/-- Below a function the place hangs on what has been passed since. -/
theorem of_inside {top : NodeId} {between : List NodeId} {f : FunctionNode}
    (inside : Inside t root top between id) (function : t.function? (some top) = some f) :
    ∃ entered, Under t root id ⟨f.isAsync, entered⟩ ∧
      (ByBlock t (top :: between ++ [id]) → entered) := by
  obtain ⟨leads, descent, inner⟩ := inside
  induction between using List.reverseRecOn generalizing id with
  | nil =>
    obtain ⟨p, above⟩ := of_leads leads
    have way : t.Descent ([] ++ [top] ++ [id]) := descent
    have child : id ∈ t.children top := (Tree.descent_concat.mp way).2
    have step := above.step child
    rw [Place.below, function] at step
    refine ⟨false, step, fun byBlock => ?_⟩
    have first : ByBlock t ([] ++ [top] ++ [id]) := byBlock
    obtain byBlock | here := byBlock_concat.mp first
    · exact absurd byBlock (not_byBlock_singleton top)
    · rw [tryBlock?_of_function? function] at here
      contradiction
  | append_singleton between x ih =>
    have last : top :: (between ++ [x]) ++ [id] = top :: between ++ [x] ++ [id] := by simp
    rw [last] at descent ⊢
    obtain ⟨descent, child⟩ := Tree.descent_concat.mp descent
    obtain ⟨entered, above, enters⟩ := ih descent fun y mem => inner y (List.mem_append_left _ mem)
    have step := above.step child
    rw [Place.below, inner x (by simp)] at step
    refine ⟨_, step, fun byBlock => ?_⟩
    obtain byBlock | here := byBlock_concat.mp byBlock
    · simp [enters byBlock]
    · simp [here]

theorem inside {p : Place} (h : Under t root id p) (isAsync : p.isAsync) :
    ∃ top between f, Inside t root top between id ∧ t.function? (some top) = some f ∧ f.isAsync ∧
      (p.entered → ByBlock t (top :: between ++ [id])) := by
  induction h with
  | root => contradiction
  | @step x c p above child ih =>
    rw [Place.below] at isAsync ⊢
    split at isAsync
    next f function =>
      have way : t.Descent ([] ++ [x] ++ [c]) := Tree.descent_concat.mpr ⟨.singleton _, child⟩
      exact ⟨x, [], f, ⟨above.leads, way, nofun⟩, function, isAsync, nofun⟩
    next other =>
      obtain ⟨top, between, f, ⟨leads, descent, inner⟩, function, isAsync, byBlock⟩ := ih isAsync
      have last : top :: (between ++ [x]) ++ [c] = top :: between ++ [x] ++ [c] := by simp
      refine ⟨top, between ++ [x], f, ⟨leads, ?_, ?_⟩, function, isAsync, fun entered => ?_⟩
      · rw [last]
        exact Tree.descent_concat.mpr ⟨descent, child⟩
      · exact List.forall_mem_append.mpr ⟨inner, List.forall_mem_singleton.mpr other⟩
      · rw [last, byBlock_concat]
        rw [Bool.or_eq_true, beq_iff_eq] at entered
        exact entered.imp_left byBlock

end Under

theorem caught_iff_under : Caught t root id ↔ Under t root id ⟨true, true⟩ := by
  constructor
  · rintro ⟨top, between, f, inside, function, isAsync, byBlock⟩
    obtain ⟨entered, under, enters⟩ := Under.of_inside inside function
    rw [isAsync, enters byBlock] at under
    exact under
  · intro under
    obtain ⟨top, between, f, inside, function, isAsync, byBlock⟩ := under.inside rfl
    exact ⟨top, between, f, inside, function, isAsync, byBlock rfl⟩

/-! ## What the rule finds -/

/-- What the rule has to say of a call. -/
def missing (t : Tree) (call : NodeId) : Finding :=
  ⟨t.span (some call), "requiresAwait", [], (Fix.compose "await returned promise"
    [.insertBefore (t.span (some call)) "await "]).toOption⟩

/-- The call that the rule reports at a return statement. -/
def reported? (t : Tree) (statement : NodeId) : Option NodeId :=
  (t.target (some statement)).filter fun call =>
    t.hasKind (some call) .callExpression && insideAsyncTry t statement

theorem returnFindings_eq (statement : NodeId) :
    returnFindings t statement = ((reported? t statement).map (missing t)).toList := by
  simp only [returnFindings, reported?]
  cases t.target (some statement) with
  | none => rfl
  | some call =>
    rw [Option.filter_some]
    split <;> rfl

theorem reported?_eq_some_iff {statement call : NodeId} : reported? t statement = some call ↔
    t.target (some statement) = some call ∧ t.hasKind (some call) .callExpression ∧
      insideAsyncTry t statement := by
  rw [reported?, Option.filter_eq_some_iff, Bool.and_eq_true]

theorem flatMap_returnFindings (statements : List NodeId) :
    statements.flatMap (returnFindings t)
      = (statements.filterMap (reported? t)).map (missing t) := by
  rw [List.map_filterMap, List.filterMap_eq_flatMap_toList]
  exact congrArg statements.flatMap (funext returnFindings_eq)

/-- Of the return statements that the root leads to, no two have the same argument. -/
theorem nodup_reported (h : t.Planted root b) {statements : List NodeId}
    (nodup : statements.Nodup) (leads : ∀ id ∈ statements, t.Leads root id) :
    (statements.filterMap (reported? t)).Nodup := by
  rw [List.Nodup, List.pairwise_filterMap]
  refine nodup.imp_of_mem fun first second other call found call' found' same => other ?_
  subst same
  have parent {id : NodeId} (mem : id ∈ statements) (found : reported? t id = some call) :
      t.parent (some call) = some id := by
    obtain ⟨n, at_node, child⟩ := Tree.mem_children.mp
      (Tree.mem_children_of_target (reported?_eq_some_iff.mp found).1)
    exact h.parent_child (leads id mem) at_node child
  exact Option.some.inj ((parent first found).symm.trans (parent second found'))

end Rule.ReturnAwait

open Rule (returnAwait)
open Rule.ReturnAwait

/-- In a tree without defect the rule reports the calls that are to be awaited, each once, and
nothing else; and other rules beside it do not change that. -/
theorem lint_returnAwait {files : FileSet} {f : File} {t : Tree}
    (known : files.get? t.file = some f) (fine : t.defect? = none) (severity : Severity)
    (options : Options) (cwd : Text) :
    ∃ (root : NodeId) (calls : List NodeId) (ds : List Diagnostic), t.root = some root ∧
      calls.Nodup ∧ (∀ id, id ∈ calls ↔ Unawaited t root id) ∧
      lint [⟨returnAwait, severity, options⟩] cwd false files (some t) = .ok ds ∧
      ds.Perm (calls.map fun id => returnAwait.diagnostic severity (missing t id)) ∧
      ∀ entries all, (entries.map Entry.name).Nodup → ⟨returnAwait, severity, options⟩ ∈ entries →
        lint entries cwd false files (some t) = .ok all →
        all.filter (·.rule == returnAwait.name) = ds := by
  obtain ⟨root, b, planted⟩ := Tree.exists_planted fine
  let e : Entry := ⟨returnAwait, severity, options⟩
  let statements := b.ids.filter fun id => t.hasKind (some id) .returnStatement
  have mem {id : NodeId} : id ∈ statements ↔
      t.Leads root id ∧ t.hasKind (some id) .returnStatement := by
    rw [List.mem_filter, planted.mem_ids_iff]
  obtain ⟨ds, linted, perm⟩ := lint_onEnter known e cwd rfl
  refine ⟨root, statements.filterMap (reported? t), ds, planted.at_root,
    nodup_reported planted (planted.nodup.filter _) fun id inside => (mem.mp inside).1,
    fun call => ?_, linted, ?_, fun entries all distinct member completed => ?_⟩
  · rw [List.mem_filterMap]
    constructor
    · rintro ⟨statement, entered, found⟩
      obtain ⟨target, kind, inside⟩ := reported?_eq_some_iff.mp found
      obtain ⟨leads, isReturn⟩ := mem.mp entered
      exact ⟨kind, statement, isReturn, target, (insideAsyncTry_iff planted leads).mp inside⟩
    · rintro ⟨kind, statement, isReturn, target, caught⟩
      have leads : t.Leads root statement := by
        obtain ⟨top, between, f, inside, -⟩ := caught
        exact inside.leads.trans inside.descent.leads
      exact ⟨statement, mem.mpr ⟨leads, isReturn⟩, reported?_eq_some_iff.mpr
        ⟨target, kind, (insideAsyncTry_iff planted leads).mpr caught⟩⟩
  · rw [planted.walk_eq_tour, Branch.entered_tour, Running.reports] at perm
    have found := congrArg (List.map (returnAwait.diagnostic severity))
      (flatMap_returnFindings (t := t) statements)
    rw [List.map_map] at found
    exact perm.trans (.of_eq found)
  · simp only [lint, Bool.false_eq_true, if_false, known] at linted completed
    exact Except.ok.inj ((lintFile_alone distinct completed member).symm.trans linted)

/-- The same call in the block of a try statement and in its handler: the first is reported. -/
theorem lint_returnAwait_handler :
    let files := ((FileSet.empty "/" "").addInMemory "a.ts"
      "async function f()\x7btry\x7breturn g()\x7dcatch\x7breturn g()\x7d\x7d").1
    ∃ f t ds, files.get? t.file = some f ∧ t.defect? = none ∧ Script.parse files 0 = .ok t ∧
      lint [⟨returnAwait, .error, .empty⟩] "/" false files (some t) = .ok ds ∧
      ds.map (·.primary) = [⟨0, 30, 33⟩] := by
  intro files
  have known : files.get? 0 = some files.files.head! := by decide +kernel
  have one : (Script.parse files 0).toOption.any (fun t => (Running.reports
      ⟨returnAwait, .error, .empty⟩ t .returnStatement (returnFindings t)
      (t.walk.filterMap Visit.entered?)).map (·.primary) == [⟨0, 30, 33⟩]) = true := by decide +kernel
  cases parsed : Script.parse files 0 with
  | error e => simp [parsed, Except.toOption] at one
  | ok t =>
    have built := Script.built_of_parse parsed
    obtain ⟨root, calls, ds, -, -, -, linted, -⟩ :=
      lint_returnAwait (built.file ▸ known) built.fine .error .empty "/"
    obtain ⟨ds', linted', perm⟩ := lint_onEnter (built.file ▸ known)
      ⟨returnAwait, .error, .empty⟩ "/" rfl
    cases linted.symm.trans linted'
    refine ⟨_, t, ds, built.file ▸ known, built.fine, rfl, linted, ?_⟩
    have spans := perm.map (·.primary)
    simp only [parsed, Except.toOption, Option.any_some, beq_iff_eq] at one
    rwa [one, List.perm_singleton] at spans

end TreeLint
