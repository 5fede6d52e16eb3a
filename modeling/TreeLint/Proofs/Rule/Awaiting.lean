import TreeLint.Proofs.Lint.Pass
import TreeLint.Proofs.Rewriting.Returning
import TreeLint.Proofs.Rule.ReturnAwait

/-! # Awaiting what was reported

A pass over what the rule for returned calls reports puts `await` before each of these calls.  Where
none of them touches the word `return`, the text that comes of it is a script again, whose tree is
that of the script as it was but for these calls, which are awaited in it; and the rule has nothing
to report there any more (`fix_returnAwait`). -/

namespace TreeLint

namespace Rule.ReturnAwait

/-! ## Nothing is left -/

section Nothing

variable {t u : Tree} {root root' : NodeId} {changed : NodeId → Bool}

/-- A node that is looked at in the new tree. -/
def Seen (t u : Tree) (changed : NodeId → Bool) (x y : NodeId) : Prop :=
  (Facts.similar awaiting changed x y).holds t u ∨
    u.kind? (some y) = some .awaitExpression ∧ ∃ z, u.target (some y) = some z ∧
      (Facts.similar awaiting changed x z).holds t u

/-- A node that only leads on to one other is no function and no try statement. -/
theorem below_of_target {x c d : NodeId} {p : Place} (target : t.target (some x) = some d)
    (child : c ∈ t.children x) : c = d ∧ p.below t x c = p := by
  cases at_node : t.node? x with
  | none => simp [Tree.target, Tree.part?, Tree.deref?, at_node] at target
  | some n =>
    have here : t.deref? (some x) = some n := at_node
    simp only [Tree.target, Tree.part?, here, Option.bind_some] at target
    split at target
    next form r shape =>
      rw [Option.getD_some] at target
      subst target
      rw [Tree.children, at_node] at child
      have mem : some c ∈ n.shape.refs := Ref.mem_compact.mp child
      simp only [shape, Shape.refs, List.mem_singleton, Option.some.injEq] at mem
      refine ⟨mem, ?_⟩
      simp [Place.below, Tree.function?, Tree.tryBlock?, Tree.part?, here, shape]
    · contradiction

theorem mem_children_of_tryBlock {x d : NodeId} (h : t.tryBlock? (some x) = some (some d)) :
    d ∈ t.children x := by
  refine Tree.mem_children_of_part? h fun s picked => ?_
  split at picked
  · simp [Shape.refs, Option.some.inj picked]
  · contradiction

/-- Every step down in the new tree is one in the old tree from a node that is alike. -/
theorem exists_below {Q : NodeId → NodeId → Prop} {x y c : NodeId} {p q : Place}
    (alike : t.Alike Q u x y) (child : c ∈ u.children y) (isAsync : q.isAsync = p.isAsync)
    (entered : p.entered → q.entered) : ∃ d ∈ t.children x, Q d c ∧
      (q.below t x d).isAsync = (p.below u y c).isAsync ∧
      ((p.below u y c).entered → (q.below t x d).entered) := by
  have functions := alike.function?
  cases old : t.function? (some x) with
  | some f =>
    rw [old] at functions
    cases new : u.function? (some y) with
    | none => simp [new] at functions
    | some f' =>
      rw [new, Option.rel_some_some] at functions
      obtain ⟨d, mem, related⟩ := alike.exists_child child
      refine ⟨d, mem, related, ?_⟩
      simp [Place.below, old, new, functions]
  | none =>
    rw [old] at functions
    cases new : u.function? (some y) with
    | some f' => simp [new] at functions
    | none =>
      simp only [Place.below, old, new, Bool.or_eq_true, beq_iff_eq]
      by_cases block : u.tryBlock? (some y) = some (some c)
      · have blocks := alike.tryBlock?
        rw [block] at blocks
        cases block' : t.tryBlock? (some x) with
        | none => simp [block'] at blocks
        | some r =>
          cases r with
          | none => simp [block'] at blocks
          | some d =>
            rw [block', Option.rel_some_some, Option.rel_some_some] at blocks
            exact ⟨d, mem_children_of_tryBlock block', blocks, isAsync, fun _ => .inr rfl⟩
      · obtain ⟨d, mem, related⟩ := alike.exists_child child
        exact ⟨d, mem, related, isAsync, fun h => .inl (entered (h.resolve_right block))⟩

/-- The way down to a node of the new tree is one of the old tree, with the new nodes left out. -/
theorem exists_under (top : (Facts.similar awaiting changed root root').holds t u) {y : NodeId}
    {p : Place} (under : Under u root' y p) : ∃ x q, Seen t u changed x y ∧ Under t root x q ∧
      q.isAsync = p.isAsync ∧ (p.entered → q.entered) := by
  induction under with
  | root => exact ⟨root, _, .inl top, .root, rfl, id⟩
  | @step y c p above child ih =>
    obtain ⟨x, q, seen, under, isAsync, entered⟩ := ih
    obtain similar | ⟨-, z, target, similar⟩ := seen
    · obtain ⟨-, alike⟩ | ⟨-, -, -, a, b, z, target, target', await, inner, similar⟩ :=
        Facts.similar_cases similar
      · obtain ⟨d, child', similar, below⟩ := exists_below alike child isAsync entered
        exact ⟨d, _, .inl similar, under.step child', below⟩
      · obtain ⟨rfl, same⟩ := below_of_target (p := p) target' child
        have child' := Tree.mem_children_of_target target
        obtain ⟨-, same'⟩ := below_of_target (p := q) target child'
        refine ⟨a, _, .inr ⟨await, z, inner, similar⟩, under.step child', ?_⟩
        rw [same, same']
        exact ⟨isAsync, entered⟩
    · obtain ⟨rfl, same⟩ := below_of_target (p := p) target child
      refine ⟨x, q, .inl similar, under, ?_⟩
      rw [same]
      exact ⟨isAsync, entered⟩

/-- Where the calls to be awaited are awaited, there are none left. -/
theorem not_unawaited (top : (Facts.similar awaiting changed root root').holds t u)
    (all : ∀ id, t.hasKind (some id) .returnStatement → ∀ call, t.target (some id) = some call →
      t.hasKind (some call) .callExpression → Caught t root id → changed id) (call : NodeId) :
    ¬ Unawaited u root' call := by
  rintro ⟨isCall, y, isReturn, target, caught⟩
  obtain ⟨x, q, seen, under, isAsync, entered⟩ := exists_under top (caught_iff_under.mp caught)
  have caught' : Caught t root x := by
    rw [caught_iff_under]
    obtain ⟨isAsync', entered'⟩ := q
    obtain rfl : isAsync' = true := isAsync
    obtain rfl : entered' = true := entered rfl
    exact under
  obtain similar | ⟨await, -⟩ := seen
  · obtain ⟨same, alike⟩ | ⟨-, -, -, -, y', -, -, target', await, -⟩ := Facts.similar_cases similar
    · have targets := alike.target
      rw [target] at targets
      cases old : t.target (some x) with
      | none => simp [old] at targets
      | some call' =>
        rw [old, Option.rel_some_some] at targets
        have isReturn' : t.hasKind (some x) .returnStatement := by
          rwa [Tree.hasKind, alike.kind?] at isReturn
        have isCall' : t.hasKind (some call') .callExpression := by
          rwa [Tree.hasKind, Facts.kind?_of_similar targets] at isCall
        rw [all x isReturn' call' old isCall' caught'] at same
        contradiction
    · cases target.symm.trans target'
      simp [Tree.hasKind, await] at isCall
  · simp [Tree.hasKind, await] at isReturn

end Nothing

/-! ## The calls of a script -/

section Calls

open Script

variable {file : FileId} {source : Text} {found : Tokens} {t : Tree} {root : NodeId} {b : Branch}

/-- The call that is reported at a statement, if that is one of some nodes. -/
def reportedOf? (t : Tree) (ids : List NodeId) (id : NodeId) : Option NodeId :=
  if id ∈ ids ∧ t.hasKind (some id) .returnStatement then reported? t id else none

theorem reportedOf?_eq_some_iff (planted : t.Planted root b) {id call : NodeId} :
    reportedOf? t b.ids id = some call ↔ t.hasKind (some id) .returnStatement ∧
      t.target (some id) = some call ∧ t.hasKind (some call) .callExpression ∧
        Caught t root id := by
  rw [reportedOf?]
  constructor
  · intro reported
    split at reported
    next inside =>
      have leads := planted.mem_ids_iff.mp inside.1
      obtain ⟨target, kind, caught⟩ := reported?_eq_some_iff.mp reported
      exact ⟨inside.2, target, kind, (insideAsyncTry_iff planted leads).mp caught⟩
    · contradiction
  · rintro ⟨isReturn, target, kind, caught⟩
    have leads : t.Leads root id := by
      obtain ⟨top, between, f, inside, -⟩ := caught
      exact inside.leads.trans inside.descent.leads
    rw [if_pos ⟨planted.mem_ids_iff.mpr leads, isReturn⟩]
    exact reported?_eq_some_iff.mpr ⟨target, kind, (insideAsyncTry_iff planted leads).mpr caught⟩

variable (script : Reading file source found t)

/-- The calls that are reported of a script. -/
def awaits (ids : List NodeId) : Awaits where
  tree := t
  tokens := seen source 0 found.tokens
  ordered := Piece.seen_apart script.short script.cut
  call? := reportedOf? t ids
  returned := by
    intro id call reported
    rw [reportedOf?] at reported
    split at reported
    next inside =>
      obtain ⟨target, kind, -⟩ := reported?_eq_some_iff.mp reported
      obtain ⟨n, at_node, child⟩ := Tree.mem_children.mp (Tree.mem_children_of_target target)
      exact ⟨by simpa [Tree.hasKind] using inside.2, target, by simpa [Tree.hasKind] using kind,
        script.climbing.child at_node call child⟩
    · contradiction
  starts := by
    intro s mem first
    have mem' : s.token ∈ found.tokens := by
      rw [← map_token_seen source 0 found.tokens]
      exact List.mem_map_of_mem mem
    have live : s.token.kind ≠ .eof := by
      obtain spelled | starts := first
      · exact Token.kind_ne_eof_of_spells spelled
      · exact Awaits.live_of_startsExpression starts
    obtain ⟨front, after, -, fits, -⟩ := Piece.exists_of_token script.cut mem' live
    exact Awaits.starts_of_fits fits first

end Calls

/-! ## The pass -/

section Pass

open Script Edit

variable {files : FileSet} {id : FileId} {f : File} {found : Tokens} {t : Tree} {root : NodeId}
  {b : Branch} {severity : Severity}

/-- The word put in before a call. -/
def putBefore (t : Tree) (call : NodeId) : Put :=
  ⟨.insertBefore (t.span (some call)) "await ", (t.span (some call)).start.toNat, "await "⟩

/-- What a pass is offered for calls puts the word in before each of them. -/
theorem offers_of_calls {ds : List Diagnostic} {calls : List NodeId}
    (here : ∀ call ∈ calls, (t.span (some call)).file = id)
    (perm : ds.Perm (calls.map fun call => returnAwait.diagnostic severity (missing t call))) :
    ((ds.filterMap (FixPass.editsOf? id)).flatMap fun edits => edits).Perm
      ((calls.map (putBefore t)).map Put.edit) := by
  have offered : ∀ call ∈ calls,
      (FixPass.editsOf? id ∘ fun call => returnAwait.diagnostic severity (missing t call)) call
        = some [(putBefore t call).edit] := fun call mem => FixPass.editsOf?_of_one (here call mem) rfl
  refine ((perm.filterMap _).flatMap_right _).trans (.of_eq ?_)
  rw [List.filterMap_map, List.filterMap_congr offered, List.filterMap_eq_map', List.flatMap_map,
    List.map_map, List.map_eq_flatMap]
  rfl

variable {calls : List NodeId} (script : Reading id f.content found t) (planted : t.Planted root b)
  (all : ∀ call, call ∈ calls ↔ Unawaited t root call)

include planted all in
theorem exists_statement {call : NodeId} (mem : call ∈ calls) :
    ∃ id, (awaits script b.ids).call? id = some call := by
  obtain ⟨kind, id, isReturn, target, caught⟩ := (all call).mp mem
  exact ⟨id, (reportedOf?_eq_some_iff planted).mpr ⟨isReturn, target, kind, caught⟩⟩

include script planted all in
/-- Calls are told apart by where they start, since no two statements have one place. -/
theorem points_ne (nodup : calls.Nodup) :
    (calls.map (putBefore t)).Pairwise fun p q => p.point ≠ q.point := by
  have settled : (awaits script b.ids).insertions.rewriting.Settled :=
    (Awaits.view script.short script.cut script.parsed rfl).settled
  rw [List.pairwise_map]
  refine nodup.imp_of_mem fun mem mem' other same => other ?_
  obtain ⟨id₁, called⟩ := exists_statement script planted all mem
  obtain ⟨id₂, called'⟩ := exists_statement script planted all mem'
  have same_id := Insertions.point_inj settled (Option.map_eq_some_iff.mpr ⟨_, called, rfl⟩)
    (Option.map_eq_some_iff.mpr ⟨_, called', rfl⟩) same
  rw [same_id, called'] at called
  exact (Option.some.inj called).symm

include planted all in
theorem result_eq (nodup : calls.Nodup) : (awaits script b.ids).insertions.result f.content
    = Text.withInserted (Put.all (calls.map (putBefore t))) 0 f.content := by
  have settled : (awaits script b.ids).insertions.rewriting.Settled :=
    (Awaits.view script.short script.cut script.parsed rfl).settled
  refine Insertions.result_eq settled (points_ne script planted all nodup)
    (fun {id new} placed => ?_) (fun p mem => ?_) _
  · obtain ⟨call, called, rfl⟩ := Option.map_eq_some_iff.mp placed
    obtain ⟨isReturn, target, kind, caught⟩ := (reportedOf?_eq_some_iff planted).mp called
    have mem := (all call).mpr ⟨kind, id, isReturn, target, caught⟩
    exact ⟨_, List.mem_map_of_mem mem, rfl, rfl⟩
  · obtain ⟨call, inside, rfl⟩ := List.mem_map.mp mem
    obtain ⟨id, called⟩ := exists_statement script planted all inside
    exact ⟨id, _, Option.map_eq_some_iff.mpr ⟨call, called, rfl⟩, rfl⟩

include planted all in
/-- A pass over what is reported puts the word in before the calls. -/
theorem run_awaits (known : files.get? id = some f) {ds : List Diagnostic} (nodup : calls.Nodup)
    (perm : ds.Perm (calls.map fun call => returnAwait.diagnostic severity (missing t call))) :
    ∃ n, FixPass.run files id ds
      = .ok ((awaits script b.ids).insertions.result f.content, n) := by
  have within (call : NodeId) (mem : call ∈ calls) :=
    script.within ((all call).mp mem).1 (by decide)
  have start_lt : ∀ call ∈ calls, (t.span (some call)).start.toNat < f.content.length :=
    fun call mem => Nat.lt_of_lt_of_le (UInt32.lt_iff_toNat_lt.mp (within call mem).2.1)
      (within call mem).2.2
  have apart : ((calls.map (putBefore t)).map Put.edit).Pairwise Apart := by
    rw [List.map_map]
    exact List.pairwise_map.mpr (List.pairwise_of_forall fun a b => apart_insertBefore _ _)
  obtain ⟨n, done⟩ := FixPass.run_puts known script.short
    (offers_of_calls (fun call mem => (within call mem).1) perm)
    (List.forall_mem_map.mpr fun call mem => Put.in_insertBefore (start_lt call mem) _)
    (List.forall_mem_map.mpr fun call mem =>
      ⟨UInt32.le_refl _, Nat.le_of_lt (start_lt call mem), .inl rfl⟩)
    (List.forall_mem_map.mpr fun call mem => (within call mem).1) apart
    (points_ne script planted all nodup)
  exact ⟨n, by rw [done, ← result_eq script planted all nodup]⟩

end Pass

end Rule.ReturnAwait

open Rule (returnAwait)
open Rule.ReturnAwait

/-- Where no call to be awaited touches the word `return`, a pass over what the rule reports of a
script makes a script of it again.  Its tree is the one before with these calls awaited, and the
rule reports nothing there. -/
theorem fix_returnAwait {files : FileSet} {id : FileId} {f : File} {t : Tree}
    (known : files.get? id = some f) (short : f.content.length < UInt32.size)
    (parsed : Script.parse files id = .ok t)
    (apart : ∀ root call, t.root = some root → Unawaited t root call →
      ¬ utf8 "return" <:+ f.content.take (t.span (some call)).start.toNat)
    (severity : Severity) (options : Options) (cwd : Text) :
    ∃ (root : NodeId) (ds : List Diagnostic) (out : Text) (n : Nat), t.root = some root ∧
      lint [⟨returnAwait, severity, options⟩] cwd false files (some t) = .ok ds ∧
      FixPass.run files id ds = .ok (out, n) ∧
      ∀ (files' : FileSet) (id' : FileId) (f' : File), files'.get? id' = some f' →
        f'.content = out → out.length < UInt32.size →
        ∃ t' root', Script.parse files' id' = .ok t' ∧ t'.root = some root' ∧
          (∃ changed : NodeId → Bool,
            (∀ x, changed x ↔ t.hasKind (some x) .returnStatement ∧
              ∃ call, t.target (some x) = some call ∧ t.hasKind (some call) .callExpression ∧
                Caught t root x) ∧
            (Facts.similar awaiting changed root root').holds t t') ∧
          lint [⟨returnAwait, severity, options⟩] cwd false files' (some t') = .ok [] := by
  have built := Script.built_of_parse parsed
  obtain ⟨root, b, planted⟩ := Tree.exists_planted built.fine
  obtain ⟨found, script⟩ := Script.exists_reading known short parsed
  obtain ⟨root₁, calls, ds, at_root, nodup, all, linted, perm, -⟩ :=
    lint_returnAwait (built.file ▸ known) built.fine severity options cwd
  obtain rfl : root₁ = root := Option.some.inj (at_root.symm.trans planted.at_root)
  obtain ⟨n, done⟩ := run_awaits script planted all known nodup perm
  refine ⟨root₁, ds, _, n, at_root, linted, done, fun files' id' f' known' content short' => ?_⟩
  let A := awaits script b.ids
  have reported {x call : NodeId} : reportedOf? t b.ids x = some call ↔ _ :=
    reportedOf?_eq_some_iff planted
  obtain ⟨t', root₂, root', parsed', at_root₂, at_root', similar⟩ :=
    A.parses script.short script.cut script.parsed rfl (fun x call called => by
      obtain ⟨isReturn, target, kind, caught⟩ := reported.mp called
      exact apart root₁ call at_root ⟨kind, x, isReturn, target, caught⟩) short' id'
  obtain rfl : root₁ = root₂ := Option.some.inj (at_root.symm.trans at_root₂)
  have read : Script.parse files' id' = .ok t' :=
    Script.parse_of_parseSource known' (content ▸ parsed')
  have changed_iff (x : NodeId) : A.insertions.changed x ↔ t.hasKind (some x) .returnStatement ∧
      ∃ call, t.target (some x) = some call ∧ t.hasKind (some call) .callExpression ∧
        Caught t root₁ x := by
    rw [A.changed_iff]
    constructor
    · rintro ⟨call, called⟩
      obtain ⟨isReturn, more⟩ := reported.mp called
      exact ⟨isReturn, call, more⟩
    · rintro ⟨isReturn, call, more⟩
      exact ⟨call, reported.mpr ⟨isReturn, more⟩⟩
  have built' := Script.built_of_parse read
  obtain ⟨root₃, calls', ds', at_root₃, -, all', linted', perm', -⟩ :=
    lint_returnAwait (built'.file ▸ known') built'.fine severity options cwd
  obtain rfl : root₃ = root' := Option.some.inj (at_root₃.symm.trans at_root')
  have none : calls' = [] := List.eq_nil_iff_forall_not_mem.mpr fun call mem =>
    not_unawaited similar (fun x isReturn call target kind caught =>
      (changed_iff x).mpr ⟨isReturn, call, target, kind, caught⟩) call ((all' call).mp mem)
  rw [none, List.map_nil, List.perm_nil] at perm'
  exact ⟨t', root₃, read, at_root', ⟨_, changed_iff, similar⟩, perm' ▸ linted'⟩

/-- A call in the block of a try statement, with a blank before it. -/
theorem fix_returnAwait_blank :
    let files := ((FileSet.empty "/" "").addInMemory "a.ts"
      "async function f()\x7btry\x7breturn g()\x7dcatch\x7b\x7d\x7d").1
    let entries : List Entry := [⟨returnAwait, .error, .empty⟩]
    ∃ f t, files.get? 0 = some f ∧ f.content.length < UInt32.size ∧ Script.parse files 0 = .ok t ∧
      (∀ root call, t.root = some root → Unawaited t root call →
        ¬ utf8 "return" <:+ f.content.take (t.span (some call)).start.toNat) ∧
      ∃ ds out n, lint entries "/" false files (some t) = .ok ds ∧
        FixPass.run files 0 ds = .ok (out, n) ∧
        ∀ (files' : FileSet) (id' : FileId) (f' : File), files'.get? id' = some f' →
          f'.content = out → out.length < UInt32.size → ∃ t', Script.parse files' id' = .ok t' ∧
            lint entries "/" false files' (some t') = .ok [] := by
  intro files entries
  have known : files.get? 0 = some files.files.head! := by decide +kernel
  have short : files.files.head!.content.length < UInt32.size := by decide +kernel
  have away : (Script.parse files 0).toOption.any (fun t => (List.range t.size).all fun i =>
      !t.hasKind (some ⟨i⟩) .callExpression || !(utf8 "return").isSuffixOf
        (files.files.head!.content.take (t.span (some ⟨i⟩)).start.toNat)) = true := by decide +kernel
  cases parsed : Script.parse files 0 with
  | error e => simp [parsed, Except.toOption] at away
  | ok t =>
    simp only [parsed, Except.toOption, Option.any_some, List.all_eq_true, List.mem_range] at away
    have apart (root call : NodeId) (_ : t.root = some root) (h : Unawaited t root call) :
        ¬ utf8 "return" <:+ files.files.head!.content.take (t.span (some call)).start.toNat := by
      obtain ⟨n, found, -⟩ := Tree.hasKind_iff.mp h.1
      have free := away call.index (Tree.index_lt_size found)
      rw [h.1, Bool.not_true, Bool.false_or, Bool.not_eq_true', Bool.eq_false_iff] at free
      exact fun touches => free (List.isSuffixOf_iff_suffix.mpr touches)
    obtain ⟨root, ds, out, n, -, linted, done, again⟩ :=
      fix_returnAwait known short parsed apart .error .empty "/"
    refine ⟨_, t, known, short, rfl, apart, ds, out, n, linted, done,
      fun files' id' f' known' content short' => ?_⟩
    obtain ⟨t', root', parsed', -, -, clean⟩ := again files' id' f' known' content short'
    exact ⟨t', parsed', clean⟩

end TreeLint
