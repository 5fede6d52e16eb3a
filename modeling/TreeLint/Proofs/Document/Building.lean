import TreeLint.Proofs.Document.Nesting
import TreeLint.Proofs.Tree.Ascent

/-! # Building a tree

Whatever a document says, the tree built from it is in order and has one program, its
root, and all other nodes are below others (`decode_rooted`).  Whether such a tree is
accepted is another matter.

On the way the decoder is watched for one thing: a property with a default, when it is
decoded, tears the tree, and that is never mended.  So of the well-nested documents exactly
those without such a property are accepted (`decode_nested_iff`).
-/

namespace TreeLint.Document

/-- A node that was made a pair with a left side. -/
def HasLeft (t : Tree) (id : NodeId) : Prop :=
  ∃ n form left right, t.node? id = some n ∧ n.shape = .pair form (some left) right

/-- A decoder that adds a node to whatever has been built, and tears the tree if the node
is bad. -/
def Builds (s : Setting) (bad : Fields → Prop) (decode : NodeDecoder) : Prop :=
  ∀ c t, t.Climbing → Runs s t (decode c)
    (fun id t' => t.Extends t' [some id] ∧ (bad c → t'.Torn) ∧ (Leading c → HasLeft t' id))
    fun _ => True

/-- The value of a property and its left side, together. -/
def Gripped (t : Tree) (refs : List Ref) : Prop :=
  ∃ left p m, refs = [some left, some p] ∧ t.node? p = some m ∧ left ∈ m.children

section

variable {s : Setting} {t : Tree} {bad : Fields → Prop} {decode : NodeDecoder}

theorem extends_hole (climbing : t.Climbing) : t.Extends t [none] :=
  (Tree.Extends.refl climbing).of_mem_iff fun id => by simp

/-! ## Slots -/

section Slots

variable (builds : Builds s bad decode)

include builds

theorem child_builds (o : Fields) (key : Text) (climbing : t.Climbing) :
    Runs s t (child decode o key)
      (fun r t' => t.Extends t' [r] ∧ ∀ c, nodeField? o key = some c →
        (bad c → t'.Torn) ∧ ∃ id, r = some id ∧ (Leading c → HasLeft t' id))
      fun _ => True := by
  unfold child
  split
  next absent =>
    exact .pure ⟨extends_hole climbing, fun c field => by simp [nodeField?, absent] at field⟩
  next null =>
    exact .pure ⟨extends_hole climbing, fun c field => by simp [nodeField?, null, node?] at field⟩
  next v _ found =>
    split
    next n node =>
      have field : nodeField? o key = some n := by simp [nodeField?, found, node]
      refine (builds n t climbing).bind fun id t' built => .pure ⟨built.1, fun c field' => ?_⟩
      cases field.symm.trans field'
      exact ⟨built.2.1, id, rfl, built.2.2⟩
    · exact .fail trivial

theorem items_build (o : Fields) (key : Text) (vs : List Json) (i : Nat) (climbing : t.Climbing) :
    Runs s t (items decode o key i vs)
      (fun refs t' => t.Extends t' refs ∧ ∀ c ∈ vs.filterMap node?, bad c → t'.Torn)
      fun _ => True := by
  induction vs generalizing i t with
  | nil => exact .pure ⟨.refl climbing, by simp⟩
  | cons v vs ih =>
    have item : Runs s t (item decode o key i v)
        (fun r t' => t.Extends t' [r] ∧ ∀ c, node? v = some c → bad c → t'.Torn)
        fun _ => True := by
      unfold item
      split
      · exact .pure ⟨extends_hole climbing, fun c node => by simp [node?] at node⟩
      · split
        next n node =>
          refine (builds n t climbing).bind fun id t' built => .pure ⟨built.1, fun c node' => ?_⟩
          cases node.symm.trans node'
          exact built.2.1
        · exact .fail trivial
    refine item.bind fun r t' first => (ih (i + 1) first.1.climbing).bind fun refs t'' rest => ?_
    refine .pure ⟨first.1.trans rest.1, fun c mem torn => ?_⟩
    obtain ⟨w, mem, node⟩ := List.mem_filterMap.mp mem
    obtain rfl | mem := List.mem_cons.mp mem
    · exact (first.2 c node torn).extend rest.1
    · exact rest.2 c (List.mem_filterMap.mpr ⟨w, mem, node⟩) torn

theorem list_builds (o : Fields) (key : Text) (climbing : t.Climbing) :
    Runs s t (list decode o key)
      (fun refs t' => t.Extends t' refs ∧ ∀ c ∈ listNodes o key, bad c → t'.Torn)
      fun _ => True := by
  unfold list
  split
  next vs found =>
    rw [listNodes, listValues_of_value? found]
    exact items_build builds o key vs 0 climbing
  next other =>
    rw [listNodes, listValues_eq_nil fun vs found => other vs found]
    exact .pure ⟨.refl climbing, by simp⟩

theorem mapM_candidates_build (cs : List Candidate) (climbing : t.Climbing) :
    Runs s t (cs.mapM fun c => decode c.node)
      (fun ids t' => t.Extends t' (ids.map some) ∧ ∀ c ∈ cs.map Candidate.node, bad c → t'.Torn)
      fun _ => True := by
  refine Runs.mapM
    (I := fun done ids t' => t.Extends t' (ids.map some) ∧
      ∀ c ∈ done.map Candidate.node, bad c → t'.Torn)
    (fun c _ done ids t' before => ?_) ⟨.refl climbing, by simp⟩
  refine (builds c.node t' before.1.climbing).imp fun id t'' built => ⟨?_, fun d mem torn => ?_⟩
  · rw [List.map_append]
    exact before.1.trans built.1
  · rw [List.map_append, List.mem_append, List.map_singleton, List.mem_singleton] at mem
    obtain earlier | rfl := mem
    · exact (before.2 d earlier torn).extend built.1
    · exact built.2.1 torn

theorem read_builds (o : Fields) (slot : Slot) (climbing : t.Climbing) :
    Runs s t (slot.read decode o)
      (fun refs t' => t.Extends t' refs ∧
        (s.index.Orderly ∧ slot.Readable s o → ∀ c ∈ slot.nodes s o, bad c → t'.Torn) ∧
        (slot = .entry → HasDefault o → Gripped t' refs))
      fun _ => True := by
  have one : ∀ {t : Tree}, t.Climbing → ∀ key, Runs s t (child decode o key)
      (fun r t' => t.Extends t' [r] ∧ ∀ c ∈ (nodeField? o key).toList, bad c → t'.Torn)
      fun _ => True := fun climbing key => by
    refine (child_builds builds o key climbing).imp fun r t' built => ⟨built.1, fun c mem => ?_⟩
    exact (built.2 c (Option.mem_toList.mp mem)).1
  have same : ∀ {t : Tree} (first second : Text), Runs s t (sameRange o first second)
      (fun b t' => t = t' ∧ b = identical o first second) fun _ => True := fun first second =>
    (sameRange_runs o first second).mono (fun _ _ => id) fun _ _ => trivial
  cases slot with
  | child key =>
    exact (one climbing key).bind fun r t' built => .pure ⟨built.1, fun _ => built.2, by simp⟩
  | list key =>
    exact (list_builds builds o key climbing).imp fun refs t' built =>
      ⟨built.1, fun _ => built.2, by simp⟩
  | type key =>
    refine Runs.bind (Q := fun r t' => t.Extends t' [r] ∧
      ∀ c ∈ (typeNode? o key).toList, bad c → t'.Torn) ?_ fun r t' built =>
        .pure ⟨built.1, fun _ => built.2, by simp⟩
    unfold typeField typeNode?
    cases nodeField? o key with
    | none => exact .pure ⟨extends_hole climbing, by simp⟩
    | some n =>
      simp only
      split
      · refine (child_builds builds n _ climbing).imp fun r t' built => ⟨built.1, fun c mem => ?_⟩
        exact (built.2 c (Option.mem_toList.mp mem)).1
      · refine (builds n t climbing).bind fun id t' built => .pure ⟨built.1, fun c mem => ?_⟩
        cases List.mem_singleton.mp mem
        exact built.2.1
  | typeArguments =>
    simp only [Slot.read, Slot.nodes, Document.typeArguments, argumentsNode?]
    cases nodeField? o "typeArguments" with
    | some n =>
      exact (list_builds builds n _ climbing).imp fun refs t' built =>
        ⟨built.1, fun _ => built.2, by simp⟩
    | none =>
      cases nodeField? o "typeParameters" with
      | some n =>
        exact (list_builds builds n _ climbing).imp fun refs t' built =>
          ⟨built.1, fun _ => built.2, by simp⟩
      | none => exact .pure ⟨.refl climbing, by simp⟩
  | imported =>
    refine (one climbing "local").bind fun r t' first => ?_
    rw [secondName, bind_assoc]
    refine (same _ _).bind ?_
    rintro _ t' ⟨rfl, rfl⟩
    cases shared : identical o "imported" "local" with
    | true =>
      simp only [if_true, pure_bind]
      refine .pure ⟨first.1.of_mem_iff (by simp), fun _ => ?_, by simp⟩
      simpa only [Slot.nodes, shared, if_true] using first.2
    | false =>
      simp only [Bool.false_eq_true, if_false]
      refine (one first.1.climbing "imported").bind fun r' t'' second => .pure ?_
      refine ⟨(first.1.trans second.1).of_mem_iff (by simp [or_comm]), fun _ c mem torn => ?_,
        by simp⟩
      simp only [Slot.nodes, shared, Bool.false_eq_true, if_false, List.mem_append] at mem
      cases mem with
      | inl mem => exact second.2 c mem torn
      | inr mem => exact (first.2 c mem torn).extend second.1
  | exported =>
    refine (one climbing "local").bind fun r t' first => ?_
    rw [secondName, bind_assoc]
    refine (same _ _).bind ?_
    rintro _ t' ⟨rfl, rfl⟩
    cases shared : identical o "exported" "local" with
    | true =>
      simp only [if_true, pure_bind]
      refine .pure ⟨first.1.of_mem_iff (by simp), fun _ => ?_, by simp⟩
      simpa only [Slot.nodes, shared, if_true] using first.2
    | false =>
      simp only [Bool.false_eq_true, if_false]
      refine (one first.1.climbing "exported").bind fun r' t'' second => .pure ?_
      refine ⟨first.1.trans second.1, fun _ c mem torn => ?_, by simp⟩
      simp only [Slot.nodes, shared, Bool.false_eq_true, if_false, List.mem_append] at mem
      cases mem with
      | inl mem => exact (first.2 c mem torn).extend second.1
      | inr mem => exact second.2 c mem torn
  | entry =>
    simp only [Slot.read, keyAndValue, bind_assoc]
    refine (same _ _).bind ?_
    rintro _ t ⟨rfl, rfl⟩
    cases shared : identical o "key" "value" with
    | true =>
      simp only [if_true, bind_assoc, pure_bind]
      refine (one climbing "key").bind fun r t' built => .pure ?_
      refine ⟨built.1.of_mem_iff (by simp), fun _ => ?_, fun _ default => ?_⟩
      · simpa only [Slot.nodes, shared, if_true] using built.2
      · exact absurd default.2.2.1 (by simp [shared])
    | false =>
      cases short : flag o "shorthand" with
      | true =>
        simp only [Bool.false_eq_true, if_false, if_true, bind_assoc, pure_bind]
        refine (child_builds builds o "value" climbing).bind fun r t' built => ?_
        have torn : ∀ c ∈ Slot.entry.nodes s o, bad c → t'.Torn := by
          intro c mem
          simp only [Slot.nodes, shared, short, Bool.false_eq_true, if_false, if_true,
            Option.mem_toList] at mem
          exact (built.2 c mem).1
        obtain ⟨key, read, from_⟩ := shorthandKey_ok r s t'
        suffices h : t.Extends t' [key, r] ∧ (HasDefault o → Gripped t' [key, r]) by
          simp only [Runs, bind, ReaderT.bind, StateT.bind, Except.bind, read, pure, ReaderT.pure,
            StateT.pure, Except.pure]
          exact ⟨h.1, fun _ => torn, fun _ => h.2⟩
        obtain ⟨n, form, right, found, pair⟩ | ⟨rfl, other⟩ := from_
        · obtain ⟨p, rfl, found⟩ := Option.bind_eq_some_iff.mp found
          have left_child : ∀ left, key = some left → left ∈ n.children := by
            rintro left rfl
            rw [Node.children, Ref.mem_compact, pair]
            exact List.mem_cons_self
          constructor
          · refine built.1.mono (fun id mem => List.mem_cons_of_mem _ mem) fun id mem => ?_
            obtain same | mem := List.mem_cons.mp mem
            · have less := built.1.climbing.child found id (left_child id same.symm)
              have := Tree.index_lt_size found
              exact Option.ne_none_iff_exists'.mp fun absent => by
                have := Tree.node?_eq_none.mp absent
                omega
            · exact built.1.present id mem
          · rintro ⟨-, -, -, v, value, leading⟩
            obtain ⟨-, id, same, left⟩ := built.2 v value
            cases same
            obtain ⟨m, form', left, right', found', pair'⟩ := left leading
            cases found.symm.trans found'
            cases pair.symm.trans pair'
            exact ⟨left, p, n, rfl, found, left_child left rfl⟩
        · refine ⟨built.1.of_mem_iff (by simp), ?_⟩
          rintro ⟨-, -, -, v, value, leading⟩
          obtain ⟨-, id, rfl, left⟩ := built.2 v value
          obtain ⟨m, form, left, right, found, pair⟩ := left leading
          exact absurd pair (other m form (some left) right found)
      | false =>
        simp only [Bool.false_eq_true, if_false, bind_assoc, pure_bind]
        refine (one climbing "key").bind fun r t' first => ?_
        refine (one first.1.climbing "value").bind fun r' t'' second => .pure ?_
        refine ⟨first.1.trans second.1, fun _ c mem torn => ?_, fun _ default => ?_⟩
        · simp only [Slot.nodes, shared, short, Bool.false_eq_true, if_false,
            List.mem_append] at mem
          cases mem with
          | inl mem => exact (first.2 c mem torn).extend second.1
          | inr mem => exact second.2 c mem torn
        · exact absurd default.2.1 (by simp [short])
  | rest =>
    have found : Runs s t (candidates (fieldValues o))
        (fun cs t' => t = t' ∧ (s.index.Orderly ∧ Slot.rest.Readable s o →
          cs = (fieldValues o).filterMap fun v => (node? v).bind (candidate? s)))
        fun _ => True := by
      unfold Runs
      split
      next cs t' ok =>
        refine ⟨((candidates_runs _).of_ok ok).1, fun readable => ?_⟩
        have all := candidates_ok (t := t) readable.1 readable.2
        cases ok.symm.trans all
        rfl
      · trivial
    refine found.bind ?_
    rintro cs t ⟨rfl, all⟩
    refine (mapM_candidates_build builds _ climbing).bind fun ids t' built => .pure ?_
    refine ⟨built.1, fun readable c mem torn => built.2 c ?_ torn, by simp⟩
    rw [all readable]
    exact mem

/-! ## Nodes -/

theorem mapM_read_builds (o : Fields) (slots : List Slot) (climbing : t.Climbing) :
    Runs s t (slots.mapM (Slot.read decode o))
      (fun parts t' => parts.length = slots.length ∧ t.Extends t' parts.flatten ∧
        ((s.index.Orderly ∧ ∀ slot ∈ slots, slot.Readable s o) →
          ∀ c ∈ slots.flatMap (Slot.nodes s o), bad c → t'.Torn) ∧
        (slots = [.entry] → HasDefault o → Gripped t' parts.flatten))
      fun _ => True := by
  refine Runs.mapM
    (I := fun done parts t' => parts.length = done.length ∧ t.Extends t' parts.flatten ∧
      ((s.index.Orderly ∧ ∀ slot ∈ done, slot.Readable s o) →
        ∀ c ∈ done.flatMap (Slot.nodes s o), bad c → t'.Torn) ∧
      (done = [.entry] → HasDefault o → Gripped t' parts.flatten))
    (fun slot _ done parts t' before => ?_) ⟨rfl, .refl climbing, by simp, by simp⟩
  obtain ⟨same, grown, torn, -⟩ := before
  refine (read_builds builds o slot grown.climbing).imp fun refs t'' built => ?_
  refine ⟨by simp [same], ?_, fun ⟨orderly, readable⟩ c mem bad => ?_, fun only default => ?_⟩
  · rw [List.flatten_append, List.flatten_singleton]
    exact grown.trans built.1
  · rw [List.flatMap_append, List.flatMap_singleton, List.mem_append] at mem
    cases mem with
    | inl mem =>
      have early := fun slot mem => readable slot (List.mem_append_left _ mem)
      exact (torn ⟨orderly, early⟩ c mem bad).extend built.1
    | inr mem => exact built.2.1 ⟨orderly, readable slot (by simp)⟩ c mem bad
  · obtain ⟨rfl, entry⟩ : done = [] ∧ slot = .entry := by
      cases done with
      | nil => simpa using only
      | cons first rest => simp at only
    obtain rfl := List.length_eq_zero_iff.mp same
    simpa using built.2.2 entry default

end Slots
end

theorem before_property : before .property = [.entry] := rfl

section

variable {s : Setting} {decode : NodeDecoder}

/-- A well-nested node with a property with a default below it. -/
structure Broken (s : Setting) (depth : Nat) (o : Fields) : Prop where
  orderly : s.index.Orderly
  nested : WellNested s depth o
  default : ∃ d, Below s d o ∧ HasDefault d

theorem nodeWith_pair {o : Fields} {form : PairForm} (kind : Kind.ofType (typeOf o) = form.kind) :
    nodeWith decode o = pairNode decode form o := by
  rw [nodeWith, kind]
  cases form <;> rfl

theorem nodeWith_left {bad : Fields → Prop} (builds : Builds s bad decode) {o : Fields} {t : Tree}
    (climbing : t.Climbing) :
    Runs s t (nodeWith decode o) (fun id t' => Leading o → HasLeft t' id) fun _ => True := by
  by_cases leading : Leading o
  · obtain ⟨⟨form, kind⟩, field⟩ := leading
    obtain ⟨c, field⟩ := Option.isSome_iff_exists.mp field
    rw [nodeWith_pair kind]
    refine (child_builds builds o "left" climbing).bind fun r t₁ first => ?_
    obtain ⟨-, left, rfl, -⟩ := first.2 c field
    refine ((span_runs o).mono (fun _ _ => id) fun _ _ => trivial).bind ?_
    rintro sp _ ⟨rfl, -⟩
    refine (child_builds builds o "right" first.1.climbing).bind fun r t₂ second => fun _ => ?_
    have grown : t.Extends t₂ (Shape.pair form (some left) r).refs := first.1.trans second.1
    exact ⟨_, form, left, r, Tree.node?_add_new (grown.new_notMem rfl), rfl⟩
  · unfold Runs
    split
    · exact fun h => absurd h leading
    · trivial

theorem nodeWithin_builds (depth : Nat) :
    Builds s (Broken s depth) (nodeWithin depth) := by
  induction depth with
  | zero => exact fun o t _ => .fail trivial
  | succ depth ih =>
    intro o t climbing
    suffices main : Runs s t (nodeWith (nodeWithin depth) o)
        (fun id t' => t.Extends t' [some id] ∧ (Broken s (depth + 1) o → t'.Torn))
        fun _ => True from
      (main.and (nodeWith_left ih climbing)).mono (fun id t' h => ⟨h.1.1, h.1.2, h.2⟩)
        fun _ _ => trivial
    rw [nodeWith_eq]
    split
    · exact .fail trivial
    next proper =>
      refine (mapM_read_builds ih o _ climbing).bind fun parts t₁ first => ?_
      refine ((span_runs o).mono (fun _ _ => id) fun _ _ => trivial).bind ?_
      rintro sp _ ⟨rfl, -⟩
      refine (mapM_read_builds ih o _ first.2.1.climbing).bind fun others t₂ second => ?_
      obtain ⟨names, shape, added, above⟩ :=
        close_ok (o := o) (Kind.ofType (typeOf o)) sp (parts ++ others) s t₂
      have grown : t.Extends { t₂ with names } (parts ++ others).flatten := by
        rw [List.flatten_append]
        exact (first.2.1.trans second.2.1).of_nodes rfl
      rw [Runs, added]
      refine ⟨grown.add above.compact_refs above.kind_ne, fun broken => ?_⟩
      obtain ⟨orderly, ⟨-, readable, -, inner⟩, d, below, default⟩ := broken
      cases below with
      | self =>
        have kind := default.1
        obtain ⟨-, -, -, gripped⟩ := first
        rw [kind] at gripped
        obtain ⟨left, p, m, pair, found, child⟩ := gripped before_property default
        obtain ⟨m', kept, same⟩ := second.2.1.kept found
        have children : ∀ id, some id ∈ parts.flatten → id ∈ Ref.compact shape.refs := by
          intro id mem
          rw [above.compact_refs, Ref.mem_compact, List.flatten_append]
          exact List.mem_append_left _ mem
        refine Tree.torn_add (t := { t₂ with names }) kept (p := p) (l := left) ?_
          (children p (by simp [pair])) (children left (by simp [pair]))
          (grown.new_notMem above.compact_refs)
        rwa [Node.children, same]
      | child mem below =>
        have torn : t₂.Torn := by
          cases List.mem_append.mp mem with
          | inl early =>
            have all := first.2.2.1
              ⟨orderly, fun slot mem => readable slot (List.mem_append_left _ mem)⟩
            exact (all _ early ⟨orderly, inner _ mem, d, below, default⟩).extend second.2.1
          | inr late =>
            have all := second.2.2.1
              ⟨orderly, fun slot mem => readable slot (List.mem_append_right _ mem)⟩
            exact all _ late ⟨orderly, inner _ mem, d, below, default⟩
        exact Tree.Torn.add (t := { t₂ with names }) torn sp shape

/-! ## Documents -/

/-- The program of any document makes a tree with a root, which is torn if a statement is
broken. -/
theorem program_builds (o : Fields) (file : FileId) :
    Runs s (Tree.empty file) (program o)
      (fun _ t' => (∃ root, t'.Rooted root) ∧
        ((∃ c ∈ listNodes o "body", Broken s maxDepth c) → t'.Torn))
      fun _ => True := by
  unfold program
  refine (list_builds (nodeWithin_builds maxDepth) o _ (.empty file)).bind
    fun refs t built => ?_
  have close : ∀ found : List Span, Runs s t
      (do
        let sp ← span o
        modify fun t => (t.addProgram sp ⟨refs, found⟩).1)
      (fun _ t' => (∃ root, t'.Rooted root) ∧
        ((∃ c ∈ listNodes o "body", Broken s maxDepth c) → t'.Torn)) fun _ => True := by
    intro found
    refine ((span_runs o).mono (fun _ _ => id) fun _ _ => trivial).bind ?_
    rintro sp _ ⟨rfl, -⟩
    refine ⟨⟨_, built.1.addProgram sp ⟨refs, found⟩ rfl⟩, ?_⟩
    rintro ⟨c, mem, broken⟩
    exact (built.2 c mem broken).add sp (.program ⟨refs, found⟩)
  split
  next vs found =>
    refine ((comments_runs vs).mono (fun _ _ => id) fun _ _ => trivial).bind ?_
    rintro spans _ rfl
    exact close spans
  · exact close []

end

/-- An accepted tree has a root above all its other nodes. -/
theorem decode_rooted {files : FileSet} {id : FileId} {f : File} {document : Text} {t : Tree}
    (found : files.get? id = some f) (h : decode files id document = .ok t) :
    ∃ root, t.Rooted root := by
  obtain ⟨o, -, -, built, -⟩ := (decode_eq_ok found).mp h
  exact ((program_builds o id).of_ok built).1

/-- A well-nested document is the document of a tree if and only if no shorthand property in
it has a default. -/
theorem decode_nested_iff {files : FileSet} {id : FileId} {f : File} {document : Text}
    {o : Fields} (found : files.get? id = some f) (short : f.content.length < UInt32.size)
    (read : Json.read document = .ok (.object o))
    (nested : NestedProgram ⟨id, .ofText f.content⟩ o) :
    (∃ t, decode files id document = .ok t) ↔
      ∀ c ∈ listNodes o "body", ∀ d, Below ⟨id, .ofText f.content⟩ d c → ¬ HasDefault d := by
  constructor
  · rintro ⟨t, decoded⟩ c mem d below default
    obtain ⟨o', read', -, built, fine⟩ := (decode_eq_ok found).mp decoded
    cases read.symm.trans read'
    have orderly := Utf16Index.ofText_orderly short
    obtain ⟨⟨root, rooted⟩, torn⟩ := (program_builds o id).of_ok built
    exact rooted.defect?_of_torn
      (torn ⟨c, mem, orderly, nested.below c mem, d, below, default⟩) fine
  · exact decode_of_nested found short read nested

/-- Whether an object is read for which a test holds. -/
def readsAs (test : Fields → Bool) : Except Json.SyntaxError Json → Bool
  | .ok (.object o) => test o
  | _ => false

theorem exists_of_readsAs {test : Fields → Bool} {read : Except Json.SyntaxError Json}
    (h : readsAs test read) :
    ∃ o, read = .ok (.object o) ∧ test o := by
  unfold readsAs at h
  split at h
  next o => exact ⟨o, rfl, h⟩
  · contradiction

/-- An object of one shorthand property, whose key and value are one node. -/
theorem decode_nested_iff_shorthand :
    let f : File := ⟨0, "a.ts", "({a});", ⟨true, false, false⟩⟩
    let files : FileSet := ⟨[f], [], "/"⟩
    let document : Text :=
      "\x7b\"type\":\"Program\",\"range\":[0,6],\"comments\":[],\"body\":[\x7b" ++
        "\"type\":\"ExpressionStatement\",\"range\":[0,6],\"expression\":\x7b" ++
          "\"type\":\"ObjectExpression\",\"range\":[1,4],\"properties\":[\x7b" ++
            "\"type\":\"Property\",\"range\":[2,3],\"shorthand\":true," ++
            "\"key\":\x7b\"type\":\"Identifier\",\"range\":[2,3],\"name\":\"a\"\x7d," ++
            "\"value\":\x7b\"type\":\"Identifier\",\"range\":[2,3],\"name\":\"a\"\x7d\x7d]\x7d\x7d]\x7d"
    let s : Setting := ⟨0, .ofText f.content⟩
    ∃ o, Json.read document = .ok (.object o) ∧ NestedProgram s o ∧
      ((∃ t, decode files 0 document = .ok t) ↔
        ∀ c ∈ listNodes o "body", ∀ d, Below s d c → ¬ HasDefault d) := by
  intro f files document s
  have reads : readsAs (fun o => decide (NestedProgram s o)) (Json.read document) = true := by
    decide +kernel
  obtain ⟨o, read, nested⟩ := exists_of_readsAs reads
  rw [decide_eq_true_eq] at nested
  exact ⟨o, read, nested, decode_nested_iff (f := f) rfl (by decide) read nested⟩

end TreeLint.Document
