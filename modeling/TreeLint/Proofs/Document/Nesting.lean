import TreeLint.Proofs.Document.Comparison
import TreeLint.Proofs.Document.InFile
import TreeLint.Proofs.Source.Utf16
import TreeLint.Proofs.Tree.Growth

/-! # Well-nested documents

A document is well nested when all its ranges are ranges of the source and the nodes found
in the fields of a node, in the order of the fields, lie inside it and apart from each
other.  Such a document is the document of a tree (`decode_of_nested`), with one
exception: of a shorthand property with a default, the left side of the default becomes
the key, so it has two parents, and the tree is refused.

The decoder adds the nodes in such an order that what it has built is settled at any time
(`Placed`): the nodes of a slot have been added with the spans of their ranges, and wait
for a parent.
-/

namespace TreeLint.Document

/-! ## Ranges in units -/

/-- The range of a node in UTF-16 units, if it is one of the source. -/
def units? (index : Utf16Index) (o : Fields) : Option (Nat × Nat) :=
  match o.value? "range" with
  | some (.array [.number first, .number last]) =>
    match machineInt first, machineInt last with
    | .ok i, .ok j => if 0 ≤ i ∧ i ≤ j ∧ j ≤ index.size then some (i.toNat, j.toNat) else none
    | _, _ => none
  | _ => none

/-- The span of a range. -/
def spanAt (s : Setting) (r : Nat × Nat) : Span :=
  ⟨s.file, s.index.wordAt r.1, s.index.wordAt r.2⟩

theorem units?_eq_some {index : Utf16Index} {o : Fields} {r : Nat × Nat}
    (h : units? index o = some r) :
    ∃ first last i j, o.value? "range" = some (.array [.number first, .number last]) ∧
      machineInt first = .ok i ∧ machineInt last = .ok j ∧ 0 ≤ i ∧ i ≤ j ∧ j ≤ index.size ∧
      r = (i.toNat, j.toNat) := by
  unfold units? at h
  split at h
  next first last range =>
    split at h
    next i j read read' =>
      split at h
      next order =>
        cases h
        exact ⟨first, last, i, j, range, read, read', order.1, order.2.1, order.2.2, rfl⟩
      · contradiction
    · contradiction
  · contradiction

section

variable {s : Setting} {t : Tree} {o : Fields}

theorem offset_ok (orderly : s.index.Orderly) {digits : Text} {i : Int}
    (read : machineInt digits = .ok i) (low : 0 ≤ i) (high : i ≤ s.index.size) :
    offset (.number digits) s t = .ok (s.index.wordAt i.toNat, t) := by
  have inside : i.toNat ≤ s.index.size := by omega
  obtain ⟨b, found, small⟩ := orderly.byte inside
  have word : ¬ (i < 0 ∨ i ≥ UInt32.size) := by
    have := orderly.small
    omega
  simp only [offset, read, if_neg word, bind, ReaderT.bind, StateT.bind, Except.bind,
    MonadReader.read, ReaderT.read, pure, StateT.pure, Except.pure, readThe,
    MonadReaderOf.read, found, ReaderT.pure, Utf16Index.wordAt, Option.getD_some]

theorem span_ok (orderly : s.index.Orderly) {r : Nat × Nat} (h : units? s.index o = some r) :
    span o s t = .ok (spanAt s r, t) := by
  obtain ⟨first, last, i, j, range, read, read', low, order, high, rfl⟩ := units?_eq_some h
  have start := offset_ok (t := t) orderly read low (by omega)
  have stop := offset_ok (t := t) orderly read' (by omega) high
  have le : ¬ s.index.wordAt i.toNat > s.index.wordAt j.toNat := by
    rw [gt_iff_lt, UInt32.not_lt]
    exact orderly.wordAt_le (by omega) (by omega)
  simp only [span, range, bind, ReaderT.bind, StateT.bind, Except.bind, start, stop, if_neg le,
    pure, StateT.pure, Except.pure, ReaderT.pure, MonadReader.read, ReaderT.read, readThe,
    MonadReaderOf.read, spanAt]

theorem span_at (orderly : s.index.Orderly) {r : Nat × Nat} (range : units? s.index o = some r) :
    Runs s t (span o) (fun sp t' => sp = spanAt s r ∧ t = t') fun _ => False := by
  rw [Runs, span_ok orderly range]
  exact ⟨rfl, rfl⟩

theorem numbered_of_units {index : Utf16Index} (h : (units? index o).isSome) : Numbered o := by
  obtain ⟨r, range⟩ := Option.isSome_iff_exists.mp h
  obtain ⟨first, last, -, -, range, -⟩ := units?_eq_some range
  exact ⟨first, last, range⟩

/-- Ranges of which one is a range of the source are compared as they should be. -/
theorem sameRange_at {first second : Text}
    (h : ∀ a b, nodeField? o first = some a → nodeField? o second = some b →
      (units? s.index a).isSome ∨ (units? s.index b).isSome) :
    Runs s t (sameRange o first second)
      (fun b t' => t = t' ∧ b = identical o first second) fun _ => False := by
  have comparable : Comparable o first second := comparable_of_numbered fun a b found found' =>
    (h a b found found').imp numbered_of_units numbered_of_units
  exact ((sameRange_runs o first second).and (sameRange_safe comparable)).mono
    (fun _ _ both => both.1) fun _ both => both.2 both.1

end

/-! ## The nodes of a document -/

/-- The items of a list field. -/
def listValues (o : Fields) (key : Text) : List Json :=
  match o.value? key with
  | some (.array vs) => vs
  | _ => []

/-- The nodes in a list field. -/
def listNodes (o : Fields) (key : Text) : List Fields := (listValues o key).filterMap node?

/-- The type in a type field. -/
def typeNode? (o : Fields) (key : Text) : Option Fields :=
  match nodeField? o key with
  | none => none
  | some n => if typeOf n == "TSTypeAnnotation" then nodeField? n "typeAnnotation" else some n

/-- What wraps the type arguments. -/
def argumentsNode? (o : Fields) : Option Fields :=
  match nodeField? o "typeArguments" with
  | some n => some n
  | none => nodeField? o "typeParameters"

def candidate? (s : Setting) (n : Fields) : Option Candidate :=
  (units? s.index n).map fun r => ⟨spanAt s r, n⟩

/-- The nodes among all fields, without those that start before the end of an earlier one. -/
def restNodes (s : Setting) (o : Fields) : List Fields :=
  let found := (fieldValues o).filterMap fun v => (node? v).bind (candidate? s)
  (apart none (found.mergeSort Candidate.before)).map Candidate.node

/-- The nodes in a slot, in the order of the fields.  Two fields with identical ranges hold
one node, and a shorthand property is its value. -/
def Slot.nodes (s : Setting) (o : Fields) : Slot → List Fields
  | child key => (nodeField? o key).toList
  | list key => listNodes o key
  | type key => (typeNode? o key).toList
  | typeArguments => ((argumentsNode? o).map fun n => listNodes n "params").getD []
  | imported =>
    if identical o "imported" "local" then (nodeField? o "local").toList
    else (nodeField? o "imported").toList ++ (nodeField? o "local").toList
  | exported =>
    if identical o "exported" "local" then (nodeField? o "local").toList
    else (nodeField? o "local").toList ++ (nodeField? o "exported").toList
  | entry =>
    if identical o "key" "value" then (nodeField? o "key").toList
    else if flag o "shorthand" then (nodeField? o "value").toList
    else (nodeField? o "key").toList ++ (nodeField? o "value").toList
  | rest => restNodes s o

/-- The nodes that become the children of a node. -/
def children (s : Setting) (o : Fields) : List Fields :=
  let k := Kind.ofType (typeOf o)
  (before k).flatMap (Slot.nodes s o) ++ (after k).flatMap (Slot.nodes s o)

/-- Whether a value can be a child: null or a node. -/
def isChild : Json → Bool
  | .null => true
  | v => (node? v).isSome

/-- A field that is absent, null or a node. -/
abbrev ChildField (o : Fields) (key : Text) : Prop := ∀ v ∈ o.value? key, isChild v

/-- A field whose items are nodes or null, if it is a list. -/
abbrev ListField (o : Fields) (key : Text) : Prop := ∀ v ∈ listValues o key, isChild v

/-- The fields of a slot hold nothing but nodes. -/
def Slot.Readable (s : Setting) (o : Fields) : Slot → Prop
  | child key => ChildField o key
  | list key => ListField o key
  | type key => ∀ n ∈ nodeField? o key, typeOf n = "TSTypeAnnotation" → ChildField n "typeAnnotation"
  | typeArguments => ∀ n ∈ argumentsNode? o, ListField n "params"
  | imported => ChildField o "local" ∧ ChildField o "imported"
  | exported => ChildField o "local" ∧ ChildField o "exported"
  | entry => ChildField o "key" ∧ ChildField o "value"
  | rest => ∀ v ∈ fieldValues o, ∀ n ∈ node? v, (units? s.index n).isSome

/-- The ranges of nodes lie inside that of another node, in order and apart. -/
def InLine (index : Utf16Index) (o : Fields) (nodes : List Fields) : Prop :=
  (∀ n ∈ nodes, (units? index n).isSome) ∧
    ∃ outer ∈ units? index o,
      (∀ r ∈ nodes.filterMap (units? index), outer.1 ≤ r.1 ∧ r.2 ≤ outer.2) ∧
        (nodes.filterMap (units? index)).IsChain fun a b => a.2 ≤ b.1

/-- A node and the nodes below it, of which none is a program, are well nested, and at most
so deep. -/
def WellNested (s : Setting) : (depth : Nat) → Fields → Prop
  | 0, _ => False
  | depth + 1, o =>
    let k := Kind.ofType (typeOf o)
    k ≠ .program ∧ (∀ slot ∈ before k ++ after k, slot.Readable s o) ∧
      InLine s.index o (children s o) ∧ ∀ c ∈ children s o, WellNested s depth c

/-- Whether a value has a range of the source, if it is an object at all. -/
def isRanged (index : Utf16Index) : Json → Bool
  | .object o => (units? index o).isSome
  | _ => true

/-- A program whose statements are well nested and whose comments have ranges. -/
structure NestedProgram (s : Setting) (o : Fields) : Prop where
  type : typeOf o = "Program"
  readable : ListField o "body"
  inLine : InLine s.index o (listNodes o "body")
  below : ∀ c ∈ listNodes o "body", WellNested s maxDepth c
  comments : ∀ v ∈ listValues o "comments", isRanged s.index v

instance (s : Setting) (o : Fields) (slot : Slot) : Decidable (slot.Readable s o) := by
  cases slot <;> unfold Slot.Readable <;> infer_instance

instance (index : Utf16Index) (o : Fields) (nodes : List Fields) :
    Decidable (InLine index o nodes) := by
  unfold InLine
  infer_instance

instance decidableWellNested (s : Setting) : ∀ depth o, Decidable (WellNested s depth o)
  | 0, _ => isFalse id
  | depth + 1, _ =>
    have := decidableWellNested s depth
    inferInstanceAs (Decidable (_ ∧ _))

instance (s : Setting) (o : Fields) : Decidable (NestedProgram s o) :=
  decidable_of_iff
    (typeOf o = "Program" ∧ ListField o "body" ∧ InLine s.index o (listNodes o "body") ∧
      (∀ c ∈ listNodes o "body", WellNested s maxDepth c) ∧
      ∀ v ∈ listValues o "comments", isRanged s.index v)
    ⟨fun ⟨type, readable, line, below, comments⟩ => ⟨type, readable, line, below, comments⟩,
      fun ⟨type, readable, line, below, comments⟩ => ⟨type, readable, line, below, comments⟩⟩

theorem listValues_of_value? {o : Fields} {key : Text} {vs : List Json}
    (found : o.value? key = some (.array vs)) : listValues o key = vs := by
  simp only [listValues, found]

theorem listValues_eq_nil {o : Fields} {key : Text}
    (other : ∀ vs, o.value? key ≠ some (.array vs)) : listValues o key = [] := by
  unfold listValues
  split
  next vs found => exact absurd found (other vs)
  · rfl

theorem node?_of_isChild {v : Json} (h : isChild v) (present : v ≠ .null) :
    ∃ n, node? v = some n := by
  unfold isChild at h
  split at h
  · exact absurd rfl present
  · exact Option.isSome_iff_exists.mp h

/-- The range of a node in line is a range of the source, and so are those of its children. -/
theorem InLine.ranged {index : Utf16Index} {o : Fields} {nodes : List Fields}
    (h : InLine index o nodes) :
    (∃ r, units? index o = some r) ∧ ∀ n ∈ nodes, (units? index n).isSome := by
  obtain ⟨ranged, outer, range, -⟩ := h
  exact ⟨⟨outer, range⟩, ranged⟩

theorem map_units? {index : Utf16Index} {nodes : List Fields}
    (h : ∀ n ∈ nodes, (units? index n).isSome) :
    nodes.map (units? index) = (nodes.filterMap (units? index)).map some := by
  induction nodes with
  | nil => rfl
  | cons n nodes ih =>
    obtain ⟨r, range⟩ := Option.isSome_iff_exists.mp (h n List.mem_cons_self)
    rw [List.map_cons, List.filterMap_cons, range, List.map_cons,
      ih fun m mem => h m (List.mem_cons_of_mem _ mem)]

/-- One node is another or lies below it. -/
inductive Below (s : Setting) : Fields → Fields → Prop where
  | self (o : Fields) : Below s o o
  | child {o c d : Fields} (mem : c ∈ children s o) (below : Below s d c) : Below s d o

/-- A node that is decoded as a pair with a left side. -/
def Leading (o : Fields) : Prop :=
  (∃ form : PairForm, Kind.ofType (typeOf o) = form.kind) ∧ (nodeField? o "left").isSome

/-- A shorthand property with a default: its value is not its key, but has a left side. -/
def HasDefault (o : Fields) : Prop :=
  Kind.ofType (typeOf o) = .property ∧ flag o "shorthand" = true ∧
    identical o "key" "value" = false ∧ ∃ v, nodeField? o "value" = some v ∧ Leading v

/-! ## Nodes in place -/

/-- The nodes have been added, with the spans of their ranges, and have no parent yet. -/
structure Placed (s : Setting) (t t' : Tree) (nodes : List Fields) (ids : List NodeId) : Prop where
  grows : Tree.Grows (fun span => span.file = s.file) t t' ids
  spans : ids.map (fun id => some (t'.span (some id)))
    = nodes.map fun n => (units? s.index n).map (spanAt s)

/-- Only a node with a left side was made a pair with one. -/
def PairOnly (t : Tree) (id : NodeId) (o : Fields) : Prop :=
  ∀ n form left right, t.node? id = some n → n.shape = .pair form (some left) right → Leading o

namespace Placed

variable {s : Setting} {t t' t'' : Tree} {nodes others : List Fields} {ids ids' : List NodeId}

theorem nil (h : t.Settled fun span => span.file = s.file) : Placed s t t [] [] :=
  ⟨.refl h, rfl⟩

theorem spans_kept (h : Placed s t t' nodes ids)
    (h' : Placed s t' t'' others ids') : ids.map (fun id => some (t''.span (some id)))
      = nodes.map fun n => (units? s.index n).map (spanAt s) := by
  rw [← h.spans]
  refine List.map_congr_left fun id mem => ?_
  obtain ⟨n, found, -⟩ := h.grows.orphan id mem
  rw [h'.grows.span_kept found]

theorem trans (h : Placed s t t' nodes ids) (h' : Placed s t' t'' others ids') :
    Placed s t t'' (nodes ++ others) (ids ++ ids') where
  grows := h.grows.trans h'.grows
  spans := by rw [List.map_append, List.map_append, h.spans_kept h', h'.spans]

/-- What was added later may come earlier among the children. -/
theorem trans_swap (h : Placed s t t' nodes ids) (h' : Placed s t' t'' others ids') :
    Placed s t t'' (others ++ nodes) (ids' ++ ids) where
  grows := by
    have grown := h.grows.trans h'.grows
    exact grown.subperm (List.perm_append_comm.nodup_iff.mp grown.nodup)
      (List.append_subset.mpr ⟨List.subset_append_right _ _, List.subset_append_left _ _⟩)
  spans := by rw [List.map_append, List.map_append, h.spans_kept h', h'.spans]

theorem length_eq (h : Placed s t t' nodes ids) : ids.length = nodes.length := by
  have := congrArg List.length h.spans
  rwa [List.length_map, List.length_map] at this

theorem compact_pair {a b : Ref} (h : Placed s t t' nodes (a.toList ++ b.toList)) :
    Ref.compact [a, b] = a.toList ++ b.toList := by
  have single : Ref.compact [b] = b.toList := by cases b <;> rfl
  rw [← single] at h ⊢
  exact Ref.compact_cons h.grows.nodup

/-- Nodes in line have their spans in line. -/
theorem lined (h : Placed s t t' nodes ids) (orderly : s.index.Orderly) {o : Fields}
    (line : InLine s.index o nodes) {r : Nat × Nat} (range : units? s.index o = some r) :
    Tree.Lined (spanAt s r) (ids.map fun id => t'.span (some id)) := by
  obtain ⟨ranged, outer, range', inside, chain⟩ := line
  have ranges := map_units? ranged
  generalize nodes.filterMap (units? s.index) = inner at ranges inside chain
  cases range.symm.trans range'
  obtain ⟨-, -, i, j, -, -, -, low, order, high, rfl⟩ := units?_eq_some range
  have spans : ids.map (fun id => t'.span (some id)) = inner.map (spanAt s) := by
    have placed : (ids.map fun id => t'.span (some id)).map some
        = (inner.map (spanAt s)).map some := by
      calc (ids.map fun id => t'.span (some id)).map some
          = (nodes.map (units? s.index)).map (Option.map (spanAt s)) := by
            rw [List.map_map, List.map_map]
            exact h.spans
        _ = (inner.map (spanAt s)).map some := by
            rw [ranges, List.map_map, List.map_map]
            rfl
    exact List.map_injective_iff.mpr (fun _ _ => Option.some.inj) placed
  have bounds : ∀ x ∈ inner, x.1 ≤ x.2 ∧ x.2 ≤ s.index.size := by
    intro x mem
    have : some x ∈ nodes.map (units? s.index) := ranges ▸ List.mem_map_of_mem mem
    obtain ⟨n, -, range⟩ := List.mem_map.mp this
    obtain ⟨-, -, a, b, -, -, -, low, order, high, rfl⟩ := units?_eq_some range
    simp only
    omega
  rw [spans]
  constructor
  · intro sp found
    obtain ⟨x, mem, rfl⟩ := List.mem_map.mp found
    have start := orderly.wordAt_le (inside x mem).1
      (Nat.le_trans (bounds x mem).1 (bounds x mem).2)
    have stop := orderly.wordAt_le (inside x mem).2 (by simp only; omega)
    simp [Span.contains, spanAt, start, stop]
  · rw [List.isChain_map]
    refine chain.imp_of_mem_imp fun a b _ mem apart => ?_
    exact orderly.wordAt_le apart (Nat.le_trans (bounds b mem).1 (bounds b mem).2)

end Placed

/-! ## Slots -/

/-- A decoder that puts a node in place whatever has been built so far. -/
def Places (s : Setting) (decode : NodeDecoder) (o : Fields) : Prop :=
  ∀ t, t.Settled (fun span => span.file = s.file) →
    Runs s t (decode o) (fun id t' => Placed s t t' [o] [id] ∧ PairOnly t' id o) fun _ => False

section

variable {s : Setting} {t : Tree} {decode : NodeDecoder} {o : Fields}

theorem child_placed {key : Text} (settled : t.Settled fun span => span.file = s.file)
    (readable : ChildField o key) (places : ∀ c, nodeField? o key = some c → Places s decode c) :
    Runs s t (child decode o key)
      (fun r t' => Placed s t t' (nodeField? o key).toList r.toList ∧
        ∀ c id, nodeField? o key = some c → r = some id → PairOnly t' id c) fun _ => False := by
  unfold child
  split
  next absent =>
    have none : nodeField? o key = none := by simp [nodeField?, absent]
    rw [none]
    exact .pure ⟨.nil settled, fun _ _ h => absurd h (by simp)⟩
  next null =>
    have none : nodeField? o key = none := by simp [nodeField?, null, node?]
    rw [none]
    exact .pure ⟨.nil settled, fun _ _ h => absurd h (by simp)⟩
  next v present found =>
    obtain ⟨n, node⟩ := node?_of_isChild (readable v found) (by rintro rfl; exact present rfl)
    have field : nodeField? o key = some n := by simp [nodeField?, found, node]
    split
    next n' node' =>
      cases node.symm.trans node'
      rw [field]
      refine (places n field t settled).bind fun id t' placed => .pure ⟨placed.1, ?_⟩
      rintro _ _ ⟨⟩ ⟨⟩
      exact placed.2
    next none => rw [node] at none; contradiction

theorem items_placed (o : Fields) (key : Text) {vs : List Json} (i : Nat)
    (settled : t.Settled fun span => span.file = s.file)
    (readable : ∀ v ∈ vs, isChild v)
    (places : ∀ c ∈ vs.filterMap node?, Places s decode c) :
    Runs s t (items decode o key i vs)
      (fun refs t' => Placed s t t' (vs.filterMap node?) (refs.filterMap id)) fun _ => False := by
  induction vs generalizing i t with
  | nil => exact .pure (.nil settled)
  | cons v vs ih =>
    have item : Runs s t (item decode o key i v)
        (fun r t' => Placed s t t' (node? v).toList r.toList) fun _ => False := by
      unfold item
      split
      · exact .pure (.nil settled)
      next present =>
        obtain ⟨n, node⟩ := node?_of_isChild (readable v List.mem_cons_self) present
        rw [node]
        refine (places n ?_ t settled).bind fun id t' placed => .pure placed.1
        simp [node]
    refine item.bind fun r t' first => ?_
    have rest := ih (t := t') (i + 1) first.grows.settled
      (fun w mem => readable w (List.mem_cons_of_mem _ mem)) (fun c mem => places c ?_)
    · refine rest.bind fun refs t'' later => .pure ?_
      have nodes : (v :: vs).filterMap node? = (node? v).toList ++ vs.filterMap node? := by
        cases node : node? v <;> simp [node]
      have ids : (r :: refs).filterMap id = r.toList ++ refs.filterMap id := by
        cases r <;> rfl
      rw [nodes, ids]
      exact first.trans later
    · cases node : node? v <;> simp [node, mem]

theorem list_placed {key : Text} (settled : t.Settled fun span => span.file = s.file)
    (readable : ListField o key) (places : ∀ c ∈ listNodes o key, Places s decode c) :
    Runs s t (list decode o key)
      (fun refs t' => Placed s t t' (listNodes o key) (Ref.compact refs)) fun _ => False := by
  unfold list
  split
  next vs found =>
    rw [ListField, listValues_of_value? found] at readable
    rw [listNodes, listValues_of_value? found] at places ⊢
    refine (items_placed o key 0 settled readable places).imp fun refs t' placed => ?_
    rwa [Ref.compact_of_nodup placed.grows.nodup]
  next other =>
    rw [listNodes, listValues_eq_nil fun vs found => other vs found]
    exact .pure (.nil settled)

theorem candidates_ok (orderly : s.index.Orderly) {vs : List Json}
    (ranged : ∀ v ∈ vs, ∀ n, node? v = some n → (units? s.index n).isSome) :
    candidates vs s t = .ok (vs.filterMap fun v => (node? v).bind (candidate? s), t) := by
  induction vs generalizing t with
  | nil => rfl
  | cons v vs ih =>
    have rest := ih (t := t) fun w mem => ranged w (List.mem_cons_of_mem _ mem)
    unfold candidates
    cases node : node? v with
    | none =>
      simp only [rest, List.filterMap_cons, node, Option.bind_none]
    | some n =>
      obtain ⟨r, range⟩ := Option.isSome_iff_exists.mp (ranged v List.mem_cons_self n node)
      simp only [bind, ReaderT.bind, StateT.bind, Except.bind, span_ok orderly range, rest, pure,
        ReaderT.pure, StateT.pure, Except.pure, List.filterMap_cons, node, Option.bind_some,
        candidate?, range, Option.map_some]

/-- The nodes of a slot are put in place. -/
theorem read_placed (orderly : s.index.Orderly) {slot : Slot}
    (settled : t.Settled fun span => span.file = s.file) (readable : slot.Readable s o)
    (ranged : ∀ c ∈ slot.nodes s o, (units? s.index c).isSome)
    (plain : slot = .entry → Kind.ofType (typeOf o) = .property ∧ ¬ HasDefault o)
    (places : ∀ c ∈ slot.nodes s o, Places s decode c) :
    Runs s t (slot.read decode o)
      (fun refs t' => Placed s t t' (slot.nodes s o) (Ref.compact refs)) fun _ => False := by
  have single : ∀ r : Ref, Ref.compact [r] = r.toList := fun r => by cases r <;> rfl
  cases slot with
  | child key =>
    refine (child_placed settled readable fun c found => places c (by simp [Slot.nodes, found])).bind
      fun r t' placed => .pure ?_
    rw [single]
    exact placed.1
  | list key => exact list_placed settled readable places
  | type key =>
    simp only [Slot.Readable, Slot.nodes] at readable places ranged ⊢
    suffices h : Runs s t (typeField decode o key)
        (fun r t' => Placed s t t' (typeNode? o key).toList r.toList) fun _ => False from
      h.bind fun r t' placed => .pure (by rwa [single])
    cases field : nodeField? o key with
    | none =>
      simp only [typeField, typeNode?, field]
      exact .pure (.nil settled)
    | some n =>
      simp only [typeField, typeNode?, field] at places ⊢
      split
      next wrapper =>
        simp only [wrapper, if_true] at places
        have inner := readable n field (eq_of_beq wrapper)
        exact (child_placed settled inner fun c found => places c (by simp [found])).imp
          fun _ _ placed => placed.1
      next bare =>
        simp only [bare] at places
        exact (places n (by simp) t settled).bind fun id t' placed => .pure placed.1
  | typeArguments =>
    simp only [Slot.Readable, Slot.nodes, Slot.read] at readable places ⊢
    have read : Document.typeArguments decode o
        = match argumentsNode? o with
          | some n => list decode n "params"
          | none => pure [] := by
      unfold Document.typeArguments argumentsNode?
      cases nodeField? o "typeArguments" <;> rfl
    rw [read]
    cases found : argumentsNode? o with
    | none => exact .pure (.nil settled)
    | some n =>
      simp only [found, Option.map_some, Option.getD_some] at places ⊢
      exact list_placed settled (readable n found) places
  | imported =>
    simp only [Slot.nodes, Slot.read] at ranged places ⊢
    have local_ : ∀ c, nodeField? o "local" = some c → Places s decode c ∧
        (units? s.index c).isSome := fun c found => by
      refine ⟨places c ?_, ranged c ?_⟩ <;> split <;> simp [found]
    refine (child_placed settled readable.1 fun c found => (local_ c found).1).bind
      fun r t' first => ?_
    rw [secondName, bind_assoc]
    refine (sameRange_at fun a b _ found => .inr (local_ b found).2).bind ?_
    rintro _ t' ⟨rfl, rfl⟩
    cases same : identical o "imported" "local" with
    | true =>
      simp only [if_true, pure_bind]
      refine Runs.pure ?_
      rw [Ref.compact_shared]
      exact first.1
    | false =>
      simp only [same, Bool.false_eq_true, if_false] at places ⊢
      refine (child_placed first.1.grows.settled readable.2
        fun c found => places c (by simp [found])).bind fun r' t'' second => .pure ?_
      have placed := first.1.trans_swap second.1
      rwa [placed.compact_pair]
  | exported =>
    simp only [Slot.nodes, Slot.read] at ranged places ⊢
    have local_ : ∀ c, nodeField? o "local" = some c → Places s decode c ∧
        (units? s.index c).isSome := fun c found => by
      refine ⟨places c ?_, ranged c ?_⟩ <;> split <;> simp [found]
    refine (child_placed settled readable.1 fun c found => (local_ c found).1).bind
      fun r t' first => ?_
    rw [secondName, bind_assoc]
    refine (sameRange_at fun a b _ found => .inr (local_ b found).2).bind ?_
    rintro _ t' ⟨rfl, rfl⟩
    cases same : identical o "exported" "local" with
    | true =>
      simp only [if_true, pure_bind]
      refine Runs.pure ?_
      rw [Ref.compact_shared]
      exact first.1
    | false =>
      simp only [same, Bool.false_eq_true, if_false] at places ⊢
      refine (child_placed first.1.grows.settled readable.2
        fun c found => places c (by simp [found])).bind fun r' t'' second => .pure ?_
      have placed := first.1.trans second.1
      rwa [placed.compact_pair]
  | entry =>
    simp only [Slot.Readable, Slot.nodes, Slot.read] at readable ranged places ⊢
    have compared : ∀ a b, nodeField? o "key" = some a → nodeField? o "value" = some b →
        (units? s.index a).isSome ∨ (units? s.index b).isSome := by
      intro a b key value
      cases same : identical o "key" "value" with
      | true => exact .inl (ranged a (by simp [same, key]))
      | false => exact .inr (ranged b (by simp only [same, value]; cases flag o "shorthand" <;> simp))
    rw [keyAndValue, bind_assoc]
    refine (sameRange_at compared).bind ?_
    rintro _ t ⟨rfl, rfl⟩
    cases same : identical o "key" "value" with
    | true =>
      simp only [same, if_true] at places ⊢
      rw [bind_assoc]
      refine (child_placed settled readable.1 fun c found => places c (by simp [found])).bind
        fun r t' placed => ?_
      rw [pure_bind]
      refine Runs.pure ?_
      rw [Ref.compact_shared]
      exact placed.1
    | false =>
      cases short : flag o "shorthand" with
      | true =>
        simp only [same, short, Bool.false_eq_true, if_false, if_true] at places ⊢
        rw [bind_assoc]
        refine (child_placed settled readable.2 fun c found => places c (by simp [found])).bind
          fun r t' placed => ?_
        obtain ⟨key, read, from_⟩ := shorthandKey_ok r s t'
        have alone : Ref.compact [key, r] = r.toList := by
          obtain ⟨n, form, right, found, shape⟩ | ⟨rfl, -⟩ := from_
          · cases key with
            | none => exact single r
            | some left =>
              obtain ⟨id, rfl, found⟩ := Option.bind_eq_some_iff.mp found
              cases value : nodeField? o "value" with
              | none => simpa [value] using placed.1.length_eq
              | some v =>
                have leading := placed.2 v id value rfl n form left right found shape
                obtain ⟨property, none⟩ := plain rfl
                exact absurd ⟨property, short, same, v, value, leading⟩ none
          · exact Ref.compact_shared key
        simp only [Runs, bind, ReaderT.bind, StateT.bind, Except.bind, read, pure, ReaderT.pure,
          StateT.pure, Except.pure]
        rw [alone]
        exact placed.1
      | false =>
        simp only [same, short, Bool.false_eq_true, if_false] at places ⊢
        rw [bind_assoc]
        refine (child_placed settled readable.1 fun c found => places c (by simp [found])).bind
          fun r t' first => ?_
        rw [bind_assoc]
        refine (child_placed first.1.grows.settled readable.2 fun c found =>
          places c (by simp [found])).bind fun r' t'' second => ?_
        rw [pure_bind]
        have placed := first.1.trans second.1
        refine Runs.pure ?_
        rwa [placed.compact_pair]
  | rest =>
    simp only [Slot.Readable, Slot.nodes, Slot.read, restNodes] at readable places ⊢
    have found : Runs s t (candidates (fieldValues o))
        (fun cs t' => cs = (fieldValues o).filterMap (fun v => (node? v).bind (candidate? s)) ∧
          t' = t) fun _ => False := by
      rw [Runs, candidates_ok orderly readable]
      exact ⟨rfl, rfl⟩
    refine found.bind ?_
    rintro _ t ⟨rfl, rfl⟩
    refine (Runs.mapM (I := fun done ids t' => Placed s t t' (done.map Candidate.node) ids)
      (fun c mem done ids t' placed => ?_) (.nil settled)).bind fun ids t' placed => .pure ?_
    · refine (places c.node (List.mem_map_of_mem mem) t' placed.grows.settled).imp
        fun id t'' next => ?_
      rw [List.map_append]
      exact placed.trans next.1
    · have present : (ids.map some).filterMap id = ids := by simp
      rw [Ref.compact_of_nodup (by rw [present]; exact placed.grows.nodup), present]
      exact placed

/-! ## Nodes -/

theorem mapM_read_placed (orderly : s.index.Orderly) {slots : List Slot}
    (settled : t.Settled fun span => span.file = s.file)
    (readable : ∀ slot ∈ slots, slot.Readable s o)
    (ranged : ∀ c ∈ slots.flatMap (Slot.nodes s o), (units? s.index c).isSome)
    (plain : .entry ∈ slots → Kind.ofType (typeOf o) = .property ∧ ¬ HasDefault o)
    (places : ∀ c ∈ slots.flatMap (Slot.nodes s o), Places s decode c) :
    Runs s t (slots.mapM (Slot.read decode o))
      (fun parts t' => parts.length = slots.length ∧
        Placed s t t' (slots.flatMap (Slot.nodes s o)) (Ref.compact parts.flatten))
      fun _ => False := by
  refine Runs.mapM
    (I := fun done parts t' => parts.length = done.length ∧
      Placed s t t' (done.flatMap (Slot.nodes s o)) (Ref.compact parts.flatten))
    (fun slot mem done parts t' ⟨same, placed⟩ => ?_) ⟨rfl, .nil settled⟩
  have inside : ∀ c ∈ slot.nodes s o, c ∈ slots.flatMap (Slot.nodes s o) := fun c found =>
    List.mem_flatMap.mpr ⟨slot, mem, found⟩
  refine (read_placed orderly placed.grows.settled (readable slot mem)
    (fun c found => ranged c (inside c found)) (fun eq => plain (eq ▸ mem))
    (fun c found => places c (inside c found))).imp fun refs t'' next => ?_
  have both := placed.trans next
  refine ⟨by simp [same], ?_⟩
  rw [List.flatMap_append, List.flatten_append, List.flatMap_singleton, List.flatten_singleton,
    Ref.compact_append both.grows.nodup]
  exact both

theorem before_pair (form : PairForm) : before form.kind = [.child "left"] := by
  cases form <;> rfl

/-- A well-nested node without defaults below it is put in place. -/
theorem nodeWithin_places (orderly : s.index.Orderly) {depth : Nat} (nested : WellNested s depth o)
    (plain : ∀ c, Below s c o → ¬ HasDefault c) : Places s (nodeWithin depth) o := by
  induction depth generalizing o with
  | zero => exact nested.elim
  | succ depth ih =>
    intro t settled
    obtain ⟨proper, readable, line, inner⟩ := nested
    obtain ⟨⟨r, range⟩, ranged⟩ := line.ranged
    have places : ∀ c ∈ children s o, Places s (nodeWithin depth) c := fun c mem =>
      ih (inner c mem) fun d below => plain d (.child mem below)
    rw [nodeWithin, nodeWith_eq, if_neg proper, plan]
    refine (mapM_read_placed orderly settled
      (fun slot mem => readable slot (List.mem_append_left _ mem))
      (fun c mem => ranged c (List.mem_append_left _ mem))
      (fun mem => ⟨entry_of_mem_before mem, plain o (.self o)⟩)
      (fun c mem => places c (List.mem_append_left _ mem))).bind fun parts t₁ first => ?_
    refine (span_at orderly range).bind ?_
    rintro _ _ ⟨rfl, rfl⟩
    refine (mapM_read_placed orderly first.2.grows.settled
      (fun slot mem => readable slot (List.mem_append_right _ mem))
      (fun c mem => ranged c (List.mem_append_right _ mem))
      (fun mem => absurd mem (entry_not_mem_after _))
      (fun c mem => places c (List.mem_append_right _ mem))).bind fun others t₂ second => ?_
    have placed := first.2.trans second.2
    rw [← Ref.compact_append placed.grows.nodup, ← List.flatten_append] at placed
    obtain ⟨names, shape, added, above⟩ :=
      close_ok (o := o) (Kind.ofType (typeOf o)) (spanAt s r) (parts ++ others) s t₂
    rw [Runs, added]
    have grows := (placed.grows.withNames names).add (s := spanAt s r) rfl above.compact_refs
      (placed.lined orderly line range)
    obtain ⟨n, found, -⟩ := grows.orphan _ (List.mem_singleton_self _)
    obtain ⟨-, span, same⟩ | ⟨old, found', -⟩ := Tree.node?_of_add found
    · refine ⟨⟨grows, ?_⟩, ?_⟩
      · rw [List.map_singleton, List.map_singleton, range, Option.map_some]
        exact congrArg (fun sp => [some sp]) ((Tree.span_of_node? found).trans span)
      · intro m form left right found' pair
        cases found.symm.trans found'
        obtain ⟨kind, split⟩ := above.pair (same.symm.trans pair)
        refine ⟨⟨form, kind⟩, ?_⟩
        rw [kind, before_pair] at first
        obtain ⟨refs, rfl⟩ := List.length_eq_one_iff.mp first.1
        cases (List.cons.inj split).1
        have length := first.2.length_eq
        cases field : nodeField? o "left" with
        | none => simp [Slot.nodes, field, Ref.compact_singleton] at length
        | some c => rfl
    · exact absurd (Tree.index_lt_size found') (Nat.lt_irrefl _)

/-! ## Documents -/

theorem comments_run (orderly : s.index.Orderly) {vs : List Json}
    (ranged : ∀ v ∈ vs, isRanged s.index v) :
    Runs s t (comments vs) (fun _ t' => t = t') fun _ => False := by
  induction vs generalizing t with
  | nil => exact .pure rfl
  | cons v vs ih =>
    have rest := fun w mem => ranged w (List.mem_cons_of_mem _ mem)
    unfold comments
    split
    · exact .pure rfl
    next c _ eq =>
      cases eq
      obtain ⟨r, range⟩ := Option.isSome_iff_exists.mp (ranged _ List.mem_cons_self)
      refine (span_at orderly range).bind ?_
      rintro _ _ ⟨rfl, rfl⟩
      exact (ih rest).bind fun spans t' same => .pure same
    next eq =>
      cases eq
      exact ih rest

/-- The program of a well-nested document without defaults makes a tree without defect. -/
theorem program_nested (orderly : s.index.Orderly)
    (settled : t.Settled fun span => span.file = s.file) (nested : NestedProgram s o)
    (plain : ∀ c ∈ listNodes o "body", ∀ d, Below s d c → ¬ HasDefault d) :
    Runs s t (program o) (fun _ t' => t'.defect? = none) fun _ => False := by
  unfold program
  refine (list_placed settled nested.readable fun c mem =>
    nodeWithin_places orderly (nested.below c mem) (plain c mem)).bind fun refs t₁ placed => ?_
  obtain ⟨⟨r, range⟩, -⟩ := nested.inLine.ranged
  have close : ∀ found : List Span, Runs s t₁
      (do
        let sp ← span o
        modify fun t => (t.addProgram sp ⟨refs, found⟩).1)
      (fun _ t' => t'.defect? = none) fun _ => False := by
    intro found
    refine (span_at orderly range).bind ?_
    rintro _ _ ⟨rfl, rfl⟩
    exact placed.grows.defect?_addProgram rfl rfl (placed.lined orderly nested.inLine range)
  split
  next vs found =>
    have comments := nested.comments
    rw [listValues_of_value? found] at comments
    refine (comments_run orderly comments).bind ?_
    rintro spans _ rfl
    exact close spans
  · exact close []

end

/-- A well-nested document is the document of a tree, unless a shorthand property in it has
a default. -/
theorem decode_of_nested {files : FileSet} {id : FileId} {f : File} {document : Text} {o : Fields}
    (found : files.get? id = some f) (short : f.content.length < UInt32.size)
    (read : Json.read document = .ok (.object o))
    (nested : NestedProgram ⟨id, .ofText f.content⟩ o)
    (plain : ∀ c ∈ listNodes o "body", ∀ d, Below ⟨id, .ofText f.content⟩ d c → ¬ HasDefault d) :
    ∃ t, decode files id document = .ok t := by
  have orderly := Utf16Index.ofText_orderly short
  have runs := program_nested orderly
    (Tree.settled_empty (fun span => span.file = id) id) nested plain
  cases built : program o ⟨id, .ofText f.content⟩ (Tree.empty id) with
  | error fault => exact (runs.of_error built).elim
  | ok result =>
    exact ⟨result.2, (decode_eq_ok found).mpr
      ⟨o, read, nested.type, built, runs.of_ok built⟩⟩

end TreeLint.Document
