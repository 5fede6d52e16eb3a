import TreeLint.Proofs.Document.Building

/-! # Nodes within the source

Whatever a document says, the nodes of its tree lie within the source: the offsets of a range
have to be offsets of the source, and a range that is inverted is refused.  So the decoder
keeps it true of all nodes added so far that they are sturdy (`nodeWithin_keeps`).  What it
lets through are holes in lists, one for each null in the document; a document that has
no null among the properties of an object makes no such hole (`decode_sturdy`).
-/

namespace TreeLint

/-- A span of a file that is not inverted and lies within so many bytes. -/
structure Span.Within (s : Span) (file : FileId) (size : Nat) : Prop where
  own : s.file = file
  upright : s.start ≤ s.stop
  inside : s.stop.toNat ≤ size

/-- What rules rely on at a node: it lies within the source, and an object literal has no
hole among its properties. -/
structure Sturdy (file : FileId) (size : Nat) (span : Span) (shape : Shape) : Prop where
  within : span.Within file size
  full : ∀ items, shape = .list .object items → none ∉ items

namespace Tree

/-- The span and the shape of every node have the property. -/
def Every (P : Span → Shape → Prop) (t : Tree) : Prop :=
  ∀ id n, t.node? id = some n → P n.span n.shape

variable {P : Span → Shape → Prop} {t : Tree}

theorem every_empty (file : FileId) : (Tree.empty file).Every P := by
  intro id n found
  contradiction

theorem Every.of_nodes (h : t.Every P) {u : Tree} (same : u.nodes = t.nodes) : u.Every P := by
  intro id n found
  rw [node?, same] at found
  exact h id n found

theorem Every.add (h : t.Every P) {span : Span} {shape : Shape} (new : P span shape) :
    (t.add span shape).1.Every P := by
  intro id n found
  obtain ⟨-, span, shape⟩ | ⟨old, found, span, shape, -⟩ := node?_of_add found
  · rwa [span, shape]
  · rw [span, shape]
    exact h id old found

end Tree

namespace Document

theorem Runs.any {α : Type} {s : Setting} {t : Tree} (d : Decoder α) :
    Runs s t d (fun _ _ => True) fun _ => True := by
  unfold Runs
  split <;> trivial

/-- Decoding goes on from trees with a property to trees with it. -/
def Keeps {α : Type} (s : Setting) (I : Tree → Prop) (d : Decoder α) : Prop :=
  ∀ t, I t → Runs s t d (fun _ t' => I t') fun _ => True

namespace Keeps

variable {α β : Type} {s : Setting} {I : Tree → Prop}

theorem pure {a : α} : Keeps s I (Pure.pure a) := fun _ h => h

theorem fail {f : Fault} : Keeps s I (Document.fail f : Decoder α) := fun _ _ => trivial

theorem bind {d : Decoder α} {k : α → Decoder β} (h : Keeps s I d) (h' : ∀ a, Keeps s I (k a)) :
    Keeps s I (d >>= k) :=
  fun t start => (h t start).bind fun a t' kept => h' a t' kept

/-- What leaves the tree as it is keeps everything. -/
theorem of_same {d : Decoder α} {Q : α → Prop} {E : Fault → Prop}
    (h : ∀ t, Runs s t d (fun a t' => t = t' ∧ Q a) E) : Keeps s I d :=
  fun t start => (h t).mono (fun _ _ same => same.1 ▸ start) fun _ _ => trivial

theorem mapM {d : α → Decoder β} {xs : List α} (h : ∀ x ∈ xs, Keeps s I (d x)) :
    Keeps s I (xs.mapM d) :=
  fun _ start => Runs.mapM (I := fun _ _ t => I t) (fun x mem _ _ t kept => h x mem t kept) start

end Keeps

/-! ## Ranges -/

section

variable {s : Setting} {t : Tree} {o : Fields} {size : Nat}

theorem offset_within (bound : ∀ {unit b}, s.index.byteOffset? unit = some b → b ≤ size)
    (v : Json) :
    Runs s t (offset v) (fun b t' => t = t' ∧ b.toNat ≤ size) fun _ => True := by
  unfold offset
  split
  · split
    · exact .fail trivial
    · split
      · exact .fail trivial
      · refine Runs.bind (Q := fun setting t' => s = setting ∧ t = t') ⟨rfl, rfl⟩ ?_
        rintro _ _ ⟨rfl, rfl⟩
        simp only
        split
        next b found =>
          refine .pure ⟨rfl, Nat.le_trans ?_ (bound found)⟩
          rw [Nat.toUInt32_eq, UInt32.toNat_ofNat']
          exact Nat.mod_le _ _
        · exact .fail trivial
  · exact .fail trivial

theorem span_within (bound : ∀ {unit b}, s.index.byteOffset? unit = some b → b ≤ size) :
    Runs s t (span o) (fun sp t' => t = t' ∧ sp.Within s.file size) fun _ => True := by
  unfold span
  split
  next first last _ =>
    refine (offset_within bound first).bind ?_
    rintro start _ ⟨rfl, -⟩
    refine (offset_within bound last).bind ?_
    rintro stop _ ⟨rfl, inside⟩
    split
    · exact .fail trivial
    next upright =>
      refine Runs.bind (Q := fun setting t' => s = setting ∧ t = t') ⟨rfl, rfl⟩ ?_
      rintro _ _ ⟨rfl, rfl⟩
      exact .pure ⟨rfl, rfl, UInt32.not_lt.mp upright, inside⟩
  · exact .fail trivial

/-! ## Slots -/

section Slots

variable {I : Tree → Prop} {decode : NodeDecoder}
  (decoded : ∀ c, Inside c o → Keeps s I (decode c))

include decoded

theorem child_keeps (key : Text) : Keeps s I (child decode o key) := by
  unfold child
  split
  · exact .pure
  · exact .pure
  next v _ found =>
    split
    next n node =>
      have field : nodeField? o key = some n := by simp [nodeField?, found, node]
      exact (decoded n (inside_of_field field)).bind fun _ => .pure
    · exact .fail

theorem items_keep {n : Fields} {key : Text} {vs : List Json} (i : Nat)
    (inside : ∀ v ∈ vs, ∀ c, node? v = some c → Inside c o) :
    Keeps s I (items decode n key i vs) := by
  induction vs generalizing i with
  | nil => exact .pure
  | cons v vs ih =>
    have item : Keeps s I (item decode n key i v) := by
      unfold item
      split
      · exact .pure
      · split
        next c node => exact (decoded c (inside v List.mem_cons_self c node)).bind fun _ => .pure
        · exact .fail
    exact item.bind fun _ =>
      (ih (i + 1) fun v mem => inside v (List.mem_cons_of_mem _ mem)).bind fun _ => .pure

theorem list_keeps {n : Fields} (key : Text) (inside : Inside n o) :
    Keeps s I (list decode n key) := by
  unfold list
  split
  next vs found =>
    refine items_keep decoded 0 fun v mem c node => ?_
    exact (inside_of_item (mem_of_value? found) mem node).trans inside
  · exact .pure

theorem typeField_keeps (key : Text) : Keeps s I (typeField decode o key) := by
  unfold typeField
  split
  · exact .pure
  next n field =>
    have inside := inside_of_field field
    split
    · exact child_keeps (fun c within => decoded c (within.trans inside)) _
    · exact (decoded n inside).bind fun _ => .pure

theorem secondName_keeps (key : Text) (localName : Ref) :
    Keeps s I (secondName decode o key localName) := by
  refine (Keeps.of_same fun t => sameRange_runs o key "local").bind fun same => ?_
  cases same with
  | true => exact .pure
  | false => exact child_keeps decoded _

theorem keyAndValue_keeps : Keeps s I (keyAndValue decode o) := by
  refine (Keeps.of_same fun t => sameRange_runs o "key" "value").bind fun same => ?_
  split
  · exact (child_keeps decoded _).bind fun _ => .pure
  split
  · refine (child_keeps decoded _).bind fun value => Keeps.bind ?_ fun _ => .pure
    intro t start
    obtain ⟨key, read, -⟩ := shorthandKey_ok value s t
    rwa [Runs, read]
  · exact (child_keeps decoded _).bind fun _ => (child_keeps decoded _).bind fun _ => .pure

theorem read_keeps (slot : Slot) : Keeps s I (slot.read decode o) := by
  cases slot with
  | child key => exact (child_keeps decoded key).bind fun _ => .pure
  | list key => exact list_keeps decoded key (.self _)
  | type key => exact (typeField_keeps decoded key).bind fun _ => .pure
  | typeArguments =>
    simp only [Slot.read, typeArguments]
    split
    next n field => exact list_keeps decoded _ (inside_of_field field)
    · split
      next n field => exact list_keeps decoded _ (inside_of_field field)
      · exact .pure
  | imported | exported =>
    exact (child_keeps decoded _).bind fun localName =>
      (secondName_keeps decoded _ localName).bind fun _ => .pure
  | entry => exact (keyAndValue_keeps decoded).bind fun _ => .pure
  | rest =>
    intro t start
    refine ((candidates_runs (fieldValues o)).mono (fun _ _ => id) fun _ _ => trivial).bind ?_
    rintro found _ ⟨rfl, among⟩
    have children : Keeps s I ((apart none (found.mergeSort Candidate.before)).mapM fun c =>
        decode c.node) := by
      refine .mapM fun c mem => ?_
      obtain ⟨v, value, node⟩ := among c (List.mem_mergeSort.mp ((apart_sublist _ _).subset mem))
      exact decoded c.node (inside_of_fieldValues value node)
    exact children.bind (fun _ => .pure) t start

end Slots

/-! ## Objects -/

section Objects

variable {decode : NodeDecoder}

/-- Only a null makes a hole. -/
theorem items_full {key : Text} {vs : List Json} (i : Nat) (full : .null ∉ vs) :
    Runs s t (items decode o key i vs) (fun refs _ => none ∉ refs) fun _ => True := by
  induction vs generalizing i t with
  | nil => exact .pure List.not_mem_nil
  | cons v vs ih =>
    have item : Runs s t (item decode o key i v) (fun r _ => r ≠ none) fun _ => True := by
      unfold item
      split
      · exact absurd List.mem_cons_self full
      · split
        · exact (Runs.any _).bind fun _ _ _ => .pure nofun
        · exact .fail trivial
    refine item.bind fun r t' present => ?_
    refine (ih (i + 1) fun mem => full (List.mem_cons_of_mem _ mem)).bind fun refs t'' later => ?_
    refine .pure fun mem => ?_
    obtain hole | mem := List.mem_cons.mp mem
    · exact present hole.symm
    · exact later mem

theorem list_full {key : Text} (full : .null ∉ listValues o key) :
    Runs s t (list decode o key) (fun refs _ => none ∉ refs) fun _ => True := by
  unfold list
  split
  next vs found => exact items_full 0 (listValues_of_value? found ▸ full)
  · exact .pure List.not_mem_nil

end Objects

/-! ## Nodes -/

/-- A node has the shape of the kind it is decoded as, or that of a node without a kind. -/
theorem shapeOf_kind (k : Kind) (parts : List (List Ref)) :
    (shapeOf o k parts).kind = k ∨ (shapeOf o k parts).kind = .other := by
  cases k <;>
  · simp only [shapeOf, listShape, shape₁, shape₂, shape₃, namesShape, headShape, importShape,
      exportShape, classShape, functionShape, interfaceShape, leafShape, otherShape]
    first
    | exact .inl rfl
    | exact .inr rfl
    | (split; exacts [.inl rfl, .inr rfl])

/-- A node is added with a shape of its kind. -/
theorem close_kind (k : Kind) (sp : Span) (parts : List (List Ref)) :
    ∃ names shape, close o k sp parts s t
        = .ok (⟨t.size⟩, (({ t with names } : Tree).add sp shape).1) ∧
      (shape.kind = k ∨ shape.kind = .other) := by
  unfold close
  split
  next ofType =>
    exact ⟨(t.names.intern (text o "name")).1,
      .identifier ⟨(t.names.intern (text o "name")).2, ofType, flag o "optional"⟩, rfl, .inl rfl⟩
  next => exact ⟨t.names, shapeOf o k parts, rfl, shapeOf_kind k parts⟩

/-- The object literals inside a node have no null among their properties. -/
def Full (o : Fields) : Prop :=
  ∀ c, Inside c o → Kind.ofType (typeOf c) = .objectExpression → .null ∉ listValues c "properties"

/-- Looks at each object literal inside a node for a null among its properties. -/
def full (o : Fields) : Bool :=
  (Json.object o).objects.all fun c => Kind.ofType (typeOf c) != .objectExpression ||
    (listValues c "properties").all fun v => sameEntry? .null v != some true

theorem full_of_eq_true {o : Fields} (h : full o = true) : Full o := by
  intro c inside object null
  have fine := List.all_eq_true.mp h c (inside.objects List.mem_cons_self)
  rw [object, bne_self_eq_false, Bool.false_or] at fine
  exact absurd (List.all_eq_true.mp fine _ null) (by decide)

/-- What the decoder keeps: the nodes of the file are sturdy. -/
abbrev Firm (s : Setting) (size : Nat) (t : Tree) : Prop := t.Every (Sturdy s.file size)

section Nodes

variable (bound : ∀ {unit b}, s.index.byteOffset? unit = some b → b ≤ size)

include bound

theorem plan_keeps {decode : NodeDecoder} {k : Kind} (other : k ≠ .objectExpression)
    (decoded : ∀ c, Inside c o → Keeps s (Firm s size) (decode c)) :
    Keeps s (Firm s size) (plan decode o k) := by
  refine (Keeps.mapM fun slot _ => read_keeps decoded slot).bind fun parts t₁ firm => ?_
  refine (span_within bound).bind ?_
  rintro sp _ ⟨rfl, within⟩
  refine (Keeps.mapM (fun slot _ => read_keeps decoded slot) t₁ firm).bind fun others t₂ firm => ?_
  obtain ⟨names, shape, added, kind⟩ := close_kind (o := o) (s := s) (t := t₂) k sp (parts ++ others)
  rw [Runs, added]
  refine Tree.Every.add (firm.of_nodes rfl) ⟨within, fun items object => ?_⟩
  rw [object] at kind
  cases kind with
  | inl own => exact absurd own.symm other
  | inr none => simp [Shape.kind, ListForm.kind] at none

theorem objectNode_keeps {decode : NodeDecoder} (full : .null ∉ listValues o "properties")
    (decoded : ∀ c, Inside c o → Keeps s (Firm s size) (decode c)) :
    Keeps s (Firm s size) (listNode decode .object o) := by
  intro t firm
  refine (span_within bound).bind ?_
  rintro sp _ ⟨rfl, within⟩
  have read := (list_keeps decoded "properties" (.self _) t firm).and (list_full full)
  refine (read.mono (fun _ _ => id) fun _ _ => trivial).bind fun refs t₁ ⟨firm, full⟩ => ?_
  refine Tree.Every.add firm ⟨within, ?_⟩
  rintro _ ⟨⟩
  exact full

theorem nodeWithin_keeps (depth : Nat) (full : Full o) :
    Keeps s (Firm s size) (nodeWithin depth o) := by
  induction depth generalizing o with
  | zero => exact .fail
  | succ depth ih =>
    have decoded : ∀ c, Inside c o → Keeps s (Firm s size) (nodeWithin depth c) :=
      fun c inside => ih fun d within => full d (within.trans inside)
    by_cases object : Kind.ofType (typeOf o) = .objectExpression
    · rw [nodeWithin, nodeWith, object]
      exact objectNode_keeps bound (full o (.self _) object) decoded
    · rw [nodeWithin, nodeWith_eq]
      split
      · exact .fail
      · exact plan_keeps bound object decoded

theorem program_keeps (full : Full o) : Keeps s (Firm s size) (program o) := by
  have decoded : ∀ c, Inside c o → Keeps s (Firm s size) (nodeWithin maxDepth c) :=
    fun c inside => nodeWithin_keeps bound maxDepth fun d within => full d (within.trans inside)
  unfold program
  refine (list_keeps decoded _ (.self _)).bind fun refs => ?_
  have close : ∀ found : List Span, Keeps s (Firm s size)
      (do
        let sp ← span o
        modify fun t => (t.addProgram sp ⟨refs, found⟩).1) := by
    intro found t firm
    refine (span_within bound).bind ?_
    rintro sp _ ⟨rfl, within⟩
    have sturdy : Sturdy s.file size sp (.program ⟨refs, found⟩) := ⟨within, nofun⟩
    exact (firm.add sturdy).of_nodes rfl
  split
  next vs _ =>
    exact (Keeps.of_same fun t => (comments_runs vs).imp fun _ _ same => ⟨same, trivial⟩).bind close
  · exact close []

end Nodes
end

/-- The nodes of an accepted tree lie within the source.  If no object literal in the document
has a null among its properties, then none in the tree has a hole. -/
theorem decode_sturdy {files : FileSet} {id : FileId} {f : File} {document : Text} {t : Tree}
    (found : files.get? id = some f) (h : decode files id document = .ok t)
    (full : ∀ o, Json.read document = .ok (.object o) → Full o) :
    t.Every (Sturdy id f.content.length) := by
  obtain ⟨o, read, -, built, -⟩ := (decode_eq_ok found).mp h
  have kept := program_keeps (s := ⟨id, .ofText f.content⟩) Utf16Index.byteOffset?_le (full o read)
    (Tree.empty id) (Tree.every_empty id)
  exact kept.of_ok built

end Document
end TreeLint
