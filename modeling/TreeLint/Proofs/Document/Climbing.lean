import TreeLint.Proofs.Document.InFile
import TreeLint.Proofs.Document.Layout
import TreeLint.Proofs.Script.Termination
import TreeLint.Proofs.Tree.Traversal

/-! # Trees while they are built

The decoder, like the parser of scripts, only ever puts a node above nodes that are in the tree
already: what it hands from one part to the next are the ids it was given when it added them, or
the left side of a pair that it has added (`shorthandKey_advances`).  So it goes on step by step
(`Advances`), whatever the document says and wherever it stops; and step by step a tree stays in
order.  No tree that is left, not even where a node was given two parents in turn, can make a
traversal go on for ever (`built_traversable`).
-/

namespace TreeLint

namespace Document

/-- From this tree the decoder goes on step by step, up to a value and a tree as described or up
to a fault. -/
def Advances {α : Type} (s : Setting) (t : Tree) (d : Decoder α) (Q : α → Tree → Prop) : Prop :=
  match d s t with
  | .ok (a, t') => t.Steps t' ∧ Q a t'
  | .error failure => t.Steps failure.tree

/-- A tree in order that has all nodes referred to. -/
structure Ready (t : Tree) (refs : List Ref) : Prop where
  climbing : t.Climbing
  present : ∀ id, some id ∈ refs → id.index < t.size

namespace Ready

variable {t t' : Tree} {refs refs' : List Ref}

theorem mono (h : Ready t refs) (sub : ∀ id, some id ∈ refs' → some id ∈ refs) :
    Ready t refs' :=
  ⟨h.climbing, fun id mem => h.present id (sub id mem)⟩

theorem steps (h : Ready t refs) (steps : t.Steps t') : Ready t' refs :=
  ⟨h.climbing.steps steps, fun id mem => Nat.lt_of_lt_of_le (h.present id mem) steps.size_le⟩

theorem snoc (h : Ready t refs) {r : Ref} (there : ∀ id, r = some id → id.index < t.size) :
    Ready t (refs ++ [r]) := by
  refine ⟨h.climbing, fun id mem => ?_⟩
  cases List.mem_append.mp mem with
  | inl known => exact h.present id known
  | inr new => exact there id (List.mem_singleton.mp new).symm

theorem hole (h : Ready t refs) : Ready t (refs ++ [none]) := h.snoc nofun

end Ready

namespace Advances

variable {α β : Type} {s : Setting} {t : Tree}

theorem pure {a : α} {Q : α → Tree → Prop} (h : Q a t) : Advances s t (Pure.pure a) Q :=
  ⟨.refl, h⟩

theorem fail {f : Fault} {Q : α → Tree → Prop} : Advances s t (Document.fail f) Q :=
  Relation.ReflTransGen.refl

theorem bind {d : Decoder α} {k : α → Decoder β} {Q : α → Tree → Prop} {R : β → Tree → Prop}
    (h : Advances s t d Q) (h' : ∀ a t', Q a t' → Advances s t' (k a) R) :
    Advances s t (d >>= k) R := by
  simp only [Advances, Bind.bind, ReaderT.bind, StateT.bind, Except.bind] at h ⊢
  cases first : d s t with
  | error e => simpa only [first] using h
  | ok out =>
    obtain ⟨a, t'⟩ := out
    simp only [first] at h
    have next := h' a t' h.2
    unfold Advances at next
    cases second : k a s t' with
    | error e =>
      simp only [second] at next ⊢
      exact h.1.trans next
    | ok out =>
      simp only [second] at next ⊢
      exact ⟨h.1.trans next.1, next.2⟩

/-- A list is decoded item by item, and each keeps what is known of the values and the tree. -/
theorem mapM {d : α → Decoder β} {I : List β → Tree → Prop}
    (h : ∀ x (ys : List β) (t : Tree), I ys t → Advances s t (d x) fun y t' => I (ys ++ [y]) t')
    (xs : List α) (start : I [] t) : Advances s t (xs.mapM d) I := by
  suffices step : ∀ (ys : List β) (t : Tree), I ys t →
      Advances s t (xs.mapM d) fun zs t' => I (ys ++ zs) t' from step [] t start
  induction xs with
  | nil =>
    intro ys t start
    rw [List.mapM_nil]
    exact pure (by rwa [List.append_nil])
  | cons x xs ih =>
    intro ys t start
    rw [List.mapM_cons]
    refine (h x ys t start).bind fun y t' next => (ih _ t' next).bind fun zs t'' last => pure ?_
    rwa [List.append_assoc] at last

end Advances

section

variable {s : Setting} {t : Tree} {o : Fields} {refs : List Ref}

/-! ## What adds no nodes -/

section

variable {Q : Tree → Prop} (start : Q t)

include start

theorem offset_advances (v : Json) : Advances s t (offset v) fun _ t' => Q t' := by
  unfold offset
  split
  · split
    · exact .fail
    · split
      · exact .fail
      · refine Advances.bind (Q := fun _ t' => Q t') ⟨.refl, start⟩ fun setting t' start => ?_
        simp only
        split
        · exact .pure start
        · exact .fail
  · exact .fail

theorem span_advances (o : Fields) : Advances s t (span o) fun _ t' => Q t' := by
  unfold span
  split
  next first last _ =>
    refine (offset_advances start first).bind fun _ t₁ start => ?_
    refine (offset_advances start last).bind fun _ t₂ start => ?_
    split
    · exact .fail
    · exact Advances.bind (Q := fun _ t' => Q t') ⟨.refl, start⟩ fun _ _ start => .pure start
  · exact .fail

theorem sameRange_advances (first second : Text) :
    Advances s t (sameRange o first second) fun _ t' => Q t' := by
  unfold sameRange
  split
  · split
    · split
      · exact .fail
      · exact .pure start
      · split
        · exact .fail
        · exact .pure start
    · exact .pure start
  · exact .pure start

theorem candidates_advance (vs : List Json) : Advances s t (candidates vs) fun _ t' => Q t' := by
  induction vs generalizing t with
  | nil => exact .pure start
  | cons v vs ih =>
    unfold candidates
    split
    next n _ =>
      refine (span_advances start n).bind fun _ t₁ start => ?_
      exact (ih start).bind fun _ _ start => .pure start
    · exact ih start

theorem comments_advance (vs : List Json) : Advances s t (comments vs) fun _ t' => Q t' := by
  induction vs generalizing t with
  | nil => exact .pure start
  | cons v vs ih =>
    unfold comments
    split
    · exact .pure start
    next eq =>
      cases eq
      refine (span_advances start _).bind fun _ t₁ start => ?_
      exact (ih start).bind fun _ _ start => .pure start
    next eq =>
      cases eq
      exact ih start

end

/-! ## Slots -/

/-- The key of a shorthand property is in the tree: it is the value or a child of that. -/
theorem shorthandKey_advances {value : Ref} (ready : Ready t (refs ++ [value])) :
    Advances s t (shorthandKey value) fun key t' => Ready t' (refs ++ [key, value]) := by
  obtain ⟨key, read, left | ⟨rfl, -⟩⟩ := shorthandKey_ok value s t
  · obtain ⟨n, form, right, found, pair⟩ := left
    obtain ⟨id, rfl, there⟩ := Option.bind_eq_some_iff.mp found
    rw [Advances, read]
    refine ⟨.refl, ready.climbing, fun x mem => ?_⟩
    simp only [List.mem_append, List.mem_cons, List.not_mem_nil, or_false] at mem
    obtain known | left | same := mem
    · exact ready.present x (by simp [known])
    · have child : x ∈ n.children := by
        rw [Node.children, pair]
        exact Ref.mem_compact.mpr (by simp [Shape.refs, left])
      exact Nat.lt_trans (ready.climbing.child there x child) (ready.present id (by simp))
    · exact ready.present x (by simp [same])
  · rw [Advances, read]
    exact ⟨.refl, ready.mono fun x mem => by simpa using mem⟩

section Slots

variable {decode : NodeDecoder}
  (decoded : ∀ c t refs, Ready t refs →
    Advances s t (decode c) fun id t' => Ready t' (refs ++ [some id]))

include decoded

theorem child_advances (ready : Ready t refs) (key : Text) :
    Advances s t (child decode o key) fun r t' => Ready t' (refs ++ [r]) := by
  unfold child
  split
  · exact .pure ready.hole
  · exact .pure ready.hole
  · split
    next n _ => exact (decoded n t refs ready).bind fun _ _ ready => .pure ready
    · exact .fail

theorem items_advance (ready : Ready t refs) {key : Text} {vs : List Json} (i : Nat) :
    Advances s t (items decode o key i vs) fun more t' => Ready t' (refs ++ more) := by
  induction vs generalizing t refs i with
  | nil => exact .pure (by simpa using ready)
  | cons v vs ih =>
    have item : Advances s t (item decode o key i v) fun r t' => Ready t' (refs ++ [r]) := by
      unfold item
      split
      · exact .pure ready.hole
      · split
        next n _ => exact (decoded n t refs ready).bind fun _ _ ready => .pure ready
        · exact .fail
    refine item.bind fun r t' ready => (ih ready (i + 1)).bind fun more t'' ready => .pure ?_
    simpa using ready

theorem list_advances (ready : Ready t refs) (key : Text) :
    Advances s t (list decode o key) fun more t' => Ready t' (refs ++ more) := by
  unfold list
  split
  · exact items_advance decoded ready 0
  · exact .pure (by simpa using ready)

theorem typeField_advances (ready : Ready t refs) (key : Text) :
    Advances s t (typeField decode o key) fun r t' => Ready t' (refs ++ [r]) := by
  unfold typeField
  split
  · exact .pure ready.hole
  next n _ =>
    split
    · exact child_advances decoded ready _
    · exact (decoded n t refs ready).bind fun _ _ ready => .pure ready

theorem typeArguments_advance (ready : Ready t refs) :
    Advances s t (typeArguments decode o) fun more t' => Ready t' (refs ++ more) := by
  unfold typeArguments
  split
  · exact list_advances decoded ready _
  · split
    · exact list_advances decoded ready _
    · exact .pure (by simpa using ready)

theorem secondName_advances {localName : Ref} (ready : Ready t (refs ++ [localName])) (key : Text) :
    Advances s t (secondName decode o key localName)
      fun r t' => Ready t' (refs ++ [localName, r]) := by
  refine (sameRange_advances (Q := fun t => Ready t (refs ++ [localName])) ready key "local").bind
    fun same t' ready => ?_
  split
  · exact .pure (ready.mono fun x mem => by simpa using mem)
  · have child := child_advances (o := o) decoded ready key
    simpa using child

theorem keyAndValue_advance (ready : Ready t refs) :
    Advances s t (keyAndValue decode o) fun kv t' => Ready t' (refs ++ [kv.1, kv.2]) := by
  refine (sameRange_advances (Q := fun t => Ready t refs) ready "key" "value").bind
    fun same t' ready => ?_
  split
  · refine (child_advances decoded ready "key").bind fun key t'' ready => .pure ?_
    exact ready.mono fun x mem => by simpa using mem
  split
  · refine (child_advances decoded ready "value").bind fun value t'' ready => ?_
    exact (shorthandKey_advances ready).bind fun key _ ready => .pure ready
  · refine (child_advances decoded ready "key").bind fun key t'' ready => ?_
    refine (child_advances decoded ready "value").bind fun value _ ready => .pure ?_
    simpa using ready

theorem read_advances (ready : Ready t refs) (slot : Slot) :
    Advances s t (slot.read decode o) fun more t' => Ready t' (refs ++ more) := by
  cases slot with
  | child key => exact (child_advances decoded ready key).bind fun _ _ ready => .pure ready
  | list key => exact list_advances decoded ready key
  | type key => exact (typeField_advances decoded ready key).bind fun _ _ ready => .pure ready
  | typeArguments => exact typeArguments_advance decoded ready
  | imported =>
    refine (child_advances decoded ready "local").bind fun localName t' ready => ?_
    refine (secondName_advances decoded ready _).bind fun imported t'' ready => .pure ?_
    exact ready.mono fun x mem => by simpa [or_comm] using mem
  | exported =>
    refine (child_advances decoded ready "local").bind fun localName t' ready => ?_
    exact (secondName_advances decoded ready _).bind fun exported t'' ready => .pure ready
  | entry => exact (keyAndValue_advance decoded ready).bind fun _ _ ready => .pure ready
  | rest =>
    refine (candidates_advance (Q := fun t => Ready t refs) ready _).bind fun found t' ready => ?_
    have children := Advances.mapM (s := s) (I := fun ids t => Ready t (refs ++ ids.map some))
      (fun (c : Candidate) ids t ready => by simpa using decoded c.node t _ ready)
      (apart none (found.mergeSort Candidate.before)) (by simpa using ready)
    exact children.bind fun ids t'' ready => .pure ready

/-! ## Nodes -/

theorem mapM_read_advances (ready : Ready t refs) (slots : List Slot) :
    Advances s t (slots.mapM (Slot.read decode o))
      fun parts t' => Ready t' (refs ++ parts.flatten) := by
  refine Advances.mapM (I := fun parts t => Ready t (refs ++ parts.flatten))
    (fun slot parts t ready => ?_) slots (by simpa using ready)
  simpa using read_advances decoded ready slot

end Slots

/-- A node is put above what was found in its slots. -/
theorem close_advances (k : Kind) (sp : Span) {parts : List (List Ref)}
    (ready : Ready t (refs ++ parts.flatten)) :
    Advances s t (close o k sp parts) fun id t' => Ready t' (refs ++ [some id]) := by
  have add : ∀ (shape : Shape) {t : Tree}, Ready t (refs ++ parts.flatten) →
      Ref.compact shape.refs = Ref.compact parts.flatten →
      t.Step (t.add sp shape).1 ∧ Ready (t.add sp shape).1 (refs ++ [some ⟨t.size⟩]) := by
    intro shape t ready children
    have step : t.Step (t.add sp shape).1 := by
      refine .node fun c mem => ready.present c (List.mem_append_right _ ?_)
      exact Ref.mem_compact.mp (children ▸ mem)
    refine ⟨step, ((ready.mono ?_).steps (.single step)).snoc ?_⟩
    · intro id mem
      exact List.mem_append_left _ mem
    · rintro _ ⟨⟩
      simp
  unfold close
  split
  next ofType =>
    have name : t.Step { t with names := (t.names.intern (text o "name")).1 } := .name _
    let shape : Shape :=
      .identifier ⟨(t.names.intern (text o "name")).2, ofType, flag o "optional"⟩
    obtain ⟨step, added⟩ := add shape (ready.steps (.single name)) rfl
    exact ⟨.tail (.single name) step, added⟩
  next =>
    obtain ⟨step, added⟩ := add _ ready (shapeOf_above (o := o) k).compact_refs
    exact ⟨.single step, added⟩

theorem nodeWithin_advances (depth : Nat) (c : Fields) (t : Tree) (refs : List Ref)
    (ready : Ready t refs) :
    Advances s t (nodeWithin depth c) fun id t' => Ready t' (refs ++ [some id]) := by
  induction depth generalizing c t refs with
  | zero => exact .fail
  | succ depth ih =>
    rw [nodeWithin, nodeWith_eq]
    split
    · exact .fail
    · refine (mapM_read_advances ih ready _).bind fun parts t₁ ready => ?_
      refine (span_advances (Q := fun t => Ready t (refs ++ parts.flatten)) ready c).bind
        fun sp t₂ ready => ?_
      refine (mapM_read_advances ih ready _).bind fun others t₃ ready => ?_
      exact close_advances _ sp (by simpa using ready)

/-- The program comes last and is made the root. -/
theorem program_advances (climbing : t.Climbing) (o : Fields) :
    Advances s t (program o) fun _ t' => t'.Climbing := by
  have none : Ready t [] := ⟨climbing, nofun⟩
  unfold program
  refine (list_advances (nodeWithin_advances maxDepth) none _).bind fun body t₁ ready => ?_
  have close : ∀ (found : List Span) (t : Tree), Ready t body → Advances s t
      (do
        let sp ← span o
        modify fun t => (t.addProgram sp ⟨body, found⟩).1)
      fun _ t' => t'.Climbing := by
    intro found t ready
    refine (span_advances (Q := fun t => Ready t body) ready o).bind fun sp t ready => ?_
    have step : t.Step (t.add sp (.program ⟨body, found⟩)).1 :=
      .node fun c mem => ready.present c (Ref.mem_compact.mp mem)
    have steps : t.Steps (t.addProgram sp ⟨body, found⟩).1 := .tail (.single step) (.root _)
    exact ⟨steps, ready.climbing.steps steps⟩
  split
  next vs _ => exact (comments_advance (Q := fun t => Ready t body) ready vs).bind close
  · exact close [] t₁ ready

end

/-- The tree that the decoder leaves, when it comes to a value or stops at a fault. -/
def left {α : Type} : Except Failure (α × Tree) → Tree
  | .ok (_, t) => t
  | .error failure => failure.tree

theorem Advances.steps_left {α : Type} {s : Setting} {t : Tree} {d : Decoder α}
    {Q : α → Tree → Prop} (h : Advances s t d Q) : t.Steps (left (d s t)) := by
  unfold Advances at h
  cases out : d s t with
  | ok result =>
    simp only [out] at h
    exact h.1
  | error failure =>
    simp only [out] at h
    exact h

theorem steps_of_decode {files : FileSet} {id : FileId} {document : Text} {t : Tree}
    (h : decode files id document = .ok t) : (Tree.empty id).Steps t := by
  cases found : files.get? id with
  | none => simp [decode, found] at h
  | some f =>
    obtain ⟨o, -, -, built, -⟩ := (decode_eq_ok found).mp h
    have steps := (program_advances (s := ⟨id, .ofText f.content⟩) (.empty id) o).steps_left
    rwa [built] at steps

end Document

namespace Script

/-- The tree that the parser leaves, when it comes to a value or stops at a problem. -/
def left {α : Type} : Except GrammarError (α × Cursor) → Tree
  | .ok (_, c) => c.tree
  | .error e => e.tree

theorem Runs.steps_left {α : Type} {P : Cursor → Prop} {p : Parser α} {Q : α → Cursor → Prop}
    (h : Runs P p Q) {c : Cursor} (start : P c) : c.tree.Steps (left (p c)) := by
  have run := h c start
  cases out : p c with
  | ok result =>
    simp only [out] at run
    exact run.1
  | error e =>
    simp only [out] at run
    exact run.1

/-- The tree there is when a text turns out not to be a script.  Until it has been cut into
tokens there is none. -/
def Error.tree? : Error → Option Tree
  | .lexical _ => none
  | .grammar e => some e.tree
  | .malformed t _ => some t

end Script

/-- Whatever is parsed or decoded, and wherever that stops, it goes on step by step from the empty
tree, and so from each place of its recursion.  In every tree on the way children come before
their parents, so all traversals end, from all nodes.  No source is longer than offsets go. -/
theorem built_traversable (file : FileId) :
    (∀ t, (Tree.empty file).Steps t → t.Climbing ∧ t.Traversable) ∧
    (∀ source : Text, source.length < UInt32.size →
      (∀ t, Script.parseSource file source = .ok t → (Tree.empty file).Steps t) ∧
      ∀ e, Script.parseSource file source = .error e → ∀ t ∈ e.tree?, (Tree.empty file).Steps t) ∧
    (∀ s n c, Script.Stands s n c → ∀ place,
      c.tree.Steps (Script.left ((Script.Grammar.ofDepth n).enter place c))) ∧
    (∀ files document t, Document.decode files file document = .ok t →
      (Tree.empty file).Steps t) ∧
    ∀ (s : Document.Setting) (o : Document.Fields),
      (Tree.empty file).Steps (Document.left (Document.program o s (Tree.empty file))) ∧
      ∀ depth (t : Tree), t.Climbing → t.Steps (Document.left (Document.nodeWithin depth o s t)) := by
  refine ⟨fun t steps => ?_, fun source short => ?_, fun s n c stands place => ?_,
    fun files document t decoded => ?_, fun s o => ⟨?_, fun depth t climbing => ?_⟩⟩
  · have climbing := (Tree.Climbing.empty file).steps steps
    exact ⟨climbing, climbing.traversable⟩
  · obtain ⟨e, -, lexical⟩ | ⟨e, failed, steps, -⟩ | ⟨found, t, -, parsed, steps, -⟩ :=
      Script.parseSource_outcome file short
    · rw [lexical]
      exact ⟨nofun, by rintro _ ⟨⟩ t ⟨⟩⟩
    · rw [failed]
      refine ⟨nofun, ?_⟩
      rintro _ ⟨⟩ t ⟨⟩
      exact steps
    · rw [parsed]
      refine ⟨?_, nofun⟩
      rintro _ ⟨⟩
      exact steps
  · exact ((Script.Grammar.ofDepth_sound n).enter place c).steps_left ⟨rfl, stands⟩
  · exact Document.steps_of_decode decoded
  · exact (Document.program_advances (.empty file) o).steps_left
  · exact (Document.nodeWithin_advances depth o t [] ⟨climbing, nofun⟩).steps_left

/-- A call that is not closed leaves its callee and its argument.  A shorthand property with a
default makes a tree in which the key is the child of two nodes, which is never accepted. -/
theorem built_traversable_torn :
    let key : Document.Fields :=
      [("type", .string "Identifier"), ("range", .array [.number "0", .number "1"])]
    let value : Document.Fields :=
      [("type", .string "AssignmentPattern"), ("range", .array [.number "0", .number "3"]),
        ("left", .object key)]
    let property : Document.Fields :=
      [("type", .string "Property"), ("range", .array [.number "0", .number "3"]),
        ("shorthand", .bool true), ("value", .object value)]
    let o : Document.Fields :=
      [("type", .string "Program"), ("range", .array [.number "0", .number "3"]),
        ("body", .array [.object property])]
    let s : Document.Setting := ⟨0, .ofText "a=1"⟩
    let t := Document.left (Document.program o s (Tree.empty 0))
    (∃ e, Script.parseSource 0 "f(x" = .error (.grammar e) ∧ e.tree.size = 2 ∧
      e.tree.Climbing ∧ e.tree.Traversable) ∧
    t.defect? ≠ none ∧ t.Climbing ∧ t.Traversable := by
  intro key value property o s t
  obtain ⟨fine, parsed, -, -, decoded⟩ := built_traversable 0
  obtain ⟨e, failed, two⟩ : ∃ e, Script.parseSource 0 "f(x" = .error (.grammar e) ∧
      e.tree.size = 2 := by
    have left : (match Script.parseSource 0 "f(x" with
        | .error (.grammar e) => e.tree.size
        | _ => 0) = 2 := by decide +kernel
    split at left
    next e failed => exact ⟨e, failed, left⟩
    · contradiction
  have steps := (parsed "f(x" (by decide)).2 _ failed e.tree rfl
  have torn : t.defect? ≠ none := by decide +kernel
  exact ⟨⟨e, failed, two, fine _ steps⟩, torn, fine t (decoded s o).1⟩

end TreeLint
