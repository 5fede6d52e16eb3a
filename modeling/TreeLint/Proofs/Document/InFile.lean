import TreeLint.Document.Decode
import TreeLint.Proofs.Tree.InFile

/-! # Decoding into another file

A document says nothing about the number of the file that it describes.  What is decoded
for one file is therefore the tree of any other file with that content, once it has been
moved there (`decode_inFile`).

The argument goes through the decoder function by function.  `Carries` says of two runs
of a decoder, for two files, that what the first one gives and the tree it has built are
those of the second one after the move; it is kept by sequencing (`Carries.bind`).  Moved
to the file it is in already, a decoded tree stays what it is, so all its spans are spans
of that file.
-/

namespace TreeLint.Document

section

variable {index : Utf16Index} {here there : FileId}

/-- Whatever a decoder gives for the file `here`, another one gives for the file `there`,
both the value and the tree moved. -/
def Carries (index : Utf16Index) (here there : FileId) {α β : Type} (move : α → β)
    (d : Decoder α) (d' : Decoder β) : Prop :=
  ∀ t x t', d ⟨here, index⟩ t = .ok (x, t') →
    d' ⟨there, index⟩ (t.inFile there) = .ok (move x, t'.inFile there)

/-- A decoder that gives the same value for both files. -/
abbrev Steady (index : Utf16Index) (here there : FileId) {α : Type} (d : Decoder α) : Prop :=
  Carries index here there id d d

namespace Carries

variable {α β γ δ : Type}

theorem pure (move : α → β) (x : α) :
    Carries index here there move (Pure.pure x) (Pure.pure (move x)) := by
  intro t y t' h
  cases h
  rfl

theorem fail (move : α → β) (fault : Fault) (d' : Decoder β) :
    Carries index here there move (Document.fail fault) d' := by
  intro t x t' h
  contradiction

theorem bind {move : α → β} {move' : γ → δ} {d : Decoder α} {d' : Decoder β}
    {k : α → Decoder γ} {k' : β → Decoder δ} (hd : Carries index here there move d d')
    (hk : ∀ x, Carries index here there move' (k x) (k' (move x))) :
    Carries index here there move' (d >>= k) (d' >>= k') := by
  intro t y t' h
  simp only [Bind.bind, ReaderT.bind, StateT.bind, Except.bind] at h ⊢
  split at h
  · contradiction
  next first done =>
    rw [hd t first.1 first.2 done]
    exact hk first.1 first.2 y t' h

theorem fail_bind (move : β → γ) (fault : Fault) (k : α → Decoder β) (d' : Decoder γ) :
    Carries index here there move (Document.fail fault >>= k) d' := by
  intro t x t' h
  contradiction

theorem read :
    Carries index here there (fun s => { s with file := there })
      (MonadReader.read : Decoder Setting) MonadReader.read := by
  intro t x t' h
  cases h
  rfl

end Carries

/-! ## Ranges -/

theorem offset_steady (v : Json) : Steady index here there (offset v) := by
  unfold offset
  split
  · split
    · exact .fail _ _ _
    · split
      · exact .fail _ _ _
      · refine Carries.read.bind fun setting => ?_
        simp only
        split
        · exact .pure id _
        · exact .fail _ _ _
  · exact .fail _ _ _

theorem span_carries (o : Fields) :
    Carries index here there (Span.inFile there) (span o) (span o) := by
  unfold span
  split
  · refine (offset_steady _).bind fun start => (offset_steady _).bind fun stop => ?_
    simp only [id]
    split
    · exact .fail_bind _ _ _ _
    · exact Carries.read.bind fun setting => .pure (Span.inFile there) ⟨setting.file, start, stop⟩
  · exact .fail _ _ _

theorem sameRange_steady (o : Fields) (first second : Text) :
    Steady index here there (sameRange o first second) := by
  unfold sameRange
  split
  · split
    · split
      · exact .fail _ _ _
      · exact .pure id _
      · split
        · exact .fail _ _ _
        · exact .pure id _
    · exact .pure id _
  · exact .pure id _

/-! ## Children -/

section Children

variable {decode : NodeDecoder} (steady : ∀ o, Steady index here there (decode o))

include steady

theorem child_steady (o : Fields) (key : Text) : Steady index here there (child decode o key) := by
  unfold child
  split
  · exact .pure id _
  · exact .pure id _
  · split
    next n _ => exact (steady n).bind fun id => .pure _ _
    · exact .fail _ _ _

theorem item_steady (o : Fields) (key : Text) (i : Nat) (v : Json) :
    Steady index here there (item decode o key i v) := by
  unfold item
  split
  · exact .pure id _
  · split
    next n _ => exact (steady n).bind fun id => .pure _ _
    · exact .fail _ _ _

theorem items_steady (o : Fields) (key : Text) (i : Nat) (vs : List Json) :
    Steady index here there (items decode o key i vs) := by
  induction vs generalizing i with
  | nil => exact .pure id _
  | cons v vs ih =>
    exact (item_steady steady o key i v).bind fun item => (ih (i + 1)).bind fun rest => .pure id _

theorem list_steady (o : Fields) (key : Text) : Steady index here there (list decode o key) := by
  unfold list
  split
  · exact items_steady steady o key 0 _
  · exact .pure id _

theorem typeField_steady (o : Fields) (key : Text) :
    Steady index here there (typeField decode o key) := by
  unfold typeField
  split
  · exact .pure id _
  · split
    · exact child_steady steady _ _
    next n _ _ => exact (steady n).bind fun id => .pure _ _

theorem typeArguments_steady (o : Fields) : Steady index here there (typeArguments decode o) := by
  unfold typeArguments
  split
  · exact list_steady steady _ _
  · split
    · exact list_steady steady _ _
    · exact .pure id _

end Children

/-! ## Nodes -/

end

theorem adopt_inFile (file : FileId) (parent : NodeId) (nodes : Array Node) (child : Ref) :
    Tree.adopt parent (nodes.map (Node.inFile file)) child
      = (Tree.adopt parent nodes child).map (Node.inFile file) := by
  cases child with
  | none => rfl
  | some id =>
    apply Array.ext
    · simp [Tree.adopt]
    · intro i hi hi'
      simp only [Tree.adopt, Array.getElem_modify, Array.getElem_map]
      split <;> rfl

theorem foldl_adopt_inFile (file : FileId) (parent : NodeId) (children : List Ref)
    (nodes : Array Node) :
    children.foldl (Tree.adopt parent) (nodes.map (Node.inFile file))
      = (children.foldl (Tree.adopt parent) nodes).map (Node.inFile file) := by
  induction children generalizing nodes with
  | nil => rfl
  | cons child children ih => rw [List.foldl_cons, List.foldl_cons, adopt_inFile, ih]

theorem add_inFile (file : FileId) (t : Tree) (s : Span) (shape : Shape) :
    (t.inFile file).add (s.inFile file) (shape.inFile file)
      = ((t.add s shape).1.inFile file, (t.add s shape).2) := by
  have node : (⟨s.inFile file, none, shape.inFile file⟩ : Node)
      = Node.inFile file ⟨s, none, shape⟩ := rfl
  simp only [Tree.add, Tree.inFile, Array.size_map, node, Shape.adopted_inFile, ← Array.map_push,
    foldl_adopt_inFile]

section

variable {index : Utf16Index} {here there : FileId}

theorem add_carries (s : Span) (shape : Shape) :
    Carries index here there id (add s shape) (add (s.inFile there) (shape.inFile there)) := by
  intro t id t' h
  cases h
  exact congrArg (fun added => Except.ok (added.2, added.1)) (add_inFile there t s shape)

theorem addIdentifier_carries (s : Span) (name : Text) (ofType : Ref) (optional : Bool) :
    Carries index here there id
      (do
        let (tree, id) := (← get).addIdentifier s name ofType optional
        set tree
        return id)
      (do
        let (tree, id) := (← get).addIdentifier (s.inFile there) name ofType optional
        set tree
        return id) := by
  intro t id t' h
  cases h
  exact congrArg (fun added => Except.ok (added.2, added.1))
    (add_inFile there { t with names := (t.names.intern name).1 } s
      (.identifier ⟨(t.names.intern name).2, ofType, optional⟩))

/-- A candidate with its span in another file. -/
def Candidate.inFile (file : FileId) (c : Candidate) : Candidate := ⟨c.span.inFile file, c.node⟩

/-- The spans of candidates are moved, and it is they that decide which are kept. -/
theorem candidates_carries (vs : List Json) :
    Carries index here there (List.map (Candidate.inFile there)) (candidates vs)
      (candidates vs) := by
  induction vs with
  | nil => exact .pure (List.map (Candidate.inFile there)) []
  | cons v vs ih =>
    unfold candidates
    split
    next n _ =>
      exact (span_carries n).bind fun s => ih.bind fun rest =>
        .pure (List.map (Candidate.inFile there)) (⟨s, n⟩ :: rest)
    · exact ih

theorem apart_inFile (previous? : Option UInt32) (cs : List Candidate) :
    apart previous? (cs.map (Candidate.inFile there))
      = (apart previous? cs).map (Candidate.inFile there) := by
  induction cs generalizing previous? with
  | nil => rfl
  | cons c cs ih =>
    have same : previous?.any ((c.inFile there).span.start < ·)
        = previous?.any (c.span.start < ·) := rfl
    rw [List.map_cons, apart, apart, same]
    split
    · exact ih previous?
    · rw [ih]
      rfl

theorem mergeSort_inFile (cs : List Candidate) :
    (cs.map (Candidate.inFile there)).mergeSort Candidate.before
      = (cs.mergeSort Candidate.before).map (Candidate.inFile there) :=
  (List.map_mergeSort (f := Candidate.inFile there) fun _ _ _ _ => rfl).symm

section Nodes

variable {decode : NodeDecoder} (steady : ∀ o, Steady index here there (decode o)) (o : Fields)

include steady

omit steady in
theorem shorthandKey_steady (value : Ref) : Steady index here there (shorthandKey value) := by
  intro t key t' h
  simp only [shorthandKey, bind, ReaderT.bind, StateT.bind, get, getThe, MonadStateOf.get,
    liftM, monadLift, MonadLift.monadLift, StateT.get, pure, Except.pure, Except.bind] at h ⊢
  rw [Tree.deref?_inFile]
  cases found : t.deref? value with
  | none =>
    rw [found] at h
    cases h
    rfl
  | some n =>
    obtain ⟨span, parent, shape⟩ := n
    rw [found] at h
    cases shape <;>
    · cases h
      rfl

theorem keyAndValue_steady : Steady index here there (keyAndValue decode o) := by
  refine (sameRange_steady o _ _).bind fun same => ?_
  simp only [id]
  split
  · exact (child_steady steady o _).bind fun _ => .pure id _
  · split
    · exact (child_steady steady o _).bind fun value =>
        (shorthandKey_steady value).bind fun _ => .pure id _
    · exact (child_steady steady o _).bind fun _ => (child_steady steady o _).bind fun _ =>
        .pure id _

theorem secondName_steady (key : Text) (localName : Ref) :
    Steady index here there (secondName decode o key localName) := by
  refine (sameRange_steady o _ _).bind fun same => ?_
  simp only [id]
  split
  · exact .pure id _
  · exact child_steady steady o _

theorem listNode_steady (form : ListForm) : Steady index here there (listNode decode form o) :=
  (span_carries o).bind fun s => (list_steady steady o _).bind fun _ => add_carries s _

theorem wrapNode_steady (form : WrapForm) : Steady index here there (wrapNode decode form o) :=
  (span_carries o).bind fun s => (child_steady steady o _).bind fun _ => add_carries s _

theorem pairNode_steady (form : PairForm) : Steady index here there (pairNode decode form o) :=
  (child_steady steady o _).bind fun _ => (span_carries o).bind fun s =>
    (child_steady steady o _).bind fun _ => add_carries s _

theorem importDeclaration_steady : Steady index here there (importDeclaration decode o) :=
  (list_steady steady o _).bind fun _ => (child_steady steady o _).bind fun _ =>
    (span_carries o).bind fun s => add_carries s _

theorem namedImport_steady : Steady index here there (namedImport decode o) :=
  (child_steady steady o _).bind fun localName =>
    (secondName_steady steady o _ localName).bind fun _ =>
      (span_carries o).bind fun s => add_carries s _

theorem wholeImport_steady (form : ImportForm) :
    Steady index here there (wholeImport decode form o) :=
  (span_carries o).bind fun s => (child_steady steady o _).bind fun _ => add_carries s _

theorem importEquals_steady : Steady index here there (importEquals decode o) :=
  (child_steady steady o _).bind fun _ => (child_steady steady o _).bind fun _ =>
    (span_carries o).bind fun s => add_carries s _

theorem exportNamed_steady : Steady index here there (exportNamed decode o) :=
  (child_steady steady o _).bind fun _ => (list_steady steady o _).bind fun _ =>
    (child_steady steady o _).bind fun _ => (span_carries o).bind fun s => add_carries s _

theorem exportSpecifier_steady : Steady index here there (exportSpecifier decode o) :=
  (child_steady steady o _).bind fun localName =>
    (secondName_steady steady o _ localName).bind fun _ =>
      (span_carries o).bind fun s => add_carries s _

theorem classNode_steady (form : ClassForm) : Steady index here there (classNode decode form o) :=
  (child_steady steady o _).bind fun _ => (child_steady steady o _).bind fun _ =>
    (list_steady steady o _).bind fun _ => (child_steady steady o _).bind fun _ =>
      (span_carries o).bind fun s => add_carries s _

theorem propertyDefinition_steady : Steady index here there (propertyDefinition decode o) :=
  (child_steady steady o _).bind fun _ => (typeField_steady steady o _).bind fun _ =>
    (child_steady steady o _).bind fun _ => (span_carries o).bind fun s => add_carries s _

theorem methodDefinition_steady : Steady index here there (methodDefinition decode o) :=
  (span_carries o).bind fun s => (child_steady steady o _).bind fun _ =>
    (child_steady steady o _).bind fun _ => add_carries s _

theorem functionNode_steady (form : FunctionForm) :
    Steady index here there (functionNode decode form o) :=
  (child_steady steady o _).bind fun _ => (list_steady steady o _).bind fun _ =>
    (typeField_steady steady o _).bind fun _ => (child_steady steady o _).bind fun _ =>
      (span_carries o).bind fun s => add_carries s _

theorem variableDeclaration_steady : Steady index here there (variableDeclaration decode o) :=
  (span_carries o).bind fun s => (list_steady steady o _).bind fun _ =>
    add_carries s _

theorem variableDeclarator_steady : Steady index here there (variableDeclarator decode o) :=
  (child_steady steady o _).bind fun _ => (span_carries o).bind fun s =>
    (child_steady steady o _).bind fun _ => add_carries s _

theorem interfaceNode_steady : Steady index here there (interfaceNode decode o) :=
  (child_steady steady o _).bind fun _ => (list_steady steady o _).bind fun _ =>
    (span_carries o).bind fun s => (child_steady steady o _).bind fun _ => add_carries s _

theorem typeAlias_steady : Steady index here there (typeAlias decode o) :=
  (child_steady steady o _).bind fun _ => (span_carries o).bind fun s =>
    (child_steady steady o _).bind fun _ => add_carries s _

theorem ifStatement_steady : Steady index here there (ifStatement decode o) :=
  (child_steady steady o _).bind fun _ => (child_steady steady o _).bind fun _ =>
    (span_carries o).bind fun s => (child_steady steady o _).bind fun _ => add_carries s _

theorem tryStatement_steady : Steady index here there (tryStatement decode o) :=
  (child_steady steady o _).bind fun _ => (child_steady steady o _).bind fun _ =>
    (span_carries o).bind fun s => (child_steady steady o _).bind fun _ => add_carries s _

theorem catchClause_steady : Steady index here there (catchClause decode o) :=
  (child_steady steady o _).bind fun _ => (span_carries o).bind fun s =>
    (child_steady steady o _).bind fun _ => add_carries s _

theorem identifier_steady : Steady index here there (identifier decode o) :=
  (span_carries o).bind fun s => (typeField_steady steady o _).bind fun _ =>
    addIdentifier_carries s _ _ _

theorem propertyNode_steady : Steady index here there (propertyNode decode o) :=
  (keyAndValue_steady steady o).bind fun _ => (span_carries o).bind fun s =>
    add_carries s _

theorem callNode_steady (form : CallForm) : Steady index here there (callNode decode form o) :=
  (child_steady steady o _).bind fun _ => (span_carries o).bind fun s =>
    (list_steady steady o _).bind fun _ => add_carries s _

theorem memberNode_steady : Steady index here there (memberNode decode o) :=
  (child_steady steady o _).bind fun _ => (span_carries o).bind fun s =>
    (child_steady steady o _).bind fun _ => add_carries s _

theorem typeReference_steady : Steady index here there (typeReference decode o) :=
  (child_steady steady o _).bind fun _ => (span_carries o).bind fun s =>
    (typeArguments_steady steady o).bind fun _ => add_carries s _

theorem propertySignature_steady : Steady index here there (propertySignature decode o) :=
  (span_carries o).bind fun s => (child_steady steady o _).bind fun _ =>
    (typeField_steady steady o _).bind fun _ => add_carries s _

theorem mapM_candidates_steady (cs : List Candidate) :
    Carries index here there id (cs.mapM fun c => decode c.node)
      ((cs.map (Candidate.inFile there)).mapM fun c => decode c.node) := by
  induction cs with
  | nil => exact .pure id []
  | cons c cs ih =>
    rw [List.map_cons, List.mapM_cons, List.mapM_cons]
    exact (steady c.node).bind fun _ => ih.bind fun _ => .pure id _

theorem otherNode_steady : Steady index here there (otherNode decode o) := by
  unfold otherNode
  refine (candidates_carries _).bind fun found => ?_
  rw [mergeSort_inFile, apart_inFile]
  exact (mapM_candidates_steady steady _).bind fun _ => (span_carries o).bind fun s =>
    add_carries s _

/-- A node is decoded alike if the nodes below it are. -/
theorem nodeWith_steady : Steady index here there (nodeWith decode o) := by
  unfold nodeWith
  split
  · exact .fail _ _ _
  · exact importDeclaration_steady steady o
  · exact namedImport_steady steady o
  · exact wholeImport_steady steady o .default
  · exact wholeImport_steady steady o .star
  · exact importEquals_steady steady o
  · exact wrapNode_steady steady o .moduleReference
  · exact exportNamed_steady steady o
  · exact wrapNode_steady steady o .exportDefault
  · exact exportSpecifier_steady steady o
  · exact classNode_steady steady o .declaration
  · exact classNode_steady steady o .expression
  · exact listNode_steady steady o .classBody
  · exact wrapNode_steady steady o .implements
  · exact propertyDefinition_steady steady o
  · exact methodDefinition_steady steady o
  · exact functionNode_steady steady o .declaration
  · exact functionNode_steady steady o .expression
  · exact functionNode_steady steady o .arrow
  · exact variableDeclaration_steady steady o
  · exact variableDeclarator_steady steady o
  · exact interfaceNode_steady steady o
  · exact listNode_steady steady o .interfaceBody
  · exact typeAlias_steady steady o
  · exact listNode_steady steady o .block
  · exact wrapNode_steady steady o .expressionStatement
  · exact wrapNode_steady steady o .returnStatement
  · exact ifStatement_steady steady o
  · exact tryStatement_steady steady o
  · exact catchClause_steady steady o
  · exact identifier_steady steady o
  · exact (span_carries o).bind fun s => add_carries s _
  · exact listNode_steady steady o .object
  · exact propertyNode_steady steady o
  · exact wrapNode_steady steady o .spread
  · exact listNode_steady steady o .array
  · exact callNode_steady steady o .call
  · exact callNode_steady steady o .construct
  · exact memberNode_steady steady o
  · exact wrapNode_steady steady o .await
  · exact listNode_steady steady o .objectPattern
  · exact listNode_steady steady o .arrayPattern
  · exact pairNode_steady steady o .assignmentPattern
  · exact wrapNode_steady steady o .rest
  · exact typeReference_steady steady o
  · exact pairNode_steady steady o .qualifiedName
  · exact listNode_steady steady o .typeLiteral
  · exact propertySignature_steady steady o
  · exact listNode_steady steady o .intersection
  · exact listNode_steady steady o .union
  · exact wrapNode_steady steady o .arrayType
  · exact wrapNode_steady steady o .literalType
  · exact (span_carries o).bind fun s => add_carries s _
  · exact otherNode_steady steady o

end Nodes

/-! ## Documents -/

theorem nodeWithin_steady (depth : Nat) (o : Fields) :
    Steady index here there (nodeWithin depth o) := by
  induction depth generalizing o with
  | zero => exact .fail _ _ _
  | succ depth ih => exact nodeWith_steady ih o

theorem comments_carries (vs : List Json) :
    Carries index here there (List.map (Span.inFile there)) (comments vs) (comments vs) := by
  induction vs with
  | nil => exact .pure (List.map (Span.inFile there)) []
  | cons v vs ih =>
    unfold comments
    split
    · exact .pure (List.map (Span.inFile there)) []
    next o rest eq =>
      cases eq
      exact (span_carries o).bind fun s => ih.bind fun found =>
        .pure (List.map (Span.inFile there)) (s :: found)
    next eq =>
      cases eq
      exact ih

theorem addProgram_carries (s : Span) (p : Program) :
    Carries index here there id
      (modify fun t => (t.addProgram s p).1 : Decoder Unit)
      (modify fun t => (t.addProgram (s.inFile there) (p.inFile there)).1) := by
  intro t u t' h
  cases h
  exact congrArg
    (fun added : Tree × NodeId => Except.ok ((), { added.1 with root := some added.2 }))
    (add_inFile there t s (.program p))

theorem program_steady (o : Fields) : Steady index here there (program o) := by
  unfold program
  refine (list_steady (nodeWithin_steady maxDepth) o _).bind fun body => ?_
  have close : ∀ found : List Span, Carries index here there id
      (do
        let s ← span o
        modify fun t => (t.addProgram s ⟨body, found⟩).1)
      (do
        let s ← span o
        modify fun t => (t.addProgram s ⟨body, found.map (Span.inFile there)⟩).1) := fun found =>
    (span_carries o).bind fun s => addProgram_carries s ⟨body, found⟩
  split
  · exact (comments_carries _).bind close
  · exact close []

end

/-- A document is that of a tree when its program builds it without a defect. -/
theorem decode_eq_ok {files : FileSet} {id : FileId} {f : File} {document : Text} {t : Tree}
    (found : files.get? id = some f) :
    decode files id document = .ok t ↔
      ∃ o, Json.read document = .ok (.object o) ∧ typeOf o = "Program" ∧
        program o ⟨id, .ofText f.content⟩ (Tree.empty id) = .ok ((), t) ∧ t.defect? = none := by
  simp only [decode, found, ReaderT.run, StateT.run]
  constructor
  · intro h
    split at h
    · contradiction
    next o read =>
      split at h
      · contradiction
      next type =>
        rw [Bool.not_eq_true, bne_eq_false_iff_eq] at type
        split at h
        · contradiction
        next tree built =>
          split at h
          · contradiction
          next fine =>
            cases h
            exact ⟨o, read, type, built, fine⟩
    · contradiction
  · rintro ⟨o, read, type, built, fine⟩
    simp only [read, type, built, fine, bne_self_eq_false, Bool.false_eq_true, if_false]

theorem empty_inFile (here there : FileId) : (Tree.empty here).inFile there = Tree.empty there := by
  simp [Tree.inFile, Tree.empty]

/-- A document that describes a tree of one file describes the same tree of any other file
with that content. -/
theorem decode_inFile {files others : FileSet} {here there : FileId} {f g : File}
    {document : Text} {t : Tree} (found : files.get? here = some f)
    (found' : others.get? there = some g) (content : g.content = f.content)
    (h : decode files here document = .ok t) :
    decode others there document = .ok (t.inFile there) ∧ t.inFile here = t := by
  obtain ⟨o, read, type, built, fine⟩ := (decode_eq_ok found).mp h
  have moved : ∀ other : FileId, program o ⟨other, .ofText f.content⟩ (Tree.empty other)
      = .ok ((), t.inFile other) := by
    intro other
    have steady : Steady (.ofText f.content) here other (program o) := program_steady o
    have carried := steady _ _ _ built
    rwa [empty_inFile] at carried
  have self : t.inFile here = t := by
    have twice := (moved here).symm.trans built
    simpa using twice
  refine ⟨(decode_eq_ok found').mpr ⟨o, read, type, content ▸ moved there, ?_⟩, self⟩
  rw [Tree.defect?_inFile self, fine]

/-- A document that describes a tree describes a whole one. -/
theorem decode_whole {files : FileSet} {id : FileId} {f : File} {document : Text}
    {t : Tree} (found : files.get? id = some f) (h : decode files id document = .ok t) :
    t.Whole ∧ t.file = id := by
  obtain ⟨-, self⟩ := decode_inFile found found rfl h
  obtain ⟨o, -, -, -, fine⟩ := (decode_eq_ok found).mp h
  have file : t.file = id := by
    rw [← self]
    rfl
  refine ⟨⟨file ▸ self, ?_⟩, file⟩
  simp only [Tree.defect?] at fine
  split at fine
  · contradiction
  split at fine
  · contradiction
  next kind =>
    rw [Bool.not_eq_true, Bool.not_eq_false'] at kind
    exact Tree.deref?_of_hasKind kind

end TreeLint.Document
