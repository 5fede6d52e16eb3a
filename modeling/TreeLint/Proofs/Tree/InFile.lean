import TreeLint.Tree.Validate
import TreeLint.Tree.Walk

/-! # A tree in another file

The number of a file stands in every span of its tree, and nowhere else.  `Tree.inFile`
puts a tree into another file and leaves all else as it is: which nodes there are, what
they refer to, and where in the text they stand.

So whatever is asked of a tree but a span has the same answer in any file, and each of
those questions has its lemma here.  A span is moved with the tree
(`Tree.span_inFile`), but for one: the span of a hole is that of no node at all, and it
stays in the first file.
-/

namespace TreeLint

namespace Span

/-- The same range of another file. -/
def inFile (file : FileId) (s : Span) : Span := { s with file }

@[simp] theorem inFile_file (file : FileId) (s : Span) : (s.inFile file).file = file := rfl

@[simp] theorem inFile_start (file : FileId) (s : Span) : (s.inFile file).start = s.start := rfl

@[simp] theorem inFile_stop (file : FileId) (s : Span) : (s.inFile file).stop = s.stop := rfl

@[simp] theorem inFile_inFile (file other : FileId) (s : Span) :
    (s.inFile other).inFile file = s.inFile file := rfl

theorem inFile_eq_self {file : FileId} {s : Span} (h : s.file = file) : s.inFile file = s := by
  rw [← h]
  rfl

theorem startPoint_inFile (file : FileId) (s : Span) :
    (s.inFile file).startPoint = s.startPoint.inFile file := rfl

theorem overlaps_inFile {s t : Span} (same : s.file = t.file) (file : FileId) :
    (s.inFile file).overlaps (t.inFile file) = s.overlaps t := by
  simp only [overlaps, isEmpty, inFile, same, bne_self_eq_false]
  rfl

theorem contains_inFile {s t : Span} (same : s.file = t.file) (file : FileId) :
    (s.inFile file).contains (t.inFile file) = s.contains t := by
  simp only [contains, inFile, same, beq_self_eq_true]
  rfl

end Span

/-- A program in another file: its comments are kept as spans. -/
def Program.inFile (file : FileId) (p : Program) : Program :=
  { p with comments := p.comments.map (Span.inFile file) }

def Shape.inFile (file : FileId) : Shape → Shape
  | .program p => .program (p.inFile file)
  | shape => shape

def Node.inFile (file : FileId) (n : Node) : Node :=
  ⟨n.span.inFile file, n.parent, n.shape.inFile file⟩

/-- The tree in another file. -/
def Tree.inFile (file : FileId) (t : Tree) : Tree :=
  ⟨file, t.root, t.nodes.map (Node.inFile file), t.names⟩

section

variable (file : FileId)

@[simp] theorem Shape.kind_inFile (s : Shape) : (s.inFile file).kind = s.kind := by
  cases s <;> rfl

@[simp] theorem Shape.refs_inFile (s : Shape) : (s.inFile file).refs = s.refs := by
  cases s <;> rfl

@[simp] theorem Shape.adopted_inFile (s : Shape) : (s.inFile file).adopted = s.adopted := by
  cases s <;> rfl

@[simp] theorem Node.kind_inFile (n : Node) : (n.inFile file).kind = n.kind :=
  Shape.kind_inFile file n.shape

@[simp] theorem Node.children_inFile (n : Node) : (n.inFile file).children = n.children := by
  simp only [Node.children, Node.inFile, Shape.refs_inFile]

namespace Tree

variable (t : Tree)

theorem inFile_inFile (other : FileId) : (t.inFile other).inFile file = t.inFile file := by
  have node (n : Node) : (n.inFile other).inFile file = n.inFile file := by
    obtain ⟨s, parent, shape⟩ := n
    cases shape <;> simp [Node.inFile, Shape.inFile, Program.inFile, Function.comp_def]
  simp [inFile, Function.comp_def, node]

@[simp] theorem root_inFile : (t.inFile file).root = t.root := rfl

@[simp] theorem names_inFile : (t.inFile file).names = t.names := rfl

@[simp] theorem size_inFile : (t.inFile file).size = t.size := by
  simp [size, inFile]

@[simp] theorem node?_inFile (id : NodeId) :
    (t.inFile file).node? id = (t.node? id).map (Node.inFile file) := by
  simp [node?, inFile]

@[simp] theorem deref?_inFile (r : Ref) :
    (t.inFile file).deref? r = (t.deref? r).map (Node.inFile file) := by
  cases r <;> simp [deref?]

@[simp] theorem kind?_inFile (r : Ref) : (t.inFile file).kind? r = t.kind? r := by
  simp [kind?, Function.comp_def]

@[simp] theorem hasKind_inFile (r : Ref) (k : Kind) :
    (t.inFile file).hasKind r k = t.hasKind r k := by
  simp [hasKind]

@[simp] theorem parent_inFile (r : Ref) : (t.inFile file).parent r = t.parent r := by
  rw [parent, parent, deref?_inFile]
  cases t.deref? r <;> rfl

/-- The span of a node is moved with the tree, and that of a hole is not. -/
theorem span_inFile (r : Ref) :
    (t.inFile file).span r = if (t.deref? r).isSome then (t.span r).inFile file else ⟨0, 0, 0⟩ := by
  rw [span, span, deref?_inFile]
  cases t.deref? r <;> rfl

theorem span_of_deref? {r : Ref} (h : (t.deref? r).isSome) :
    (t.inFile file).span r = (t.span r).inFile file := by
  rw [span_inFile, if_pos h]

/-! ## Questions about shapes -/

/-- What a node has in its shape is the same in any file, if it is for the shapes that
hold spans. -/
theorem part?_inFile {α : Type} {pick : Shape → Option α}
    (h : ∀ s : Shape, pick (s.inFile file) = pick s) (r : Ref) :
    (t.inFile file).part? r pick = t.part? r pick := by
  rw [part?, part?, deref?_inFile]
  cases t.deref? r with
  | none => rfl
  | some n => exact h n.shape

@[simp] theorem identifier?_inFile (r : Ref) : (t.inFile file).identifier? r = t.identifier? r :=
  part?_inFile file t (fun s => by cases s <;> rfl) r

@[simp] theorem literal?_inFile (r : Ref) : (t.inFile file).literal? r = t.literal? r :=
  part?_inFile file t (fun s => by cases s <;> rfl) r

@[simp] theorem function?_inFile (r : Ref) : (t.inFile file).function? r = t.function? r :=
  part?_inFile file t (fun s => by cases s <;> rfl) r

@[simp] theorem class?_inFile (r : Ref) : (t.inFile file).class? r = t.class? r :=
  part?_inFile file t (fun s => by cases s <;> rfl) r

@[simp] theorem property?_inFile (r : Ref) : (t.inFile file).property? r = t.property? r :=
  part?_inFile file t (fun s => by cases s <;> rfl) r

@[simp] theorem call?_inFile (r : Ref) : (t.inFile file).call? r = t.call? r :=
  part?_inFile file t (fun s => by cases s <;> rfl) r

@[simp] theorem member?_inFile (r : Ref) : (t.inFile file).member? r = t.member? r :=
  part?_inFile file t (fun s => by cases s <;> rfl) r

@[simp] theorem importDeclaration?_inFile (r : Ref) :
    (t.inFile file).importDeclaration? r = t.importDeclaration? r :=
  part?_inFile file t (fun s => by cases s <;> rfl) r

@[simp] theorem importSpecifier?_inFile (r : Ref) :
    (t.inFile file).importSpecifier? r = t.importSpecifier? r :=
  part?_inFile file t (fun s => by cases s <;> rfl) r

@[simp] theorem importEquals?_inFile (r : Ref) :
    (t.inFile file).importEquals? r = t.importEquals? r :=
  part?_inFile file t (fun s => by cases s <;> rfl) r

@[simp] theorem exportNamed?_inFile (r : Ref) : (t.inFile file).exportNamed? r = t.exportNamed? r :=
  part?_inFile file t (fun s => by cases s <;> rfl) r

@[simp] theorem exportSpecifier?_inFile (r : Ref) :
    (t.inFile file).exportSpecifier? r = t.exportSpecifier? r :=
  part?_inFile file t (fun s => by cases s <;> rfl) r

@[simp] theorem propertyDefinition?_inFile (r : Ref) :
    (t.inFile file).propertyDefinition? r = t.propertyDefinition? r :=
  part?_inFile file t (fun s => by cases s <;> rfl) r

@[simp] theorem methodDefinition?_inFile (r : Ref) :
    (t.inFile file).methodDefinition? r = t.methodDefinition? r :=
  part?_inFile file t (fun s => by cases s <;> rfl) r

@[simp] theorem interface?_inFile (r : Ref) : (t.inFile file).interface? r = t.interface? r :=
  part?_inFile file t (fun s => by cases s <;> rfl) r

@[simp] theorem typeReference?_inFile (r : Ref) :
    (t.inFile file).typeReference? r = t.typeReference? r :=
  part?_inFile file t (fun s => by cases s <;> rfl) r

@[simp] theorem propertySignature?_inFile (r : Ref) :
    (t.inFile file).propertySignature? r = t.propertySignature? r :=
  part?_inFile file t (fun s => by cases s <;> rfl) r

@[simp] theorem declared?_inFile (r : Ref) : (t.inFile file).declared? r = t.declared? r :=
  part?_inFile file t (fun s => by cases s <;> rfl) r

@[simp] theorem tryBlock?_inFile (r : Ref) : (t.inFile file).tryBlock? r = t.tryBlock? r :=
  part?_inFile file t (fun s => by cases s <;> rfl) r

@[simp] theorem otherType?_inFile (r : Ref) : (t.inFile file).otherType? r = t.otherType? r :=
  part?_inFile file t (fun s => by cases s <;> rfl) r

@[simp] theorem items_inFile (r : Ref) : (t.inFile file).items r = t.items r := by
  rw [items, items, part?_inFile]
  intro s
  cases s <;> rfl

@[simp] theorem target_inFile (r : Ref) : (t.inFile file).target r = t.target r := by
  rw [target, target, part?_inFile]
  intro s
  cases s <;> rfl

/-- A program keeps its statements; its comments are moved. -/
@[simp] theorem program?_inFile (r : Ref) :
    (t.inFile file).program? r = (t.program? r).map (Program.inFile file) := by
  rw [program?, program?, part?, part?, deref?_inFile]
  cases t.deref? r with
  | none => rfl
  | some n =>
    obtain ⟨span, parent, shape⟩ := n
    cases shape <;> rfl

@[simp] theorem name_inFile (r : Ref) : (t.inFile file).name r = t.name r := by
  simp [name]

@[simp] theorem isIdentifier_inFile (r : Ref) (name : Text) :
    (t.inFile file).isIdentifier r name = t.isIdentifier r name := by
  simp [isIdentifier]

@[simp] theorem stringValue?_inFile (r : Ref) :
    (t.inFile file).stringValue? r = t.stringValue? r := by
  simp [stringValue?]

@[simp] theorem keyName?_inFile (r : Ref) : (t.inFile file).keyName? r = t.keyName? r := by
  simp [keyName?]

/-! ## Walks -/

theorem visitsWithin_inFile (skip : NodeId → Bool) (depth : Nat) (id : NodeId) :
    (t.inFile file).visitsWithin skip depth id = t.visitsWithin skip depth id := by
  induction depth generalizing id with
  | zero => rfl
  | succ depth ih =>
    simp only [visitsWithin, node?_inFile]
    cases t.node? id with
    | none => rfl
    | some n => simp [ih]

@[simp] theorem visits_inFile (skip : NodeId → Bool) (r : Ref) :
    (t.inFile file).visits skip r = t.visits skip r := by
  cases r with
  | none => rfl
  | some id => simp [visits, visitsWithin_inFile]

theorem ancestorsWithin_inFile (depth : Nat) (r : Ref) :
    (t.inFile file).ancestorsWithin depth r = t.ancestorsWithin depth r := by
  induction depth generalizing r with
  | zero => rfl
  | succ depth ih => simp only [ancestorsWithin, parent_inFile, ih]

@[simp] theorem ancestors_inFile (r : Ref) : (t.inFile file).ancestors r = t.ancestors r := by
  simp [ancestors, ancestorsWithin_inFile]

@[simp] theorem closest_inFile (r : Ref) (kinds : List Kind) :
    (t.inFile file).closest r kinds = t.closest r kinds := by
  have kind : ∀ r, (t.inFile file).hasKind r = t.hasKind r := fun r =>
    funext (hasKind_inFile file t r)
  simp only [closest, ancestors_inFile, kind]

@[simp] theorem enclosingProgram_inFile (r : Ref) :
    (t.inFile file).enclosingProgram r = t.enclosingProgram r := by
  simp [enclosingProgram]

end Tree
end

/-! ## Structure -/

namespace Tree

/-- A tree that is all in its file and has a root. -/
structure Whole (t : Tree) : Prop where
  own : t.inFile t.file = t
  root : (t.deref? t.root).isSome

theorem Whole.inFile {t : Tree} (h : t.Whole) (there : FileId) : (t.inFile there).Whole where
  own := t.inFile_inFile there there
  root := by simpa using h.root

variable {t : Tree} {here : FileId}

theorem span_file (h : t.inFile here = t) {r : Ref} (some : (t.deref? r).isSome) :
    (t.span r).file = here := by
  have moved := t.span_of_deref? here some
  rw [h] at moved
  rw [moved, Span.inFile_file]

theorem span_inFile_self (h : t.inFile here = t) {r : Ref} (some : (t.deref? r).isSome) :
    (t.span r).inFile here = t.span r :=
  Span.inFile_eq_self (span_file h some)

theorem kind?_eq_none {r : Ref} (h : ¬ (t.deref? r).isSome) : t.kind? r = none := by
  rw [kind?, Option.not_isSome_iff_eq_none.mp h]
  rfl

theorem deref?_of_hasKind {r : Ref} {k : Kind} (h : t.hasKind r k) : (t.deref? r).isSome := by
  cases found : t.deref? r with
  | none => simp [hasKind, kind?, found] at h
  | some n => rfl

theorem deref?_of_part? {α : Type} {r : Ref} {pick : Shape → Option α} {a : α}
    (h : t.part? r pick = some a) : (t.deref? r).isSome := by
  cases found : t.deref? r with
  | none => simp [part?, found] at h
  | some n => rfl

theorem deref?_of_parent {r : Ref} {p : NodeId} (h : t.parent r = some p) :
    (t.deref? r).isSome := by
  cases found : t.deref? r with
  | none => simp [parent, found] at h
  | some n => rfl

theorem childDefect?_inFile (h : t.inFile here = t) (file : FileId) {id : NodeId}
    (some : (t.deref? (some id)).isSome) (previous? : Option UInt32) (children : List NodeId) :
    (t.inFile file).childDefect? id previous? children = t.childDefect? id previous? children := by
  induction children generalizing previous? with
  | nil => rfl
  | cons child rest ih =>
    simp only [childDefect?, parent_inFile]
    split
    · rfl
    next parent =>
      rw [Decidable.not_not] at parent
      have present := deref?_of_parent parent
      rw [span_of_deref? file t some, span_of_deref? file t present,
        Span.contains_inFile ((span_file h some).trans (span_file h present).symm)]
      simp only [Span.inFile_start, Span.inFile_stop, ih]
      rfl

theorem checkWithin_inFile (h : t.inFile here = t) (file : FileId) (depth : Nat)
    (seen : List NodeId) (id : NodeId) :
    (t.inFile file).checkWithin depth seen id = t.checkWithin depth seen id := by
  induction depth generalizing seen id with
  | zero => rfl
  | succ depth ih =>
    simp only [checkWithin, node?_inFile]
    cases found : t.node? id with
    | none => rfl
    | some n =>
      have present : (t.deref? (some id)).isSome := by simp [deref?, found]
      simp only [Option.map_some, Node.children_inFile, childDefect?_inFile h file present, ih]

/-- A tree is as well-formed in one file as in another. -/
theorem defect?_inFile (h : t.inFile here = t) (file : FileId) :
    (t.inFile file).defect? = t.defect? := by
  simp only [defect?, root_inFile, hasKind_inFile, parent_inFile, size_inFile,
    checkWithin_inFile h file]

end Tree
end TreeLint
