import TreeLint.Tree.Node

/-! # Syntax trees

A tree is a table of nodes that refer to each other by their places.  Nodes are only
ever added: adding one makes it the parent of its children.  Identifier names are
kept once each, in a table of their own. -/

namespace TreeLint

/-- The distinct identifier names of a tree, the empty name first, and where each one stands. -/
structure Names where
  list : List Text
  ids : List (Text × NameId)
  inverse : ∀ name i, ids.lookup name = some i ↔ list[i]? = some name
  deriving DecidableEq, Repr

namespace Names

def initial : Names where
  list := [[]]
  ids := [([], 0)]
  inverse name i := by
    cases i with
    | zero => cases name <;> simp [List.lookup_cons]
    | succ i => cases name <;> simp [List.lookup_cons]

instance : Inhabited Names := ⟨initial⟩

/-- A name that stands nowhere is put at the end, and its place with it. -/
theorem inverse_append {list : List Text} {ids : List (Text × NameId)} {new : Text}
    (inverse : ∀ name i, ids.lookup name = some i ↔ list[i]? = some name)
    (absent : ids.lookup new = none) (name : Text) (i : Nat) :
    ((new, list.length) :: ids).lookup name = some i ↔ (list ++ [new])[i]? = some name := by
  by_cases same : name = new
  · subst same
    have apart : list[i]? ≠ some name := fun found => by
      simp [(inverse name i).mpr found] at absent
    rw [List.lookup_cons_self, Option.some_inj]
    by_cases early : i < list.length
    · rw [List.getElem?_append_left early]
      exact ⟨fun last => absurd last (Nat.ne_of_gt early), fun found => absurd found apart⟩
    · rw [List.getElem?_append_right (Nat.le_of_not_lt early), List.getElem?_singleton]
      split <;> simp <;> omega
  · rw [List.lookup_cons, beq_false_of_ne same, inverse]
    by_cases early : i < list.length
    · rw [List.getElem?_append_left early]
    · rw [List.getElem?_append_right (Nat.le_of_not_lt early), List.getElem?_singleton,
        List.getElem?_eq_none (Nat.le_of_not_lt early)]
      split <;> simp [Ne.symm same]

def intern (names : Names) (name : Text) : Names × NameId :=
  match found : names.ids.lookup name with
  | some i => (names, i)
  | none =>
    let id := names.list.length
    let grown : Names := {
      list := names.list ++ [name]
      ids := (name, id) :: names.ids
      inverse := inverse_append names.inverse found }
    (grown, id)

/-- The name at a place; a place without a name reads as empty. -/
def get (names : Names) (id : NameId) : Text := names.list.getD id []

def size (names : Names) : Nat := names.list.length

end Names

structure Tree where
  file : FileId
  root : Ref
  nodes : Array Node
  names : Names
  deriving Repr, Inhabited

namespace Tree

def empty (file : FileId) : Tree := ⟨file, none, #[], .initial⟩

def size (t : Tree) : Nat := t.nodes.size

def node? (t : Tree) (id : NodeId) : Option Node := t.nodes[id.index]?

def deref? (t : Tree) (r : Ref) : Option Node := r.bind t.node?

def kind? (t : Tree) (r : Ref) : Option Kind := (t.deref? r).map Node.kind

def hasKind (t : Tree) (r : Ref) (k : Kind) : Bool := t.kind? r == some k

def kindName (t : Tree) (r : Ref) : String :=
  match t.kind? r with
  | some k => k.name
  | none => "Invalid"

/-- The span of a node; the empty span at the start of the first file for no node. -/
def span (t : Tree) (r : Ref) : Span :=
  match t.deref? r with
  | some n => n.span
  | none => ⟨0, 0, 0⟩

def parent (t : Tree) (r : Ref) : Ref := (t.deref? r).bind Node.parent

/-- The children of a node, in the order they are written in. -/
def children (t : Tree) (id : NodeId) : List NodeId :=
  match t.node? id with
  | some n => n.children
  | none => []

/-- Makes `parent` the parent of a node, if there is such a node. -/
def adopt (parent : NodeId) (nodes : Array Node) (child : Ref) : Array Node :=
  match child with
  | some id => nodes.modify id.index fun n => { n with parent := some parent }
  | none => nodes

/-- Adds a node and makes it the parent of its children. -/
def add (t : Tree) (span : Span) (shape : Shape) : Tree × NodeId :=
  let id : NodeId := ⟨t.nodes.size⟩
  let node : Node := ⟨span, none, shape⟩
  ({ t with nodes := shape.adopted.foldl (adopt id) (t.nodes.push node) }, id)

def addProgram (t : Tree) (span : Span) (p : Program) : Tree × NodeId :=
  let (t, id) := t.add span (.program p)
  ({ t with root := some id }, id)

/-- Adds an identifier, whose name goes into the name table. -/
def addIdentifier (t : Tree) (span : Span) (name : Text) (ofType : Ref) (optional : Bool) :
    Tree × NodeId :=
  let (names, nameId) := t.names.intern name
  { t with names }.add span (.identifier ⟨nameId, ofType, optional⟩)

/-- What a node has in its shape, if it has one of the asked kind. -/
def part? {α : Type} (t : Tree) (r : Ref) (pick : Shape → Option α) : Option α :=
  (t.deref? r).bind fun n => pick n.shape

def identifier? (t : Tree) (r : Ref) : Option Identifier :=
  t.part? r fun
    | .identifier i => some i
    | _ => none

/-- The name of an identifier, empty for any other node. -/
def name (t : Tree) (r : Ref) : Text :=
  match t.identifier? r with
  | some i => t.names.get i.name
  | none => []

def isIdentifier (t : Tree) (r : Ref) (name : Text) : Bool :=
  t.hasKind r .identifier && t.name r == name

def literal? (t : Tree) (r : Ref) : Option Literal :=
  t.part? r fun
    | .literal l => some l
    | _ => none

def stringValue? (t : Tree) (r : Ref) : Option Text :=
  match t.literal? r with
  | some l => if l.kind = .string then some l.value else none
  | none => none

/-- The name a property key spells: that of an identifier or of a string literal. -/
def keyName? (t : Tree) (r : Ref) : Option Text :=
  match t.kind? r with
  | some .identifier => some (t.name r)
  | some .literal => t.stringValue? r
  | _ => none

def function? (t : Tree) (r : Ref) : Option FunctionNode :=
  t.part? r fun
    | .function f => some f
    | _ => none

def class? (t : Tree) (r : Ref) : Option ClassNode :=
  t.part? r fun
    | .classNode c => some c
    | _ => none

def property? (t : Tree) (r : Ref) : Option Property :=
  t.part? r fun
    | .property p => some p
    | _ => none

def call? (t : Tree) (r : Ref) : Option Call :=
  t.part? r fun
    | .call c => some c
    | _ => none

def member? (t : Tree) (r : Ref) : Option Member :=
  t.part? r fun
    | .member m => some m
    | _ => none

def program? (t : Tree) (r : Ref) : Option Program :=
  t.part? r fun
    | .program p => some p
    | _ => none

def importDeclaration? (t : Tree) (r : Ref) : Option ImportDeclaration :=
  t.part? r fun
    | .importDeclaration d => some d
    | _ => none

def importSpecifier? (t : Tree) (r : Ref) : Option ImportSpecifier :=
  t.part? r fun
    | .importSpecifier s => some s
    | _ => none

def importEquals? (t : Tree) (r : Ref) : Option ImportEquals :=
  t.part? r fun
    | .importEquals d => some d
    | _ => none

def exportNamed? (t : Tree) (r : Ref) : Option ExportNamed :=
  t.part? r fun
    | .exportNamed d => some d
    | _ => none

def exportSpecifier? (t : Tree) (r : Ref) : Option ExportSpecifier :=
  t.part? r fun
    | .exportSpecifier s => some s
    | _ => none

def propertyDefinition? (t : Tree) (r : Ref) : Option PropertyDefinition :=
  t.part? r fun
    | .propertyDefinition d => some d
    | _ => none

def methodDefinition? (t : Tree) (r : Ref) : Option MethodDefinition :=
  t.part? r fun
    | .methodDefinition d => some d
    | _ => none

def interface? (t : Tree) (r : Ref) : Option InterfaceNode :=
  t.part? r fun
    | .interface d => some d
    | _ => none

def typeReference? (t : Tree) (r : Ref) : Option TypeReference :=
  t.part? r fun
    | .typeReference d => some d
    | _ => none

def propertySignature? (t : Tree) (r : Ref) : Option PropertySignature :=
  t.part? r fun
    | .propertySignature d => some d
    | _ => none

def declared? (t : Tree) (r : Ref) : Option Ref :=
  t.part? r fun
    | .variableDeclarator target _ => some target
    | _ => none

def tryBlock? (t : Tree) (r : Ref) : Option Ref :=
  t.part? r fun
    | .tryStatement block _ _ => some block
    | _ => none

def otherType? (t : Tree) (r : Ref) : Option Text :=
  t.part? r fun
    | .other type _ => some type
    | _ => none

/-- The items of a list node, none for any other node. -/
def items (t : Tree) (r : Ref) : List Ref :=
  (t.part? r fun
    | .list _ items => some items
    | _ => none).getD []

def target (t : Tree) (r : Ref) : Ref :=
  (t.part? r fun
    | .wrap _ target => some target
    | _ => none).getD none

end Tree
end TreeLint
