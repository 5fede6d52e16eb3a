import TreeLint.Tree.Basic

/-! # Walking a tree

A walk enters a node, then walks its children in order, then leaves the node.
Upward, the parent links lead from a node to the root. -/

namespace TreeLint

/-- One step of a walk. -/
inductive Visit where
  | enter (id : NodeId)
  | leave (id : NodeId)
  deriving DecidableEq, Repr

namespace Tree

/-- The visits of a walk from a node down to the given depth.  The children of a
skipped node are not visited. -/
def visitsWithin (t : Tree) (skip : NodeId → Bool) : (depth : Nat) → NodeId → List Visit
  | 0, _ => []
  | depth + 1, id =>
    match t.node? id with
    | none => []
    | some n =>
      .enter id
        :: (if skip id then [] else n.children.flatMap fun c => visitsWithin t skip depth c)
        ++ [.leave id]

/-- The visits of a walk.  No path in a tree is longer than its number of nodes. -/
def visits (t : Tree) (skip : NodeId → Bool) (from? : Ref) : List Visit :=
  match from? with
  | some id => t.visitsWithin skip t.size id
  | none => []

/-- The nodes on the way from a node up, itself excluded, at most `depth` of them. -/
def ancestorsWithin (t : Tree) : (depth : Nat) → Ref → List NodeId
  | 0, _ => []
  | depth + 1, r =>
    match t.parent r with
    | some p => p :: ancestorsWithin t depth (some p)
    | none => []

/-- The nodes on the way from a node to the root, nearest first. -/
def ancestors (t : Tree) (r : Ref) : List NodeId := t.ancestorsWithin t.size r

def closest (t : Tree) (r : Ref) (kinds : List Kind) : Ref :=
  (t.ancestors r).find? fun p => kinds.any (t.hasKind (some p))

/-- The program a node belongs to; a program belongs to itself. -/
def enclosingProgram (t : Tree) (r : Ref) : Ref :=
  if t.hasKind r .program then r else t.closest r [.program]

/-- The node or ancestor that stands directly in the program. -/
def topLevel (t : Tree) (r : Ref) : Ref :=
  match r with
  | none => none
  | some id =>
    (id :: t.ancestors r).find? fun c => t.hasKind (t.parent (some c)) .program

def enclosingFunction (t : Tree) (r : Ref) : Ref :=
  t.closest r [.functionDeclaration, .functionExpression, .arrowFunctionExpression]

/-- Every node of a kind at or below a node, in the order they are entered. -/
def find (t : Tree) (start : Ref) (k : Kind) : List NodeId :=
  (t.visits (fun _ => false) start).filterMap fun
    | .enter id => if t.hasKind (some id) k then some id else none
    | .leave _ => none

end Tree
end TreeLint
