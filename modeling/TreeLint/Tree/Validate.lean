import TreeLint.Tree.Basic

/-! # Structure of a tree

A well-formed tree has a program without a parent as its root, parent links that
agree with the children, and children that lie inside their parent, in order and
apart from each other. -/

namespace TreeLint.Tree

/-- What is wrong with the structure of a tree. -/
inductive Defect where
  | noProgramRoot
  | rootHasParent (root parent : NodeId)
  | reachedTwice (id : NodeId)
  | wrongParent (child : NodeId) (found : Ref) (wanted : NodeId)
  | escapesParent (child parent : NodeId)
  | overlapsSibling (child : NodeId)
  deriving DecidableEq, Repr

def describe (t : Tree) (id : NodeId) : Text :=
  "node " ++ Text.decimal id.number ++ " (" ++ t.kindName (some id) ++ ")"

def Defect.message (t : Tree) : Defect → Text
  | noProgramRoot => "tree has no Program root"
  | rootHasParent root parent =>
    "root " ++ Text.decimal root.number ++ " has parent " ++ Text.decimal parent.number
  | reachedTwice id => t.describe id ++ " reached twice"
  | wrongParent child found wanted =>
    t.describe child ++ ": parent " ++ Text.decimal found.number ++ ", want "
      ++ Text.decimal wanted.number
  | escapesParent child parent =>
    t.describe child ++ " " ++ (t.span (some child)).describe ++ " escapes parent "
      ++ Text.decimal parent.number ++ " " ++ (t.span (some parent)).describe
  | overlapsSibling child =>
    t.describe child ++ " " ++ (t.span (some child)).describe ++ " overlaps previous sibling"

/-- The first defect among the children of a node, the last of the checked ones
ending at `previous?`. -/
def childDefect? (t : Tree) (id : NodeId) : (previous? : Option UInt32) → List NodeId →
    Option Defect
  | _, [] => none
  | previous?, child :: rest =>
    let span := t.span (some child)
    if t.parent (some child) ≠ some id then
      some (.wrongParent child (t.parent (some child)) id)
    else if !(t.span (some id)).contains span then some (.escapesParent child id)
    else if previous?.any (span.start < ·) then some (.overlapsSibling child)
    else childDefect? t id (some span.stop) rest

/-- Checks a node and all below it, given the nodes seen before; the answer adds the
nodes seen on the way.  A path deeper than the number of nodes repeats one. -/
def checkWithin (t : Tree) : (depth : Nat) → (seen : List NodeId) → NodeId →
    Except Defect (List NodeId)
  | 0, _, id => .error (.reachedTwice id)
  | depth + 1, seen, id =>
    match t.node? id with
    | none => .ok seen
    | some n =>
      if seen.contains id then .error (.reachedTwice id)
      else
        match t.childDefect? id none n.children with
        | some d => .error d
        | none => n.children.foldlM (fun seen c => checkWithin t depth seen c) (id :: seen)

/-- The first defect of a tree, if it has one. -/
def defect? (t : Tree) : Option Defect :=
  match t.root with
  | none => some .noProgramRoot
  | some root =>
    if !t.hasKind t.root .program then some .noProgramRoot
    else
      match t.parent t.root with
      | some p => some (.rootHasParent root p)
      | none =>
        match t.checkWithin (t.size + 1) [] root with
        | .ok _ => none
        | .error d => some d

end TreeLint.Tree
