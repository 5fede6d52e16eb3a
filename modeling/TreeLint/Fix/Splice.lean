import TreeLint.Diagnostic.Fix

/-! # Splicing edits into a text

The spans of all edits refer to the text as it was given.  Edits are applied from the
last to the first, so that the offsets of those still to come stay valid; insertions
at one offset keep their order. -/

namespace TreeLint.Edit

inductive SpliceError where
  | overlap (a b : Span)
  /-- Offsets are words of 32 bits, and the text has bytes that none of them reaches. -/
  | tooLarge
  | outOfRange (span : Span) (size : Nat)
  | mismatch (span : Span) (found expected : Text)
  /-- An edit of another file has made the text too short for this one. -/
  | textTooShort (span : Span)
  deriving DecidableEq, Repr

def SpliceError.message : SpliceError → Text
  | overlap a b => overlapMessage a b
  | tooLarge => "buffer too large: out of range"
  | outOfRange span size =>
    "edit span " ++ span.describe ++ " out of range (len " ++ Text.decimal size ++ ")"
  | mismatch span found expected =>
    "edit span " ++ span.describe ++ ": existing text " ++ Quoted.encode found
      ++ " does not match " ++ Quoted.encode expected
  | textTooShort span => "edit span " ++ span.describe ++ " beyond the edited text"

/-- Whether an edit, with its place in the list, is applied before another: from the
last start, then the last end, then the last place. -/
def appliesFirst (a b : Edit × Nat) : Bool :=
  if a.1.span.start != b.1.span.start then a.1.span.start > b.1.span.start
  else if a.1.span.stop != b.1.span.stop then a.1.span.stop > b.1.span.stop
  else a.2 ≥ b.2

def applicationOrder (edits : List Edit) : List Edit :=
  (edits.zipIdx.mergeSort appliesFirst).map Prod.fst

/-- Applies one edit to a text that was `size` bytes long before all edits. -/
def spliceOne (size : Nat) (text : Text) (e : Edit) : Except SpliceError Text :=
  let start := e.span.start.toNat
  let stop := e.span.stop.toNat
  if stop < start ∨ size < stop then .error (.outOfRange e.span size)
  else if text.length < stop then .error (.textTooShort e.span)
  else
    let found := text.slice start stop
    if !e.oldText.isEmpty && found != e.oldText then
      .error (.mismatch e.span found e.oldText)
    else .ok (text.take start ++ e.newText ++ text.drop stop)

/-- Applies all edits to a text, unless two of them overlap or the text is too large. -/
def splice (text : Text) (edits : List Edit) : Except SpliceError Text :=
  match overlap? edits with
  | some (a, b) => .error (.overlap a b)
  | none =>
    if UInt32.size ≤ text.length then .error .tooLarge
    else (applicationOrder edits).foldlM (spliceOne text.length) text

/-- Takes a fix, given by its edits, unless it conflicts with those taken before or has
no edits, and counts it in that case. -/
def mergeOne (merged : List Edit × Nat) (edits : List Edit) : List Edit × Nat :=
  let (taken, skipped) := merged
  if edits.isEmpty || edits.any (conflicts taken) then (taken, skipped + 1)
  else (taken ++ edits, skipped)

/-- The edits of the fixes of a list that are taken, and the number of those that are
not. -/
def mergeFixes (fixes : List (List Edit)) : List Edit × Nat := fixes.foldl mergeOne ([], 0)

end TreeLint.Edit
