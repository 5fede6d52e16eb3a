import TreeLint.Regex.CharSet
import TreeLint.Text.Utf8

/-! # Regular expressions

A pattern matches a text when some part of the text belongs to it.  Matching keeps the
set of places a pattern can lead to from a place; how a match comes about plays no
role, so that greedy and reluctant repetition are the same. -/

namespace TreeLint

/-- A condition on a place in a text. -/
inductive Anchor where
  | textStart | textEnd | lineStart | lineEnd | wordBoundary | noWordBoundary
  deriving DecidableEq, Repr, Inhabited

inductive Regex where
  /-- Matches the empty text. -/
  | empty
  | set (s : CharSet)
  | anchor (a : Anchor)
  | cat (r s : Regex)
  | alt (r s : Regex)
  /-- A group that can be referred to. -/
  | capture (r : Regex)
  /-- At least `min` and at most `max` times, without an upper limit for none. -/
  | repetition (r : Regex) (min : Nat) (max : Option Nat)
  deriving Inhabited, Repr

namespace Regex

def isWordChar (c : Nat) : Bool := CharSet.word.has c

def Anchor.holds (text : Array Nat) (a : Anchor) (i : Nat) : Bool :=
  let before := if i == 0 then none else text[i - 1]?
  let after := text[i]?
  let boundary := before.any isWordChar != after.any isWordChar
  match a with
  | .textStart => i == 0
  | .textEnd => i == text.size
  | .lineStart => before.all (· == 10)
  | .lineEnd => after.all (· == 10)
  | .wordBoundary => boundary
  | .noWordBoundary => !boundary

def merge (xs ys : List Nat) : List Nat := xs ++ ys.filter fun y => !xs.contains y

/-- The places `step` leads to from any of the given places. -/
def after (step : Nat → List Nat) (places : List Nat) : List Nat :=
  places.foldl (fun found i => merge found (step i)) []

def steps (step : Nat → List Nat) : (n : Nat) → List Nat → List Nat
  | 0, places => places
  | n + 1, places => steps step n (after step places)

def closure (step : Nat → List Nat) : (n : Nat) → List Nat → List Nat
  | 0, places => places
  | n + 1, places =>
    let more := merge places (after step places)
    if more.length == places.length then places else closure step n more

/-- The places where a match that starts at `i` can end.  A repetition without a limit
needs no more rounds than there are places. -/
def ends (text : Array Nat) : Regex → Nat → List Nat
  | empty, i => [i]
  | set s, i =>
    match text[i]? with
    | some c => if s.has c then [i + 1] else []
    | none => []
  | anchor a, i => if Anchor.holds text a i then [i] else []
  | cat r s, i => after (ends text s) (ends text r i)
  | alt r s, i => merge (ends text r i) (ends text s i)
  | capture r, i => ends text r i
  | repetition r min max, i =>
    let least := steps (ends text r) min [i]
    match max with
    | some m => closure (ends text r) (m - min) least
    | none => closure (ends text r) (text.size + 1) least

/-- Whether some part of a text, given by its code points, belongs to the pattern. -/
def matchesCodes (r : Regex) (text : Array Nat) : Bool :=
  (List.range (text.size + 1)).any fun i => !(ends text r i).isEmpty

/-- Whether some part of a text belongs to the pattern. -/
def isMatch (r : Regex) (t : Text) : Bool :=
  r.matchesCodes ((Utf8.chars t).map Char.toNat).toArray

/-- Whether no part of the pattern stands for more than `budget` copies of itself. -/
def withinBudget : Regex → (budget : Nat) → Bool
  | cat r s, budget => withinBudget r budget && withinBudget s budget
  | alt r s, budget => withinBudget r budget && withinBudget s budget
  | capture r, budget => withinBudget r budget
  | repetition r min max, budget =>
    let copies := max.getD min
    if max == some 0 then true
    else if budget < copies then false
    else withinBudget r (if copies == 0 then budget else budget / copies)
  | _, _ => true

end Regex
end TreeLint
