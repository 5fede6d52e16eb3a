import TreeLint.Regex.Basic

/-! # How much a pattern takes

A pattern that nests too deeply or that stands for too many steps is refused.  Both are
told from its outline, which is found from the outlines of its parts: letters in a row
count as one word, rows within rows and alternatives within alternatives as one, and
alternatives of single characters as a set. -/

namespace TreeLint.Regex

/-- What a pattern is at its top. -/
inductive Shape where
  | letter (caseless : Bool)
  | word (caseless : Bool)
  | set
  | row
  | alternatives
  | other
  deriving DecidableEq, Repr, Inhabited

structure Outline where
  shape : Shape
  /-- How deep it nests. -/
  depth : Nat
  /-- How many steps it stands for when repetitions are written out. -/
  size : Nat
  /-- How many parts it is made of. -/
  parts : Nat
  /-- How many times its repetitions can repeat a part when all are taken together. -/
  copies : Nat
  deriving DecidableEq, Repr, Inhabited

namespace Outline

def leaf (shape : Shape) : Outline := ⟨shape, 1, 1, 1, 1⟩

def isSet (o : Outline) : Bool :=
  match o.shape with
  | .letter _ | .set => true
  | _ => false

def wordCase? (o : Outline) : Option Bool :=
  match o.shape with
  | .letter caseless | .word caseless => some caseless
  | _ => none

/-- How deep it nests as a part of something of the given shape. -/
def depthWithin (o : Outline) (shape : Shape) : Nat :=
  if o.shape = shape then o.depth - 1 else o.depth

def join (shape : Shape) (o p : Outline) (size : Nat) : Outline where
  shape
  depth := max (o.depthWithin shape) (p.depthWithin shape) + 1
  size
  parts := o.parts + p.parts
  copies := o.copies * p.copies

def cat (o p : Outline) : Outline :=
  match o.wordCase?, p.wordCase? with
  | some c, some d =>
    if c = d then ⟨.word c, 1, o.size + p.size, 1, 1⟩ else join .row o p (o.size + p.size)
  | _, _ => join .row o p (o.size + p.size)

def alt (o p : Outline) : Outline :=
  if o.isSet && p.isSet then leaf .set else join .alternatives o p (o.size + p.size + 1)

def around (o : Outline) (size copies : Nat) : Outline :=
  ⟨.other, o.depth + 1, size, o.parts + 1, o.copies * copies⟩

def capture (o : Outline) : Outline := o.around (o.size + 2) 1

def repetition (o : Outline) (min : Nat) (max : Option Nat) : Outline :=
  match max, min with
  | none, 0 => o.around (o.size + 2) 1
  | none, min => o.around (o.size * min + 1) min
  | some max, min => o.around (Nat.max 1 (o.size * max + (max - min))) (Nat.max 1 max)

/-- The most steps a pattern may stand for. -/
def sizeLimit : Nat := 3355443

/-- How deep a pattern may nest. -/
def depthLimit : Nat := 1000

/-- Whether it stands for too many steps.  They are counted only when the parts and
repetitions are enough for that. -/
def isTooLarge (o : Outline) : Bool :=
  o.size > sizeLimit && sizeLimit / Nat.min sizeLimit o.copies ≤ o.parts

def isTooDeep (o : Outline) : Bool := o.depth > depthLimit

end Outline

def outline : Regex → Outline
  | set (.range first last) => .leaf (if first = last then .letter false else .set)
  | set (.caseless (.range first last)) => .leaf (if first = last then .letter true else .set)
  | set _ => .leaf .set
  | empty | anchor _ => .leaf .other
  | cat r s => r.outline.cat s.outline
  | alt r s => r.outline.alt s.outline
  | capture r => r.outline.capture
  | repetition r min max => r.outline.repetition min max

end TreeLint.Regex
