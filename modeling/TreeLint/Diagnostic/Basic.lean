import TreeLint.Diagnostic.Fix
import TreeLint.Diagnostic.Severity
import TreeLint.Diagnostic.Template

/-! # Diagnostics

A diagnostic is one violation with its message, its place, further notes and fixes.
A bag collects diagnostics up to a limit. -/

namespace TreeLint

structure Note where
  span : Span
  message : Text
  deriving DecidableEq, Repr, Inhabited

structure Diagnostic where
  severity : Severity
  /-- The rule that reported it; empty when no rule did. -/
  rule : Text
  messageId : Text
  message : Text
  data : Template.Data
  primary : Span
  notes : List Note
  fixes : List Fix
  deriving Repr, Inhabited

namespace Diagnostic

def new (severity : Severity) (rule messageId : Text) (primary : Span) (message : Text) :
    Diagnostic :=
  ⟨severity, rule, messageId, message, [], primary, [], []⟩

/-- The identifier shown next to the message: the rule and the message id, or the one
of them that is there. -/
def code (d : Diagnostic) : Text :=
  if d.rule.isEmpty then d.messageId
  else if d.messageId.isEmpty then d.rule
  else d.rule ++ "/" ++ d.messageId

/-- Whether `d` may stand before `e` in the order by file, start, stop, the higher
severity first, and code. -/
def atMost (d e : Diagnostic) : Bool :=
  let s := d.primary
  let t := e.primary
  if s.file != t.file then s.file < t.file
  else if s.start != t.start then s.start < t.start
  else if s.stop != t.stop then s.stop < t.stop
  else if d.severity.level != e.severity.level then e.severity.level < d.severity.level
  else d.code.atMost e.code

end Diagnostic

/-- A collection of diagnostics with an optional limit. -/
structure Bag where
  items : List Diagnostic
  /-- The most diagnostics it takes; zero or less for no limit. -/
  limit : Int
  deriving Repr, Inhabited

namespace Bag

def new (limit : Int) : Bag := ⟨[], limit⟩

def add? (b : Bag) (d : Diagnostic) : Option Bag :=
  if 0 < b.limit ∧ b.limit ≤ b.items.length then none
  else some { b with items := b.items ++ [d] }

/-- Adds a diagnostic, or drops it when the limit is reached. -/
def add (b : Bag) (d : Diagnostic) : Bag := (b.add? d).getD b

def hasErrors (b : Bag) : Bool := b.items.any fun d => d.severity.isError

def size (b : Bag) : Nat := b.items.length

def filter (b : Bag) (keep : Diagnostic → Bool) : Bag := { b with items := b.items.filter keep }

/-- Sorts the diagnostics; those that compare equal keep their order. -/
def sort (b : Bag) : Bag := { b with items := b.items.mergeSort Diagnostic.atMost }

end Bag
end TreeLint
