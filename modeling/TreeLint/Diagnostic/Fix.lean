import TreeLint.Source.Span
import TreeLint.Text.Quoted

/-! # Edits and fixes

An edit replaces the text under a span.  A guard, when there is one, is the text the
span has to hold for the edit to apply.

A fix is a set of edits with a title.  Its edits may be built late; resolving a fix
builds them and makes sure that they do not overlap each other. -/

namespace TreeLint

structure Edit where
  span : Span
  newText : Text
  /-- The guard; empty for none. -/
  oldText : Text
  deriving DecidableEq, Repr, Inhabited

namespace Edit

def insertBefore (span : Span) (text : Text) : Edit := ⟨span.startPoint, text, []⟩

def insertAfter (span : Span) (text : Text) : Edit := ⟨span.endPoint, text, []⟩

def replace (span : Span) (text : Text) : Edit := ⟨span, text, []⟩

def delete (span : Span) : Edit := ⟨span, [], []⟩

def guarded (e : Edit) (expected : Text) : Edit := { e with oldText := expected }

/-- Whether an edit conflicts with one of those taken before. -/
def conflicts (taken : List Edit) (e : Edit) : Bool := taken.any fun t => t.span.overlaps e.span

/-- The first two edits of a list that overlap, if any do. -/
def overlap? : List Edit → Option (Span × Span)
  | [] => none
  | e :: es =>
    match es.find? fun other => e.span.overlaps other.span with
    | some other => some (e.span, other.span)
    | none => overlap? es

def overlapMessage (a b : Span) : Text :=
  "fix edits overlap: " ++ a.describe ++ " and " ++ b.describe

end Edit

/-! ## Fixes -/

/-- The class of a fix, a number of which the four lowest have names. -/
structure FixKind where
  code : UInt8
  deriving DecidableEq, Repr, Inhabited

namespace FixKind

def quickFix : FixKind := ⟨0⟩
def refactor : FixKind := ⟨1⟩
def refactorRewrite : FixKind := ⟨2⟩
def sourceAction : FixKind := ⟨3⟩

def ofCode (code : UInt8) : FixKind := ⟨code⟩

def name (k : FixKind) : String :=
  match k.code with
  | 0 => "quickfix"
  | 1 => "refactor"
  | 2 => "refactor.rewrite"
  | 3 => "source"
  | _ => "unknown"

end FixKind

/-- How far a fix can be trusted without looking at it, a number of which the three
lowest have names. -/
structure Applicability where
  code : UInt8
  deriving DecidableEq, Repr, Inhabited

namespace Applicability

def alwaysSafe : Applicability := ⟨0⟩
def safeWithHeuristics : Applicability := ⟨1⟩
def manualReview : Applicability := ⟨2⟩

def ofCode (code : UInt8) : Applicability := ⟨code⟩

def name (a : Applicability) : String :=
  match a.code with
  | 0 => "always-safe"
  | 1 => "safe-with-heuristics"
  | 2 => "manual-review"
  | _ => "unknown"

end Applicability

structure Built where
  id : Text
  title : Text
  edits : List Edit
  deriving DecidableEq, Repr

/-- Edits that are built when the fix is resolved. -/
structure Deferred where
  key : Text
  /-- The edits, or why they cannot be built. -/
  build : Except Text Built
  deriving Repr

structure Fix where
  id : Text
  title : Text
  kind : FixKind
  applicability : Applicability
  preferred : Bool
  /-- The fix only makes sense together with all others of the run. -/
  requiresAll : Bool
  edits : List Edit
  deferred : Option Deferred
  deriving Repr, Inhabited

namespace Fix

def quick (title : Text) (edits : List Edit) : Fix :=
  ⟨[], title, .quickFix, .alwaysSafe, false, false, edits, none⟩

/-- A quick fix of edits that do not overlap, or the two spans that do. -/
def compose (title : Text) (edits : List Edit) : Except (Span × Span) Fix :=
  match Edit.overlap? edits with
  | some pair => .error pair
  | none => .ok (quick title edits)

/-- A quick fix whose edits are built when it is resolved. -/
def late (title key : Text) (build : Except Text (List Edit)) : Fix :=
  { quick title [] with deferred := some ⟨key, build.map fun edits => ⟨[], [], edits⟩⟩ }

def wrap (title : Text) (span : Span) (before after : Text) : Fix :=
  { quick title [.insertBefore span before, .insertAfter span after] with
    kind := .refactorRewrite, applicability := .safeWithHeuristics }

inductive ResolveError where
  | absent
  | build (title reason : Text)
  | overlap (a b : Span)
  deriving DecidableEq, Repr

def ResolveError.message : ResolveError → Text
  | absent => "nil fix"
  | build title reason => "build fix " ++ Quoted.encode title ++ ": " ++ reason
  | overlap a b => Edit.overlapMessage a b

def noBuilder : Text := "fix thunk has no builder"

/-- The fix with its edits built: what was built gives the edits and, where it has
them, the title and the id. -/
def withBuilt (f : Fix) (key : Text) (built : Built) : Fix :=
  { f with
    title := if built.title.isEmpty then f.title else built.title
    id := if !f.id.isEmpty then f.id else if !built.id.isEmpty then built.id else key
    edits := built.edits
    deferred := none }

def built (f : Fix) : Fix × Option ResolveError :=
  match f.deferred with
  | none => (f, none)
  | some d =>
    match d.build with
    | .error reason => (f, some (.build f.title reason))
    | .ok b => (f.withBuilt d.key b, none)

def resolution (f : Fix) : Fix × Option ResolveError :=
  match f.built with
  | (f, some e) => (f, some e)
  | (f, none) => (f, (Edit.overlap? f.edits).map fun (a, b) => .overlap a b)

def resolve (f : Fix) : Except ResolveError Fix :=
  match f.resolution with
  | (_, some e) => .error e
  | (f, none) => .ok f

/-- The fixes of a list that resolve, and what is wrong with the others. -/
def resolveAll : List Fix → List Fix × List ResolveError
  | [] => ([], [])
  | f :: fs =>
    let (resolved, errors) := resolveAll fs
    match f.resolve with
    | .ok f => (f :: resolved, errors)
    | .error e => (resolved, e :: errors)

end Fix
end TreeLint
