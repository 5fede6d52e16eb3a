import TreeLint.Run.Progress
import TreeLint.Text.Screen

/-! # The progress view

A board shows the files of a run while it goes on: a header with a spinner, a row for
each file and a bar that is full when the run is over.  Of many files only those are
shown that still have work to do, and the others are counted. -/

namespace TreeLint.Report.Progress

inductive State where
  | queued | loading | decoding | linting | done | cached | failed
  deriving DecidableEq, Repr, Inhabited

namespace State

def name : State → Text
  | queued => "queued"
  | loading => "loading"
  | decoding => "decoding"
  | linting => "linting"
  | done => "done"
  | cached => "cached"
  | failed => "error"

def isActive : State → Bool
  | loading | decoding | linting => true
  | _ => false

def ofStage : Run.Stage → State
  | .load => loading
  | .decode => decoding
  | .lint => linting

/-- The state after a step.  Only a file that is being worked on is in a stage, so an
unknown stage matters for no other step. -/
def ofStep? (stage? : Option Run.Stage) : Run.Status → Option State
  | .queued => some queued
  | .working => stage?.map ofStage
  | .done => some done
  | .cached => some cached
  | .failed => some failed

end State

structure Row where
  path : Text
  state : State
  deriving DecidableEq, Repr, Inhabited

def setState (path : Text) (state : State) : List Row → Option (List Row)
  | [] => none
  | r :: rows =>
    match setState path state rows with
    | some rows => some (r :: rows)
    | none => if r.path == path then some ({ r with state } :: rows) else none

structure Board where
  title : Text
  rows : List Row
  /-- What the run as a whole is at, once it was told. -/
  phase : Option State
  /-- The width of the terminal. -/
  width : Nat
  /-- How often the spinner has turned. -/
  turns : Nat
  finished : Bool
  deriving Repr, Inhabited

namespace Board

def new (title : Text) (files : List Text) : Board :=
  ⟨title, files.map fun f => ⟨f, .queued⟩, none, 80, 0, false⟩

/-! ## What happens to a board -/

/-- Tells what became of a file, or of the whole run where the file is empty. -/
def tell (b : Board) (file : Text) (state : State) : Board :=
  if file.isEmpty then { b with phase := some state }
  else { b with rows := (setState file state b.rows).getD b.rows }

def finish (b : Board) : Board := { b with finished := true }

/-- A key that was pressed; two of them leave the view. -/
def press (b : Board) (key : Text) : Board :=
  if key == "q" || key == "ctrl+c" then b.finish else b

/-- The terminal has a new width; one without columns is no terminal. -/
def resize (b : Board) (width : Int) : Board :=
  if 0 < width then { b with width := width.toNat } else b

def turn (b : Board) : Board := if b.finished then b else { b with turns := b.turns + 1 }

/-! ## What a board shows -/

def maxRows : Nat := 16

def frames : List Text := ["⣾ ", "⣽ ", "⣻ ", "⢿ ", "⡿ ", "⣟ ", "⣯ ", "⣷ "]

def frame (b : Board) : Text := (frames[b.turns % frames.length]?).getD []

/-- Lines filled up with blanks to the width of the widest. -/
def filled (t : Text) : Text :=
  let lines := t.splitByte 10
  let widest := (lines.map Screen.width).foldl max 0
  Text.join "\n" (lines.map fun l => l ++ List.replicate (widest - Screen.width l) 32)

def header (b : Board) : Text :=
  let about := b.title ++ match b.phase with
    | some s => utf8 " (" ++ s.name ++ ")"
    | none => []
  let line : Text := if b.finished then "done: " ++ about else b.frame ++ " " ++ about
  filled (line.replace "\t" "    ")

/-- The rows to show: of many only those with work to do, and those being worked on
first. -/
def shown (b : Board) : List Row :=
  if b.rows.length ≤ maxRows then b.rows
  else (b.rows.filter (·.state.isActive) ++ b.rows.filter (·.state == .queued)).take maxRows

def column (t : Text) : Text := "  " ++ Text.padLeft 12 t ++ " "

def pathWidth (b : Board) : Nat := max (b.width - 16) 20

def row (b : Board) (r : Row) : Text :=
  column r.state.name ++ Text.clip "..." b.pathWidth r.path ++ "\n"

def more (b : Board) : Text :=
  let hidden := b.rows.length - b.shown.length
  if hidden == 0 then [] else column [] ++ Text.decimal hidden ++ " more file(s)\n"

/-- The bar, with room for a percentage after it and a margin of four columns. -/
def bar (b : Board) : Text :=
  let cells := b.width - 9
  if b.finished then Text.times cells "█" ++ " 100%" else Text.times cells "░" ++ "   0%"

/-- The board as text; there is nothing to show of no files. -/
def render (b : Board) : Text :=
  if b.rows.isEmpty then []
  else b.header ++ "\n\n" ++ b.shown.flatMap b.row ++ b.more ++ "\n" ++ b.bar ++ "\n"

end Board
end TreeLint.Report.Progress
