import TreeLint.Text

/-! # Records

A record is a list of values on one line, separated by commas.  A value between quotes may
hold commas, line ends and, written twice, quotes.  Lines before the record may be empty,
and what follows its line is not looked at. -/

namespace TreeLint.Command.Record

open Text (byte)

/-- A place in a text: both numbers count from one, columns in bytes. -/
structure Position where
  line : Nat
  column : Nat
  deriving DecidableEq, Repr, Inhabited

namespace Position

/-- The place after a byte that `rest` follows.  The end of a text is never on a line of
its own. -/
def after (p : Position) (b : UInt8) (rest : Text) : Position :=
  if b == byte '\n' && !rest.isEmpty then ⟨p.line + 1, 1⟩ else ⟨p.line, p.column + 1⟩

end Position

inductive Error where
  /-- All lines are empty. -/
  | nothing
  /-- A quote in a value that does not begin with one; `start` is the line of the record. -/
  | bareQuote (start : Nat) (place : Position)
  /-- Something else than a comma after a quoted value, or no closing quote. -/
  | strayQuote (start : Nat) (place : Position)
  deriving DecidableEq, Repr

def located (start : Nat) (p : Position) (fault : Text) : Text :=
  let record : Text :=
    if start == p.line then [] else "record on line " ++ Text.decimal start ++ "; "
  record ++ "parse error on line " ++ Text.decimal p.line ++ ", column " ++ Text.decimal p.column
    ++ ": " ++ fault

def Error.message : Error → Text
  | nothing => "EOF"
  | bareQuote start p => located start p "bare \" in non-quoted-field"
  | strayQuote start p => located start p "extraneous or missing \" in quoted-field"

/-- Where a reader stands in a value. -/
inductive State where
  /-- Before its first byte. -/
  | fresh
  /-- In a value that is not quoted. -/
  | bare
  | quoted
  /-- After a quote in a quoted value, which ends it unless it is written twice. -/
  | closed
  deriving DecidableEq, Repr

/-- Reads values from a place on; `value` is the one being read, in reverse. -/
def values (start : Nat) : State → Position → (value : Text) → Text → Except Error (List Text)
  | .quoted, p, _, [] => .error (.strayQuote start p)
  | _, _, value, [] => .ok [value.reverse]
  | .quoted, p, value, b :: t =>
    if b == byte '"' then values start .closed (p.after b t) value t
    else values start .quoted (p.after b t) (b :: value) t
  | s, p, value, b :: t =>
    if b == byte ',' then (values start .fresh (p.after b t) [] t).map (value.reverse :: ·)
    else if b == byte '\n' then .ok [value.reverse]
    else if b == byte '"' then
      match s with
      | .fresh => values start .quoted (p.after b t) [] t
      | .closed => values start .quoted (p.after b t) (b :: value) t
      | _ => .error (.bareQuote start p)
    else if s == .closed then .error (.strayQuote start ⟨p.line, p.column - 1⟩)
    else values start .bare (p.after b t) (b :: value) t

/-- The text with all line ends alike; a carriage return at its very end counts for
nothing. -/
def evenLines (t : Text) : Text :=
  let t := Text.replace t "\r\n" "\n"
  if t.getLast? == some (byte '\r') then t.dropLast else t

def read (t : Text) : Except Error (List Text) :=
  let t := evenLines t
  let record := t.dropWhile (· == byte '\n')
  let start := t.length - record.length + 1
  if record.isEmpty then .error .nothing else values start .fresh ⟨start, 1⟩ [] record

end TreeLint.Command.Record
