import TreeLint.Command.Record
import TreeLint.Text.Quoted

/-! # Values on the command line

Numbers may be written in base two, eight, ten or sixteen, with underscores between
digits; switches by one of a few words; lists as a record of comma-separated values with
quotes where they are needed. -/

namespace TreeLint.Command

open Text (byte hexDigit?)

inductive LiteralError where
  /-- The text is not written like a value of the kind that is read by `reader`. -/
  | malformed (reader text : Text)
  | outOfRange (reader text : Text)
  /-- The text is no record. -/
  | record (e : Record.Error)
  deriving DecidableEq, Repr

def LiteralError.message : LiteralError → Text
  | malformed reader text =>
    "strconv." ++ reader ++ ": parsing " ++ Quoted.encode text ++ ": invalid syntax"
  | outOfRange reader text =>
    "strconv." ++ reader ++ ": parsing " ++ Quoted.encode text ++ ": value out of range"
  | record e => e.message

/-- The base of digits, and what they are.  A leading zero alone means base eight. -/
def baseOf : Text → Nat × Text
  | 48 :: b :: c :: ds =>
    match Char.ofNat b.toNat with
    | 'x' | 'X' => (16, c :: ds)
    | 'o' | 'O' => (8, c :: ds)
    | 'b' | 'B' => (2, c :: ds)
    | _ => (8, b :: c :: ds)
  | 48 :: b :: [] => (8, [b])
  | ds => (10, ds)

/-- Why digits do not stand for a number. -/
inductive NumeralFault where
  | malformed
  | tooLarge
  deriving DecidableEq, Repr

/-- The value of digits in a base; underscores are skipped.  The first byte that is no
digit, or that makes the value pass `limit`, decides. -/
def digitsIn (base limit : Nat) : (acc : Nat) → Text → Except NumeralFault Nat
  | acc, [] => .ok acc
  | acc, b :: ds =>
    if b == byte '_' then digitsIn base limit acc ds
    else match hexDigit? b with
      | some d =>
        if base ≤ d then .error .malformed
        else if limit < acc * base + d then .error .tooLarge
        else digitsIn base limit (acc * base + d) ds
      | none => .error .malformed

/-- Whether every underscore stands between two digits, where a base counts as one;
`after` says whether there is a digit before. -/
def underscoresOk (after : Bool) : Text → Bool
  | [] => after
  | b :: ds => if b == byte '_' then after && underscoresOk false ds else underscoresOk true ds

/-- The magnitude of so many bits that digits stand for.  Where the underscores are is
looked at last. -/
def magnitude (bits : Nat) (t : Text) : Except NumeralFault Nat :=
  let (base, ds) := baseOf t
  if ds.isEmpty then .error .malformed
  else
    match digitsIn base (Nat.pow 2 bits - 1) 0 ds with
    | .error f => .error f
    | .ok n => if underscoresOk (base != 10) ds then .ok n else .error .malformed

def readInt (bits : Nat) (t : Text) : Except LiteralError Int :=
  let (negative, ds) : Bool × Text := match t with
    | 45 :: ds => (true, ds)
    | 43 :: ds => (false, ds)
    | ds => (false, ds)
  match magnitude bits ds with
  | .error .malformed => .error (.malformed "ParseInt" t)
  | .error .tooLarge => .error (.outOfRange "ParseInt" t)
  | .ok n =>
    if negative then
      if n ≤ Nat.pow 2 (bits - 1) then .ok (-(n : Int)) else .error (.outOfRange "ParseInt" t)
    else if n < Nat.pow 2 (bits - 1) then .ok n
    else .error (.outOfRange "ParseInt" t)

/-- The words that turn a switch on, and those that turn it off. -/
def onWords : List Text := List.map utf8 ["1", "t", "T", "TRUE", "true", "True"]

def offWords : List Text := List.map utf8 ["0", "f", "F", "FALSE", "false", "False"]

def readBool (t : Text) : Except LiteralError Bool :=
  if onWords.contains t then .ok true
  else if offWords.contains t then .ok false
  else .error (.malformed "ParseBool" t)

def readList (t : Text) : Except LiteralError (List Text) :=
  if t.isEmpty then .ok [] else (Record.read t).mapError .record

end TreeLint.Command
