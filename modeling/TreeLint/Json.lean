import TreeLint.Text

/-! # JSON values

Numbers keep the text they were written with, since a document's offsets are
compared by that text before they are read as numbers.  The fields of an object
keep their order, so that a report decides the order in which they are written. -/

namespace TreeLint

inductive Json where
  | null
  | bool (b : Bool)
  | number (digits : Text)
  | string (t : Text)
  | array (items : List Json)
  | object (fields : List (Text × Json))
  deriving Inhabited, Repr

namespace Json

def nat (n : Nat) : Json := number (Text.decimal n)

def int (n : Int) : Json := number (Text.decimalInt n)

/-- An object whose fields are given in parts, some of which may be empty. -/
def record (parts : List (List (Text × Json))) : Json := object parts.flatten

def field? (j : Json) (key : Text) : Option Json :=
  match j with
  | object fields => fields.lookup key
  | _ => none

def text? : Json → Option Text
  | string t => some t
  | _ => none

def array? : Json → Option (List Json)
  | array items => some items
  | _ => none

end Json
end TreeLint
