import TreeLint.Text.Quoted

/-! # TOML values

A TOML document is a table of values.  Floats and dates are only ever told apart
from other values, so they keep the text they were written with. -/

namespace TreeLint

/-- A TOML value.  Tables that came from double-bracketed headers are kept apart from
arrays of values. -/
inductive Toml where
  | string (t : Text)
  | integer (n : Int)
  | float (literal : Text)
  | datetime (literal : Text)
  | bool (b : Bool)
  | array (items : List Toml)
  | table (fields : List (Text × Toml))
  | tables (items : List (List (Text × Toml)))
  deriving Inhabited, Repr

namespace Toml

/-- The fields of a table, in the order they first appeared. -/
abbrev Table := List (Text × Toml)

abbrev Key := List Text

def typeName : Toml → Text
  | string _ => "string"
  | integer _ => "int64"
  | float _ => "float64"
  | datetime _ => "time.Time"
  | bool _ => "bool"
  | array _ => "[]interface \x7b\x7d"
  | table _ => "map[string]interface \x7b\x7d"
  | tables _ => "[]map[string]interface \x7b\x7d"

namespace Table

def get? (t : Table) (name : Text) : Option Toml := t.lookup name

/-- The table with the field set, in its old place if it had one. -/
def put (t : Table) (name : Text) (value : Toml) : Table :=
  match t with
  | [] => [(name, value)]
  | (n, v) :: rest => if n == name then (n, value) :: rest else (n, v) :: put rest name value

def defines (t : Table) : Key → Bool
  | [] => false
  | [name] => (t.get? name).isSome
  | name :: rest =>
    match t.get? name with
    | some (.table sub) => defines sub rest
    | _ => false

end Table

def isBare (b : UInt8) : Bool :=
  Text.isLetter b || Text.isDigit b || b == 95 || b == 45

/-- A part of a key as it is written: without quotes where that is possible, else
between double quotes. -/
def Key.part (name : Text) : Text :=
  if !name.isEmpty && name.all isBare then name
  else "\"" ++ name.flatMap escape ++ "\""
where
  escape (b : UInt8) : Text :=
    match b with
    | 34 => "\\\""
    | 92 => "\\\\"
    | 8 => "\\b"
    | 9 => "\\t"
    | 10 => "\\n"
    | 12 => "\\f"
    | 13 => "\\r"
    | _ => if b < 32 || b == 127 then "\\u00" ++ Text.hex 2 b.toNat else [b]

def Key.written (key : Key) : Text := Text.join "." (key.map Key.part)

end Toml
end TreeLint
