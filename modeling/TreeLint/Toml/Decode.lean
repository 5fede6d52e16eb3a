import TreeLint.Toml.Document

/-! # Typed values from TOML

A value is decoded at its key, so that a value of the wrong type can be reported with
its key and line. -/

namespace TreeLint.Toml

/-- A value that does not have the type asked for. -/
inductive Mismatch where
  /-- The value at a key has a type other than the wanted one. -/
  | incompatible (key : Key) (found wanted : Text)
  /-- The value at a key should be a table of the named kind. -/
  | noTable (key : Key) (of found : Text)
  deriving Repr

def Document.place (d : Document) (key : Key) : Text :=
  match key, d.line? key with
  | [], _ => "toml: "
  | _, some line =>
    "toml: line " ++ Text.decimal line ++ " (last key " ++ Quoted.encode key.written ++ "): "
  | _, none => "toml: (last key " ++ Quoted.encode key.written ++ "): "

def Mismatch.message (d : Document) : Mismatch → Text
  | incompatible key found wanted =>
    d.place key ++ "incompatible types: TOML value has type " ++ found
      ++ "; destination has type " ++ wanted
  | noTable key of found =>
    d.place key ++ "type mismatch for " ++ of ++ ": expected table but found " ++ found

abbrev Decoder (α : Type) := Key → Toml → Except Mismatch α

namespace Decoder

def text : Decoder Text
  | _, .string t => .ok t
  | key, v => .error (.incompatible key v.typeName "string")

def int : Decoder Int
  | _, .integer n => .ok n
  | key, v => .error (.incompatible key v.typeName "integer")

def bool : Decoder Bool
  | _, .bool b => .ok b
  | key, v => .error (.incompatible key v.typeName "boolean")

/-- Items of an array are decoded at the key of the array. -/
def list {α : Type} (item : Decoder α) : Decoder (List α)
  | key, .array vs => vs.mapM (item key)
  | key, .tables ts => ts.mapM fun t => item key (.table t)
  | key, v => .error (.incompatible key v.typeName "slice")

/-- The fields of a table, each decoded at its own key.  Anything but a table gives
nothing and is no error. -/
def map? {α : Type} (field : Decoder α) : Decoder (Option (List (Text × α)))
  | key, .table t => some <$> t.mapM fun (name, v) => (name, ·) <$> field (key ++ [name]) v
  | _, _ => .ok none

def any : Decoder (Key × Toml)
  | key, v => .ok (key, v)

end Decoder

/-- The lower-case letter that is the same letter as `c` when case is ignored. -/
def foldChar (c : Char) : Char :=
  if c == Char.ofNat 0x212A then 'k' else if c == Char.ofNat 0x17F then 's' else c.toLower

/-- Whether a field name, given in lower-case ASCII, matches a written name. -/
def matchesField (field name : Text) : Bool :=
  name == field
    || (Utf8.isValid name && ((Utf8.chars name).map foldChar).flatMap Utf8.encode == field)

/-- The entry of a table that belongs to a field, the last one where several do. -/
def Table.field? (t : Table) (field : Text) : Option (Text × Toml) :=
  (t.filter fun (name, _) => matchesField field name).getLast?

end TreeLint.Toml
