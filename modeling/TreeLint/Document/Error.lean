import TreeLint.Json.Reader
import TreeLint.Source.Utf16
import TreeLint.Text.Quoted
import TreeLint.Tree.Validate

/-! # What can be wrong with a document

A document that describes a tree may fail to be JSON, to have a program at its root,
or to describe one that fits the source. -/

namespace TreeLint

mutual

/-- A value as messages show it: without quotes, with the fields of an object in the
order of their names. -/
def Json.plain : Json → Text
  | .null => "<nil>"
  | .bool b => if b then "true" else "false"
  | .number digits => digits
  | .string t => t
  | .array items => "[" ++ Text.join " " (plainItems items) ++ "]"
  | .object fields =>
    let shown := (plainFields fields).mergeSort fun a b => a.1.atMost b.1
    "map[" ++ Text.join " " (shown.map fun (key, value) => key ++ ":" ++ value) ++ "]"

def Json.plainItems : List Json → List Text
  | [] => []
  | j :: js => j.plain :: plainItems js

def Json.plainFields : List (Text × Json) → List (Text × Text)
  | [] => []
  | (key, j) :: fs => (key, j.plain) :: plainFields fs

end

namespace Document

/-- Why the text of a number is not a machine integer. -/
inductive NumberFault where
  | notInteger
  | tooLarge
  deriving DecidableEq, Repr

def NumberFault.message : NumberFault → Text
  | notInteger => "invalid syntax"
  | tooLarge => "value out of range"

/-- Why a program in JSON does not describe a tree. -/
inductive Fault where
  | missingRange (type : Text)
  | invertedRange (type : Text) (start stop : Nat)
  | offsetNotNumber (found : Json)
  | offsetNotInteger (digits : Text) (fault : NumberFault)
  | offsetNotWord (offset : Int)
  | offsetOutside (index : Utf16Index) (offset : Nat)
  | fieldNotNode (type field : Text)
  | itemNotNode (type field : Text) (index : Nat)
  | nestedProgram
  | tooDeep
  | malformed (tree : Tree) (defect : Tree.Defect)
  /-- Two ranges hold lists or objects, which have no equality to compare them by. -/
  | incomparable

def maxDepth : Nat := 2048

def Fault.message : Fault → Text
  | missingRange type => type ++ ": missing range"
  | invertedRange type start stop =>
    type ++ ": inverted range " ++ Text.decimal start ++ ".." ++ Text.decimal stop
  | offsetNotNumber found => "range offset " ++ found.plain ++ " is not a number"
  | offsetNotInteger digits fault =>
    "range offset " ++ digits ++ ": strconv.ParseInt: parsing " ++ Quoted.encode digits ++ ": "
      ++ fault.message
  | offsetNotWord offset => "range offset " ++ Text.decimalInt offset ++ ": out of range"
  | offsetOutside index offset => index.outOfRange offset
  | fieldNotNode type field => type ++ "." ++ field ++ " is not a node"
  | itemNotNode type field index =>
    type ++ "." ++ field ++ "[" ++ Text.decimal index ++ "] is not a node"
  | nestedProgram => "nested Program"
  | tooDeep => "nesting deeper than " ++ Text.decimal maxDepth
  | malformed tree defect => defect.message tree
  | incomparable => "ranges cannot be compared"

/-- Why a text is not the document of a file's tree. -/
inductive Error where
  | unknownFile (id : FileId)
  | notJson (path : Text) (e : Json.SyntaxError)
  | notProgram (path : Text)
  | invalid (path : Text) (fault : Fault)

def Error.message : Error → Text
  | unknownFile id => "estree: unknown file " ++ Text.decimal id.toNat
  | notJson path e => "estree: " ++ path ++ ": " ++ e.message
  | notProgram path => "estree: root is not a Program (" ++ path ++ ")"
  | invalid path fault => "estree: " ++ path ++ ": " ++ fault.message

end Document
end TreeLint
