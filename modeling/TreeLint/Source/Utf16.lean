import TreeLint.Text.Utf8

/-! # UTF-16 offsets

Tools that hold their source as UTF-16 count offsets in code units.  The index maps
such an offset to the offset in bytes.  Both units of a surrogate pair map to the
start of their character, and a stray byte counts as one unit. -/

namespace TreeLint

/-- Maps UTF-16 offsets of one text to byte offsets. -/
inductive Utf16Index where
  /-- In a text of ASCII alone the two kinds of offset agree. -/
  | ascii (size : Nat)
  /-- The byte offset of each unit, and of the end. -/
  | table (offsets : Array Nat)
  deriving Repr

namespace Utf16Index

def units (p : Utf8.Piece) : Nat := if p.code < 0x10000 then 1 else 2

/-- The byte offset of every unit of the pieces, which begin at `offset`, and of
their end. -/
def unitOffsets (offset : Nat) : List Utf8.Piece → List Nat
  | [] => [offset]
  | p :: ps => List.replicate (units p) offset ++ unitOffsets (offset + p.width) ps

def ofText (content : Text) : Utf16Index :=
  if content.all (· < 0x80) then ascii content.length
  else table (unitOffsets 0 (Utf8.pieces content)).toArray

def size : Utf16Index → Nat
  | ascii size => size
  | table offsets => offsets.size - 1

def byteOffset? (index : Utf16Index) (unit : Nat) : Option Nat :=
  match index with
  | ascii size => if unit ≤ size then some unit else none
  | table offsets => offsets[unit]?

def outOfRange (index : Utf16Index) (unit : Nat) : Text :=
  "offset " ++ Text.decimal unit ++ " out of range (size " ++ Text.decimal index.size ++ ")"

end Utf16Index
end TreeLint
