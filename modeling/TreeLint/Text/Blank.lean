import TreeLint.Text.Utf8

/-! # White space

The characters with the property White_Space, and trimming by them. -/

namespace TreeLint.Text

/-- Whether a code point has the property White_Space. -/
def isBlankCode (c : Nat) : Bool :=
  (0x09 ≤ c && c ≤ 0x0D) || c == 0x20 || c == 0x85 || c == 0xA0 || c == 0x1680
    || (0x2000 ≤ c && c ≤ 0x200A) || c == 0x2028 || c == 0x2029 || c == 0x202F
    || c == 0x205F || c == 0x3000

/-- Whether a piece of text is white space; a stray byte never is. -/
def isBlank : Utf8.Piece → Bool
  | .char c => isBlankCode c.toNat
  | .stray _ => false

def trimLeft (t : Text) : Text := Utf8.concat ((Utf8.pieces t).dropWhile isBlank)

def trimRight (t : Text) : Text :=
  Utf8.concat ((Utf8.pieces t).reverse.dropWhile isBlank).reverse

def trim (t : Text) : Text := trimRight (trimLeft t)

end TreeLint.Text
