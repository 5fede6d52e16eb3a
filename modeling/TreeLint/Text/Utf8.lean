import TreeLint.Text

/-! # UTF-8

A byte text read as UTF-8 is a list of pieces: characters, and single bytes that
belong to no well-formed sequence.  The concatenation of the pieces is always the
text itself, so a function on pieces loses nothing. -/

namespace TreeLint.Utf8

/-- One step of reading a byte text as UTF-8. -/
inductive Piece where
  | char (c : Char)
  /-- A byte that starts no well-formed sequence. -/
  | stray (b : UInt8)
  deriving DecidableEq, Repr, Inhabited

/-- The replacement character stands for a stray byte wherever a code point is asked for. -/
def replacement : Char := Char.ofNat 0xFFFD

namespace Piece

/-- The character, with the replacement character for a stray byte. -/
def toChar : Piece → Char
  | char c => c
  | stray _ => replacement

def code (p : Piece) : Nat := p.toChar.toNat

def bytes : Piece → Text
  | char c => String.utf8EncodeChar c
  | stray b => [b]

def width (p : Piece) : Nat := p.bytes.length

end Piece

/-- A continuation byte. -/
def isTail (b : UInt8) : Bool := 0x80 ≤ b && b ≤ 0xBF

/-- Whether `b` may follow the lead byte of a sequence of three or four bytes: the
shortest form is required, and surrogates and numbers past U+10FFFF are excluded. -/
def isSecond (lead b : UInt8) : Bool :=
  if lead == 0xE0 then 0xA0 ≤ b && b ≤ 0xBF
  else if lead == 0xED then 0x80 ≤ b && b ≤ 0x9F
  else if lead == 0xF0 then 0x90 ≤ b && b ≤ 0xBF
  else if lead == 0xF4 then 0x80 ≤ b && b ≤ 0x8F
  else isTail b

def low (b : UInt8) : Nat := b.toNat % 64

/-- Reads the piece that starts with byte `b`, and what follows it. -/
def split (b : UInt8) (rest : Text) : Piece × Text :=
  if b < 0x80 then (.char (Char.ofNat b.toNat), rest)
  else if 0xC2 ≤ b && b ≤ 0xDF then
    match rest with
    | b1 :: r =>
      if isTail b1 then (.char (Char.ofNat (b.toNat % 32 * 64 + low b1)), r) else (.stray b, rest)
    | [] => (.stray b, rest)
  else if 0xE0 ≤ b && b ≤ 0xEF then
    match rest with
    | b1 :: b2 :: r =>
      if isSecond b b1 && isTail b2 then
        (.char (Char.ofNat ((b.toNat % 16 * 64 + low b1) * 64 + low b2)), r)
      else (.stray b, rest)
    | _ => (.stray b, rest)
  else if 0xF0 ≤ b && b ≤ 0xF4 then
    match rest with
    | b1 :: b2 :: b3 :: r =>
      if isSecond b b1 && isTail b2 && isTail b3 then
        (.char (Char.ofNat (((b.toNat % 8 * 64 + low b1) * 64 + low b2) * 64 + low b3)), r)
      else (.stray b, rest)
    | _ => (.stray b, rest)
  else (.stray b, rest)

theorem split_length_le (b : UInt8) (rest : Text) : (split b rest).2.length ≤ rest.length := by
  unfold split
  repeat' split
  all_goals simp_all <;> omega

def pieces : Text → List Piece
  | [] => []
  | b :: rest => (split b rest).1 :: pieces (split b rest).2
termination_by t => t.length
decreasing_by
  have := split_length_le b rest
  simp only [List.length_cons]
  omega

def concat (ps : List Piece) : Text := ps.flatMap Piece.bytes

def encode (c : Char) : Text := String.utf8EncodeChar c

def isValid (t : Text) : Bool :=
  (pieces t).all fun | .char _ => true | .stray _ => false

/-- The characters of a text, the replacement character standing for stray bytes. -/
def chars (t : Text) : List Char := (pieces t).map Piece.toChar

/-- The text with every stray byte replaced by the replacement character. -/
def repaired (t : Text) : Text := (chars t).flatMap encode

def count (t : Text) : Nat := (pieces t).length

/-- The pieces of a text together with the offset each one starts at. -/
def located (t : Text) : List (Nat × Piece) := go 0 (pieces t)
where
  go (off : Nat) : List Piece → List (Nat × Piece)
    | [] => []
    | p :: ps => (off, p) :: go (off + p.width) ps

end TreeLint.Utf8
