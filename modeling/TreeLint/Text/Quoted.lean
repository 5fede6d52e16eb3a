import TreeLint.Text.Utf8
import TreeLint.Text.Printable

/-! # Quoted texts

Messages show foreign text between quotes, with the quote, the backslash and all
that is not printable escaped.  Reading such a text back is the inverse, and also
accepts escapes that writing never uses. -/

namespace TreeLint.Quoted

open Text (byte hex hexDigit?)

def shortEscape? (c : Nat) : Option Char :=
  match c with
  | 7 => some 'a'
  | 8 => some 'b'
  | 9 => some 't'
  | 10 => some 'n'
  | 11 => some 'v'
  | 12 => some 'f'
  | 13 => some 'r'
  | _ => none

def escapeChar (quote : Char) (c : Char) : Text :=
  if c == quote || c == '\\' then "\\" ++ Utf8.encode c
  else if Printable.isPrintable c.toNat then Utf8.encode c
  else
    match shortEscape? c.toNat with
    | some e => "\\" ++ Utf8.encode e
    | none =>
      if c.toNat < 0x20 || c.toNat == 0x7F then "\\x" ++ hex 2 c.toNat
      else if c.toNat < 0x10000 then "\\u" ++ hex 4 c.toNat
      else "\\U" ++ hex 8 c.toNat

/-- A piece of text as it stands inside the given quotes: a stray byte is shown by
its number. -/
def escapePiece (quote : Char) : Utf8.Piece → Text
  | .char c => escapeChar quote c
  | .stray b => "\\x" ++ hex 2 b.toNat

def encode (t : Text) : Text :=
  "\"" ++ (Utf8.pieces t).flatMap (escapePiece '"') ++ "\""

def encodeChar (c : Char) : Text := "'" ++ escapeChar '\'' c ++ "'"

/-- The character with the number of a byte, between single quotes. -/
def encodeByte (b : UInt8) : Text := encodeChar (Char.ofNat b.toNat)

/-- The number written by exactly `n` hexadecimal digits, and what follows them. -/
def hexNumber? : (n acc : Nat) → Text → Option (Nat × Text)
  | 0, acc, t => some (acc, t)
  | _ + 1, _, [] => none
  | n + 1, acc, b :: t =>
    match hexDigit? b with
    | some d => hexNumber? n (acc * 16 + d) t
    | none => none

def codePoint? (n : Nat) : Option Text :=
  if h : n.isValidChar then some (Utf8.encode (Char.ofNatAux n h)) else none

def octalDigit? (b : UInt8) : Option Nat :=
  if 48 ≤ b && b ≤ 55 then some (b.toNat - 48) else none

/-- Reads the escape after a backslash inside double quotes. -/
def unescape? : Text → Option (Text × Text)
  | [] => none
  | b :: t =>
    match Char.ofNat b.toNat with
    | 'a' => some ([7], t)
    | 'b' => some ([8], t)
    | 'f' => some ([12], t)
    | 'n' => some ([10], t)
    | 'r' => some ([13], t)
    | 't' => some ([9], t)
    | 'v' => some ([11], t)
    | '\\' => some ([92], t)
    | '"' => some ([34], t)
    | 'x' => (hexNumber? 2 0 t).map fun (n, r) => ([n.toUInt8], r)
    | 'u' =>
      match hexNumber? 4 0 t with
      | some (n, r) => (codePoint? n).map (·, r)
      | none => none
    | 'U' =>
      match hexNumber? 8 0 t with
      | some (n, r) => (codePoint? n).map (·, r)
      | none => none
    | _ =>
      match octalDigit? b, t with
      | some a, b1 :: b2 :: r =>
        match octalDigit? b1, octalDigit? b2 with
        | some c, some d =>
          let n := (a * 8 + c) * 8 + d
          if n > 255 then none else some ([n.toUInt8], r)
        | _, _ => none
      | _, _ => none

/-- The value of the text between double quotes, `fuel` pieces of it at most.  A
bare quote or newline is refused, and a stray byte reads as the replacement
character. -/
def decodeBody : (fuel : Nat) → Text → Option Text
  | _, [] => some []
  | 0, _ :: _ => none
  | fuel + 1, b :: t =>
    if b == 34 || b == 10 then none
    else if b == 92 then
      match unescape? t with
      | some (value, r) => (decodeBody fuel r).map (value ++ ·)
      | none => none
    else
      let (p, r) := Utf8.split b t
      (decodeBody fuel r).map (Utf8.encode p.toChar ++ ·)

def decode? (body : Text) : Option Text := decodeBody body.length body

end TreeLint.Quoted
