import TreeLint.Json
import TreeLint.Text.Utf8

/-! # Writing JSON

Values are written on one line or indented.  Strings escape what JSON requires
and, in documents meant to be embedded in markup, also angle brackets, the
ampersand and the two line separators. -/

namespace TreeLint.Json

open Text (hex)

/-- What a writer escapes beyond the quote, the backslash and control characters. -/
structure Escapes where
  /-- Angle brackets and the ampersand, so that the text can stand in markup. -/
  markup : Bool

def escapePiece (e : Escapes) : Utf8.Piece → Text
  | .stray _ => "\\ufffd"
  | .char c =>
    match c with
    | '"' => "\\\""
    | '\\' => "\\\\"
    | '\n' => "\\n"
    | '\r' => "\\r"
    | '\t' => "\\t"
    | _ =>
      let n := c.toNat
      if n == 8 then "\\b"
      else if n == 12 then "\\f"
      else if n < 32 || n == 0x2028 || n == 0x2029 then "\\u" ++ hex 4 n
      else if e.markup && (c == '<' || c == '>' || c == '&') then "\\u" ++ hex 4 n
      else Utf8.encode c

def quote (e : Escapes) (t : Text) : Text :=
  "\"" ++ (Utf8.pieces t).flatMap (escapePiece e) ++ "\""

mutual

def compact (e : Escapes) : Json → Text
  | null => "null"
  | bool b => if b then "true" else "false"
  | number digits => digits
  | string t => quote e t
  | array items => "[" ++ compactItems e items ++ "]"
  | object fields => "\x7b" ++ compactFields e fields ++ "\x7d"

def compactItems (e : Escapes) : List Json → Text
  | [] => []
  | [j] => compact e j
  | j :: k :: js => compact e j ++ "," ++ compactItems e (k :: js)

def compactFields (e : Escapes) : List (Text × Json) → Text
  | [] => []
  | [(key, j)] => quote e key ++ ":" ++ compact e j
  | (key, j) :: f :: fs => quote e key ++ ":" ++ compact e j ++ "," ++ compactFields e (f :: fs)

end

def newline (depth : Nat) : Text := 10 :: List.replicate (2 * depth) 32

mutual

/-- A value with one item or field per line, each level indented by two blanks. -/
def indented (e : Escapes) (depth : Nat) : Json → Text
  | null => "null"
  | bool b => if b then "true" else "false"
  | number digits => digits
  | string t => quote e t
  | array [] => "[]"
  | array (j :: js) =>
    "[" ++ newline (depth + 1) ++ indentedItems e (depth + 1) (j :: js) ++ newline depth ++ "]"
  | object [] => "\x7b\x7d"
  | object (f :: fs) =>
    "\x7b" ++ newline (depth + 1) ++ indentedFields e (depth + 1) (f :: fs) ++ newline depth
      ++ "\x7d"

def indentedItems (e : Escapes) (depth : Nat) : List Json → Text
  | [] => []
  | [j] => indented e depth j
  | j :: k :: js => indented e depth j ++ "," ++ newline depth ++ indentedItems e depth (k :: js)

def indentedFields (e : Escapes) (depth : Nat) : List (Text × Json) → Text
  | [] => []
  | [(key, j)] => quote e key ++ ": " ++ indented e depth j
  | (key, j) :: f :: fs =>
    quote e key ++ ": " ++ indented e depth j ++ "," ++ newline depth
      ++ indentedFields e depth (f :: fs)

end

/-- The indented form used for reports, ending in a line break. -/
def report (j : Json) : Text := indented ⟨true⟩ 0 j ++ "\n"

end TreeLint.Json
