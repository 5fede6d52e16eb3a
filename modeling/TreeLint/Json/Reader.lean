import TreeLint.Json
import TreeLint.Text.Quoted
import TreeLint.Text.Utf8

/-! # Reading JSON

Reads the first JSON value of a text; what follows it is not looked at.  Of two
fields with one name the later counts.  Inside strings a stray byte and a lone
surrogate escape read as the replacement character.  A text that is no JSON is
refused at the first byte that cannot continue a value. -/

namespace TreeLint.Json

open Text (byte hexDigit? isDigit)

/-- Where in a value a byte is out of place. -/
inductive Place where
  | value | key | afterKey | afterField | afterItem
  | string | escape | unicodeEscape
  | number | fraction | exponent
  /-- In a word, where the byte `wanted` should be. -/
  | word (w : Text) (wanted : UInt8)
  /-- At the bracket of a value that nests too deep. -/
  | depth
  deriving DecidableEq, Repr

def Place.describe : Place → Text
  | value => "looking for beginning of value"
  | key => "looking for beginning of object key string"
  | afterKey => "after object key"
  | afterField => "after object key:value pair"
  | afterItem => "after array element"
  | string => "in string literal"
  | escape => "in string escape code"
  | unicodeEscape => "in \\u hexadecimal character escape"
  | number => "in numeric literal"
  | fraction => "after decimal point in numeric literal"
  | exponent => "in exponent of numeric literal"
  | word w wanted => "in literal " ++ w ++ " (expecting '" ++ [wanted] ++ "')"
  | depth => "exceeded max depth"

/-- Why a text does not begin with a JSON value. -/
inductive SyntaxError where
  /-- The text is over before anything but blanks was found. -/
  | nothing
  /-- The text is over in the middle of a value. -/
  | cutOff
  | stray (b : UInt8) (place : Place)
  deriving DecidableEq, Repr

def SyntaxError.message : SyntaxError → Text
  | nothing => "EOF"
  | cutOff => "unexpected EOF"
  | stray b place => "invalid character " ++ Quoted.encodeByte b ++ " " ++ place.describe

/-- What reading a part gives: the part and the text after it. -/
abbrev Read (α : Type) := Except SyntaxError (α × Text)

def refuse {α : Type} (place : Place) : Text → Read α
  | [] => .error .cutOff
  | b :: _ => .error (.stray b place)

/-- Deeper nesting than this is refused. -/
def maxDepth : Nat := 10000

def isBlank (b : UInt8) : Bool := b == 32 || b == 9 || b == 10 || b == 13

def skipBlank (t : Text) : Text := t.dropWhile isBlank

/-- The number written by `n` more hexadecimal digits after those that make `value`. -/
def hexDigits : (n value : Nat) → Text → Read Nat
  | 0, value, t => .ok (value, t)
  | _ + 1, _, [] => refuse .unicodeEscape []
  | n + 1, value, b :: t =>
    match hexDigit? b with
    | some d => hexDigits n (value * 16 + d) t
    | none => refuse .unicodeEscape (b :: t)

def isHighSurrogate (n : Nat) : Bool := 0xD800 ≤ n && n < 0xDC00

def isLowSurrogate (n : Nat) : Bool := 0xDC00 ≤ n && n < 0xE000

/-- The escape for the second half of a surrogate pair, and what follows it. -/
def lowHalf? (t : Text) : Option (Nat × Text) :=
  match Text.afterHead? "\\u" t with
  | some t =>
    match hexDigits 4 0 t with
    | .ok (n, rest) => if isLowSurrogate n then some (n, rest) else none
    | .error _ => none
  | none => none

/-- The character of a `\u` escape with number `n`, and what follows it: two escapes
may form one character. -/
def unicodeEscape (n : Nat) (t : Text) : Text × Text :=
  if isHighSurrogate n then
    match lowHalf? t with
    | some (m, rest) =>
      (Utf8.encode (Char.ofNat (0x10000 + (n - 0xD800) * 1024 + (m - 0xDC00))), rest)
    | none => (Utf8.encode Utf8.replacement, t)
  else if isLowSurrogate n then (Utf8.encode Utf8.replacement, t)
  else (Utf8.encode (Char.ofNat n), t)

def escape : Text → Read Text
  | [] => refuse .escape []
  | b :: t =>
    match Char.ofNat b.toNat with
    | '"' => .ok ([34], t)
    | '\\' => .ok ([92], t)
    | '/' => .ok ([47], t)
    | 'b' => .ok ([8], t)
    | 'f' => .ok ([12], t)
    | 'n' => .ok ([10], t)
    | 'r' => .ok ([13], t)
    | 't' => .ok ([9], t)
    | 'u' => (hexDigits 4 0 t).map fun (n, rest) => unicodeEscape n rest
    | _ => refuse .escape (b :: t)

/-- Reads the rest of a string after its opening quote; `acc` holds what was read so
far, in reverse. -/
def stringBody : (fuel : Nat) → (acc : Text) → Text → Read Text
  | 0, _, _ => .error .cutOff
  | _ + 1, _, [] => .error .cutOff
  | fuel + 1, acc, b :: t =>
    if b == 34 then .ok (acc.reverse, t)
    else if b < 32 then refuse .string (b :: t)
    else if b == 92 then
      match escape t with
      | .ok (value, rest) => stringBody fuel (value.reverse ++ acc) rest
      | .error e => .error e
    else
      let (p, rest) := Utf8.split b t
      stringBody fuel ((Utf8.encode p.toChar).reverse ++ acc) rest

def digits (place : Place) (t : Text) : Read Text :=
  let ds := t.takeWhile isDigit
  if ds.isEmpty then refuse place t else .ok (ds, t.drop ds.length)

/-- The whole part of a number: no digit follows a leading zero. -/
def wholePart (place : Place) (t : Text) : Read Text :=
  match t with
  | 48 :: rest => .ok ([48], rest)
  | _ => digits place t

/-- The part of a number after a decimal point, if there is a point. -/
def fraction (t : Text) : Read Text :=
  match t with
  | 46 :: rest => (digits .fraction rest).map fun (ds, rest) => (46 :: ds, rest)
  | _ => .ok ([], t)

def exponent (t : Text) : Read Text :=
  match t with
  | e :: rest =>
    if e == byte 'e' || e == byte 'E' then
      match rest with
      | s :: more =>
        if s == byte '+' || s == byte '-' then
          (digits .exponent more).map fun (ds, rest) => (e :: s :: ds, rest)
        else (digits .exponent rest).map fun (ds, rest) => (e :: ds, rest)
      | [] => refuse .exponent []
    else .ok ([], t)
  | [] => .ok ([], [])

def numberText (t : Text) : Except SyntaxError (Text × Text) := do
  let (sign, place, t) : Text × Place × Text := match t with
    | 45 :: rest => ([45], .number, rest)
    | _ => ([], .value, t)
  let (whole, t) ← wholePart place t
  let (fraction, t) ← fraction t
  let (exponent, t) ← exponent t
  return (sign ++ whole ++ fraction ++ exponent, t)

def wordRest {α : Type} (w : Text) (value : α) : (left : Text) → Text → Read α
  | [], t => .ok (value, t)
  | b :: _, [] => refuse (.word w b) []
  | b :: left, c :: t =>
    if b == c then wordRest w value left t else refuse (.word w b) (c :: t)

/-- Adds a field, in place of an earlier one with the same name. -/
def insertField (fields : List (Text × Json)) (key : Text) (value : Json) :
    List (Text × Json) :=
  if fields.any (·.1 == key) then
    fields.map fun (k, v) => if k == key then (k, value) else (k, v)
  else (key, value) :: fields

mutual

def value : (fuel depth : Nat) → Text → Read Json
  | 0, _, _ => .error .cutOff
  | fuel + 1, depth, t =>
    match skipBlank t with
    | [] => .error .cutOff
    | b :: t =>
      match Char.ofNat b.toNat with
      | '{' =>
        if depth ≥ maxDepth then .error (.stray b .depth)
        else
          match skipBlank t with
          | 125 :: rest => .ok (object [], rest)
          | t => (fields fuel (depth + 1) [] t).map fun (fs, rest) => (object fs, rest)
      | '[' =>
        if depth ≥ maxDepth then .error (.stray b .depth)
        else
          match skipBlank t with
          | 93 :: rest => .ok (array [], rest)
          | t => (items fuel (depth + 1) [] t).map fun (items, rest) => (array items, rest)
      | '"' => (stringBody (t.length + 1) [] t).map fun (s, rest) => (string s, rest)
      | 't' => wordRest "true" (bool true) "rue" t
      | 'f' => wordRest "false" (bool false) "alse" t
      | 'n' => wordRest "null" null "ull" t
      | _ => (numberText (b :: t)).map fun (digits, rest) => (number digits, rest)

def items : (fuel depth : Nat) → (acc : List Json) → Text → Read (List Json)
  | 0, _, _, _ => .error .cutOff
  | fuel + 1, depth, acc, t =>
    match value fuel depth t with
    | .error e => .error e
    | .ok (item, t) =>
      match skipBlank t with
      | 44 :: t => items fuel depth (item :: acc) t
      | 93 :: t => .ok ((item :: acc).reverse, t)
      | t => refuse .afterItem t

def fields : (fuel depth : Nat) → (acc : List (Text × Json)) → Text →
    Read (List (Text × Json))
  | 0, _, _, _ => .error .cutOff
  | fuel + 1, depth, acc, t =>
    match skipBlank t with
    | 34 :: t =>
      match stringBody (t.length + 1) [] t with
      | .error e => .error e
      | .ok (key, t) =>
        match skipBlank t with
        | 58 :: t =>
          match value fuel depth t with
          | .error e => .error e
          | .ok (value, t) =>
            match skipBlank t with
            | 44 :: t => fields fuel depth (insertField acc key value) t
            | 125 :: t => .ok ((insertField acc key value).reverse, t)
            | t => refuse .afterField t
        | t => refuse .afterKey t
    | t => refuse .key t

end

def read (t : Text) : Except SyntaxError Json :=
  if t.all isBlank then .error .nothing else (value (t.length + 1) 0 t).map (·.1)

end TreeLint.Json
