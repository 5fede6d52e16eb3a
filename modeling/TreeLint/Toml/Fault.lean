import TreeLint.Text.Quoted
import TreeLint.Toml.Value

/-! # What can be wrong with a TOML document

Each fault has a cause, and most causes hold what was found where something else was
expected.  Where nothing is left to read, the character with the number zero stands for
the end. -/

namespace TreeLint.Toml

/-- The number systems of integers with a base. -/
inductive Base where
  | binary | octal | hexadecimal
  deriving DecidableEq, Repr

inductive Quoting where
  | plain | raw | lines | rawLines
  deriving DecidableEq, Repr

/-- Why a document cannot be read. -/
inductive Cause where
  /-- A zero byte among the first bytes. -/
  | zeroByte
  | control (code : Nat)
  | strayByte (b : UInt8)
  /-- Something follows a header or an entry on its line. -/
  | afterItem (found : Char)
  | noTableName
  | noNameBeforePoint
  | tableNameEnd (found : Char)
  | tablesNameEnd (found : Char)
  | noKey
  | leadingPointInKey
  /-- No part of a key before an equals sign, or before a point. -/
  | noKeyPart (before : Char)
  | keyEnd (found : Char)
  | keyWithoutValue
  | noValue
  | notValue (found : Char)
  | notValueWord (word : Text)
  | comma
  | trailingComma
  | arrayEnd (found : Option Char)
  | inlineEnd (found : Option Char)
  | lineEndInInline
  | lineEndInString
  | unclosedString (q : Quoting)
  | tooManyQuotes (q : Quoting)
  | escape (found : Char)
  | escapedBlank (found : Char)
  | escapeDigits (count : Nat) (soFar : Text)
  | escapedSurrogate (digits : Text)
  | noDigit (found : Char)
  | leadingPointInFloat
  | signedWord (word : Text)
  | signedBase (word : Text)
  | noDigitOf (base : Base) (word : Text)
  | integerUnderscores (word : Text)
  | integerZeros (word : Text)
  | integerRange (word : Text)
  | floatUnderscores (word : Text)
  | floatZeros (word : Text)
  | floatPoints (word : Text)
  | floatRange (word : Text)
  | notFloat (word : Text)
  | notDatetime (word : Text)
  /-- A path leads through something that is no table. -/
  | passesValue (key : Key)
  | notTables (key : Key)
  | defined (key : Key)
  deriving Repr

namespace Cause

/-- What was found, where the end has a name of its own. -/
def found : Option Char → Text
  | some c => "'" ++ Utf8.encode c ++ "'"
  | none => "end of file"

def baseName : Base → Text
  | .binary => "a binary"
  | .octal => "an octal"
  | .hexadecimal => "a hexidecimal"

def quotes : Quoting → Text
  | .plain => "'\"'"
  | .raw => "\"'\""
  | .lines => "'\"\"\"'"
  | .rawLines => "\"'''\""

def sixQuotes : Quoting → Text
  | .plain | .lines => "'\"\"\"\"\"\"'"
  | .raw | .rawLines => "\"''''''\""

def instead (c : Char) : Text := ", but got " ++ Quoted.encodeChar c ++ " instead"

def invalidInteger (word : Text) : Text := "Invalid integer " ++ Quoted.encode word ++ ": "

def invalidFloat (word : Text) : Text := "Invalid float " ++ Quoted.encode word ++ ": "

def message : Cause → Text
  | zeroByte =>
    "files cannot contain NULL bytes; probably using UTF-16; TOML files must be UTF-8"
  | control code => "TOML files cannot contain control characters: '0x" ++ Text.hex 2 code ++ "'"
  | strayByte b => "invalid UTF-8 byte: 0x" ++ Text.hex 2 b.toNat
  | afterItem c =>
    "expected a top-level item to end with a newline, comment, or EOF" ++ instead c
  | noTableName => "unexpected end of table name (table names cannot be empty)"
  | noNameBeforePoint => "unexpected table separator (table names cannot be empty)"
  | tableNameEnd c => "expected '.' or ']' to end table name" ++ instead c
  | tablesNameEnd c => "expected end of table array name delimiter ']'" ++ instead c
  | noKey => "unexpected '=': key name appears blank"
  | leadingPointInKey => "unexpected '.': keys cannot start with a '.'"
  | noKeyPart c => "unexpected " ++ found (some c)
  | keyEnd c => "expected '.' or '='" ++ instead c
  | keyWithoutValue => "unexpected EOF; expected key separator '='"
  | noValue => "unexpected EOF; expected value"
  | notValue c => "expected value but found " ++ Quoted.encodeChar c ++ " instead"
  | notValueWord word => "expected value but found " ++ Quoted.encode word ++ " instead"
  | comma => "unexpected comma"
  | trailingComma => "trailing comma not allowed in inline tables"
  | arrayEnd c => "expected a comma (',') or array terminator (']'), but got " ++ found c
  | inlineEnd c =>
    "expected a comma or an inline table terminator '\x7d', but got " ++ found c ++ " instead"
  | lineEndInInline => "newlines not allowed within inline tables"
  | lineEndInString => "strings cannot contain newlines"
  | unclosedString q => "unexpected EOF; expected " ++ quotes q
  | tooManyQuotes q => "unexpected " ++ sixQuotes q
  | escape c => "invalid escape in string '\\" ++ Utf8.encode c ++ "'"
  | escapedBlank c => "invalid escape: '\\" ++ Utf8.encode c ++ "'"
  | escapeDigits count soFar =>
    let (number, letter) : Text × Text := if count == 4 then ("four", "u") else ("eight", "U")
    "expected " ++ number ++ " hexadecimal digits after '\\" ++ letter ++ "', but got "
      ++ Quoted.encode soFar ++ " instead"
  | escapedSurrogate digits => "Escaped character '\\u" ++ digits ++ "' is not valid UTF-8."
  | noDigit c => "expected a digit but got " ++ Quoted.encodeChar c
  | leadingPointInFloat => "floats must start with a digit, not '.'"
  | signedWord word => "invalid float: '" ++ word ++ "'"
  | signedBase word => "cannot use sign with non-decimal numbers: '" ++ word ++ "'"
  | noDigitOf base word => "not " ++ baseName base ++ " number: '" ++ word ++ "'"
  | integerUnderscores word => invalidInteger word ++ "underscores must be surrounded by digits"
  | integerZeros word => invalidInteger word ++ "cannot have leading zeroes"
  | integerRange word => word ++ " is out of range for int64"
  | floatUnderscores word => invalidFloat word ++ "underscores must be surrounded by digits"
  | floatZeros word => invalidFloat word ++ "cannot have leading zeroes"
  | floatPoints word => invalidFloat word ++ "'.' must be followed by one or more digits"
  | floatRange word => word ++ " is out of range for float64"
  | notFloat word => "Invalid float value: " ++ Quoted.encode word
  | notDatetime word => "Invalid TOML Datetime: " ++ Quoted.encode word ++ "."
  | passesValue key => "Key '" ++ key.written ++ "' was already created as a hash."
  | notTables key =>
    "Key '" ++ key.written ++ "' was already created and cannot be used as an array."
  | defined key => "Key '" ++ key.written ++ "' has already been defined."

end Cause

/-- A cause and the line it was found on. -/
structure Fault where
  line : Nat
  cause : Cause
  deriving Repr

/-- Why a text is no document, and the key that was read last. -/
structure SyntaxError where
  fault : Fault
  lastKey : Text
  deriving Repr

def SyntaxError.place (e : SyntaxError) : Text :=
  if e.lastKey.isEmpty then [] else " (last key " ++ Quoted.encode e.lastKey ++ ")"

def SyntaxError.message (e : SyntaxError) : Text :=
  "toml: line " ++ Text.decimal e.fault.line ++ e.place ++ ": " ++ e.fault.cause.message

end TreeLint.Toml
