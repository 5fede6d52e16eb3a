import TreeLint.Source.Span
import TreeLint.Text.Quoted

/-! # Tokens of a script

A script is cut into blanks, comments and tokens.  Each step looks only at what is
left of the text and takes at least one byte, so the tokens and comments stand in
order and what lies between them is blank. -/

namespace TreeLint.Script

open Text (byte isDigit isLetter startsWith)

inductive TokenKind where
  /-- The end of the text. -/
  | eof
  /-- Identifiers and reserved words. -/
  | word
  | string
  | number
  /-- A template literal with all it holds. -/
  | template
  | punctuator
  deriving DecidableEq, Repr, Inhabited

/-- A token with its text; the value is that of a string. -/
structure Token where
  kind : TokenKind
  text : Text
  value : Text
  start : UInt32
  stop : UInt32
  deriving DecidableEq, Repr, Inhabited

/-- Whether a token is the given word or punctuator. -/
def Token.spells (t : Token) (text : Text) : Bool :=
  (t.kind == .punctuator || t.kind == .word) && t.text == text

/-- The punctuators, longer ones before their beginnings. -/
def punctuators : List Text := List.map utf8 [
  "...", "===", "!==",
  "=>", "==", "!=", "<=", ">=", "&&", "||", "??", "?.", "++", "--", "+=", "-=", "*=", "/=",
  "\x7b", "\x7d", "(", ")", "[", "]", ";", ",", ".", ":", "?", "=", "<", ">",
  "+", "-", "*", "/", "%", "!", "&", "|", "^", "~", "@"]

/-- Letters, the underscore, the dollar sign and every byte outside ASCII. -/
def isWordStart (b : UInt8) : Bool :=
  b == byte '_' || b == byte '$' || isLetter b || b ≥ 0x80

def isWordPart (b : UInt8) : Bool := isWordStart b || isDigit b

def isBlank (b : UInt8) : Bool := b == 32 || b == 9 || b == 13 || b == 10

/-- Why a text is not a sequence of tokens. -/
inductive LexicalProblem where
  | unterminatedComment
  | unterminatedString
  | newlineInString
  | unterminatedTemplate
  | unexpectedCharacter (b : UInt8)
  deriving DecidableEq, Repr

def LexicalProblem.message : LexicalProblem → Text
  | unterminatedComment => "unterminated comment"
  | unterminatedString => "unterminated string"
  | newlineInString => "newline in string"
  | unterminatedTemplate => "unterminated template"
  | unexpectedCharacter b => "unexpected character " ++ Quoted.encodeByte b

/-- The number of bytes of a string after its opening quote, the closing quote
included.  A backslash takes the byte after it along. -/
def stringLength (quote : UInt8) : Text → Except LexicalProblem Nat
  | [] => .error .unterminatedString
  | b :: rest =>
    if b == byte '\\' then
      match rest with
      | [] => .error .unterminatedString
      | _ :: rest => (stringLength quote rest).map (· + 2)
    else if b == 10 then .error .newlineInString
    else if b == quote then .ok 1
    else (stringLength quote rest).map (· + 1)

/-- The number of bytes of a template after its opening mark, the closing one
included. -/
def templateLength : Text → Except LexicalProblem Nat
  | [] => .error .unterminatedTemplate
  | b :: rest =>
    if b == byte '\\' then
      match rest with
      | [] => .error .unterminatedTemplate
      | _ :: rest => (templateLength rest).map (· + 2)
    else if b == 96 then .ok 1
    else (templateLength rest).map (· + 1)

/-- What one step of cutting a script finds. -/
inductive Lexeme where
  | blank
  | comment
  | token (kind : TokenKind)
  deriving DecidableEq, Repr

/-- Cuts off a comment that starts with the bytes `/` and `second`. -/
def comment? (second : UInt8) (rest : Text) : Option (Except LexicalProblem (Lexeme × Nat)) :=
  if second == byte '/' then some (.ok (.comment, 2 + (rest.takeWhile (· != 10)).length))
  else if second == byte '*' then
    match Text.cut? "*/" rest with
    | some (body, _) => some (.ok (.comment, body.length + 4))
    | none => some (.error .unterminatedComment)
  else none

def nextToken (b : UInt8) (rest : Text) : Except LexicalProblem (Lexeme × Nat) :=
  if isWordStart b then .ok (.token .word, 1 + (rest.takeWhile isWordPart).length)
  else if isDigit b || (b == byte '.' && rest.head?.any isDigit) then
    .ok (.token .number, 1 + (rest.takeWhile fun c => isWordPart c || c == byte '.').length)
  else if b == byte '\'' || b == byte '"' then
    (stringLength b rest).map fun n => (.token .string, 1 + n)
  else if b == 96 then (templateLength rest).map fun n => (.token .template, 1 + n)
  else
    match punctuators.find? (startsWith (b :: rest)) with
    | some p => .ok (.token .punctuator, p.length)
    | none => .error (.unexpectedCharacter b)

/-- What stands at the start of the text `b :: rest`, and its length. -/
def next (b : UInt8) (rest : Text) : Except LexicalProblem (Lexeme × Nat) :=
  if isBlank b then .ok (.blank, 1)
  else
    let comment? :=
      match rest with
      | second :: rest => if b == byte '/' then comment? second rest else none
      | [] => none
    comment?.getD (nextToken b rest)

/-- The value of a string literal.  Single-quoted text is read as if its quotes were
double, and text that does not read as an escaped string counts as it is. -/
def stringValue (raw : Text) : Text :=
  let body := raw.drop 1 |>.dropLast
  if !body.contains (byte '\\') then body
  else
    let body :=
      if raw.head? == some (byte '\'') then Text.replace (Text.replace body "\\'" "'") "\"" "\\\""
      else body
    (Quoted.decode? body).getD body

/-- The token of a kind with a text that starts at an offset. -/
def Token.ofText (kind : TokenKind) (text : Text) (offset : Nat) : Token :=
  { kind, text
    value := if kind = .string then stringValue text else []
    start := offset.toUInt32
    stop := (offset + text.length).toUInt32 }

/-- The tokens of a script, the last of which marks its end, and its comments. -/
structure Tokens where
  tokens : List Token
  comments : List Span
  deriving Repr

/-- A lexical problem and where the text that causes it starts. -/
structure LexicalError where
  offset : Nat
  problem : LexicalProblem
  deriving DecidableEq, Repr

def LexicalError.message (e : LexicalError) : Text :=
  "offset " ++ Text.decimal e.offset ++ ": " ++ e.problem.message

/-- Cuts the rest of a script, which starts at `offset`, into tokens. -/
def tokensFrom (file : FileId) (offset : Nat) : Text → Except LexicalError Tokens
  | [] => .ok ⟨[.ofText .eof [] offset], []⟩
  | b :: rest =>
    match next b rest with
    | .error problem => .error ⟨offset, problem⟩
    | .ok (lexeme, length) =>
      match tokensFrom file (offset + 1 + (length - 1)) (rest.drop (length - 1)) with
      | .error e => .error e
      | .ok more =>
        match lexeme with
        | .blank => .ok more
        | .comment =>
          let span : Span := ⟨file, offset.toUInt32, (offset + length).toUInt32⟩
          .ok { more with comments := span :: more.comments }
        | .token kind =>
          let token := Token.ofText kind (b :: rest.take (length - 1)) offset
          .ok { more with tokens := token :: more.tokens }
termination_by t => t.length
decreasing_by
  simp only [List.length_drop, List.length_cons]
  omega

def tokenize (file : FileId) (source : Text) : Except LexicalError Tokens :=
  tokensFrom file 0 source

end TreeLint.Script
