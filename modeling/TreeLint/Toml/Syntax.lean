import TreeLint.Text.GeneralCategory
import TreeLint.Toml.Number

/-! # The lines of a TOML document

Reading a document has two steps.  This is the first one: the text becomes a list of
headers and entries, each with the number of its line.  Whether they fit together is
not looked at here.  What cannot be read ends the list, and keeps its place in it: the
second step may find an earlier fault. -/

namespace TreeLint.Toml

open Text (byte isDigit hexDigit?)

inductive Literal where
  | scalar (value : Toml)
  | array (items : List Literal)
  /-- The entries of an inline table, each with its line, up to a fault if there is
  one. -/
  | inline (entries : List (Nat × Key × Literal)) (fault? : Option Fault)
  | broken (fault : Fault)
  deriving Inhabited, Repr

inductive Line where
  | table (line : Nat) (key : Key)
  /-- A header that adds one more table under its key. -/
  | tables (line : Nat) (key : Key)
  /-- An entry with its line and the line its value is on; a string is on the line it
  ends on. -/
  | entry (line : Nat) (key : Key) (valueLine : Nat) (value : Literal)
  | broken (fault : Fault)
  deriving Inhabited, Repr

/-- What is left to read, and the number of the line it begins on. -/
structure Cursor where
  rest : Text
  line : Nat
  /-- What is wrong with the byte after the rest; nothing at the end of the document. -/
  stop : Option Cause

/-- A reader takes what it reads from the rest, or finds a fault. -/
abbrev Reader := StateT Cursor (Except Fault)

namespace Reader

def fail {α : Type} (cause : Cause) : Reader α := fun c => .error ⟨c.line, cause⟩

/-- Fails with the line before the current one, which is where a line end or the end of
the document is told to be. -/
def failBefore {α : Type} (cause : Cause) : Reader α := fun c => .error ⟨c.line - 1, cause⟩

/-- Fails because of the character that was read last, or of the end. -/
def failAfter {α : Type} (found : Option Char) (cause : Char → Cause) : Reader α :=
  match found with
  | some c => fail (cause c)
  | none => failBefore (cause (Char.ofNat 0))

def lift {α : Type} : Except Cause α → Reader α
  | .ok a => pure a
  | .error cause => fail cause

/-- Fails if a byte that no document may hold comes next. -/
def look : Reader Unit := fun c =>
  match c.rest, c.stop with
  | [], some cause => .error ⟨c.line, cause⟩
  | _, _ => .ok ((), c)

def take (n : Nat) : Reader Text := fun c =>
  let t := c.rest.take n
  .ok (t, { c with rest := c.rest.drop n, line := c.line + t.count 10 })

/-- Takes bytes as long as they pass a test, and looks at what follows. -/
def takeWhile (p : UInt8 → Bool) : Reader Text := do
  let t ← take ((← get).rest.takeWhile p).length
  look
  return t

def peek? : Reader (Option Char) := do
  look
  match (← get).rest with
  | [] => return none
  | b :: rest => return some (Utf8.split b rest).1.toChar

def next? : Reader (Option Char) := do
  let c? ← peek?
  match c? with
  | some c => discard (take (Utf8.encode c).length)
  | none => pure ()
  return c?

/-- Takes a character if it comes next, and tells whether it did. -/
def accept (c : Char) : Reader Bool := do
  if (← peek?) == some c then
    discard (take 1)
    return true
  else return false

def lineNumber : Reader Nat := do return (← get).line

def since (start : Text) : Reader Text := do
  return start.take (start.length - (← get).rest.length)

end Reader

open Reader

def isSpace (b : UInt8) : Bool := b == 32 || b == 9

def isLineEnd (b : UInt8) : Bool := b == 10 || b == 13

def endsLine (c : Char) : Bool := c == '\n' || c == '\r'

def spaces : Reader Unit := discard (takeWhile isSpace)

/-- Skips a comment up to its line end, if one begins here. -/
def comment : Reader Unit := do
  if (← peek?) == some '#' then discard (takeWhile fun b => !isLineEnd b)

/-- Skips blanks, line ends and comments, at most `fuel` comments. -/
def skipLines : (fuel : Nat) → Reader Unit
  | 0 => pure ()
  | fuel + 1 => do
    discard (takeWhile fun b => isSpace b || isLineEnd b)
    if (← peek?) == some '#' then
      comment
      skipLines fuel

/-- Takes what may follow a header or an entry on its line. -/
def lineEnd : Reader Unit := do
  spaces
  comment
  match ← peek? with
  | none => pure ()
  | some c => if endsLine c then pure () else fail (.afterItem c)

/-! ## Strings -/

/-- Takes the digits of an escape.  A fault shows the string up to it. -/
def escapeDigits (start : Text) (count : Nat) : Reader Unit := do
  let digits := ((← get).rest.take count).takeWhile fun b => (hexDigit? b).isSome
  discard (take digits.length)
  if digits.length < count then
    let found ← next?
    let soFar ← since start
    failAfter found fun _ => .escapeDigits count soFar

def escape (start : Text) : Reader Unit := do
  let c? ← next?
  match c? with
  | some 'u' => escapeDigits start 4
  | some 'U' => escapeDigits start 8
  | _ =>
    if c?.any ("btnfr\"\\ \t".toList.contains ·) then pure ()
    else failAfter c? Cause.escape

/-- Takes the rest of a string on one line, up to its closing quote, `fuel` escapes at
most. -/
def stringEnd (start : Text) : (fuel : Nat) → Reader Unit
  | 0 => failBefore (.unclosedString .plain)
  | fuel + 1 => do
    discard (takeWhile fun b => !(b == 34 || b == 92 || isLineEnd b))
    match ← next? with
    | none => failBefore (.unclosedString .plain)
    | some '"' => pure ()
    | some '\\' => do
      escape start
      stringEnd start fuel
    | some _ => failBefore .lineEndInString

/-- Takes the rest of a string without escapes on one line. -/
def rawEnd : Reader Unit := do
  discard (takeWhile fun b => !(b == 39 || isLineEnd b))
  match ← next? with
  | none => failBefore (.unclosedString .raw)
  | some '\'' => pure ()
  | some _ => failBefore .lineEndInString

/-- Takes a run of quotes inside a string of several lines, and tells whether it closes
the string: up to two belong to the text, three close it, and of four or five the last
three do. -/
def quotes (q : Quoting) (quote : UInt8) : Reader Bool := do
  let run ← takeWhile (· == quote)
  if 6 ≤ run.length then fail (.tooManyQuotes q) else return 3 ≤ run.length

/-- Takes the rest of a string of several lines, `fuel` pieces of it at most. -/
def linesEnd (start : Text) : (fuel : Nat) → Reader Unit
  | 0 => failBefore (.unclosedString .lines)
  | fuel + 1 => do
    discard (takeWhile fun b => !(b == 34 || b == 92))
    match ← peek? with
    | none => failBefore (.unclosedString .lines)
    | some '"' => do
      if !(← quotes .lines 34) then linesEnd start fuel
    | some _ => do
      discard next?
      if (← peek?).any endsLine then discard next? else escape start
      linesEnd start fuel

/-- Takes the rest of a string of several lines without escapes. -/
def rawLinesEnd : (fuel : Nat) → Reader Unit
  | 0 => failBefore (.unclosedString .rawLines)
  | fuel + 1 => do
    discard (takeWhile (· != 39))
    if (← peek?).isNone then failBefore (.unclosedString .rawLines)
    if !(← quotes .rawLines 39) then rawLinesEnd fuel

/-- What an escape stands for, given what follows the backslash, and how many bytes of
that it takes. -/
def escaped (t : Text) : Except Cause (Text × Nat) :=
  let codePoint (width : Nat) : Except Cause (Text × Nat) :=
    let digits := (t.drop 1).take width
    match Quoted.codePoint? (valueIn 16 digits) with
    | some value => .ok (value, width + 1)
    | none => .error (.escapedSurrogate digits)
  match t.head?.map fun b => Char.ofNat b.toNat with
  | some 'b' => .ok ([8], 1)
  | some 't' => .ok ([9], 1)
  | some 'n' => .ok ([10], 1)
  | some 'f' => .ok ([12], 1)
  | some 'r' => .ok ([13], 1)
  | some '"' => .ok ([34], 1)
  | some '\\' => .ok ([92], 1)
  | some 'u' => codePoint 4
  | some 'U' => codePoint 8
  | c? => .error (.escapedBlank (c?.getD ' '))

/-- Replaces the escapes of a string after its first `skip` bytes. -/
def unescape : (skip : Nat) → Text → Except Cause Text
  | _, [] => .ok []
  | skip + 1, _ :: t => unescape skip t
  | 0, b :: t =>
    if b == 92 then do
      let (value, width) ← escaped t
      return value ++ (← unescape width t)
    else return b :: (← unescape 0 t)

/-- Whether the text after a backslash is blank up to a line end. -/
def isBlankLine (t : Text) : Bool :=
  (t.takeWhile fun b => isSpace b || isLineEnd b).contains 10

/-- Where in a text of several lines a byte stands. -/
inductive Position where
  | plain
  /-- Right after a backslash that is kept. -/
  | escaped
  /-- After a backslash at the end of a line. -/
  | folded
  deriving DecidableEq, Repr

/-- Joins lines: a backslash at the end of a line is taken away with all blanks and line
ends after it. -/
def joinLines : Position → Text → Text
  | _, [] => []
  | .escaped, b :: t => b :: joinLines .plain t
  | p, b :: t =>
    if b == 92 then
      if isBlankLine t then joinLines .folded t else b :: joinLines .escaped t
    else if p = .folded && (isSpace b || isLineEnd b) then joinLines .folded t
    else b :: joinLines .plain t

/-- Takes the line end right after the opening of a string of several lines away. -/
def withoutFirstLineEnd : Text → Text
  | 10 :: t => t
  | 13 :: 10 :: t => t
  | t => t

/-- A string after its first double quote; only values may have several lines. -/
def doubleQuoted (isKey : Bool) : Reader Text := do
  let start := (← get).rest
  let fuel := start.length + 1
  if !isKey && start.head? == some 34 then
    discard next?
    if ← accept '"' then
      let start := (← get).rest
      linesEnd start fuel
      let body := (← since start).dropLast.dropLast.dropLast
      return ← lift (unescape 0 (joinLines .plain (withoutFirstLineEnd body)))
    else return []
  else
    stringEnd start fuel
    lift (unescape 0 (← since start).dropLast)

def singleQuoted (isKey : Bool) : Reader Text := do
  let start := (← get).rest
  if !isKey && start.head? == some 39 then
    discard next?
    if ← accept '\'' then
      let start := (← get).rest
      rawLinesEnd (start.length + 1)
      return withoutFirstLineEnd (← since start).dropLast.dropLast.dropLast
    else return []
  else
    rawEnd
    return (← since start).dropLast

/-! ## Keys -/

def keyPart : Reader Text := do
  if ← accept '"' then doubleQuoted true
  else if ← accept '\'' then singleQuoted true
  else takeWhile isBare

/-- A dotted key up to its equals sign, `fuel` parts at most. -/
def keyParts : (fuel : Nat) → Reader Key
  | 0 => fail .noKey
  | fuel + 1 => do
    spaces
    match ← peek? with
    | none | some '=' => fail (.noKeyPart '=')
    | some '.' => fail (.noKeyPart '.')
    | _ => pure ()
    let part ← keyPart
    spaces
    match ← next? with
    | none => failBefore .keyWithoutValue
    | some '.' => return part :: (← keyParts fuel)
    | some '=' => return [part]
    | some c => fail (.keyEnd c)

def entryKey : Reader Key := do
  spaces
  match ← peek? with
  | none | some '=' => fail .noKey
  | some '.' => fail .leadingPointInKey
  | _ => keyParts ((← get).rest.length + 1)

/-- The name of a header up to its bracket, `fuel` parts at most. -/
def tableName : (fuel : Nat) → Reader Key
  | 0 => fail .noTableName
  | fuel + 1 => do
    spaces
    match ← peek? with
    | none | some ']' => fail .noTableName
    | some '.' => fail .noNameBeforePoint
    | _ => pure ()
    let part ← keyPart
    spaces
    let c? ← next?
    match c? with
    | some '.' => return part :: (← tableName fuel)
    | some ']' => return [part]
    | _ => failAfter c? Cause.tableNameEnd

/-! ## Values -/

def basedInteger (base : Base) (isOfBase : UInt8 → Bool) : Reader Toml := do
  let head ← take 2
  let c? ← peek?
  if !(← get).rest.head?.any isOfBase then
    fail (.noDigitOf base (head ++ Utf8.encode (c?.getD (Char.ofNat 0))))
  let digits ← takeWhile fun b => isOfBase b || b == 95
  return .integer (← lift (readInteger (head ++ digits)))

/-- The rest of a decimal number whose first bytes are given. -/
def decimal (head : Text) : Reader Toml := do
  let whole := head ++ (← takeWhile fun b => isDigit b || b == 95)
  if (← get).rest.head?.any (utf8 ".eE").contains then
    let t := whole ++ (← takeWhile fun b => isDigit b || (utf8 "_.-+eE").contains b)
    return .float (← lift (readFloat t))
  else return .integer (← lift (readInteger whole))

def signed (sign : UInt8) : Reader Toml := do
  let word (first : UInt8) (a b : Char) : Reader Toml := do
    let t := [sign, first]
    if !(← accept a) then fail (.signedWord t)
    if !(← accept b) then fail (.signedWord (t ++ Utf8.encode a))
    return .float (t ++ Utf8.encode a ++ Utf8.encode b)
  let c? ← next?
  match c? with
  | some 'i' => word (byte 'i') 'n' 'f'
  | some 'n' => word (byte 'n') 'a' 'n'
  | some '.' => fail .leadingPointInFloat
  | some '0' => do
    match ← peek? with
    | some c =>
      if "box".toList.contains c then fail (.signedBase ([sign, 48] ++ Utf8.encode c))
    | none => pure ()
    decimal [sign, 48]
  | some c => if c.isDigit then decimal [sign, byte c] else fail (.noDigit c)
  | none => failBefore (.noDigit (Char.ofNat 0))

def number : Reader Toml := do
  let t := (← get).rest
  if t.startsWith "0x" then basedInteger .hexadecimal fun b => (hexDigit? b).isSome
  else if t.startsWith "0o" then basedInteger .octal fun b => 48 ≤ b && b ≤ 55
  else if t.startsWith "0b" then basedInteger .binary fun b => b == 48 || b == 49
  else
    let digits ← takeWhile isDigit
    let isDate := (← get).rest.head?.any (utf8 "-:").contains && digits != "0"
    if isDate then
      let run ← takeWhile fun b => isDigit b || (utf8 "-:Tt .Zz+").contains b
      let t := ((digits ++ run).reverse.dropWhile (· == 32)).reverse
      return .datetime (← lift (readDatetime t))
    else decimal digits

def letters : (fuel : Nat) → Reader Text
  | 0 => pure []
  | fuel + 1 => do
    match ← peek? with
    | some c =>
      if GeneralCategory.isLetter c.toNat then
        let t ← take (Utf8.encode c).length
        return t ++ (← letters fuel)
      else return []
    | none => return []

def word : Reader Toml := do
  let t ← letters ((← get).rest.length + 1)
  if t == "true" then return .bool true
  else if t == "false" then return .bool false
  else fail (.notValueWord t)

/-- Takes two letters.  Tells whether both came, and where the last letter that came
begins, which is at `last` if none did. -/
def twoLetters (a b : Char) (last : Cursor) : Reader (Bool × Cursor) := do
  let here ← get
  if ← accept a then return (← accept b, here) else return (false, last)

/-- A value that begins like the name of a special float: either ending makes it a float,
and else the last letter that came begins a word. -/
def specialFloat : Reader Toml := do
  let start ← get
  discard next?
  let (complete, last) ← twoLetters 'n' 'f' start
  let (complete, last) ← if complete then pure (true, last) else twoLetters 'a' 'n' last
  if complete then return .float (← lift (readFloat (← since start.rest)))
  set last
  word

/-- A value that is neither an array nor an inline table. -/
def scalar : Reader Toml := do
  match ← peek? with
  | none => failBefore .noValue
  | some c =>
    if c.isDigit then number
    else if c == '"' then
      discard next?
      return .string (← doubleQuoted false)
    else if c == '\'' then
      discard next?
      return .string (← singleQuoted false)
    else if c == '.' then fail .leadingPointInFloat
    else if c == 'i' || c == 'n' then specialFloat
    else if c == '+' || c == '-' then
      discard next?
      signed (byte c)
    else if GeneralCategory.isLetter c.toNat then word
    else
      discard next?
      fail (.notValue c)

inductive Opening where
  | array | inline
  | scalar (value : Toml)

def opening : Reader Opening := do
  spaces
  if ← accept '[' then return .array
  else if ← accept '\x7b' then return .inline
  else return .scalar (← scalar)

/-- Skips to the next item of an array, and tells whether there is one. -/
def nextItem : Reader Bool := do
  skipLines ((← get).rest.length + 1)
  if ← accept ',' then fail .comma
  return !(← accept ']')

/-- Takes what follows an item of an array, and tells whether it was a comma. -/
def itemEnd : Reader Bool := do
  skipLines ((← get).rest.length + 1)
  let c? ← next?
  match c? with
  | some ',' => return true
  | some ']' => return false
  | some c => fail (.arrayEnd (some c))
  | none => failBefore (.arrayEnd none)

/-- Skips blanks in an inline table; a comment is no way to end a line of it. -/
def inlineSpaces : Reader Unit := do
  spaces
  comment
  if (← peek?).any endsLine then
    discard next?
    failBefore .lineEndInInline

/-- The key of the next entry of an inline table with its line, if there is one. -/
def nextEntry : Reader (Option (Nat × Key)) := do
  inlineSpaces
  if ← accept ',' then fail .comma
  if ← accept '\x7d' then return none
  let line ← lineNumber
  return some (line, ← entryKey)

/-- Takes what follows an entry of an inline table, and tells whether it was a comma. -/
def entryEnd : Reader Bool := do
  inlineSpaces
  let c? ← next?
  match c? with
  | some ',' => do
    spaces
    if (← peek?) == some '\x7d' then fail .trailingComma
    return true
  | some '\x7d' => return false
  | some c => fail (.inlineEnd (some c))
  | none => failBefore (.inlineEnd none)

mutual

/-- A value, nested at most `fuel` deep and with at most `fuel` items, and what is left
to read if it is whole. -/
def literal : (fuel : Nat) → Cursor → Literal × Option Cursor
  | 0, c => (.broken ⟨c.line, .noValue⟩, none)
  | fuel + 1, c =>
    match opening.run c with
    | .error fault => (.broken fault, none)
    | .ok (.scalar v, c) => (.scalar v, some c)
    | .ok (.array, c) =>
      let (ls, c?) := items fuel c
      (.array ls, c?)
    | .ok (.inline, c) => entries fuel c []

/-- The items of an array up to its closing bracket; a comma may follow the last. -/
def items : (fuel : Nat) → Cursor → List Literal × Option Cursor
  | 0, c => ([.broken ⟨c.line, .noValue⟩], none)
  | fuel + 1, c =>
    match nextItem.run c with
    | .error fault => ([.broken fault], none)
    | .ok (false, c) => ([], some c)
    | .ok (true, c) =>
      match literal fuel c with
      | (l, none) => ([l], none)
      | (l, some c) =>
        match itemEnd.run c with
        | .error fault => ([l, .broken fault], none)
        | .ok (false, c) => ([l], some c)
        | .ok (true, c) =>
          let (ls, c?) := items fuel c
          (l :: ls, c?)

/-- The rest of an inline table, given the entries before it in reverse. -/
def entries : (fuel : Nat) → Cursor → List (Nat × Key × Literal) → Literal × Option Cursor
  | 0, c, before => (.inline before.reverse (some ⟨c.line, .noValue⟩), none)
  | fuel + 1, c, before =>
    match nextEntry.run c with
    | .error fault => (.inline before.reverse (some fault), none)
    | .ok (none, c) => (.inline before.reverse none, some c)
    | .ok (some (line, key), c) =>
      match literal fuel c with
      | (l, none) => (.inline ((line, key, l) :: before).reverse none, none)
      | (l, some c) =>
        let all := (line, key, l) :: before
        match entryEnd.run c with
        | .error fault => (.inline all.reverse (some fault), none)
        | .ok (false, c) => (.inline all.reverse none, some c)
        | .ok (true, c) => entries fuel c all

end

/-! ## Documents -/

inductive Start where
  | finished
  | header (line : Line)
  /-- The key of an entry. -/
  | entry (line : Nat) (key : Key)

def start : Reader Start := do
  skipLines ((← get).rest.length + 1)
  if (← peek?).isNone then return .finished
  let line ← lineNumber
  let fuel := (← get).rest.length + 1
  if ← accept '[' then
    if ← accept '[' then
      let key ← tableName fuel
      let c? ← next?
      if c? != some ']' then failAfter c? Cause.tablesNameEnd
      return .header (.tables line key)
    else return .header (.table line (← tableName fuel))
  else return .entry line (← entryKey)

/-- The headers and entries up to the end or a fault, at most `fuel` of them. -/
def lines : (fuel : Nat) → Cursor → List Line
  | 0, _ => []
  | fuel + 1, c =>
    match start.run c with
    | .error fault => [.broken fault]
    | .ok (.finished, _) => []
    | .ok (.header line, c) => line :: after fuel c
    | .ok (.entry line key, c) =>
      match literal (c.rest.length + 1) c with
      | (value, none) => [.entry line key line value]
      | (value, some c) =>
        let valueLine := match value with
          | .scalar (.string _) => c.line
          | _ => line
        .entry line key valueLine value :: after fuel c
where
  /-- The lines after a header or an entry. -/
  after (fuel : Nat) (c : Cursor) : List Line :=
    match lineEnd.run c with
    | .error fault => [.broken fault]
    | .ok (_, c) => lines fuel c

/-- What is wrong with a piece of text, given what follows it: stray bytes and the
character that is written for them, control characters but tabs and line ends, and
carriage returns without their line feeds. -/
def badPiece? (p : Utf8.Piece) (next : Option Utf8.Piece) : Option Cause :=
  match p with
  | .stray b => some (.strayByte b)
  | .char c =>
    if c == Utf8.replacement then some (.strayByte 0xEF)
    else if c == '\r' then
      if next == some (.char '\n') then none else some (.control 13)
    else if c == '\t' || c == '\n' then none
    else if c.toNat < 32 || c.toNat == 127 then some (.control c.toNat)
    else none

/-- The text up to the first piece that no document may hold, and what is wrong with
that piece. -/
def upToBad : List Utf8.Piece → Text × Option Cause
  | [] => ([], none)
  | p :: ps =>
    match badPiece? p ps.head? with
    | some cause => ([], some cause)
    | none =>
      let (t, stop) := upToBad ps
      (p.bytes ++ t, stop)

def withoutMark (t : Text) : Text :=
  match t with
  | 0xFF :: 0xFE :: rest => rest
  | 0xFE :: 0xFF :: rest => rest
  | 0xEF :: 0xBB :: 0xBF :: rest => rest
  | _ => t

def readLines (t : Text) : List Line :=
  let t := withoutMark t
  if (t.take 6).contains 0 then [.broken ⟨1, .zeroByte⟩]
  else
    let (rest, stop) := upToBad (Utf8.pieces t)
    lines (t.length + 1) ⟨rest, 1, stop⟩

end TreeLint.Toml
