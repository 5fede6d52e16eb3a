import TreeLint.Regex.Outline
import TreeLint.Text

/-! # Reading patterns

Patterns are read from left to right with a stack of open groups.  The first thing
that is wrong is reported with the piece of the pattern that shows it. -/

namespace TreeLint.Regex

/-- What is wrong with a pattern. -/
inductive Defect where
  | charClassRange | escape | namedCapture | perlOperator | nestedRepetition | repeatCount
  | missingBracket | missingParen | missingArgument | unexpectedParen | trailingBackslash
  | tooLarge | tooDeep
  deriving DecidableEq, Repr, Inhabited

def Defect.description : Defect → Text
  | charClassRange => "invalid character class range"
  | escape => "invalid escape sequence"
  | namedCapture => "invalid named capture"
  | perlOperator => "invalid or unsupported Perl syntax"
  | nestedRepetition => "invalid nested repetition operator"
  | repeatCount => "invalid repeat count"
  | missingBracket => "missing closing ]"
  | missingParen => "missing closing )"
  | missingArgument => "missing argument to repetition operator"
  | unexpectedParen => "unexpected )"
  | trailingBackslash => "trailing backslash at end of expression"
  | tooLarge => "expression too large"
  | tooDeep => "expression nests too deeply"

/-- A defect and the piece of the pattern that shows it. -/
structure ParseError where
  defect : Defect
  piece : List Char
  deriving Repr

def ParseError.message (e : ParseError) : Text :=
  "error parsing regexp: " ++ e.defect.description ++ ": `" ++ e.piece.flatMap Utf8.encode ++ "`"

/-- What is in force at a place of a pattern. -/
structure Flags where
  /-- Case plays no role. -/
  caseless : Bool
  /-- Anchors hold at lines, not only at the ends of the text. -/
  byLine : Bool
  /-- A dot also stands for a line feed. -/
  dotAll : Bool
  deriving DecidableEq, Repr, Inhabited

def Flags.initial : Flags := ⟨false, false, false⟩

def Flags.close (f : Flags) (s : CharSet) : CharSet := if f.caseless then .caseless s else s

def upTo (all rest : List Char) : List Char := all.take (all.length - rest.length)

def isOctal (c : Char) : Bool := '0' ≤ c && c ≤ '7'

def hexValue? (c : Char) : Option Nat :=
  if c.toNat < 128 then Text.hexDigit? c.toNat.toUInt8 else none

/-- The value of the hexadecimal digits up to a closing brace, at least one of them. -/
def braceHex? (value : Nat) (some? : Bool) : List Char → Option (Nat × List Char)
  | [] => none
  | c :: rest =>
    if c.toNat == 0x7D then (if some? then some (value, rest) else none)
    else match hexValue? c with
      | some d =>
        let value := value * 16 + d
        if value > 0x10FFFF then none else braceHex? value true rest
      | none => none

def braceHexRest (value : Nat) : List Char → List Char
  | [] => []
  | c :: rest =>
    if c.toNat == 0x7D then rest
    else match hexValue? c with
      | some d => if value * 16 + d > 0x10FFFF then rest else braceHexRest (value * 16 + d) rest
      | none => rest

/-- Reads the escape of one character; `all` begins with the backslash. -/
def escapedChar (all : List Char) : Except ParseError (Nat × List Char) :=
  let wrong (rest : List Char) : Except ParseError (Nat × List Char) :=
    .error ⟨.escape, upTo all rest⟩
  match all.drop 1 with
  | [] => .error ⟨.trailingBackslash, []⟩
  | c :: rest =>
    let octal (rest : List Char) : Except ParseError (Nat × List Char) :=
      let more := (rest.take 2).takeWhile isOctal
      .ok ((c :: more).foldl (fun n d => n * 8 + (d.toNat - 48)) 0, rest.drop more.length)
    match c with
    | 'a' => .ok (7, rest)
    | 'f' => .ok (12, rest)
    | 'n' => .ok (10, rest)
    | 'r' => .ok (13, rest)
    | 't' => .ok (9, rest)
    | 'v' => .ok (11, rest)
    | '0' => octal rest
    | 'x' =>
      match rest with
      | [] => wrong []
      | d :: rest =>
        if d.toNat == 0x7B then
          match braceHex? 0 false rest with
          | some r => .ok r
          | none => wrong (braceHexRest 0 rest)
        else
          match hexValue? d, rest with
          | some x, e :: rest =>
            match hexValue? e with
            | some y => .ok (x * 16 + y, rest)
            | none => wrong rest
          | _, rest => wrong (rest.drop 1)
    | _ =>
      if '1' ≤ c && c ≤ '7' && rest.head?.any isOctal then octal rest
      else if c.toNat < 128 && !c.isAlphanum then .ok (c.toNat, rest)
      else wrong rest

/-- Reads a property escape, which begins with a backslash and the letter `p`. -/
def property (flags : Flags) (all : List Char) : Except ParseError (CharSet × List Char) :=
  let negative := all[1]? == some 'P'
  let named (piece name rest : List Char) : Except ParseError (CharSet × List Char) :=
    let (negative, name) := match name with
      | '^' :: name => (!negative, name)
      | name => (negative, name)
    match CharSet.ofProperty? name with
    | none => .error ⟨.charClassRange, piece⟩
    | some s =>
      let s := flags.close s
      .ok (if negative then .complement s else s, rest)
  match all.drop 2 with
  | [] => .error ⟨.charClassRange, all⟩
  | c :: rest =>
    if c.toNat == 0x7B then
      let name := rest.takeWhile fun c => c.toNat != 0x7D
      match rest.drop name.length with
      | [] => .error ⟨.charClassRange, all⟩
      | _ :: after => named (upTo all after) name after
    else named (upTo all rest) [c] rest

/-- Reads an escape that stands for a set: a property, or a set of one letter. -/
def escapedSet? (flags : Flags) (all : List Char) :
    Except ParseError (Option (CharSet × List Char)) :=
  match all with
  | '\\' :: c :: rest =>
    if c == 'p' || c == 'P' then (property flags all).map some
    else
      match CharSet.ofEscape? c with
      | some (.complement s) => .ok (some (.complement (flags.close s), rest))
      | some s => .ok (some (flags.close s, rest))
      | none => .ok none
  | _ => .ok none

/-- Reads a set by its name between bracket and colon, if there is one. -/
def namedSet? (flags : Flags) (all : List Char) :
    Except ParseError (Option (CharSet × List Char)) :=
  match all with
  | '[' :: ':' :: rest =>
    match closing rest with
    | none => .ok none
    | some (name, after) =>
      let (negative, key) := match name with
        | '^' :: key => (true, key)
        | key => (false, key)
      match CharSet.ofName? (String.ofList key) with
      | none => .error ⟨.charClassRange, upTo all after⟩
      | some s =>
        let s := flags.close s
        .ok (some (if negative then .complement s else s, after))
  | _ => .ok none
where
  /-- What stands before and after the first `:]`. -/
  closing : List Char → Option (List Char × List Char)
    | [] => none
    | ':' :: ']' :: rest => some ([], rest)
    | c :: rest => (closing rest).map fun (name, after) => (c :: name, after)

def setChar (whole : List Char) (all : List Char) : Except ParseError (Nat × List Char) :=
  match all with
  | [] => .error ⟨.missingBracket, whole⟩
  | '\\' :: _ => escapedChar all
  | c :: rest => .ok (c.toNat, rest)

def setRange (flags : Flags) (whole all : List Char) : Except ParseError (CharSet × List Char) := do
  let (first, rest) ← setChar whole all
  match rest with
  | '-' :: c :: more =>
    if c == ']' then return (flags.close (.range first first), rest)
    else
      let (last, rest) ← setChar whole (c :: more)
      if last < first then .error ⟨.charClassRange, upTo all rest⟩
      else return (flags.close (.range first last), rest)
  | _ => return (flags.close (.range first first), rest)

/-- The members of a bracketed set up to its closing bracket, at most `fuel` of them.
The first one may be a bracket itself. -/
def setMembers (flags : Flags) (whole : List Char) : (fuel : Nat) → (first : Bool) →
    List Char → Except ParseError (List CharSet × List Char)
  | 0, _, all => .ok ([], all)
  | fuel + 1, first, all =>
    match all, first with
    | ']' :: rest, false => .ok ([], rest)
    | _, _ => do
      let (s, rest) ← match ← namedSet? flags all with
        | some r => .ok r
        | none =>
          match ← escapedSet? flags all with
          | some r => .ok r
          | none => setRange flags whole all
      let (more, rest) ← setMembers flags whole fuel false rest
      return (s :: more, rest)

def bracketSet (flags : Flags) (all : List Char) : Except ParseError (CharSet × List Char) := do
  let rest := all.drop 1
  match rest with
  | '^' :: rest =>
    let (members, rest) ← setMembers flags all (rest.length + 1) true rest
    return (.complement (.union members), rest)
  | _ =>
    let (members, rest) ← setMembers flags all (rest.length + 1) true rest
    return (.union members, rest)

/-- The most copies a repetition may stand for. -/
def repeatLimit : Nat := 1000

def count? (all : List Char) : Option (Nat × List Char) :=
  let digits := all.takeWhile Char.isDigit
  match digits with
  | [] => none
  | '0' :: _ :: _ => none
  | _ => some (digits.foldl (fun n d => n * 10 + (d.toNat - 48)) 0, all.drop digits.length)

/-- Reads counts between braces, if that is what follows the opening one. -/
def counts? (all : List Char) : Option (Nat × Option Nat × List Char) := do
  let isClosing (c : Char) : Bool := c.toNat == 0x7D
  let (min, rest) ← count? (all.drop 1)
  match rest with
  | ',' :: rest =>
    match rest with
    | c :: after =>
      if isClosing c then some (min, none, after)
      else
        let (max, rest) ← count? (c :: after)
        match rest with
        | c :: after => if isClosing c then some (min, some max, after) else none
        | [] => none
    | [] => none
  | c :: after => if isClosing c then some (min, some min, after) else none
  | [] => none

/-- What a parenthesis and question mark open. -/
inductive Opening where
  /-- A group that can be referred to. -/
  | capture
  /-- A group with the flags inside. -/
  | group (flags : Flags)
  /-- Flags for the rest of the group around. -/
  | flags (flags : Flags)

/-- Reads flags up to the colon or parenthesis that ends them.  After a minus they are
taken away, and at least one has to follow it. -/
def flagsUpTo (whole : List Char) : (on seen : Bool) → Flags → List Char →
    Except ParseError (Opening × List Char)
  | _, _, _, [] => .error ⟨.perlOperator, whole⟩
  | on, seen, f, c :: rest =>
    match c with
    | 'i' => flagsUpTo whole on true { f with caseless := on } rest
    | 'm' => flagsUpTo whole on true { f with byLine := on } rest
    | 's' => flagsUpTo whole on true { f with dotAll := on } rest
    | 'U' => flagsUpTo whole on true f rest
    | '-' =>
      if on then flagsUpTo whole false false f rest else .error ⟨.perlOperator, upTo whole rest⟩
    | ':' | ')' =>
      if !on && !seen then .error ⟨.perlOperator, upTo whole rest⟩
      else .ok (if c == ':' then .group f else .flags f, rest)
    | _ => .error ⟨.perlOperator, upTo whole rest⟩

def isCaptureName (name : List Char) : Bool :=
  !name.isEmpty && name.all fun c => c == '_' || c.isAlphanum

/-- Reads what follows a parenthesis and question mark; `all` begins with them. -/
def opening (flags : Flags) (all : List Char) : Except ParseError (Opening × List Char) :=
  let capture (head : Nat) : Except ParseError (Opening × List Char) :=
    let name := (all.drop head).takeWhile (· != '>')
    match (all.drop head).drop name.length with
    | [] => .error ⟨.namedCapture, all⟩
    | _ :: rest =>
      if isCaptureName name then .ok (.capture, rest)
      else .error ⟨.namedCapture, upTo all rest⟩
  match all.drop 2 with
  | 'P' :: '<' :: _ :: _ => capture 4
  | '<' :: _ :: _ => capture 3
  | rest => flagsUpTo all true false flags rest

/-- A group that is open: its flags, its finished alternatives and the items of the
current one, the last first. -/
structure Frame where
  flags : Flags
  /-- Whether the group can be referred to. -/
  captures : Bool
  alternatives : List Regex
  items : List Regex
  deriving Inhabited

def Frame.fresh (flags : Flags) (captures : Bool) : Frame := ⟨flags, captures, [], []⟩

/-- A part of the pattern `whole`, unless it takes too much. -/
def checked (whole : List Char) (r : Regex) : Except ParseError Regex :=
  if r.outline.isTooLarge then .error ⟨.tooLarge, whole⟩
  else if r.outline.isTooDeep then .error ⟨.tooDeep, whole⟩
  else .ok r

def Frame.sequence (f : Frame) (whole : List Char) : Except ParseError Regex :=
  match f.items with
  | [] => .ok .empty
  | r :: rs => checked whole (rs.foldl (fun s r => .cat r s) r)

def Frame.nextAlternative (f : Frame) (whole : List Char) : Except ParseError Frame := do
  return { f with alternatives := (← f.sequence whole) :: f.alternatives, items := [] }

def Frame.regex (f : Frame) (whole : List Char) : Except ParseError Regex := do
  let last ← f.sequence whole
  let r ← checked whole (f.alternatives.foldl (fun s r => .alt r s) last)
  if f.captures then checked whole (.capture r) else return r

def Frame.push (f : Frame) (r : Regex) : Frame := { f with items := r :: f.items }

/-- Repeats the last item.  `before` begins with the operator, and `last` with the one
before if that directly precedes it. -/
def Frame.repeatLast (f : Frame) (whole : List Char) (min : Nat) (max : Option Nat) (counted : Bool)
    (before after last : List Char) : Except ParseError (Frame × List Char) :=
  let after := match after with
    | '?' :: rest => rest
    | _ => after
  if !last.isEmpty then .error ⟨.nestedRepetition, upTo last after⟩
  else
    match f.items with
    | [] => .error ⟨.missingArgument, upTo before after⟩
    | r :: rs => do
      let r ← checked whole (Regex.repetition r min max)
      if counted && (2 ≤ min || max.any (2 ≤ ·)) && !r.withinBudget repeatLimit then
        .error ⟨.repeatCount, upTo before after⟩
      else .ok ({ f with items := r :: rs }, after)

/-- Reads a pattern to its end, `fuel` steps of it at most.  `outer` are the groups
around the innermost one, and `last` begins with the repetition just read, if the step
before read one. -/
def parseFrom (whole : List Char) : (fuel : Nat) → (f : Frame) → (outer : List Frame) →
    (last : List Char) → List Char → Except ParseError Regex
  | 0, _, _, _, _ => .error ⟨.missingParen, whole⟩
  | _ + 1, f, outer, _, [] => do
    let r ← f.regex whole
    if outer.isEmpty then return r else .error ⟨.missingParen, whole⟩
  | fuel + 1, f, outer, last, c :: rest => do
    let all := c :: rest
    let item (r : Regex) (rest : List Char) : Except ParseError Regex :=
      parseFrom whole fuel (f.push r) outer [] rest
    match c with
    | '(' =>
      if rest.head? == some '?' then
        match ← opening f.flags all with
        | (.capture, rest) => parseFrom whole fuel (.fresh f.flags true) (f :: outer) [] rest
        | (.group flags, rest) => parseFrom whole fuel (.fresh flags false) (f :: outer) [] rest
        | (.flags flags, rest) => parseFrom whole fuel { f with flags } outer [] rest
      else parseFrom whole fuel (.fresh f.flags true) (f :: outer) [] rest
    | '|' => parseFrom whole fuel (← f.nextAlternative whole) outer [] rest
    | ')' =>
      let r ← f.regex whole
      match outer with
      | [] => .error ⟨.unexpectedParen, whole⟩
      | g :: outer => parseFrom whole fuel (g.push r) outer [] rest
    | '^' => item (.anchor (if f.flags.byLine then .lineStart else .textStart)) rest
    | '$' => item (.anchor (if f.flags.byLine then .lineEnd else .textEnd)) rest
    | '.' =>
      item (.set (if f.flags.dotAll then .all else .complement (.single '\n'))) rest
    | '[' =>
      let (s, rest) ← bracketSet f.flags all
      item (.set s) rest
    | '*' | '+' | '?' =>
      let min := if c == '+' then 1 else 0
      let max := if c == '?' then some 1 else none
      let (f, rest) ← f.repeatLast whole min max false all rest last
      parseFrom whole fuel f outer all rest
    | '\\' =>
      match rest with
      | 'A' :: rest => item (.anchor .textStart) rest
      | 'b' :: rest => item (.anchor .wordBoundary) rest
      | 'B' :: rest => item (.anchor .noWordBoundary) rest
      | 'z' :: rest => item (.anchor .textEnd) rest
      | 'C' :: rest => .error ⟨.escape, upTo all rest⟩
      | 'Q' :: rest =>
        let (quoted, rest) := quotation rest
        let items := quoted.map fun c => Regex.set (f.flags.close (.single c))
        parseFrom whole fuel { f with items := items.reverse ++ f.items } outer [] rest
      | _ =>
        match ← escapedSet? f.flags all with
        | some (s, rest) => item (.set s) rest
        | none =>
          let (code, rest) ← escapedChar all
          item (.set (f.flags.close (.range code code))) rest
    | _ =>
      if c.toNat == 0x7B then
        match counts? all with
        | none => item (.set (.single c)) rest
        | some (min, max, after) =>
          if min > repeatLimit || max.any (· > repeatLimit) || max.any (· < min) then
            .error ⟨.repeatCount, upTo all after⟩
          else
            let (f, rest) ← f.repeatLast whole min max true all after last
            parseFrom whole fuel f outer all rest
      else item (.set (f.flags.close (.single c))) rest
where
  /-- What stands before and after the end of a quotation. -/
  quotation : List Char → List Char × List Char
    | [] => ([], [])
    | '\\' :: 'E' :: rest => ([], rest)
    | c :: rest =>
      let (quoted, after) := quotation rest
      (c :: quoted, after)

def parse (pattern : Text) : Except ParseError Regex :=
  let cs := Utf8.chars pattern
  parseFrom cs (cs.length + 1) (.fresh .initial false) [] [] cs

end TreeLint.Regex
