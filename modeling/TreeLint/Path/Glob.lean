import TreeLint.Path
import TreeLint.Text.Utf8

/-! # Shell patterns for names

A pattern is a sequence of chunks, each optionally preceded by a star.  A star
stands for any bytes but the separator, `?` for one character but the separator,
and a class for one character.  A chunk takes the leftmost place where it fits.
A malformed pattern fits no name. -/

namespace TreeLint.Glob

open Text (byte)

/-- What one position of a chunk stands for. -/
inductive Item where
  | literal (b : UInt8)
  | anyChar
  | charClass (negated : Bool) (ranges : List (Nat × Nat))
  deriving DecidableEq, Repr

/-- Splits a pattern after its next chunk: where the next star outside brackets is. -/
def scanChunk : (inClass : Bool) → Text → Text × Text
  | _, [] => ([], [])
  | inClass, b :: t =>
    if b == byte '*' && !inClass then ([], b :: t)
    else if b == byte '\\' then
      match t with
      | [] => ([b], [])
      | c :: t =>
        let (chunk, rest) := scanChunk inClass t
        (b :: c :: chunk, rest)
    else
      let (chunk, rest) :=
        scanChunk (if b == byte '[' then true else if b == byte ']' then false else inClass) t
      (b :: chunk, rest)

/-- Reads a possibly escaped bound of a range in a class; something must follow it. -/
def classBound? (chunk : Text) : Option (Nat × Text) :=
  let unescaped? : Option Text :=
    match chunk with
    | [] => none
    | b :: t =>
      if b == byte '-' || b == byte ']' then none
      else if b == byte '\\' then some t else some chunk
  match unescaped? with
  | some (b :: t) =>
    match Utf8.split b t with
    | (.stray _, _) => none
    | (.char _, []) => none
    | (.char c, rest) => some (c.toNat, rest)
  | _ => none

def classRange? (chunk : Text) : Option ((Nat × Nat) × Text) :=
  match classBound? chunk with
  | none => none
  | some (lo, rest) =>
    match rest with
    | b :: t =>
      if b == byte '-' then (classBound? t).map fun (hi, rest) => ((lo, hi), rest)
      else some ((lo, lo), rest)
    | [] => some ((lo, lo), rest)

/-- Reads the ranges of a class up to its closing bracket; there is at least one. -/
def classRanges? : (fuel : Nat) → List (Nat × Nat) → Text → Option (List (Nat × Nat) × Text)
  | 0, _, _ => none
  | fuel + 1, ranges, chunk =>
    if chunk.head? == some (byte ']') && !ranges.isEmpty then some (ranges, chunk.tail)
    else
      match classRange? chunk with
      | none => none
      | some (r, rest) => classRanges? fuel (r :: ranges) rest

def items? : (fuel : Nat) → Text → Option (List Item)
  | _, [] => some []
  | 0, _ :: _ => none
  | fuel + 1, b :: t =>
    if b == byte '[' then
      let negated := t.head? == some (byte '^')
      match classRanges? (t.length + 1) [] (if negated then t.tail else t) with
      | none => none
      | some (ranges, rest) => (items? fuel rest).map (.charClass negated ranges :: ·)
    else if b == byte '?' then (items? fuel t).map (.anyChar :: ·)
    else if b == byte '\\' then
      match t with
      | [] => none
      | c :: t => (items? fuel t).map (.literal c :: ·)
    else (items? fuel t).map (.literal b :: ·)

/-- A chunk and whether a star stands before it. -/
structure Chunk where
  starred : Bool
  items : List Item
  deriving DecidableEq, Repr

def chunks? : (fuel : Nat) → Text → Option (List Chunk)
  | _, [] => some []
  | 0, _ :: _ => none
  | fuel + 1, b :: t =>
    let body := (b :: t).dropWhile (· == byte '*')
    let (chunk, rest) := scanChunk false body
    match items? chunk.length chunk, chunks? fuel rest with
    | some items, some more => some (⟨b == byte '*', items⟩ :: more)
    | _, _ => none

/-- What follows the items at the start of a name, when they fit there. -/
def fit? : List Item → Text → Option Text
  | [], name => some name
  | _ :: _, [] => none
  | item :: items, b :: t =>
    match item with
    | .literal c => if b == c then fit? items t else none
    | .anyChar => if b == Path.slash then none else fit? items (Utf8.split b t).2
    | .charClass negated ranges =>
      let c := (Utf8.split b t).1.code
      if ranges.any (fun (lo, hi) => lo ≤ c && c ≤ hi) != negated then
        fit? items (Utf8.split b t).2
      else none

/-- What follows the leftmost place where the items fit, a star reaching up to it.
The last chunk of a pattern has to reach the end of the name. -/
def fitAfterStar? (items : List Item) (final : Bool) : Text → Option Text
  | [] => none
  | b :: t =>
    if b == Path.slash then none
    else
      match fit? items t with
      | some rest => if final && !rest.isEmpty then fitAfterStar? items final t else some rest
      | none => fitAfterStar? items final t

def fits : List Chunk → Text → Bool
  | [], name => name.isEmpty
  | chunk :: more, name =>
    if chunk.starred && chunk.items.isEmpty then !name.contains Path.slash
    else
      let here? := (fit? chunk.items name).filter fun rest => rest.isEmpty || !more.isEmpty
      match here? with
      | some rest => fits more rest
      | none =>
        match if chunk.starred then fitAfterStar? chunk.items more.isEmpty name else none with
        | some rest => fits more rest
        | none => false

def isMatch (pattern name : Text) : Bool :=
  match chunks? pattern.length pattern with
  | some chunks => fits chunks name
  | none => false

end TreeLint.Glob
