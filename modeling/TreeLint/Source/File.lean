import TreeLint.Path
import TreeLint.Sha256
import TreeLint.Source.Span

/-! # Source files

A file is its path and its bytes.  Lines are counted from one and end at a line
feed; a carriage return before it belongs to the line end, not to the line. -/

namespace TreeLint

structure FileFlags where
  /-- The content did not come from disk. -/
  inMemory : Bool
  /-- A byte order mark was taken off when the file was loaded. -/
  hadMark : Bool
  /-- Some line ends in a carriage return and a line feed. -/
  hasCrlf : Bool
  deriving DecidableEq, Repr, Inhabited

/-- A line and a column in bytes, both counted from one. -/
structure Position where
  line : UInt32
  column : UInt32
  deriving DecidableEq, Repr, Inhabited

inductive PathStyle where
  | absolute
  | relative
  | basename
  /-- Short or relative paths as they are, long absolute ones by their last element. -/
  | auto
  /-- The path as it was given. -/
  | verbatim
  deriving DecidableEq, Repr, Inhabited

def PathStyle.ofName (name : Text) : PathStyle :=
  if name == "absolute" then absolute
  else if name == "relative" then relative
  else if name == "basename" then basename
  else if name == "auto" then auto
  else verbatim

structure File where
  id : FileId
  path : Text
  content : Text
  flags : FileFlags
  deriving DecidableEq, Repr, Inhabited

namespace File

def byteOrderMark : Text := [0xEF, 0xBB, 0xBF]

def withMark (content : Text) : Text := byteOrderMark ++ content

/-- The offsets just after the line feeds of a text that begins at `offset`. -/
def startsAfter (offset : Nat) : Text → List Nat
  | [] => []
  | b :: rest => if b == 10 then (offset + 1) :: startsAfter (offset + 1) rest
    else startsAfter (offset + 1) rest

/-- The offset where each line begins; the first line begins at zero. -/
def lineStarts (content : Text) : List Nat := 0 :: startsAfter 0 content

def size (f : File) : UInt32 := f.content.length.toUInt32

def hash (f : File) : Text := Sha256.digest f.content

/-- The number of lines; a final line feed opens an empty last line. -/
def lineCount (f : File) : UInt32 := (lineStarts f.content).length.toUInt32

/-- The offset where line `n` begins; lines past the end begin at the end. -/
def lineStart (f : File) (n : UInt32) : UInt32 :=
  if n ≤ 1 then 0
  else match (lineStarts f.content)[n.toNat - 1]? with
    | some start => start.toUInt32
    | none => f.size

/-- Line `n` without its line end, empty when there is no such line. -/
def line (f : File) (n : UInt32) : Text :=
  let starts := lineStarts f.content
  if n == 0 then []
  else match starts[n.toNat - 1]? with
    | none => []
    | some start =>
      let stop := match starts[n.toNat]? with
        | some next => next - 1
        | none => f.content.length
      (f.content.slice start stop).withoutTail "\r"

/-- The position of an offset; offsets past the end are on the last line. -/
def position (f : File) (offset : UInt32) : Position :=
  let before := (lineStarts f.content).takeWhile (· ≤ offset.toNat)
  ⟨before.length.toUInt32, offset - (before.getLast?.getD 0).toUInt32 + 1⟩

/-- The bytes under a span, as far as the file has them. -/
def text (f : File) (span : Span) : Text :=
  f.content.slice span.start.toNat span.stop.toNat

end File

namespace Path

/-- A path relative to `base`, or absolute when it does not lie below it. -/
def relativeTo (cwd path base : Text) : Text :=
  let target := absolute cwd path
  match relative? (absolute cwd base) target with
  | some rel => if rel == ".." || rel.startsWith "../" then target else rel
  | none => target

/-- From this length on an absolute path counts as long. -/
def longPath : Nat := 40

/-- The path in the given style.  An empty base means the working directory. -/
def display (cwd : Text) (style : PathStyle) (path base : Text) : Text :=
  match style with
  | .absolute => absolute cwd path
  | .relative => relativeTo cwd path (if base.isEmpty then cwd else base)
  | .basename => Path.base path
  | .auto => if isAbsolute path && longPath ≤ path.length then Path.base path else path
  | .verbatim => path

end Path
end TreeLint
