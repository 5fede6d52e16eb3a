import TreeLint.Diagnostic.Fix
import TreeLint.Source.FileSet

/-! # Previews of edits

A preview shows the whole lines an edit touches, before and after it. -/

namespace TreeLint

/-- The lines an edit touches, before and after it. -/
structure Preview where
  before : List Text
  after : List Text
  deriving DecidableEq, Repr, Inhabited

namespace Preview

/-- The lines of a block of text; line feeds at its end give no lines. -/
def lines (block : Text) : List Text :=
  match (block.reverse.dropWhile (· == 10)).reverse with
  | [] => []
  | trimmed => Text.splitByte 10 trimmed

/-- The offsets where the lines an edit touches begin and end. -/
def bounds (f : File) (span : Span) : UInt32 × UInt32 :=
  let start := f.position span.start
  let stop := f.position span.stop
  let lo := f.lineStart start.line
  (lo, max (f.lineStart (max stop.line start.line + 1)) lo)

inductive Failure where
  | unknownFile (file : FileId)
  /-- The span of the edit does not lie in its lines. -/
  | outside (span : Span) (lo hi : UInt32)
  /-- Bytes are asked for that are not there. -/
  | fault
  deriving DecidableEq, Repr

def Failure.message : Failure → Text
  | unknownFile file => "preview: unknown file " ++ Text.decimal file.toNat
  | outside span lo hi =>
    "preview: edit " ++ Text.decimal span.start.toNat ++ ".." ++ Text.decimal span.stop.toNat
      ++ " outside lines " ++ Text.decimal lo.toNat ++ ".." ++ Text.decimal hi.toNat
  | fault => "preview: slice out of range"

/-- The text of the lines from `lo` to `hi`, before and after an edit. -/
def patch? (content : Text) (lo hi : UInt32) (e : Edit) : Option (Text × Text) := do
  let block ← content.slice? lo.toNat hi.toNat
  let kept ← block.slice? 0 (e.span.start - lo).toNat
  let rest ← block.slice? (e.span.stop - lo).toNat block.length
  return (block, kept ++ e.newText ++ rest)

/-- The preview of an edit of a file, unless the edit reaches beyond its lines. -/
def ofFile (f : File) (e : Edit) : Except Failure Preview :=
  let (lo, hi) := bounds f e.span
  if e.span.start < lo || hi < e.span.stop || e.span.stop < e.span.start then
    .error (.outside e.span lo hi)
  else
    match patch? f.content lo hi e with
    | some (block, patched) => .ok ⟨lines block, lines patched⟩
    | none => .error .fault

def ofEdit (files : FileSet) (e : Edit) : Except Failure Preview :=
  match files.get? e.span.file with
  | some f => ofFile f e
  | none => .error (.unknownFile e.span.file)

end Preview
end TreeLint
