import TreeLint.Diagnostic.Basic
import TreeLint.Source.FileSet

/-! # Parts that reports share

How paths and places are shown, and in which order the fixes of a diagnostic are
listed. -/

namespace TreeLint

/-- The path style of a name given by a user, and whether the name is known.  No name
means the automatic style. -/
def PathStyle.read (name : Text) : PathStyle × Bool :=
  if name.isEmpty then (auto, true)
  else match ofName name with
    | verbatim => (auto, false)
    | style => (style, true)

def PathStyle.name : PathStyle → Text
  | absolute => "absolute"
  | relative => "relative"
  | basename => "basename"
  | auto => "auto"
  | verbatim => []

namespace Report

def path (files : FileSet) (style : PathStyle) (f : File) : Text :=
  Path.display files.cwd style f.path files.baseDir

def location? (files : FileSet) (style : PathStyle) (span : Span) : Option Text :=
  (files.get? span.file).map fun f =>
    let p := f.position span.start
    path files style f ++ ":" ++ Text.decimal p.line.toNat ++ ":" ++ Text.decimal p.column.toNat

/-- Whether fix `a` may be listed before fix `b`: preferred ones first, then by
applicability, kind, title and id. -/
def listedBefore (a b : Fix) : Bool :=
  if a.preferred != b.preferred then a.preferred
  else if a.applicability.code != b.applicability.code then
    a.applicability.code < b.applicability.code
  else if a.kind.code != b.kind.code then a.kind.code < b.kind.code
  else if a.title != b.title then a.title.less b.title
  else a.id.atMost b.id

/-- The fixes of a diagnostic in the order they are listed in. -/
def listed (fixes : List Fix) : List Fix := fixes.mergeSort listedBefore

end Report
end TreeLint
