import TreeLint.Source.File

/-! # File sets

All files of one run, numbered in the order they were added. -/

namespace TreeLint

/-- The files of a run, the directory their paths are shown relative to (empty for
the working directory), and the working directory itself. -/
structure FileSet where
  files : List File
  base : Text
  cwd : Text
  deriving Repr, Inhabited

namespace FileSet

def empty (cwd base : Text) : FileSet := ⟨[], base, cwd⟩

def baseDir (s : FileSet) : Text := if s.base.isEmpty then s.cwd else s.base

def size (s : FileSet) : Nat := s.files.length

def get? (s : FileSet) (id : FileId) : Option File := s.files[id.toNat]?

/-- Adds a text under a path.  Adding a path twice gives two independent files. -/
def add (s : FileSet) (path content : Text) (flags : FileFlags) : FileSet × FileId :=
  let id := s.files.length.toUInt32
  let flags := { flags with hasCrlf := flags.hasCrlf || content.hasPart "\r\n" }
  ({ s with files := s.files ++ [⟨id, Path.clean path, content, flags⟩] }, id)

/-- Adds bytes read from disk: a leading byte order mark is taken off and noted. -/
def load (s : FileSet) (path bytes : Text) : FileSet × FileId :=
  match Text.afterHead? File.byteOrderMark bytes with
  | some content => s.add path content ⟨false, true, false⟩
  | none => s.add path bytes ⟨false, false, false⟩

def addInMemory (s : FileSet) (path content : Text) : FileSet × FileId :=
  s.add path content ⟨true, false, false⟩

/-- The positions where a span starts and stops; zero for an unknown file. -/
def resolve (s : FileSet) (span : Span) : Position × Position :=
  match s.get? span.file with
  | some f => (f.position span.start, f.position span.stop)
  | none => (⟨0, 0⟩, ⟨0, 0⟩)

end FileSet
end TreeLint
