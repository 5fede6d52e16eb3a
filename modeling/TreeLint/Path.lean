import TreeLint.Text

/-! # Slash-separated paths

Paths are handled as texts, without asking any file system: cleaning, joining,
splitting and relating them is work on their components. -/

namespace TreeLint.Path

open Text (byte splitByte join lastIndexOf?)

def slash : UInt8 := 47

def isAbsolute (p : Text) : Bool := p.head? == some slash

/-- Adds a component to the cleaned components so far, given in reverse: the empty
one and `.` say nothing, and `..` undoes its predecessor if there is one to undo. -/
def descend (rooted : Bool) (cleaned : List Text) (part : Text) : List Text :=
  if part == [] || part == "." then cleaned
  else if part == ".." then
    match cleaned with
    | [] => if rooted then [] else [part]
    | last :: before => if last == ".." then part :: cleaned else before
  else part :: cleaned

def components (p : Text) : List Text :=
  ((splitByte slash p).foldl (descend (isAbsolute p)) []).reverse

def ofComponents (rooted : Bool) (parts : List Text) : Text :=
  if rooted then slash :: join [slash] parts
  else if parts.isEmpty then "." else join [slash] parts

/-- The shortest path that names the same file by pure text work. -/
def clean (p : Text) : Text := ofComponents (isAbsolute p) (components p)

/-- Joins the elements from the first nonempty one on, and cleans the result. -/
def joinAll (elements : List Text) : Text :=
  match elements.dropWhile (·.isEmpty) with
  | [] => []
  | rest => clean (join [slash] rest)

def append (dir name : Text) : Text := joinAll [dir, name]

def base (p : Text) : Text :=
  if p.isEmpty then "."
  else
    let trimmed := (p.reverse.dropWhile (· == slash)).reverse
    if trimmed.isEmpty then "/"
    else (trimmed.reverse.takeWhile (· != slash)).reverse

def dir (p : Text) : Text := clean ((p.reverse.dropWhile (· != slash)).reverse)

def folderPart (p : Text) : Text :=
  match (p.reverse.dropWhile (· == slash)).dropWhile (· != slash) with
  | [] => "."
  | part => part.reverse

/-- What the last element of a path has from its last dot on. -/
def extension (p : Text) : Text :=
  let last := (p.reverse.takeWhile (· != slash)).reverse
  match lastIndexOf? (byte '.') last with
  | some i => last.drop i
  | none => []

/-- The path as seen from the working directory `cwd`. -/
def absolute (cwd p : Text) : Text :=
  if isAbsolute p then clean p else append cwd p

/-- Drops the components two paths have in common at their start. -/
def diverge : List Text → List Text → List Text × List Text
  | a :: as, b :: bs => if a == b then diverge as bs else (a :: as, b :: bs)
  | as, bs => (as, bs)

/-- The steps of a cleaned path, the root of an absolute one being an empty first
step. -/
def steps (cleaned : Text) : List Text :=
  if cleaned == "." then []
  else if cleaned == "/" then [[]]
  else splitByte slash cleaned

/-- A path that leads from `start` to `target`, when both are absolute or both are
not, and `start` does not lead up past what the two have in common. -/
def relative? (start target : Text) : Option Text :=
  let b := clean start
  let t := clean target
  if b == t then some "."
  else if isAbsolute b != isAbsolute t then none
  else
    match diverge (steps b) (steps t) with
    | ([], down) => some (join [slash] down)
    | (first :: up, down) =>
      if first == ".." then none
      else some (join [slash] ((first :: up).map (fun _ => utf8 "..") ++ down))

end TreeLint.Path
