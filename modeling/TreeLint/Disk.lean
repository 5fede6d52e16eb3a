import TreeLint.Path

/-! # Disks

A disk is a value: a tree of folders with files in it, and the folder that relative
paths start from.  Looking a path up follows its components one by one, so that a path
through something that is not there fails even if a later `..` would lead back. -/

namespace TreeLint

namespace Disk

mutual

inductive Item where
  | file (content : Text)
  | folder (items : Folder)

/-- The items of a folder, in the order of their names. -/
inductive Folder where
  | empty
  | cons (name : Text) (item : Item) (rest : Folder)

end

instance : Inhabited Folder := ⟨.empty⟩

instance : Inhabited Item := ⟨.folder .empty⟩

def Item.isFolder : Item → Bool
  | file _ => false
  | folder _ => true

namespace Folder

def find? (name : Text) : Folder → Option Item
  | empty => none
  | cons n item rest => if n == name then some item else rest.find? name

/-- Puts an item under a name, in place of what is there. -/
def set (name : Text) (item : Item) : Folder → Folder
  | empty => cons name item empty
  | cons n old rest =>
    if n == name then cons name item rest
    else if name.less n then cons name item (cons n old rest)
    else cons n old (rest.set name item)

def erase (name : Text) : Folder → Folder
  | empty => empty
  | cons n item rest => if n == name then rest else cons n item (rest.erase name)

/-- The item at a place, given by the names that lead to it. -/
def at? (f : Folder) : List Text → Option Item
  | [] => some (.folder f)
  | [name] => f.find? name
  | name :: next :: names =>
    match f.find? name with
    | some (.folder g) => g.at? (next :: names)
    | _ => none

end Folder

inductive Cause where
  | notFound
  | notFolder
  | isFolder
  | nameTooLong
  | invalidPath
  deriving DecidableEq, Repr

def Cause.message : Cause → Text
  | notFound => "no such file or directory"
  | notFolder => "not a directory"
  | isFolder => "is a directory"
  | nameTooLong => "file name too long"
  | invalidPath => "invalid argument"

structure Failure where
  access : Text
  path : Text
  cause : Cause
  deriving DecidableEq, Repr

def Failure.message (f : Failure) : Text := f.access ++ " " ++ f.path ++ ": " ++ f.cause.message

/-- The longest name, and the longest path, that can be looked up. -/
def maxName : Nat := 255

def maxPath : Nat := 4095

/-- Follows the components of a path from a place to the place they lead to. -/
def follow (top : Folder) (place : List Text) : List Text → Except Cause (List Text)
  | [] => .ok place
  | part :: parts =>
    match top.at? place with
    | none => .error .notFound
    | some (.file _) => .error .notFolder
    | some (.folder f) =>
      if part.isEmpty || part == "." then follow top place parts
      else if part == ".." then follow top place.dropLast parts
      else if maxName < part.length then .error .nameTooLong
      else if (f.find? part).isSome then follow top (place ++ [part]) parts
      else .error .notFound

/-- Puts a file at a place, making the folders that lead to it. -/
def Folder.write (f : Folder) (content : Text) : List Text → Except Cause Folder
  | [] => .error .isFolder
  | [name] =>
    match f.find? name with
    | some (.folder _) => .error .isFolder
    | _ => .ok (f.set name (.file content))
  | name :: next :: names =>
    match f.find? name with
    | some (.file _) => .error .notFolder
    | some (.folder g) => (g.write content (next :: names)).map fun g => f.set name (.folder g)
    | none =>
      (Folder.write .empty content (next :: names)).map fun g => f.set name (.folder g)

/-- Makes the folders that lead to a place and the folder there. -/
def Folder.makeFolder (f : Folder) : List Text → Except Cause Folder
  | [] => .ok f
  | name :: names =>
    match f.find? name with
    | some (.file _) => .error .notFolder
    | some (.folder g) => (g.makeFolder names).map fun g => f.set name (.folder g)
    | none => (Folder.makeFolder .empty names).map fun g => f.set name (.folder g)

def Folder.remove (f : Folder) : List Text → Folder
  | [] => f
  | [name] => f.erase name
  | name :: next :: names =>
    match f.find? name with
    | some (.folder g) => f.set name (.folder (g.remove (next :: names)))
    | _ => f

end Disk

/-- A tree of folders, and the folder that relative paths start from. -/
structure Disk where
  top : Disk.Folder
  /-- An absolute path. -/
  cwd : Text
  deriving Inhabited

namespace Disk

def locate (d : Disk) (path : Text) : Except Cause (List Text) :=
  if path.contains 0 then .error .invalidPath
  else if path.isEmpty then .error .notFound
  else if maxPath < path.length then .error .nameTooLong
  else
    let start := if Path.isAbsolute path then [] else Path.components d.cwd
    follow d.top start (Text.splitByte Path.slash path)

def look (d : Disk) (path : Text) : Except Cause Item :=
  match d.locate path with
  | .error c => .error c
  | .ok place =>
    match d.top.at? place with
    | some item => .ok item
    | none => .error .notFound

def stat (d : Disk) (path : Text) : Except Failure Item :=
  (d.look path).mapError fun c => ⟨"stat", path, c⟩

def isFolder (d : Disk) (path : Text) : Bool :=
  match d.look path with
  | .ok item => item.isFolder
  | .error _ => false

def read (d : Disk) (path : Text) : Except Failure Text :=
  match d.look path with
  | .error c => .error ⟨"open", path, c⟩
  | .ok (.folder _) => .error ⟨"read", path, .isFolder⟩
  | .ok (.file content) => .ok content

/-- The place a path names, whether or not there is anything. -/
def place (d : Disk) (path : Text) : List Text := Path.components (Path.absolute d.cwd path)

/-- Writes a file, making the folders that lead to it. -/
def write (d : Disk) (path content : Text) : Except Failure Disk :=
  match d.top.write content (d.place path) with
  | .ok top => .ok { d with top }
  | .error c => .error ⟨"open", path, c⟩

/-- Makes an empty file, or empties the one that is there; the folder it is in has to
be there.  A path that ends with a slash names a folder, whether or not there is one. -/
def create (d : Disk) (path : Text) : Except Failure Disk :=
  let fail (c : Cause) : Except Failure Disk := .error ⟨"open", path, c⟩
  match d.look path with
  | .ok (.folder _) => fail .isFolder
  | .ok (.file _) => d.write path []
  | .error c =>
    if path.isEmpty || path.contains 0 || maxPath < path.length then fail c
    else
      match d.look (Path.folderPart path) with
      | .error c => fail c
      | .ok (.file _) => fail .notFolder
      | .ok (.folder _) =>
        if path.getLast? == some Path.slash then fail .isFolder
        else if c == .notFound then d.write path []
        else fail c

def makeFolder (d : Disk) (path : Text) : Except Failure Disk :=
  match d.top.makeFolder (d.place path) with
  | .ok top => .ok { d with top }
  | .error c => .error ⟨"mkdir", path, c⟩

def remove (d : Disk) (path : Text) : Disk := { d with top := d.top.remove (d.place path) }

/-! ## The files of a disk

All files of a disk with their paths, and what has to be written to turn one disk into
another. -/

mutual

def Item.files (path : Text) : Item → List (Text × Text)
  | .file content => [(path, content)]
  | .folder f => f.files path

def Folder.files (path : Text) : Folder → List (Text × Text)
  | .empty => []
  | .cons name item rest => item.files (path ++ [Path.slash] ++ name) ++ rest.files path

end

def files (d : Disk) : List (Text × Text) := d.top.files []

inductive Change where
  | write (path content : Text)
  | remove (path : Text)
  deriving DecidableEq, Repr

/-- What turns the files of one disk into those of another. -/
def changes (before after : Disk) : List Change :=
  let written := after.files.filterMap fun (path, content) =>
    if (before.read path).toOption == some content then none else some (.write path content)
  let removed := before.files.filterMap fun (path, _) =>
    if (after.read path).toOption.isSome then none else some (.remove path)
  written ++ removed

end Disk
end TreeLint
