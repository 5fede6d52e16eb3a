import TreeLint.Config
import TreeLint.Disk

/-! # Finding the sources

A target is a file, which is always taken, or a folder, of which all sources are taken
that are not below a folder to be skipped. -/

namespace TreeLint

def declarationEndings : List Text := List.map utf8 [".d.ts", ".d.mts", ".d.cts"]

def sourceExtensions : List Text := List.map utf8 [".ts", ".tsx", ".mts", ".cts"]

def isLintable (path : Text) : Bool :=
  let name := Path.base path
  !declarationEndings.any name.endsWith && sourceExtensions.contains (Path.extension name)

namespace Discover

open Disk (Item Folder)

mutual

def inItem (skip : Text → Bool) (path name : Text) : Item → List Text
  | .file _ => if isLintable path then [path] else []
  | .folder f => if skip name then [] else inFolder skip path f

/-- The sources of a folder at a path; inner folders may be skipped by their name. -/
def inFolder (skip : Text → Bool) (path : Text) : Folder → List Text
  | .empty => []
  | .cons name item rest =>
    inItem skip (Path.append path name) name item ++ inFolder skip path rest

end

def inTarget (d : Disk) (skip : Text → Bool) (target : Text) :
    Except Disk.Failure (List Text) :=
  match d.stat target with
  | .error f => .error f
  | .ok (.file _) => .ok [Path.clean target]
  | .ok (.folder f) => .ok (inFolder skip target f)

end Discover

structure DiscoverError where
  target : Text
  failure : Disk.Failure
  deriving DecidableEq, Repr

def DiscoverError.message (e : DiscoverError) : Text :=
  "discover " ++ e.target ++ ": " ++ e.failure.message

/-- The sources of some targets, each once and in bytewise order.  Without a
configuration no folder is skipped. -/
def discover (d : Disk) (config? : Option Config) (targets : List Text) :
    Except DiscoverError (List Text) := do
  let skip (name : Text) : Bool := config?.any fun c => c.ignores name
  let found ← targets.mapM fun target =>
    (Discover.inTarget d skip target).mapError fun f => ⟨target, f⟩
  return (Text.sorted found.flatten).eraseDups

end TreeLint
