import TreeLint.Report.Style
import TreeLint.Text.Blank

/-! # Versions

What is known of the program itself: its version and, where the build recorded them,
the commit and the date it was built from. -/

namespace TreeLint

def programName : Text := "airtight"

structure Build where
  version : Text
  commit : Text
  date : Text
  /-- What it was built with. -/
  toolchain : Text
  deriving DecidableEq, Repr, Inhabited

namespace Build

def this : Build := ⟨"0.1.0-dev", [], [], "lean4"⟩

/-- The record as it is shown: without white space around its parts, and with a name
for a version that is not known. -/
def shown (b : Build) : Build :=
  let version := Text.trim b.version
  { b with
    version := if version.isEmpty then "dev" else version
    commit := Text.trim b.commit
    date := Text.trim b.date }

end Build

namespace Version

def majorStyle : Style := [.yellow, .bold]
def minorStyle : Style := [.green, .bold]
def patchStyle : Style := [.blue, .bold]

/-- A version of three numbers, each in a style of its own; what follows the first
hyphen is left as it is, and so is any other text. -/
def painted (color : Bool) (version : Text) : Text :=
  let (core, suffix) : Text × Text := match Text.cut? "-" version with
    | some (core, suffix) => (core, "-" ++ suffix)
    | none => (version, [])
  match Text.splitByte 46 core with
  | [major, minor, patch] =>
    majorStyle.paint color major ++ "." ++ minorStyle.paint color minor ++ "."
      ++ patchStyle.paint color patch ++ suffix
  | _ => version

end Version
end TreeLint
