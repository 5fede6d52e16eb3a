import TreeLint.Json.Writer
import TreeLint.Rule.Registry
import TreeLint.Version

/-! # What the program tells of itself

The list of its rules, and the report on the program and its build. -/

/-! ## The list of rules -/

namespace TreeLint.Report.Rules

/-- Rows with their cells lined up: each cell but the last of a row is as wide as the
widest of its column and two blanks. -/
def aligned (rows : List (List Text)) : Text :=
  rows.flatMap fun row =>
    (row.zipIdx.flatMap fun (cell, i) =>
      if i + 1 == row.length then cell else Text.padRight (columnWidth i + 2) cell) ++ "\n"
where
  columnWidth (i : Nat) : Nat :=
    (rows.map fun row => (row[i]?.getD []).length).foldl max 0

def flags (r : Rule) : Text :=
  let letters := (if r.recommended then utf8 "R" else []) ++ (if r.fixable then utf8 "F" else [])
  if letters.isEmpty then "-" else letters

def table (rules : List Rule) : Text :=
  aligned ((List.map utf8 ["RULE", "TYPE", "FLAGS", "DESCRIPTION"])
      :: rules.map fun r => [r.name, r.type.name, flags r, r.description])
    ++ "\nR = recommended (enabled without configuration), F = fixable\n"

def json (rules : List Rule) : Text :=
  (Json.array (rules.map fun r => .object [("name", .string r.name),
    ("description", .string r.description), ("type", .string r.type.name),
    ("fixable", .bool r.fixable), ("recommended", .bool r.recommended),
    ("messages", .array (r.messageIds.map .string))])).report

end TreeLint.Report.Rules

/-! ## The report on the program -/

namespace TreeLint.Report.Version

def tagline : Text := "no leaks past the linter"

def known (t : Text) : Text := if t.isEmpty then "unknown" else t

/-- What is told: the record of the build, with the parts that are asked for. -/
structure Info where
  version : Text
  toolchain : Text
  commit : Option Text
  date : Option Text
  deriving DecidableEq, Repr

def Info.ofBuild (b : Build) (withCommit withDate : Bool) : Info :=
  let b := b.shown
  ⟨b.version, b.toolchain, if withCommit then some (known b.commit) else none,
    if withDate then some (known b.date) else none⟩

/-- How many rules there are, and how many of them are recommended. -/
def ruleCount : Nat := Rule.all.length

def recommendedCount : Nat := Rule.all.countP (·.recommended)

def line (label : Text) (value? : Option Text) : Text :=
  match value? with
  | some value => label ++ value ++ "\n"
  | none => []

def pretty (color : Bool) (i : Info) : Text :=
  programName ++ " " ++ TreeLint.Version.painted color i.version ++ ": " ++ tagline ++ "\n"
    ++ "rules:  " ++ Text.decimal ruleCount ++ " (" ++ Text.decimal recommendedCount
    ++ " recommended)\n"
    ++ line "commit: " i.commit
    ++ line "built:  " (i.date.map fun d => d ++ utf8 " (" ++ i.toolchain ++ utf8 ")")

def json (i : Info) : Text :=
  (Json.record [[("tool", .string programName), ("version", .string i.version),
      ("tagline", .string tagline), ("rules", .nat ruleCount),
      ("recommended", .nat recommendedCount), ("go_version", .string i.toolchain)],
    i.commit.toList.map fun c => (utf8 "git_commit", .string c),
    i.date.toList.map fun d => (utf8 "build_date", .string d)]).report

end TreeLint.Report.Version
