import TreeLint.Command.Basic
import TreeLint.Text.Case

/-! # Which command is called

The first argument that is neither a flag nor the value of one names the command. -/

namespace TreeLint.Command

/-- Whether an argument is a flag that takes the next argument as its value, as far as
the given flags tell: one that is not among them is taken to do so. -/
def takesNext (fs : Flags) (arg : Text) : Bool :=
  if arg.contains 61 then false
  else match arg with
    | 45 :: 45 :: name => !(fs.find? name).any Flag.isSwitch
    | [45, letter] => !(fs.findLetter? letter).any Flag.isSwitch
    | _ => false

/-- The arguments that are neither flags nor their values.  A flag that takes a value is
the last that is looked at when only its value follows. -/
def plainArguments (fs : Flags) : List Text → List Text
  | [] => []
  | arg :: rest =>
    if arg == "--" then []
    else if takesNext fs arg then
      match rest with
      | _ :: next :: more => plainArguments fs (next :: more)
      | _ => []
    else if arg.isEmpty || arg.head? == some 45 then plainArguments fs rest
    else arg :: plainArguments fs rest
termination_by args => args.length

/-- The arguments without the first plain one that is a given word. -/
def without (fs : Flags) (word : Text) : List Text → List Text
  | [] => []
  | arg :: rest =>
    if arg == "--" then arg :: rest
    else if takesNext fs arg then
      match rest with
      | value :: more => arg :: value :: without fs word more
      | [] => [arg]
    else if arg.head? != some 45 && arg == word then rest
    else arg :: without fs word rest
termination_by args => args.length

/-! ## Names that are mistyped -/

/-- The next row of the table of distances between the heads of two words: `above` is
the row before, `left` the entry before. -/
def nextRow (c : UInt8) : (left diagonal : Nat) → (above : List Nat) → Text → List Nat
  | left, diagonal, up :: above, d :: ds =>
    let here := min (min (up + 1) (left + 1)) (diagonal + if c == d then 0 else 1)
    here :: nextRow c here up above ds
  | _, _, _, _ => []

/-- How many bytes have to be put in, taken out or replaced to turn one word into
another. -/
def distance (a b : Text) : Nat :=
  let first := List.range (b.length + 1)
  let rows := a.foldl (fun row c =>
    match row with
    | head :: above => (head + 1) :: nextRow c (head + 1) head above b
    | [] => []) first
  rows.getLast?.getD 0

def suggestions (typed : Text) : List Text :=
  let names := Name.all.map Name.text ++ [utf8 "completion"]
  let key := Text.lower typed
  names.filter fun name =>
    distance key name ≤ 2 || name.startsWith key

def didYouMean (similar : List Text) : Text :=
  let lines : List Text := similar.map fun s => "\t" ++ s ++ "\n"
  if lines.isEmpty then [] else "\n\nDid you mean this?\n" ++ lines.flatten

def unknownCommand (typed : Text) : Text :=
  "unknown command " ++ Quoted.encode typed ++ " for " ++ Quoted.encode programName
    ++ didYouMean (suggestions typed)

/-! ## What a call is addressed to -/

/-- The shells that completions can be set up for. -/
inductive Shell where
  | bash | fish | powershell | zsh
  deriving DecidableEq, Repr, Inhabited

def Shell.all : List Shell := [bash, fish, powershell, zsh]

def Shell.text : Shell → Text
  | bash => "bash"
  | fish => "fish"
  | powershell => "powershell"
  | zsh => "zsh"

/-- What a call is addressed to: the program itself, a command, or what programs have
besides their commands. -/
inductive Target where
  | program
  | command (name : Name)
  | help
  /-- What sets up completions. -/
  | completion
  /-- What sets up completions for a shell. -/
  | script (shell : Shell)
  /-- What a shell asks when it completes a call, with descriptions or without. -/
  | request (described : Bool)
  deriving DecidableEq, Repr, Inhabited

namespace Target

def name : Target → Text
  | program => programName
  | command n => n.text
  | help => "help"
  | completion => "completion"
  | script shell => shell.text
  | request true => "__complete"
  | request false => "__completeNoDesc"

def about : Target → Text
  | program => "Rule-based linter for TypeScript sources"
  | command n => n.about
  | help => "Help about any command"
  | completion => "Generate the autocompletion script for the specified shell"
  | script shell => "Generate the autocompletion script for " ++ shell.text
  | request _ => "Request shell completion choices for the specified command-line"

def shownBelow : Target → List Target
  | program =>
    [completion, command .fix, help, command .lint, command .rules, command .version]
  | completion => Shell.all.map script
  | _ => []

def below (t : Target) : List Target :=
  t.shownBelow ++ if t = program then [request true, request false] else []

def ownFlags : Target → Flags
  | program => [helpFlag programName, versionFlag]
  | command n => n.ownFlags ++ [helpFlag n.text]
  | script shell =>
    [.switch "no-descriptions" "disable completion descriptions", helpFlag shell.text]
  | request _ => [helpFlag (request true).name]
  | t => [helpFlag t.name]

def flags (t : Target) : Flags := t.ownFlags ++ commonFlags

/-- What the first plain argument leads to, with the arguments that are left. -/
def next? (t : Target) (args : List Text) : Option (Target × List Text) := do
  let word ← (plainArguments commonFlags args).head?
  let found ← t.below.find? (·.name == word)
  return (found, without commonFlags word args)

/-- What arguments are addressed to, with those that are left.  Below the program there
are two levels. -/
def ofArguments (args : List Text) : Target × List Text :=
  match program.next? args with
  | none => (program, args)
  | some (t, args) => (t.next? args).getD (t, args)

end Target

/-- What is wrong with arguments that are addressed to the program itself: the first
plain one names no command. -/
def strayArgument? (t : Target) (args : List Text) : Option Text :=
  if t = .program then (plainArguments commonFlags args).head? else none

end TreeLint.Command
