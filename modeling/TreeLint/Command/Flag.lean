import TreeLint.Command.Literal

/-! # Flags

A flag has a name and a value of some type.  On the command line it is written with two
hyphens; its value follows after an equals sign or as the next argument.  A switch needs
no value. -/

namespace TreeLint.Command

inductive Value where
  | text (t : Text)
  | switch (on : Bool)
  | int (bits : Nat) (n : Int)
  | list (ts : List Text)
  deriving DecidableEq, Repr, Inhabited

structure Flag where
  name : Text
  /-- What it is for, in a few words. -/
  about : Text
  /-- The single letter it may also be given by. -/
  letter : Option UInt8
  /-- Its value, at first the one it has when it is not given. -/
  value : Value
  /-- Whether it was given. -/
  given : Bool
  deriving DecidableEq, Repr, Inhabited

namespace Flag

def text (name initial about : Text) : Flag := ⟨name, about, none, .text initial, false⟩
def switch (name about : Text) : Flag := ⟨name, about, none, .switch false, false⟩
def int (name : Text) (bits : Nat) (initial : Int) (about : Text) : Flag :=
  ⟨name, about, none, .int bits initial, false⟩
def list (name about : Text) : Flag := ⟨name, about, none, .list [], false⟩

def withLetter (f : Flag) (letter : Char) : Flag := { f with letter := some (Text.byte letter) }

def isSwitch (f : Flag) : Bool :=
  match f.value with
  | .switch _ => true
  | _ => false

/-- The flag with a value as it is written.  Values of a list add up. -/
def set (f : Flag) (written : Text) : Except LiteralError Flag := do
  let value ← match f.value with
    | .text _ => Except.ok (.text written)
    | .switch _ => (readBool written).map .switch
    | .int bits _ => (readInt bits written).map (.int bits)
    | .list old => (readList written).map fun new => .list (if f.given then old ++ new else new)
  return { f with value, given := true }

end Flag

abbrev Flags := List Flag

namespace Flags

def find? (fs : Flags) (name : Text) : Option Flag := List.find? (·.name == name) fs

def findLetter? (fs : Flags) (letter : UInt8) : Option Flag :=
  List.find? (·.letter == some letter) fs

def replace (fs : Flags) (f : Flag) : Flags := fs.map fun g => if g.name == f.name then f else g

def text (fs : Flags) (name : String) : Text :=
  match (fs.find? name).map Flag.value with
  | some (.text t) => t
  | _ => []

def isOn (fs : Flags) (name : String) : Bool :=
  match (fs.find? name).map Flag.value with
  | some (.switch on) => on
  | _ => false

def int (fs : Flags) (name : String) : Int :=
  match (fs.find? name).map Flag.value with
  | some (.int _ n) => n
  | _ => 0

def list (fs : Flags) (name : String) : List Text :=
  match (fs.find? name).map Flag.value with
  | some (.list ts) => ts
  | _ => []

end Flags

inductive ArgumentError where
  | badFlag (written : Text)
  | unknownFlag (name : Text)
  | unknownLetter (letter : UInt8) (written : Text)
  | valueMissing (name : Text)
  | letterValueMissing (letter : UInt8) (written : Text)
  | badValue (flag : Flag) (written : Text) (e : LiteralError)
  deriving DecidableEq, Repr

def Flag.shown (f : Flag) : Text :=
  match f.letter with
  | some l => "-" ++ [l] ++ ", --" ++ f.name
  | none => "--" ++ f.name

/-- A letter as messages show it: the character of the first byte of its UTF-8 form. -/
def shownLetter (letter : UInt8) : Text :=
  Quoted.encodeByte ((Utf8.encode (Char.ofNat letter.toNat)).headD letter)

def ArgumentError.message : ArgumentError → Text
  | badFlag written => "bad flag syntax: " ++ written
  | unknownFlag name => "unknown flag: --" ++ name
  | unknownLetter letter written =>
    "unknown shorthand flag: " ++ shownLetter letter ++ " in -" ++ written
  | valueMissing name => "flag needs an argument: --" ++ name
  | letterValueMissing letter written =>
    "flag needs an argument: " ++ shownLetter letter ++ " in -" ++ written
  | badValue flag written e =>
    "invalid argument " ++ Quoted.encode written ++ " for " ++ Quoted.encode flag.shown ++ " flag: "
      ++ e.message

namespace Flags

def set (fs : Flags) (f : Flag) (written : Text) : Except ArgumentError Flags :=
  match f.set written with
  | .ok f => .ok (fs.replace f)
  | .error e => .error (.badValue f written e)

/-- Takes a flag written with two hyphens, given without them; the arguments that are
left follow. -/
def takeLong (fs : Flags) (written : Text) (rest : List Text) :
    Except ArgumentError (Flags × List Text) :=
  let (name, value?) : Text × Option Text := match Text.cut? "=" written with
    | some (name, value) => (name, some value)
    | none => (written, none)
  match fs.find? name with
  | none => .error (.unknownFlag name)
  | some f =>
    match value?, f.isSwitch, rest with
    | some value, _, rest => (fs.set f value).map (·, rest)
    | none, true, rest => (fs.set f "true").map (·, rest)
    | none, false, value :: rest => (fs.set f value).map (·, rest)
    | none, false, [] => .error (.valueMissing name)

/-- Letters that begin like this are meant for a test runner and not looked at. -/
def testRunnerLetters : Text := "test."

def takeLetters (fs : Flags) : (letters : Text) → (rest : List Text) →
    Except ArgumentError (Flags × List Text)
  | [], rest => .ok (fs, rest)
  | letter :: more, rest =>
    if Text.startsWith (letter :: more) testRunnerLetters then .ok (fs, rest)
    else match fs.findLetter? letter with
    | none => .error (.unknownLetter letter (letter :: more))
    | some f =>
      match more, f.isSwitch, rest with
      | 61 :: b :: value, _, rest => (fs.set f (b :: value)).map (·, rest)
      | more, true, rest =>
        match fs.set f "true" with
        | .ok fs => takeLetters fs more rest
        | .error e => .error e
      | b :: value, false, rest => (fs.set f (b :: value)).map (·, rest)
      | [], false, value :: rest => (fs.set f value).map (·, rest)
      | [], false, [] => .error (.letterValueMissing letter [letter])

/-- Reads arguments: the flags as they are set, and the arguments that are no flags.
After two hyphens there are no flags any more. -/
def read : (fuel : Nat) → Flags → List Text → Except ArgumentError (Flags × List Text)
  | 0, fs, _ => .ok (fs, [])
  | _ + 1, fs, [] => .ok (fs, [])
  | fuel + 1, fs, arg :: rest =>
    match arg with
    | 45 :: 45 :: [] => .ok (fs, rest)
    | 45 :: 45 :: b :: name =>
      if b == 45 || b == 61 then .error (.badFlag arg)
      else
        match takeLong fs (b :: name) rest with
        | .error e => .error e
        | .ok (fs, rest) => read fuel fs rest
    | 45 :: b :: letters =>
      match takeLetters fs (b :: letters) rest with
      | .error e => .error e
      | .ok (fs, rest) => read fuel fs rest
    | arg => (read fuel fs rest).map fun (fs, others) => (fs, arg :: others)

def readAll (fs : Flags) (args : List Text) : Except ArgumentError (Flags × List Text) :=
  read (args.length + 1) fs args

end Flags
end TreeLint.Command
