import TreeLint.Command.Selection

/-! # Completing a call

A shell asks what can follow on a command line that is being typed.  The answer lists
names and flags that begin with what is typed of the last argument, and says what else
the shell may offer. -/

namespace TreeLint.Command

/-- What a shell does beside offering the completions. -/
inductive Directive where
  /-- It also offers files. -/
  | files
  | nothing
  deriving DecidableEq, Repr, Inhabited

namespace Directive

def code : Directive → Nat
  | files => 0
  | nothing => 4

def text : Directive → Text
  | files => "ShellCompDirectiveDefault"
  | nothing => "ShellCompDirectiveNoFileComp"

end Directive

structure Choice where
  word : Text
  about : Text
  deriving DecidableEq, Repr, Inhabited

structure Completions where
  choices : List Choice
  directive : Directive
  deriving DecidableEq, Repr, Inhabited

def Completions.none : Completions := ⟨[], .files⟩

def Target.choices (t : Target) (typed : Text) : List Choice :=
  (t.shownBelow.filter (·.name.startsWith typed)).map fun u => ⟨u.name, u.about⟩

def Flag.choices (f : Flag) (typed : Text) : List Choice :=
  let forms : List Text := ("--" ++ f.name) :: f.letter.toList.map fun l => [45, l]
  (forms.filter (Text.startsWith · typed)).map (⟨·, f.about⟩)

/-- Whether a flag may still be given: once only, unless its values add up. -/
def Flag.isOpen (f : Flag) : Bool :=
  match f.value with
  | .list _ => true
  | _ => !f.given

/-- The flags that begin as typed, by name: first those that all commands have. -/
def Target.flagChoices (t : Target) (fs : Flags) (typed : Text) : List Choice :=
  let isCommon (f : Flag) : Bool := t ≠ .program && commonFlags.any (·.name == f.name)
  let sorted := fs.mergeSort fun f g => Text.atMost f.name g.name
  let (common, own) := sorted.partition isCommon
  ((common ++ own).filter Flag.isOpen).flatMap (·.choices typed)

/-- The flag that a name or a letter of its own stands for. -/
def Flags.named? (fs : Flags) (name : Text) : Option Flag :=
  match name with
  | [letter] => fs.findLetter? letter
  | _ => fs.find? name

/-- Whether an argument is a flag, as far as its form tells. -/
def isFlagArgument : Text → Bool
  | 45 :: 45 :: _ :: _ => true
  | 45 :: b :: _ => b != 45
  | _ => false

/-- The name or last letter of a flag as it is written. -/
def flagWord (written : Text) : Text :=
  match written with
  | 45 :: 45 :: name => name
  | _ => written.drop (written.length - 1)

/-- What is being typed: the value of a flag or something else, after some arguments. -/
structure Typing where
  flag? : Option Flag
  args : List Text
  typed : Text
  /-- It looks like the value of a flag that there is not. -/
  astray : Bool

def Typing.ofArguments (fs : Flags) (args : List Text) (typed : Text) : Typing :=
  let other : Typing := ⟨none, args, typed, false⟩
  let lost : Typing := { other with astray := true }
  match typed.head? == some 45, Text.cut? "=" typed with
  | true, none => other
  | true, some (written, value) =>
    let word := flagWord written
    if !word.isEmpty then
      match fs.named? word with
      | some f => ⟨some f, args, value, false⟩
      | none => lost
    else afterFlag { other with typed := value } lost
  | false, _ => afterFlag other lost
where
  /-- What is being typed when the argument before may be a flag that takes a value. -/
  afterFlag (other lost : Typing) : Typing :=
    match args.getLast? with
    | none => other
    | some before =>
      let word := flagWord before
      if !isFlagArgument before || before.contains 61 || word.isEmpty then other
      else match fs.named? word with
        | none => lost
        | some f => if f.isSwitch then other else ⟨some f, args.dropLast, other.typed, false⟩

def Target.arguments? (t : Target) (args : List Text) (typed : Text) : Option (List Choice) :=
  match t with
  | completion | script _ => some []
  | help =>
    let (u, rest) := Target.ofArguments args
    some (if (strayArgument? u rest).isSome then [] else u.choices typed)
  | _ => none

/-- What can follow when the flags have been read: `others` are the arguments that are
no flags, and `dashed` tells that no flags follow any more. -/
def Target.following (t : Target) (fs : Flags) (others : List Text) (dashed : Bool)
    (now : Typing) : Completions :=
  if now.astray && !dashed then .none
  else if fs.any fun f => (f.name == "help" || f.name == "version") && f.given then
    ⟨[], .nothing⟩
  else if now.flag?.isNone && now.typed.head? == some 45 && !now.typed.contains 61 && !dashed then
    ⟨t.flagChoices fs now.typed, .nothing⟩
  else
    let names := if now.flag?.isNone && others.isEmpty then t.choices now.typed else []
    let hasNames := now.flag?.isNone && others.isEmpty && !t.shownBelow.isEmpty
    match if now.flag?.isSome && !dashed then none else t.arguments? others now.typed with
    | some more => ⟨names ++ more, .nothing⟩
    | none => ⟨names, if hasNames then .nothing else .files⟩

/-- What can follow after some arguments when `typed` is typed of the next one. -/
def complete (args : List Text) (typed : Text) : Completions :=
  let (t, rest) := Target.ofArguments args
  if (strayArgument? t rest).isSome then .none
  else match t with
  | .request _ => t.following t.flags rest false ⟨none, rest, typed, false⟩
  | _ =>
    let now := Typing.ofArguments t.flags rest typed
    match t.flags.readAll now.args, t.flags.readAll (now.args ++ [utf8 "--"]) with
    | .ok (fs, others), .ok (_, more) =>
      t.following fs others (others.length < more.length) now
    | _, _ => .none

def Choice.line (described : Bool) (c : Choice) : Text :=
  if described then c.word ++ "\t" ++ c.about ++ "\n" else c.word ++ "\n"

def Completions.list (described : Bool) (c : Completions) : Text :=
  c.choices.flatMap (·.line described) ++ ":" ++ Text.decimal c.directive.code ++ "\n"

def Completions.remark (c : Completions) : Text :=
  "Completion ended with directive: " ++ c.directive.text ++ "\n"

end TreeLint.Command
