import TreeLint.Text.Fold
import TreeLint.Text.GeneralCategory
import TreeLint.Text.WritingScript

/-! # Sets of characters

The sets a pattern can name: ranges, sets of properties, unions and complements.  A
set may be closed under case, which adds every character that folds like a member. -/

namespace TreeLint

inductive CharSet where
  | range (first last : Nat)
  | runs (rs : Array Run)
  | ranges (rs : Ranges)
  | union (sets : List CharSet)
  | complement (s : CharSet)
  /-- All characters that fold like a member. -/
  | caseless (s : CharSet)
  deriving Inhabited, Repr

namespace CharSet

mutual

def has (s : CharSet) (c : Nat) : Bool :=
  match s with
  | range first last => first ≤ c && c ≤ last
  | runs rs => rs.any (·.has c)
  | ranges rs => rs.any fun (first, last) => first ≤ c && c ≤ last
  | union sets => anyHas sets c
  | complement s => !s.has c
  | caseless s => (Text.sameFold c).any fun d => s.has d

def anyHas (sets : List CharSet) (c : Nat) : Bool :=
  match sets with
  | [] => false
  | s :: rest => s.has c || anyHas rest c

end

def single (c : Char) : CharSet := range c.toNat c.toNat

def digit : CharSet := range 0x30 0x39
def lower : CharSet := range 0x61 0x7A
def upper : CharSet := range 0x41 0x5A
def alpha : CharSet := union [lower, upper]
def alnum : CharSet := union [alpha, digit]
def word : CharSet := union [alnum, single '_']
def all : CharSet := range 0 0x10FFFF
def ascii : CharSet := range 0 0x7F

def ofEscape? (letter : Char) : Option CharSet :=
  let space := union [range 9 10, range 12 13, single ' ']
  match letter with
  | 'd' => some digit
  | 'D' => some (complement digit)
  | 's' => some space
  | 'S' => some (complement space)
  | 'w' => some word
  | 'W' => some (complement word)
  | _ => none

def ofName? (name : String) : Option CharSet :=
  match name with
  | "alnum" => some alnum
  | "alpha" => some alpha
  | "ascii" => some ascii
  | "blank" => some (union [single '\t', single ' '])
  | "cntrl" => some (union [range 0 0x1F, range 0x7F 0x7F])
  | "digit" => some digit
  | "graph" => some (range 0x21 0x7E)
  | "lower" => some lower
  | "print" => some (range 0x20 0x7E)
  | "punct" => some (union [range 0x21 0x2F, range 0x3A 0x40, range 0x5B 0x60, range 0x7B 0x7E])
  | "space" => some (union [range 9 13, single ' '])
  | "upper" => some upper
  | "word" => some word
  | "xdigit" => some (union [digit, range 0x61 0x66, range 0x41 0x46])
  | _ => none

/-- The set of all code points whose category starts with the given letters. -/
def category? (start : String) : Option CharSet :=
  match GeneralCategory.all.filter fun (name, _) => start.isPrefixOf name with
  | [] => none
  | cs => some (union (cs.map fun (_, rs) => runs rs))

def assigned : CharSet := union (GeneralCategory.all.map fun (_, rs) => runs rs)

def categoryNames : List (String × String) := [
  ("other", "C"), ("control", "Cc"), ("cntrl", "Cc"), ("format", "Cf"), ("unassigned", "Cn"),
  ("privateuse", "Co"), ("surrogate", "Cs"), ("letter", "L"), ("casedletter", "LC"),
  ("lowercaseletter", "Ll"), ("modifierletter", "Lm"), ("otherletter", "Lo"),
  ("titlecaseletter", "Lt"), ("uppercaseletter", "Lu"), ("mark", "M"), ("combiningmark", "M"),
  ("spacingmark", "Mc"), ("enclosingmark", "Me"), ("nonspacingmark", "Mn"), ("number", "N"),
  ("decimalnumber", "Nd"), ("digit", "Nd"), ("letternumber", "Nl"), ("othernumber", "No"),
  ("punctuation", "P"), ("punct", "P"), ("connectorpunctuation", "Pc"),
  ("dashpunctuation", "Pd"), ("closepunctuation", "Pe"), ("finalpunctuation", "Pf"),
  ("initialpunctuation", "Pi"), ("otherpunctuation", "Po"), ("openpunctuation", "Ps"),
  ("symbol", "S"), ("currencysymbol", "Sc"), ("modifiersymbol", "Sk"), ("mathsymbol", "Sm"),
  ("othersymbol", "So"), ("separator", "Z"), ("lineseparator", "Zl"),
  ("paragraphseparator", "Zp"), ("spaceseparator", "Zs")]

/-- A name without regard to case, blanks, underscores and hyphens. -/
def folded (name : List Char) : String :=
  String.ofList ((name.filter fun c => !(c == '_' || c == ' ' || c == '-')).map Char.toLower)

def ofLetters? (letters : String) : Option CharSet :=
  match letters with
  | "Cn" => some (complement assigned)
  | "C" => some (union [complement assigned, (category? "C").getD all])
  | "LC" => some (union (["Ll", "Lt", "Lu"].filterMap category?))
  | _ => if letters.isEmpty then none else category? letters

/-- The set a property name stands for: a category by its letters or its name, or a
script. -/
def ofProperty? (name : List Char) : Option CharSet :=
  let key := folded name
  if key == "any" then some all
  else if key == "assigned" then some assigned
  else if key == "ascii" then some ascii
  else if key == "lc" then ofLetters? "LC"
  else
    let letters := match key.toList with
      | [a] => String.ofList [a.toUpper]
      | [a, b] => String.ofList [a.toUpper, b]
      | _ => ""
    match ofLetters? letters with
    | some s => some s
    | none =>
      match categoryNames.lookup key with
      | some letters => ofLetters? letters
      | none =>
        (WritingScript.names.toList.findIdx? fun n => folded n.toList == key).map fun place =>
          ranges (WritingScript.ranges place)

end CharSet
end TreeLint
