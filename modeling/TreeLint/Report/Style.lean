import TreeLint.Text

/-! # Terminal styles

A style is a list of attributes.  Painted text stands between the sequence that turns
them on and the one that turns them off again. -/

namespace TreeLint

/-- An attribute of terminal text. -/
inductive Attribute where
  | bold | faint | red | green | yellow | blue | magenta | cyan
  deriving DecidableEq, Repr, Inhabited

namespace Attribute

def on : Attribute → Nat
  | bold => 1
  | faint => 2
  | red => 31
  | green => 32
  | yellow => 33
  | blue => 34
  | magenta => 35
  | cyan => 36

/-- The number that turns the attribute off: weights have one of their own, colours go
by a full reset. -/
def off : Attribute → Nat
  | bold | faint => 22
  | _ => 0

end Attribute

abbrev Style := List Attribute

namespace Style

def sequence (codes : List Nat) : Text :=
  "\x1b[" ++ Text.join ";" (codes.map Text.decimal) ++ "m"

def paint (wanted : Bool) (s : Style) (t : Text) : Text :=
  if wanted then sequence (s.map Attribute.on) ++ t ++ sequence (s.map Attribute.off) else t

end Style
end TreeLint
