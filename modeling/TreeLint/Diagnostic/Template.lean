import TreeLint.Text.Blank

/-! # Message templates

A template holds placeholders: a key between double braces, with white space around
it.  Filling a template replaces each by the value of its key.  Values are not
looked at again, and an opening without a closing stands for itself. -/

namespace TreeLint.Template

abbrev Data := List (Text × Text)

def Data.value (data : Data) (key : Text) : Text := (data.lookup key).getD []

def opening : Text := "\x7b\x7b"

def closing : Text := "\x7d\x7d"

def fill (data : Data) (template : Text) : Text :=
  match _h : Text.cut? opening template with
  | none => template
  | some (before, rest) =>
    match _h' : Text.cut? closing rest with
    | none => template
    | some (key, after) => before ++ data.value (Text.trim key) ++ fill data after
termination_by template.length
decreasing_by
  have h1 := Text.cut?_length _h
  have h2 := Text.cut?_length _h'
  simp only [opening, closing, utf8] at h1 h2
  have h3 : ("\x7b\x7b".toUTF8.data.toList).length = 2 := rfl
  omega

end TreeLint.Template
