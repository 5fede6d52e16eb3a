import TreeLint.Toml.Decode

/-! # Options of a rule

A rule's options are a table of TOML values.  Each is decoded when the rule asks for
it, and replaces the default of that option entirely. -/

namespace TreeLint

/-- The options of one rule, and the document they were written in. -/
structure Options where
  document : Toml.Document
  /-- Where the table of options stands in its document. -/
  place : Toml.Key
  fields : Toml.Table
  deriving Inhabited, Repr

namespace Options

def empty : Options := ⟨.empty, [], []⟩

def read? (t : Text) : Option Options :=
  (Toml.Document.read t).toOption.map fun d => ⟨d, [], d.root⟩

def has (o : Options) (name : Text) : Bool := (o.fields.get? name).isSome

/-- The option as the type asked for: nothing when it is not there, and what is wrong
with it when it has another type. -/
def decode {α : Type} (o : Options) (name : Text) (decoder : Toml.Decoder α) :
    Except Text (Option α) :=
  match o.fields.get? name with
  | none => .ok none
  | some v =>
    match decoder (o.place ++ [name]) v with
    | .ok a => .ok (some a)
    | .error m =>
      .error ("option " ++ Quoted.encode name ++ ": " ++ m.message o.document)

def keys (o : Options) : List Text := Text.sorted (o.fields.map (·.1))

def size (o : Options) : Nat := o.fields.length

end Options
end TreeLint
