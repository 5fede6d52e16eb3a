import TreeLint.Toml.Syntax

/-! # TOML documents

The second step of reading: headers and entries are put into one table.  Beside the
table a document keeps what messages and checks need: the order of its keys, and the
kind and line of every key that was written out.

The table is built line by line.  A fault of the first step counts only when all that
stands before it fits together. -/

namespace TreeLint.Toml

/-- What a written key stands for. -/
inductive KeyKind where
  | string | integer | float | datetime | bool | array | table | tables
  deriving DecidableEq, Repr, Inhabited

def KeyKind.name : KeyKind → Text
  | string => "String"
  | integer => "Integer"
  | float => "Float"
  | datetime => "Datetime"
  | bool => "Bool"
  | array => "Array"
  | table => "Hash"
  | tables => "ArrayHash"

def KeyKind.of : Toml → KeyKind
  | .string _ => string
  | .integer _ => integer
  | .float _ => float
  | .datetime _ => datetime
  | .bool _ => bool
  | .array _ => array
  | .table _ => table
  | .tables _ => tables

/-- What is known of a written key. -/
structure KeyInfo where
  kind : KeyKind
  line : Nat
  deriving DecidableEq, Repr, Inhabited

/-- A document under construction or complete.  Keys are looked up as they are
written. -/
structure Document where
  root : Table
  /-- All headers and entries in the order of the text. -/
  keys : List Key
  infos : List (Text × KeyInfo)
  /-- Tables that exist only because something below them was written. -/
  implicits : List Text
  deriving Inhabited, Repr

namespace Document

def empty : Document := ⟨[], [], [], []⟩

def info? (d : Document) (key : Key) : Option KeyInfo := d.infos.lookup key.written

def line? (d : Document) (key : Key) : Option Nat := (d.info? key).map KeyInfo.line

def noteKey (d : Document) (key : Key) : Document := { d with keys := d.keys ++ [key] }

def noteInfo (d : Document) (key : Key) (kind : KeyKind) (line : Nat) : Document :=
  let name := key.written
  { d with infos := (name, ⟨kind, line⟩) :: d.infos.filter (·.1 != name) }

def markImplicit (d : Document) (key : Key) : Document :=
  { d with implicits := key.written :: d.implicits }

def unmarkImplicit (d : Document) (key : Key) : Document :=
  { d with implicits := d.implicits.filter (· != key.written) }

def isImplicit (d : Document) (key : Key) : Bool := d.implicits.contains key.written

/-- Changes the table a path leads to.  Of several tables under one key the path leads
into the last. -/
def changeAt (change : Table → Option Table) : Key → Table → Option Table
  | [], t => change t
  | name :: rest, t =>
    match t.get? name with
    | some (.table sub) => (changeAt change rest sub).map fun s => t.put name (.table s)
    | some (.tables subs) =>
      match subs.getLast? with
      | some sub => (changeAt change rest sub).map fun s =>
          t.put name (.tables (subs.dropLast ++ [s]))
      | none => none
    | _ => none

def tableAt? : Key → Table → Option Table
  | [], t => some t
  | name :: rest, t =>
    match t.get? name with
    | some (.table sub) => tableAt? rest sub
    | some (.tables subs) => subs.getLast?.bind (tableAt? rest)
    | _ => none

/-- The first part of a path that leads to something other than a table. -/
def firstValue? (root : Table) (done : Key) : Key → Option Key
  | [] => none
  | name :: rest =>
    let key := done ++ [name]
    match tableAt? key root with
    | some _ => firstValue? root key rest
    | none => some key

end Document

/-- A document under construction, and the place it is built at. -/
structure Builder where
  document : Document
  /-- The table that entries go to. -/
  context : Key
  /-- The last part of the key that is being set; empty between entries. -/
  name : Text
  /-- The line of the key that was read last. -/
  line : Nat
  deriving Inhabited

namespace Builder

def new : Builder := ⟨.empty, [], [], 1⟩

def lastKey (b : Builder) : Text :=
  if b.name.isEmpty then b.context.written
  else if b.context.isEmpty then b.name
  else b.context.written ++ [46] ++ b.name

def key (b : Builder) : Key := b.context ++ [b.name]

end Builder

abbrev Build := StateT Builder (Except SyntaxError)

namespace Build

def failWith {α : Type} (fault : Fault) : Build α := fun b => .error ⟨fault, b.lastKey⟩

def fail {α : Type} (cause : Cause) : Build α := do failWith ⟨(← get).line, cause⟩

def change (f : Document → Document) : Build Unit :=
  modify fun b => { b with document := f b.document }

def enter (context : Key) : Build Unit := modify fun b => { b with context }

def turnTo (line : Nat) (name : Text) : Build Unit := modify fun b => { b with line, name }

def tableAt (path : Key) : Build Table := do
  return (Document.tableAt? path (← get).document.root).getD []

def put (path : Key) (name : Text) (value : Toml) : Build Unit :=
  change fun d =>
    let root? := Document.changeAt (fun t => some (t.put name value)) path d.root
    { d with root := root?.getD d.root }

/-- Sets a value in the current table.  A field that is there already may only have been
an implicit table, which stays as it is, or be noted as an array, whose value is
replaced. -/
def set (name : Text) (value : Toml) : Build Unit := do
  let b ← get
  let key := b.context ++ [name]
  match Document.firstValue? b.document.root [] b.context with
  | some path => fail (.defined path)
  | none => pure ()
  let t ← tableAt b.context
  if (t.get? name).isNone then put b.context name value
  else if (b.document.info? key).any (·.kind = .array) then
    change (·.unmarkImplicit key)
    put b.context name value
  else if b.document.isImplicit key then change (·.unmarkImplicit key)
  else fail (.defined key)

/-- Makes sure that there are tables along a path; those it adds are implicit. -/
def ensure (done : Key) : (path : Key) → Build Unit
  | [] => pure ()
  | name :: rest => do
    let key := done ++ [name]
    match (← tableAt done).get? name with
    | none => do
      put done name (.table [])
      change (·.markImplicit key)
    | some (.table _) | some (.tables _) => pure ()
    | some _ => fail (.passesValue key)
    ensure key rest

/-- Opens the table of a header, or of the part of a dotted key before its last name. -/
def openTable (key : Key) : Build Unit := do
  ensure [] key.dropLast
  enter key.dropLast
  set (key.getLast?.getD []) (.table [])
  enter key

def addTable (key : Key) : Build Unit := do
  let name := key.getLast?.getD []
  ensure [] key.dropLast
  enter key.dropLast
  match (← tableAt key.dropLast).get? name with
  | none => put key.dropLast name (.tables [[]])
  | some (.tables ts) => put key.dropLast name (.tables (ts ++ [[]]))
  | some _ => fail (.notTables key)
  enter key

/-- Opens the tables a dotted key names before its last name, one after the other. -/
def openParts : Key → Build Unit
  | [] => pure ()
  | name :: rest => do
    let key := (← get).context ++ [name]
    change (·.markImplicit key)
    openTable key
    openParts rest

mutual

/-- Gives a literal its value.  The fields of inline tables are put into the document on
the way, under the key that is being set. -/
def evaluate (line : Nat) (inArray : Bool) : Literal → Build Toml
  | .scalar v => pure v
  | .broken fault => failWith fault
  | .array literals => do
    let key := (← get).key
    change (·.noteInfo key .array line)
    return .array (← evaluateAll line literals)
  | .inline entries fault? => do
    let outer ← get
    modify fun b => { b with context := outer.key, name := [] }
    change (·.markImplicit outer.key)
    if inArray then addTable outer.key else openTable outer.key
    let t ← fill outer.key [] entries
    match fault? with
    | some fault => failWith fault
    | none => pure ()
    modify fun b => { b with context := outer.context, name := outer.name }
    return .table t

def evaluateAll (line : Nat) : List Literal → Build (List Toml)
  | [] => pure []
  | l :: ls => do
    let v ← evaluate line true l
    return v :: (← evaluateAll line ls)

/-- Adds the entries of an inline table both to the document, under `context`, and to the
table `t` the inline table itself stands for.  That one has each value under the last name
of its key; it is what an array holds. -/
def fill (context : Key) (t : Table) : List (Nat × Key × Literal) → Build Table
  | [] => pure t
  | (line, key, literal) :: rest => do
    let name := key.getLast?.getD []
    turnTo line name
    openParts key.dropLast
    let full := (← get).key
    change (·.noteKey full)
    let value ← evaluate line false literal
    set name value
    change (·.noteInfo full (.of value) line)
    enter context
    fill context (t.put name value) rest

end

def addLine : Line → Build Unit
  | .broken fault => failWith fault
  | .table line key => do
    turnTo line []
    openTable key
    change fun d => (d.noteInfo key .table line).noteKey key
  | .tables line key => do
    turnTo line []
    addTable key
    change fun d => (d.noteInfo key .tables line).noteKey key
  | .entry line key valueLine literal => do
    let outer := (← get).context
    let name := key.getLast?.getD []
    turnTo line name
    openParts key.dropLast
    let full := (← get).key
    change (·.noteKey full)
    let value ← evaluate valueLine false literal
    set name value
    change (·.noteInfo full (.of value) valueLine)
    modify fun b => { b with context := outer, name := [] }

def addLines : List Line → Build Unit
  | [] => pure ()
  | l :: ls => do
    addLine l
    addLines ls

end Build

def Document.read (t : Text) : Except SyntaxError Document :=
  ((Build.addLines (readLines t)).run .new).map fun (_, b) => b.document

end TreeLint.Toml
