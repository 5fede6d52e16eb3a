import TreeLint.Text

/-! # MessagePack

A binary format for records, lists, texts and numbers.  The writer gives numbers the
width of their type.  The reader takes any width, and what is missing in a record it
leaves as it was; a field it does not know is skipped. -/

namespace TreeLint.MessagePack

/-! ## Writing -/

/-- The last `width` bytes of a number, the most significant first. -/
def bigEndian (width n : Nat) : Text :=
  (List.range width).reverse.map fun i => (n / Nat.pow 256 i % 256).toUInt8

def nil : Text := [0xC0]

def bool (b : Bool) : Text := [if b then 0xC3 else 0xC2]

def word8 (n : UInt8) : Text := [0xCC, n]

def word16 (n : UInt16) : Text := 0xCD :: bigEndian 2 n.toNat

def word32 (n : UInt32) : Text := 0xCE :: bigEndian 4 n.toNat

def text (t : Text) : Text :=
  let n := t.length
  (if n < 32 then [0xA0 + n.toUInt8]
    else if n < 256 then [0xD9, n.toUInt8]
    else if n < 65536 then 0xDA :: bigEndian 2 n
    else 0xDB :: bigEndian 4 n) ++ t

def listHead (n : Nat) : Text :=
  if n < 16 then [0x90 + n.toUInt8]
  else if n < 65536 then 0xDC :: bigEndian 2 n
  else 0xDD :: bigEndian 4 n

def mapHead (n : Nat) : Text :=
  if n < 16 then [0x80 + n.toUInt8]
  else if n < 65536 then 0xDE :: bigEndian 2 n
  else 0xDF :: bigEndian 4 n

/-- A list of written items; no items are written as nothing at all. -/
def list (items : List Text) : Text :=
  if items.isEmpty then nil else listHead items.length ++ items.flatten

/-- A map from texts to texts; no pairs are written as nothing at all. -/
def texts (pairs : List (Text × Text)) : Text :=
  if pairs.isEmpty then nil
  else mapHead pairs.length ++ pairs.flatMap fun (k, v) => text k ++ text v

def record (fields : List (Text × Text)) : Text :=
  mapHead fields.length ++ fields.flatMap fun (name, value) => text name ++ value

/-! ## Reading -/

/-- Reads a part of a text, if it is there, and gives back what follows it. -/
abbrev Reader (α : Type) := Text → Option (α × Text)

def bytes (n : Nat) : Reader Text := fun t =>
  if n ≤ t.length then some (t.take n, t.drop n) else none

/-- The number that bytes make, the most significant first. -/
def ofBigEndian (t : Text) : Nat := t.foldl (fun n b => n * 256 + b.toNat) 0

def number (width : Nat) : Reader Nat := fun t =>
  (bytes width t).map fun (ds, rest) => (ofBigEndian ds, rest)

/-- Reads a number of `width` bytes that may be negative, as a word of 64 bits. -/
def signed (width : Nat) : Reader Nat := fun t =>
  (number width t).map fun (n, rest) =>
    (if n < Nat.pow 256 width / 2 then n else n + UInt64.size - Nat.pow 256 width, rest)

/-- The length of a text or of bytes after its code; nothing stands for no text. -/
def textLength (code : UInt8) : Reader (Option Nat) := fun t =>
  let width (n : Nat) : Option (Option Nat × Text) :=
    (number n t).map fun (n, rest) => (some n, rest)
  if code == 0xC0 then some (none, t)
  else if 0xA0 ≤ code && code ≤ 0xBF then some (some (code.toNat - 0xA0), t)
  else if code == 0xD9 || code == 0xC4 then width 1
  else if code == 0xDA || code == 0xC5 then width 2
  else if code == 0xDB || code == 0xC6 then width 4
  else none

def listLength (code : UInt8) : Reader (Option Nat) := fun t =>
  let width (n : Nat) : Option (Option Nat × Text) :=
    (number n t).map fun (n, rest) => (some n, rest)
  if code == 0xC0 then some (none, t)
  else if 0x90 ≤ code && code ≤ 0x9F then some (some (code.toNat - 0x90), t)
  else if code == 0xDC then width 2
  else if code == 0xDD then width 4
  else none

def mapLength (code : UInt8) : Reader (Option Nat) := fun t =>
  let width (n : Nat) : Option (Option Nat × Text) :=
    (number n t).map fun (n, rest) => (some n, rest)
  if code == 0xC0 then some (none, t)
  else if 0x80 ≤ code && code ≤ 0x8F then some (some (code.toNat - 0x80), t)
  else if code == 0xDE then width 2
  else if code == 0xDF then width 4
  else none

namespace Reader

/-- Reads a text; nothing is the empty text. -/
def text : Reader Text
  | [] => none
  | code :: t =>
    match textLength code t with
    | none => none
    | some (none, t) => some ([], t)
    | some (some n, t) => bytes n t

/-- Reads a number of any width as a word of 64 bits; nothing is zero. -/
def word : Reader Nat
  | [] => none
  | code :: t =>
    if code == 0xC0 then some (0, t)
    else if code ≤ 0x7F then some (code.toNat, t)
    else if 0xE0 ≤ code then some (code.toNat + UInt64.size - 256, t)
    else match code with
      | 0xCC => number 1 t
      | 0xCD => number 2 t
      | 0xCE => number 4 t
      | 0xCF => number 8 t
      | 0xD0 => signed 1 t
      | 0xD1 => signed 2 t
      | 0xD2 => signed 4 t
      | 0xD3 => signed 8 t
      | _ => none

def bool : Reader Bool
  | [] => none
  | code :: t =>
    if code == 0xC0 || code == 0xC2 then some (false, t)
    else if code == 0xC3 then some (true, t)
    else none

def times {α : Type} (item : Reader α) : Nat → Reader (List α)
  | 0, t => some ([], t)
  | n + 1, t =>
    match item t with
    | none => none
    | some (a, t) => (times item n t).map fun (as, t) => (a :: as, t)

/-- Reads a list; nothing is the empty list. -/
def list {α : Type} (item : Reader α) : Reader (List α)
  | [] => none
  | code :: t =>
    match listLength code t with
    | none => none
    | some (none, t) => some ([], t)
    | some (some n, t) => times item n t

/-- Reads a map from texts to texts; of two values of one key the later counts. -/
def texts : Reader (List (Text × Text))
  | [] => none
  | code :: t =>
    match mapLength code t with
    | none => none
    | some (none, t) => some ([], t)
    | some (some n, t) => (times pair n t).map fun (pairs, t) => (pairs.foldl insert [], t)
where
  pair : Reader (Text × Text) := fun t =>
    match text t with
    | none => none
    | some (k, t) => (text t).map fun (v, t) => ((k, v), t)
  insert (pairs : List (Text × Text)) (p : Text × Text) : List (Text × Text) :=
    pairs.filter (·.1 != p.1) ++ [p]

end Reader

/-- The number of bytes after the code of an extension of a fixed length. -/
def fixedExtension? (code : UInt8) : Option Nat :=
  match code with
  | 0xD4 => some 1
  | 0xD5 => some 2
  | 0xD6 => some 4
  | 0xD7 => some 8
  | 0xD8 => some 16
  | _ => none

/-- The number of bytes after the code of a number, or of a word that has none. -/
def scalar? (code : UInt8) : Option Nat :=
  match code with
  | 0xC0 | 0xC2 | 0xC3 => some 0
  | 0xCC | 0xD0 => some 1
  | 0xCD | 0xD1 => some 2
  | 0xCE | 0xD2 | 0xCA => some 4
  | 0xCF | 0xD3 | 0xCB => some 8
  | _ => if code ≤ 0x7F || 0xE0 ≤ code then some 0 else none

def after (n : Nat) (t : Text) : Option Text := (bytes n t).map (·.2)

mutual

def skip : (fuel : Nat) → Text → Option Text
  | 0, _ => none
  | _ + 1, [] => none
  | fuel + 1, code :: t =>
    match scalar? code, fixedExtension? code with
    | some n, _ => after n t
    | none, some n => after (n + 1) t
    | none, none =>
      match code with
      | 0xC7 => (number 1 t).bind fun (n, t) => after (n + 1) t
      | 0xC8 => (number 2 t).bind fun (n, t) => after (n + 1) t
      | 0xC9 => (number 4 t).bind fun (n, t) => after (n + 1) t
      | _ =>
        match mapLength code t, listLength code t, textLength code t with
        | some (some n, t), _, _ => skipTimes fuel (2 * n) t
        | _, some (some n, t), _ => skipTimes fuel n t
        | _, _, some (some n, t) => after n t
        | _, _, _ => none

def skipTimes : (fuel n : Nat) → Text → Option Text
  | _, 0, t => some t
  | 0, _ + 1, _ => none
  | fuel + 1, n + 1, t =>
    match skip fuel t with
    | none => none
    | some t => skipTimes fuel n t

end

/-- A field of a record and how it is read into one. -/
structure Member (α : Type) where
  name : Text
  read : α → Reader α

def Member.set {α β : Type} (name : String) (value : Reader β) (put : α → β → α) : Member α :=
  ⟨name, fun a t => (value t).map fun (b, t) => (put a b, t)⟩

namespace Reader

def named {α : Type} (fields : List (Member α)) : Nat → α → Reader α
  | 0, a, t => some (a, t)
  | n + 1, a, t =>
    match text t with
    | none => none
    | some (name, t) =>
      match fields.find? (·.name == name) with
      | some f =>
        match f.read a t with
        | none => none
        | some (a, t) => named fields n a t
      | none =>
        match skip (2 * t.length + 2) t with
        | none => none
        | some t => named fields n a t

def inOrder {α : Type} : List (Member α) → α → Reader α
  | [], a, t => some (a, t)
  | f :: fs, a, t =>
    match f.read a t with
    | none => none
    | some (a, t) => inOrder fs a t

/-- Reads a record: named fields, or all fields in a list; nothing is the empty record. -/
def record {α : Type} (zero : α) (fields : List (Member α)) : Reader α
  | [] => none
  | code :: t =>
    match mapLength code t, listLength code t with
    | some (none, t), _ => some (zero, t)
    | some (some n, t), _ => named fields n zero t
    | none, some (some 0, t) => some (zero, t)
    | none, some (some n, t) => if n == fields.length then inOrder fields zero t else none
    | none, _ => none

end Reader
end TreeLint.MessagePack
