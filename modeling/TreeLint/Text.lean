/-! # Byte texts

Everything the linter reads or writes is a sequence of bytes: source files may
hold byte sequences that are not UTF-8, and pieces of them end up in messages,
edits and reports.  A text is therefore a list of bytes, and the library's own
words are string literals turned into their UTF-8 bytes by a coercion. -/

namespace TreeLint

/-- A text is a list of bytes, usually but not necessarily UTF-8. -/
abbrev Text := List UInt8

def utf8 (s : String) : Text := s.toUTF8.data.toList

instance : Coe String Text := ⟨utf8⟩

namespace Text

def byte (c : Char) : UInt8 := c.toNat.toUInt8

def decimal (n : Nat) : Text := utf8 (toString n)

/-- An integer in decimal digits, with a minus sign when negative. -/
def decimalInt (n : Int) : Text :=
  if n < 0 then "-" ++ decimal n.natAbs else decimal n.natAbs

/-- The last `width` hexadecimal digits of a number, in lower case. -/
def hex (width : Nat) (n : Nat) : Text :=
  (List.range width).reverse.map fun i => byte (Nat.digitChar (n / Nat.pow 16 i % 16))

def hexDigit? (b : UInt8) : Option Nat :=
  if 48 ≤ b && b ≤ 57 then some (b.toNat - 48)
  else if 97 ≤ b && b ≤ 102 then some (b.toNat - 87)
  else if 65 ≤ b && b ≤ 70 then some (b.toNat - 55)
  else none

def digit? (b : UInt8) : Option Nat :=
  if 48 ≤ b && b ≤ 57 then some (b.toNat - 48) else none

def isDigit (b : UInt8) : Bool := 48 ≤ b && b ≤ 57

def isLetter (b : UInt8) : Bool := (97 ≤ b && b ≤ 122) || (65 ≤ b && b ≤ 90)

/-- The value of a text of decimal digits; any other byte counts as nothing. -/
def digitsValue (t : Text) : Nat :=
  t.foldl (fun n b => match digit? b with | some d => n * 10 + d | none => n) 0

def startsWith (t head : Text) : Bool := head.isPrefixOf t

def endsWith (t tail : Text) : Bool := tail.isSuffixOf t

/-- What follows the given head, when the text begins with it. -/
def afterHead? : (head : Text) → (t : Text) → Option Text
  | [], t => some t
  | _ :: _, [] => none
  | h :: hs, b :: bs => if h == b then afterHead? hs bs else none

theorem afterHead?_length {head t rest : Text} (h : afterHead? head t = some rest) :
    head.length + rest.length = t.length := by
  induction head generalizing t with
  | nil => simp_all [afterHead?]
  | cons c cs ih =>
    cases t with
    | nil => simp [afterHead?] at h
    | cons d ds =>
      simp only [afterHead?] at h
      split at h
      · have := ih h
        simp only [List.length_cons]
        omega
      · simp at h

/-- The text without the given tail, or the whole text when it does not end so. -/
def withoutTail (t tail : Text) : Text :=
  if t.endsWith tail then t.take (t.length - tail.length) else t

/-- The text without the given head, or the whole text when it does not begin so. -/
def withoutHead (t head : Text) : Text := (afterHead? head t).getD t

/-- Cuts a text at the first occurrence of `mark` into what stands before it and
what follows it. -/
def cut? (mark : Text) : Text → Option (Text × Text)
  | [] => if mark.isEmpty then some ([], []) else none
  | b :: bs =>
    match afterHead? mark (b :: bs) with
    | some rest => some ([], rest)
    | none => (cut? mark bs).map fun (before, after) => (b :: before, after)

theorem cut?_length {mark t before after : Text} (h : cut? mark t = some (before, after)) :
    before.length + mark.length + after.length = t.length := by
  induction t generalizing before with
  | nil =>
    simp only [cut?] at h
    split at h <;> simp_all
  | cons b bs ih =>
    simp only [cut?] at h
    split at h
    · next rest hrest =>
      simp only [Option.some.injEq, Prod.mk.injEq] at h
      obtain ⟨rfl, rfl⟩ := h
      simpa using afterHead?_length hrest
    · simp only [Option.map_eq_some_iff, Prod.exists] at h
      obtain ⟨x, y, hxy, heq⟩ := h
      simp only [Prod.mk.injEq] at heq
      obtain ⟨rfl, rfl⟩ := heq
      have := ih hxy
      simp only [List.length_cons]
      omega

def hasPart (t part : Text) : Bool := (cut? part t).isSome

/-- The text between consecutive separators; always at least one part. -/
def splitByte (sep : UInt8) : Text → List Text
  | [] => [[]]
  | b :: bs =>
    match splitByte sep bs with
    | [] => [[b]]
    | part :: parts => if b == sep then [] :: part :: parts else (b :: part) :: parts

def join (sep : Text) : List Text → Text
  | [] => []
  | [t] => t
  | t :: u :: ts => t ++ sep ++ join sep (u :: ts)

/-- Replaces every occurrence of `old`, left to right and without overlap.  The
count of bytes still to skip is what is left of the occurrence just replaced. -/
def replaceFrom (old new : Text) : Nat → Text → Text
  | _, [] => []
  | skip + 1, _ :: bs => replaceFrom old new skip bs
  | 0, b :: bs =>
    if startsWith (b :: bs) old then new ++ replaceFrom old new (old.length - 1) bs
    else b :: replaceFrom old new 0 bs

/-- Replaces every occurrence of the nonempty text `old` by `new`. -/
def replace (t old new : Text) : Text := replaceFrom old new 0 t

/-- Bytewise order. -/
def less : Text → Text → Bool
  | _, [] => false
  | [], _ :: _ => true
  | a :: as, b :: bs => a < b || (a == b && less as bs)

def atMost (s t : Text) : Bool := !less t s

def times (n : Nat) (t : Text) : Text := (List.replicate n t).flatten

/-- The text followed by blanks up to a length in bytes. -/
def padRight (width : Nat) (t : Text) : Text := t ++ List.replicate (width - t.length) 32

/-- The text preceded by blanks up to a length in bytes. -/
def padLeft (width : Nat) (t : Text) : Text := List.replicate (width - t.length) 32 ++ t

/-- The bytes from `start` up to `stop`, as far as they exist. -/
def slice (t : Text) (start stop : Nat) : Text := (t.drop start).take (stop - start)

/-- The bytes from `start` up to `stop`, which have to be there. -/
def slice? (t : Text) (start stop : Int) : Option Text :=
  if 0 ≤ start ∧ start ≤ stop ∧ stop ≤ t.length then some (t.slice start.toNat stop.toNat) else none

def lastIndexOf? (b : UInt8) (t : Text) : Option Nat :=
  (t.reverse.findIdx? (· == b)).map fun i => t.length - 1 - i

/-- ASCII letters in lower case, every other byte unchanged. -/
def asciiLower (t : Text) : Text :=
  t.map fun b => if 65 ≤ b && b ≤ 90 then b + 32 else b

def sorted (ts : List Text) : List Text := ts.mergeSort atMost

def toString? (t : Text) : Option String := String.fromUTF8? ⟨t.toArray⟩

end Text
end TreeLint
