import TreeLint.Toml.Fault

/-! # Numbers and dates in TOML

Literals are first taken as long as their bytes could belong to a number or a date,
and then checked: underscores stand between digits, no number starts with a needless
zero, integers fit into 64 bits and floats into a double. -/

namespace TreeLint.Toml

open Text (byte isDigit hexDigit? digitsValue)

/-- Whether every underscore stands between two digits, hexadecimal ones included;
`before` says whether the byte before was a digit. -/
def underscoresOk (before : Bool) : Text → Bool
  | [] => before
  | b :: rest => if b == 95 && !before then false else underscoresOk (hexDigit? b).isSome rest

/-- Whether a number starts with a zero that another digit follows. -/
def hasLeadingZero : Text → Bool
  | 43 :: 48 :: _ :: _ => true
  | 45 :: 48 :: _ :: _ => true
  | 48 :: b :: _ => !(b == byte 'b' || b == byte 'o' || b == byte 'x')
  | _ => false

/-- The value of digits in a base; underscores count for nothing. -/
def valueIn (base : Nat) (t : Text) : Nat :=
  t.foldl (fun n b => match hexDigit? b with | some d => n * base + d | none => n) 0

/-- The least number past the 64-bit integers. -/
def integerBound : Nat := UInt64.size / 2

def readInteger (t : Text) : Except Cause Int :=
  if !underscoresOk false t then .error (.integerUnderscores t)
  else if hasLeadingZero t then .error (.integerZeros t)
  else
    let fit (negative : Bool) (n : Nat) : Except Cause Int :=
      if n < integerBound then .ok (if negative then -(n : Int) else n)
      else if negative && n == integerBound then .ok (-(n : Int))
      else .error (.integerRange t)
    match t with
    | 48 :: 120 :: ds => fit false (valueIn 16 ds)
    | 48 :: 111 :: ds => fit false (valueIn 8 ds)
    | 48 :: 98 :: ds => fit false (valueIn 2 ds)
    | 43 :: ds => fit false (valueIn 10 ds)
    | 45 :: ds => fit true (valueIn 10 ds)
    | ds => fit false (valueIn 10 ds)

def pointsOk : Text → Bool
  | [] => true
  | [b] => b != 46
  | b :: c :: rest => (b != 46 || isDigit c) && pointsOk (c :: rest)

def dropSign : Text → Bool × Text
  | 43 :: t => (false, t)
  | 45 :: t => (true, t)
  | t => (false, t)

/-- The digits `m` of a decimal literal and the power of ten they are scaled by. -/
def scaled? (t : Text) : Option (Nat × Int) :=
  let (_, t) := dropSign t
  let whole := t.takeWhile isDigit
  let t := t.dropWhile isDigit
  let (fraction, t) := match t with
    | 46 :: t => (t.takeWhile isDigit, t.dropWhile isDigit)
    | t => ([], t)
  if whole.isEmpty && fraction.isEmpty then none
  else
    let m := digitsValue (whole ++ fraction)
    match t with
    | [] => some (m, -(fraction.length : Int))
    | b :: t =>
      if b != byte 'e' && b != byte 'E' then none
      else
        let (negative, ds) := dropSign t
        if ds.isEmpty || !ds.all isDigit then none
        else
          let e : Int := digitsValue ds
          some (m, (if negative then -e else e) - fraction.length)

/-- Whether `m` times ten to the power `e` rounds to a finite double: it has to be
less than the largest double and half a unit.  Powers far from that need no
arithmetic. -/
def isFinite (m : Nat) (e : Int) : Bool :=
  let limit := Nat.pow 2 1024 - Nat.pow 2 970
  if m == 0 then true
  else if e < 0 then m < limit * Nat.pow 10 (min e.natAbs (4 * (Nat.log2 m + 1)))
  else if e > 400 then false
  else m * Nat.pow 10 e.natAbs < limit

def specialFloats : List Text := List.map utf8 ["inf", "nan", "+inf", "-inf", "+nan", "-nan"]

def parts (isMark : UInt8 → Bool) : Text → List Text
  | [] => [[]]
  | b :: rest =>
    if isMark b then [] :: parts isMark rest
    else match parts isMark rest with
      | [] => [[b]]
      | p :: ps => (b :: p) :: ps

def readFloat (t : Text) : Except Cause Text :=
  let isMark (b : UInt8) : Bool := b == 46 || b == byte 'e' || b == byte 'E'
  let ps := (parts isMark t).filter (!·.isEmpty)
  if specialFloats.contains t then .ok t
  else if !ps.all (underscoresOk false) then .error (.floatUnderscores t)
  else if ps.head?.any hasLeadingZero then .error (.floatZeros t)
  else if !pointsOk t then .error (.floatPoints t)
  else
    match scaled? (t.filter (· != 95)) with
    | some (m, e) => if isFinite m e then .ok t else .error (.floatRange t)
    | none => .error (.notFloat t)

/-! ## Dates and times -/

def twoDigits? (bound : Nat) : Text → Option (Nat × Text)
  | a :: b :: rest =>
    if isDigit a && isDigit b && digitsValue [a, b] < bound then some (digitsValue [a, b], rest)
    else none
  | _ => none

def upToTwoDigits? (bound : Nat) (t : Text) : Option (Nat × Text) :=
  let ds := (t.take 2).takeWhile isDigit
  if ds.isEmpty || digitsValue ds ≥ bound then none else some (digitsValue ds, t.drop ds.length)

def isLeapYear (year : Nat) : Bool := year % 4 == 0 && (year % 100 != 0 || year % 400 == 0)

def daysIn (year month : Nat) : Nat :=
  match month with
  | 2 => if isLeapYear year then 29 else 28
  | 4 | 6 | 9 | 11 => 30
  | _ => 31

def afterDate? (t : Text) : Option Text := do
  let year := t.take 4
  if year.length < 4 || !year.all isDigit then none
  let (month, t) ← twoDigits? 13 (← Text.afterHead? "-" (t.drop 4))
  let (day, t) ← twoDigits? 32 (← Text.afterHead? "-" t)
  if month == 0 || day == 0 || daysIn (digitsValue year) month < day then none else some t

/-- What follows a time of day with its fraction of a second, if it has one. -/
def afterTime? (t : Text) : Option Text := do
  let (_, t) ← upToTwoDigits? 24 t
  let (_, t) ← twoDigits? 60 (← Text.afterHead? ":" t)
  let (_, t) ← twoDigits? 60 (← Text.afterHead? ":" t)
  match t with
  | 46 :: b :: rest => if isDigit b then some (rest.dropWhile isDigit) else some t
  | _ => some t

def isOffset (t : Text) : Bool :=
  match t with
  | [90] => true
  | sign :: rest =>
    (sign == 43 || sign == 45) &&
      (match twoDigits? 25 rest with
      | some (_, 58 :: rest) => (match twoDigits? 61 rest with | some (_, []) => true | _ => false)
      | _ => false)
  | [] => false

/-- A date with the capital letters of its format; a blank may stand for the letter
between date and time. -/
def capitals (t : Text) : Text :=
  t.map fun b => if b == byte 'z' then byte 'Z'
    else if b == byte 't' || b == 32 then byte 'T' else b

/-- Whether a text is a date, a time of day, or both with or without an offset. -/
def isDatetime (t : Text) : Bool :=
  match afterDate? t with
  | some [] => true
  | some (b :: rest) =>
    b == byte 'T' &&
      (match afterTime? rest with
      | some [] => true
      | some offset => isOffset offset
      | none => false)
  | none => afterTime? t == some []

def readDatetime (t : Text) : Except Cause Text :=
  if isDatetime (capitals t) then .ok t else .error (.notDatetime (capitals t))

end TreeLint.Toml
