import TreeLint.Text

/-! # Doubles in decimal

A double that is not zero and not too small is a number of 53 bits times a power of
two.  Here such a number is the double nearest to a quotient, and it is written either
with a fixed number of places or with the fewest digits that read back as the same
double.  All arithmetic is exact. -/

namespace TreeLint

/-- The quotient rounded to the nearest whole number, a half going to the even one. -/
def roundDiv (num den : Nat) : Nat :=
  let q := num / den
  let r := num % den
  if 2 * r < den then q
  else if den < 2 * r then q + 1
  else q + q % 2

/-- A magnitude `mantissa * 2 ^ exponent`; other than zero it has a mantissa of 53
bits. -/
structure Binary64 where
  mantissa : Nat
  exponent : Int
  deriving DecidableEq, Repr, Inhabited

namespace Binary64

def ratio (x : Binary64) : Nat × Nat :=
  match x.exponent with
  | .ofNat e => (x.mantissa * Nat.pow 2 e, 1)
  | .negSucc e => (x.mantissa, Nat.pow 2 (e + 1))

def inUnits (num den : Nat) : (exponent : Int) → Nat
  | .ofNat e => roundDiv num (den * Nat.pow 2 e)
  | .negSucc e => roundDiv (num * Nat.pow 2 (e + 1)) den

/-- The double nearest to a quotient.  The exponent is guessed from the lengths of the
two numbers, and is one more where the mantissa would come out too long. -/
def ofRatio (num den : Nat) : Binary64 :=
  if num == 0 || den == 0 then ⟨0, 0⟩
  else
    let e : Int := (Nat.log2 num : Int) - (Nat.log2 den : Int) - 53
    if inUnits num den e < Nat.pow 2 53 then ⟨inUnits num den e, e⟩
    else
      let m := inUnits num den (e + 1)
      if m < Nat.pow 2 53 then ⟨m, e + 1⟩ else ⟨m / 2, e + 2⟩

def ofNat (n : Nat) : Binary64 := ofRatio n 1

/-- The quotient of a double and a whole number, as a double. -/
def div (x : Binary64) (n : Nat) : Binary64 :=
  let (num, den) := x.ratio
  ofRatio num (den * n)

/-- A whole number of units of ten to the power `-places`. -/
def placed (places n : Nat) : Text :=
  let ds := Text.decimal n
  let ds := List.replicate (places + 1 - ds.length) 48 ++ ds
  let whole := ds.take (ds.length - places)
  if places == 0 then whole else whole ++ "." ++ ds.drop (ds.length - places)

def fixed (places : Nat) (x : Binary64) : Text :=
  let (num, den) := x.ratio
  placed places (roundDiv (num * Nat.pow 10 places) den)

/-- Whether `n` units of ten to the power `-places` read back as the double. -/
def readsBack (x : Binary64) (places n : Nat) : Bool := ofRatio n (Nat.pow 10 places) == x

/-- The first of the given numbers of places at which the number, rounded to so many,
reads back. -/
def shortestFrom (x : Binary64) : (fuel places : Nat) → Text
  | 0, places => x.fixed places
  | fuel + 1, places =>
    let (num, den) := x.ratio
    let n := roundDiv (num * Nat.pow 10 places) den
    if x.readsBack places n then placed places n else shortestFrom x fuel (places + 1)

/-- The number with the fewest places that read back as the same double.  It is meant
for numbers of which the whole part has no more digits than a double holds. -/
def shortest (x : Binary64) : Text := shortestFrom x 40 0

end Binary64

end TreeLint
