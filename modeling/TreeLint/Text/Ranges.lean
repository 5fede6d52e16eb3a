/-! # Sorted ranges of code points

Unicode properties are kept as arrays of closed ranges in increasing order, and
looked up by halving. -/

namespace TreeLint

/-- Closed ranges of code points, disjoint and in increasing order. -/
abbrev Ranges := Array (Nat × Nat)

namespace Ranges

/-- Looks for the range that holds `c` between the indices `lo` and `hi`, halving
their distance `fuel` times at most. -/
def search (rs : Ranges) (c : Nat) : (fuel lo hi : Nat) → Bool
  | 0, _, _ => false
  | fuel + 1, lo, hi =>
    if lo ≥ hi then false
    else
      let mid := (lo + hi) / 2
      match rs[mid]? with
      | none => false
      | some (first, last) =>
        if c < first then search rs c fuel lo mid
        else if last < c then search rs c fuel (mid + 1) hi
        else true

def has (rs : Ranges) (c : Nat) : Bool := search rs c (rs.size + 1) 0 rs.size

end Ranges
end TreeLint
