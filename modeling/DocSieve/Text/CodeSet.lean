/-!
# Sets of code points

A property of characters is stored by its bounds: the ascending code points at
which membership changes, starting outside. A character belongs to the set
when an odd number of bounds are at or below it; the number is found by
bisection.

Key definitions: `CodeSet`, `CodeSet.rank`, `CodeSet.contains`.
-/

namespace DocSieve

/-- A set of code points, by the ascending points where membership changes. -/
structure CodeSet where
  bounds : Array Nat

namespace CodeSet

variable (s : CodeSet)

/-- The first position from `low` on, below `high`, whose bound is above `c`,
where every bound before `low` is at most `c` and none from `high` on is. Each
step halves the distance. -/
def bisect (c : Nat) : (steps low high : Nat) → Nat
  | 0, low, _ => low
  | steps + 1, low, high =>
    if low < high then
      let middle := (low + high) / 2
      if s.bounds.getD middle 0 ≤ c then bisect c steps (middle + 1) high
      else bisect c steps low middle
    else low

/-- The number of bounds at or below `c`. -/
def rank (c : Nat) : Nat := s.bisect c (s.bounds.size.log2 + 1) 0 s.bounds.size

/-- Membership of a character. -/
def contains (c : Char) : Bool := s.rank c.toNat % 2 == 1

end CodeSet

end DocSieve
