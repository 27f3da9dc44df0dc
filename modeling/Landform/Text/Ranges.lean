/-! # Sets of characters

A set of characters is given by the sorted list of the code points at which membership changes,
the first of which begins the first run of members. -/

namespace Landform.Text

/-- The number of entries of a sorted array that are at most `c`, found among those from `lo`
(inclusive) to `hi` (exclusive) by halving. -/
def countUpTo (bounds : Array Nat) (c lo hi : Nat) : Nat :=
  if h : lo < hi then
    let mid := (lo + hi) / 2
    if bounds.getD mid 0 ≤ c then countUpTo bounds c (mid + 1) hi else countUpTo bounds c lo mid
  else lo
termination_by hi - lo

/-- Membership in the set with the given bounds. -/
def inRuns (bounds : Array Nat) (c : Char) : Bool :=
  countUpTo bounds c.toNat 0 bounds.size % 2 == 1

end Landform.Text
