/-! # Character tables

    A set of characters given by code points: contiguous ranges, and stretches of
    which every second character belongs to the set. -/

namespace DynamicObjects

structure CharTable where
  /-- First and last code points of contiguous runs, in ascending order. -/
  ranges : List (Nat × Nat)
  /-- First and last code points of stretches of which every second character belongs. -/
  alternating : List (Nat × Nat)

namespace CharTable

def contains (t : CharTable) (c : Char) : Bool :=
  let n := c.toNat
  t.ranges.any (fun r => decide (r.1 ≤ n ∧ n ≤ r.2)) ||
    t.alternating.any (fun r => decide (r.1 ≤ n ∧ n ≤ r.2 ∧ (n - r.1) % 2 = 0))

end CharTable

end DynamicObjects
