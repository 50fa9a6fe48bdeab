/-!
# Character sets

A set of characters is a list of ranges of code points in ascending order.
-/

namespace EventWiring.Text

structure CharSet where
  ranges : List (Nat × Nat)

/-- Looks for the range that holds `n`; the ranges after it need no look. -/
def CharSet.covers : List (Nat × Nat) → Nat → Bool
  | [], _ => false
  | (lo, hi) :: rest, n => if n < lo then false else if n ≤ hi then true else covers rest n

def CharSet.contains (s : CharSet) (c : Char) : Bool := CharSet.covers s.ranges c.toNat

end EventWiring.Text
