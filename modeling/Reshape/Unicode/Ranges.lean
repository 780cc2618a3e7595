/-!
# Sets of characters as ranges

A property of characters is a sorted list of disjoint ranges of code points, each given by its two
ends one after the other.
-/

namespace Reshape.Unicode

/-- The two ends of each range, in increasing order. -/
abbrev Ranges := List Nat

def Ranges.contains : Ranges → Nat → Bool
  | low :: high :: rest, n =>
    if n < low then false else if n ≤ high then true else Ranges.contains rest n
  | _, _ => false

end Reshape.Unicode
