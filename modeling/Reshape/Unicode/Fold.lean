import Reshape.Unicode.CaseTable

/-!
# Case folding

Characters that differ in case only have one folded character in common. The orbit of a character
holds all characters with its folded character.
-/

namespace Reshape.Unicode

def fold (n : Nat) : Nat :=
  mapBy foldRuns n

def orbit (n : Nat) : List Nat :=
  let folded := fold n
  folded :: foldRuns.filterMap (·.invert? folded)

/-- The orbit within ASCII. -/
def asciiOrbit (n : Nat) : List Nat :=
  if 65 ≤ n ∧ n ≤ 90 then [n, n + 32]
  else if 97 ≤ n ∧ n ≤ 122 then [n, n - 32]
  else [n]

end Reshape.Unicode
