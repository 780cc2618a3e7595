import Reshape.Decimal.Binary

/-!
# The shortest decimal that reads back

Every float is the nearest float to each real of an interval around it, so a decimal inside that
interval reads back as the float. `shortest` looks for one on ever finer decimal grids: the first
grid that has a point inside fixes the number of digits, and of two points the nearer one is taken.

If a grid has any point inside the interval, then one of the two neighbours of the value on that
grid is inside, so only these two are tested.
-/

namespace Reshape.Decimal

/-- Which neighbour is taken when the value lies exactly halfway between two grid points. -/
inductive Tie where
  | up
  | even
deriving DecidableEq, Repr

structure Scaled where
  coefficient : Nat
  exponent : Int
deriving DecidableEq, Repr

namespace Binary

/-- The number of quarter units between the value and the lower end of its interval: half a unit,
but a quarter below a power of two, where the floats are twice as dense. -/
def quartersBelow (b : Binary) : Nat :=
  if b.mantissa = hiddenBit ∧ -1074 < b.exponent then 1 else 2

/-- Quarter units and a grid step of `10 ^ g`, both over one common denominator. -/
def quarterUnit (b : Binary) (g : Int) : Nat :=
  Nat.pow 2 (b.exponent - 2).toNat * Nat.pow 10 (-g).toNat

def gridStep (b : Binary) (g : Int) : Nat :=
  Nat.pow 10 g.toNat * Nat.pow 2 (2 - b.exponent).toNat

/-- The point of the grid of step `10 ^ g` that stands for the value, as a multiple of the step. -/
def gridPoint? (b : Binary) (tie : Tie) (g : Int) : Option Nat :=
  let unit := b.quarterUnit g
  let step := b.gridStep g
  let value := 4 * b.mantissa * unit
  let low := (4 * b.mantissa - b.quartersBelow) * unit
  let high := (4 * b.mantissa + 2) * unit
  let floor := value / step
  let closed := b.mantissa % 2 = 0
  let below := low < floor * step ∨ (closed ∧ low = floor * step)
  let above := (floor + 1) * step < high ∨ (closed ∧ (floor + 1) * step = high)
  let twice := 2 * (value - floor * step)
  if below ∧ above then
    if twice < step then some floor
    else if step < twice then some (floor + 1)
    else match tie with
      | .up => some (floor + 1)
      | .even => some (if floor % 2 = 0 then floor else floor + 1)
  else if below then some floor
  else if above then some (floor + 1)
  else none

/-- An exponent of ten whose power is above the value: `30103 / 100000` is just above the logarithm
of two. -/
def gridStart (b : Binary) : Int :=
  (b.mantissa.log2 + 1 + b.exponent) * 30103 / 100000 + 2

/-- The first grid with a point inside the interval, from step `10 ^ g` downwards. -/
def searchGrids (b : Binary) (tie : Tie) : Nat → Int → Scaled
  | 0, g => ⟨0, g⟩
  | fuel + 1, g =>
    match b.gridPoint? tie g with
    | some d => ⟨d, g⟩
    | none => searchGrids b tie fuel (g - 1)

/-- The shortest decimal that reads back as the magnitude. Seventeen digits always suffice, and
`gridStart` lies at most three grids above the first digit. -/
def shortest (b : Binary) (tie : Tie) : Scaled :=
  if b.mantissa = 0 then ⟨0, 0⟩ else b.searchGrids tie 24 b.gridStart

end Binary

end Reshape.Decimal
