import Reshape.Decimal.Layout

/-!
# A fixed number of decimal places

`fixed` rounds the exact value of a float to a number of places; a half goes to the even
neighbour.
-/

namespace Reshape.Decimal

/-- The quotient rounded to the nearest integer, a half to the even one. -/
def roundDiv (num den : Nat) : Nat :=
  let floor := num / den
  let twice := 2 * (num % den)
  if twice < den then floor
  else if den < twice then floor + 1
  else if floor % 2 = 0 then floor else floor + 1

def placesText (places : Nat) (scaled : Nat) : List Char :=
  let ds := digits scaled
  let ds := List.replicate (places + 1 - ds.length) '0' ++ ds
  let whole := ds.take (ds.length - places)
  if places = 0 then whole else whole ++ '.' :: ds.drop (ds.length - places)

/-- A float with `places` decimal places; a zero keeps the sign that the float has. There is no bound
on the places, while a formatter may refuse more than 65535 of them. -/
def fixed (l : Layout) (places : Nat) (x : Float) : String :=
  match Binary.ofFloat? x with
  | some b =>
    let magnitude := placesText places (roundDiv (b.numerator * Nat.pow 10 places) b.denominator)
    String.ofList (if b.negative then '-' :: magnitude else magnitude)
  | none => l.write x

end Reshape.Decimal
