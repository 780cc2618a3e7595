import Reshape.Decimal.Shortest

/-!
# Writing a decimal

A `Layout` holds the decisions of one written form of floats: which magnitudes are written without
an exponent, and whether an integral value keeps a fraction. `Layout.write` is the one writer.
-/

namespace Reshape.Decimal

/-- The decimal digits of a natural number, most significant first. -/
def digits (n : Nat) : List Char :=
  Nat.toDigits 10 n

structure Layout where
  /-- The neighbour taken when two shortest decimals are equally near. -/
  tie : Tie
  /-- The exponents of the leading digit that are written positionally, if only some are. -/
  positional : Option (Int × Int)
  /-- Integral values keep the fraction `.0`. -/
  keepsFraction : Bool
  infinity : String
  nan : String

namespace Layout

def positionalText (keepsFraction : Bool) (s : Scaled) : List Char :=
  let ds := digits s.coefficient
  if 0 ≤ s.exponent then
    ds ++ List.replicate s.exponent.toNat '0' ++ (if keepsFraction then ['.', '0'] else [])
  else
    let places := (-s.exponent).toNat
    if places < ds.length then
      ds.take (ds.length - places) ++ '.' :: ds.drop (ds.length - places)
    else
      '0' :: '.' :: List.replicate (places - ds.length) '0' ++ ds

/-- One digit before the point, and the exponent with its sign. -/
def exponentText (s : Scaled) : List Char :=
  let ds := digits s.coefficient
  let leading := s.exponent + (ds.length - 1 : Nat)
  let fraction := ds.drop 1
  ds.take 1 ++ (if fraction.isEmpty then [] else '.' :: fraction)
    ++ 'e' :: (if 0 ≤ leading then '+' else '-') :: digits leading.natAbs

def magnitudeText (l : Layout) (s : Scaled) : List Char :=
  let leading := s.exponent + ((digits s.coefficient).length - 1 : Nat)
  match l.positional with
  | none => positionalText l.keepsFraction s
  | some (low, high) =>
    if low ≤ leading ∧ leading ≤ high then positionalText l.keepsFraction s else exponentText s

/-- The written form of a float: a sign when the sign bit is set, then the shortest decimal. -/
def write (l : Layout) (x : Float) : String :=
  match Binary.ofFloat? x with
  | some b =>
    let magnitude := l.magnitudeText (b.shortest l.tie)
    String.ofList (if b.negative then '-' :: magnitude else magnitude)
  | none =>
    if x.toBits.toNat % hiddenBit ≠ 0 then l.nan
    else if signBit x then "-" ++ l.infinity else l.infinity

end Layout

end Reshape.Decimal
