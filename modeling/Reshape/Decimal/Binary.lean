/-!
# The exact value of a float

A finite 64-bit float is `± mantissa * 2 ^ exponent` with natural `mantissa`, and everything that
is written about floats is computed from these parts in exact arithmetic.

* `Binary.ofFloat?` reads the parts off the bit pattern, and has none for infinities and NaN.
* `integer?` is the integer that a float denotes, if it denotes one.
-/

namespace Reshape.Decimal

/-- A finite float: `mantissa * 2 ^ exponent`, negated when `negative`. -/
structure Binary where
  negative : Bool
  mantissa : Nat
  exponent : Int
deriving DecidableEq, Repr

/-- The value of the bit above the 52 bits of the fraction. -/
def hiddenBit : Nat := 0x10000000000000

def topBit (bits : Nat) : Bool :=
  bits / 0x8000000000000000 == 1

/-- The sign bit, set also on a negative zero and on some NaNs. -/
def signBit (x : Float) : Bool :=
  topBit x.toBits.toNat

/-- Exponent field 2047 marks infinities and NaN, and field 0 the floats without a hidden bit. -/
def Binary.ofBits? (bits : Nat) : Option Binary :=
  let negative := topBit bits
  let field : Nat := bits / hiddenBit % 2048
  let fraction : Nat := bits % hiddenBit
  if field = 2047 then none
  else if field = 0 then some ⟨negative, fraction, -1074⟩
  else some ⟨negative, hiddenBit + fraction, (field : Int) - 1075⟩

def Binary.ofFloat? (x : Float) : Option Binary :=
  Binary.ofBits? x.toBits.toNat

namespace Binary

/-- The magnitude as a fraction in natural numbers. -/
def numerator (b : Binary) : Nat :=
  b.mantissa * Nat.pow 2 b.exponent.toNat

def denominator (b : Binary) : Nat :=
  Nat.pow 2 (-b.exponent).toNat

theorem denominator_pos (b : Binary) : 0 < b.denominator :=
  Nat.two_pow_pos _

/-- The integer that the parts denote, if they denote one; both zeros denote `0`. -/
def integer? (b : Binary) : Option Int :=
  if b.numerator % b.denominator = 0 then
    let magnitude : Int := (b.numerator / b.denominator : Nat)
    some (if b.negative then -magnitude else magnitude)
  else none

end Binary

/-- The integer that a float denotes, if it denotes one. -/
def integer? (x : Float) : Option Int :=
  (Binary.ofFloat? x).bind Binary.integer?

end Reshape.Decimal
