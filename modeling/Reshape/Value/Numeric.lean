import Reshape.Decimal.Layout
import Reshape.Decimal.Reading
import Reshape.Text.Blank
import Reshape.Value.Basic

/-!
# Values as numbers

* `Value.ofFloat?`: the value that stores the result of a calculation.
* `numberIn?`: the number that a text spells.
* `Value.toFloat?`: the number that a value counts as, for numbers and for numeric texts.
* `floatText`: a float as text, without an exponent and without an empty fraction.
-/

namespace Reshape

/-- Up to this power of two every integer is a float of its own. -/
def exactBound : Nat := 0x20000000000000

/-- The integer that a float denotes, if it denotes one of at most `exactBound` in magnitude. -/
def exactInteger? (x : Float) : Option Int :=
  (Decimal.integer? x).filter fun n => n.natAbs ≤ exactBound

/-- Integral results are stored as integers, so that `10 + 5` is written `15`; a result that is not
finite has no value. -/
def Value.ofFloat? (x : Float) : Option Value :=
  if x.isFinite then
    match exactInteger? x with
    | some n => some (.int n)
    | none => some (.number (.float x))
  else none

/-- The finite number that a text spells between white space. -/
def numberIn? (s : String) : Option Float :=
  (Decimal.read? (Text.trimChars s.toList)).filter Float.isFinite

def Value.toFloat? : Value → Option Float
  | .number n => some n.toFloat
  | .string s => numberIn? s
  | _ => none

/-- Floats as text: always positional, and integral ones without a fraction. -/
def textLayout : Decimal.Layout where
  tie := .up
  positional := none
  keepsFraction := false
  infinity := "inf"
  nan := "NaN"

/-- A float as text. Both zeros are `0`. -/
def floatText (x : Float) : String :=
  if x == 0 then "0" else textLayout.write x

end Reshape
