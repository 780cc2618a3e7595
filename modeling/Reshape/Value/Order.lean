import Reshape.Value.Display

/-!
# Comparing values

* `structuralEq`: equality of values, where numbers are equal as floats and the fields of an
  object may come in any order.
* `looseEq`: equality in conditions, across kinds.
* `compareOrdered`: order in conditions; most pairs of kinds have none.
* `sortOrder`: the order of two present values under `sort`.
-/

namespace Reshape

mutual

def structuralEq : Value → Value → Bool
  | .null, .null => true
  | .bool a, .bool b => a == b
  | .number a, .number b => a.toFloat == b.toFloat
  | .string a, .string b => a == b
  | .array xs, .array ys => structuralEqItems xs ys
  | .object xs, .object ys => xs.length == ys.length && structuralEqFields xs ys
  | _, _ => false

/-- Item by item, and of one length. -/
def structuralEqItems : List Value → List Value → Bool
  | [], [] => true
  | x :: xs, y :: ys => structuralEq x y && structuralEqItems xs ys
  | _, _ => false

/-- Every field of the first record is in the second with an equal value. -/
def structuralEqFields : List (String × Value) → Record → Bool
  | [], _ => true
  | (key, x) :: rest, ys =>
    (match ys.get? key with
      | some y => structuralEq x y
      | none => false) && structuralEqFields rest ys

end

/-- A text that spells a flag, in any letter case. -/
def spellsFlag (flag : Bool) (s : String) : Bool :=
  Text.asciiLower (Text.trim s) == if flag then "true" else "false"

/-- A text that spells a number equals that number. -/
def spellsNumber (n : Number) (s : String) : Bool :=
  match numberIn? s with
  | some x => x == n.toFloat
  | none => false

def looseEqValues : Value → Value → Bool
  | .null, .null => true
  | .number a, .number b => a.toFloat == b.toFloat
  | .number n, .string s => spellsNumber n s
  | .string s, .number n => spellsNumber n s
  | .bool a, .bool b => a == b
  | .bool flag, .string s => spellsFlag flag s
  | .string s, .bool flag => spellsFlag flag s
  | .bool flag, .number n => n.toFloat == if flag then 1 else 0
  | .number n, .bool flag => n.toFloat == if flag then 1 else 0
  | .string a, .string b => a == b
  | .array xs, .array ys => structuralEq (.array xs) (.array ys)
  | .object xs, .object ys => structuralEq (.object xs) (.object ys)
  | _, _ => false

/-- Equality in conditions; an absent value is null. -/
def looseEq (a b : Option Value) : Bool :=
  looseEqValues (a.getD .null) (b.getD .null)

/-- The order of two floats, which NaN has with none. -/
def compareFloats (x y : Float) : Option Ordering :=
  if x < y then some .lt
  else if x == y then some .eq
  else if y < x then some .gt
  else none

def compareValues : Value → Value → Option Ordering
  | .string a, .string b =>
    match numberIn? a, numberIn? b with
    | some x, some y => compareFloats x y
    | _, _ => some (compare a b)
  | .number a, .number b => compareFloats a.toFloat b.toFloat
  | .number n, .string s => (numberIn? s).bind fun x => compareFloats n.toFloat x
  | .string s, .number n => (numberIn? s).bind fun x => compareFloats x n.toFloat
  | _, _ => none

/-- Numbers and numeric texts compare as numbers, other texts by code point, and nothing else has an
order. -/
def compareOrdered : Option Value → Option Value → Option Ordering
  | some a, some b => compareValues a b
  | _, _ => none

/-- Two numbers sort as numbers, and any other pair by its texts. -/
def sortOrder : Value → Value → Ordering
  | .number a, .number b => (compareFloats a.toFloat b.toFloat).getD .eq
  | a, b => compare a.display b.display

end Reshape
