import Reshape.Decimal.Reading
import Reshape.Value.Basic
import Reshape.Yaml.Cursor

/-!
# The values of plain scalars

A plain scalar without a tag is null, a flag, an integer or a float if it spells one, and a text
otherwise. Integers may be written in decimal, hexadecimal, octal or binary digits.

* `coreValue?`: the value of a plain scalar; integers of more than 64 bits have none.
-/

namespace Reshape.Yaml

def spellsNull (s : String) : Bool :=
  ["null", "Null", "NULL", "~"].contains s

def flag? (s : String) : Option Bool :=
  if ["true", "True", "TRUE"].contains s then some true
  else if ["false", "False", "FALSE"].contains s then some false
  else none

/-! ## Integers -/

/-- The number that digits of a base spell. -/
def digits? (base : Nat) (ds : List Char) : Option Nat :=
  if ds.isEmpty then none
  else
    ds.foldlM (fun n d =>
      if isHexDigit d ∧ hexValue d < base then some (n * base + hexValue d) else none) 0

/-- Digits with a zero in front, which spell no number. -/
def zeroInFront (text : List Char) : Bool :=
  let ds := match text with
    | '-' :: rest => rest
    | '+' :: rest => rest
    | ds => ds
  match ds with
  | '0' :: rest => !rest.isEmpty && rest.all Char.isDigit
  | _ => false

/-- The magnitude that is written with or without a mark for its base. -/
def magnitude? : List Char → Option Nat
  | '0' :: 'x' :: rest => digits? 16 rest
  | '0' :: 'o' :: rest => digits? 8 rest
  | '0' :: 'b' :: rest => digits? 2 rest
  | ds => digits? 10 ds

/-- The integer that a text spells. -/
def integer? (text : List Char) : Option Int :=
  if zeroInFront text then none
  else
    match text with
    | '-' :: rest => (magnitude? rest).map fun n => -(n : Int)
    | '+' :: rest => (magnitude? rest).map fun n => (n : Int)
    | ds => (magnitude? ds).map fun n => (n : Int)

/-- Integers of more than 128 bits are read as floats. -/
def isIntegerSize (n : Int) : Bool :=
  -0x80000000000000000000000000000000 ≤ n && n < 0x100000000000000000000000000000000

/-- A value holds integers of 64 bits. -/
def fitsValue (n : Int) : Bool :=
  -0x8000000000000000 ≤ n && n < 0x10000000000000000

/-! ## Floats -/

/-- A finite decimal. -/
def finite? (text : List Char) : Option Float :=
  (Decimal.read? text).filter Float.isFinite

def isInfinity (text : List Char) : Bool :=
  [".inf", ".Inf", ".INF"].contains (String.ofList text)

def isNotANumber (text : List Char) : Bool :=
  [".nan", ".NaN", ".NAN"].contains (String.ofList text)

/-- The float that a text spells. -/
def float? : List Char → Option Float
  | '+' :: '+' :: _ => none
  | '+' :: '-' :: _ => none
  | '+' :: rest => if isInfinity rest then some (1 / 0) else finite? rest
  | '-' :: rest => if isInfinity rest then some (-1 / 0) else finite? ('-' :: rest)
  | rest =>
    if isInfinity rest then some (1 / 0)
    else if isNotANumber rest then some (0 / 0)
    else finite? rest

/-- A float as a value; null if it is not finite. -/
def floatValue (x : Float) : Value :=
  if x.isFinite then .number (.float x) else .null

/-! ## Scalars -/

/-- The value of an integer of 64 bits; none of a longer one. -/
def integerValue? (n : Int) : Option Value :=
  if fitsValue n then some (.int n) else none

/-- The value of a plain scalar. -/
def coreValue? (s : String) : Option Value :=
  let text := s.toList
  if s.isEmpty || spellsNull s then some .null
  else
    match flag? s with
    | some b => some (.bool b)
    | none =>
      match (integer? text).filter isIntegerSize with
      | some n => integerValue? n
      | none =>
        if zeroInFront text then some (.string s)
        else
          match float? text with
          | some x => some (floatValue x)
          | none => some (.string s)

end Reshape.Yaml
