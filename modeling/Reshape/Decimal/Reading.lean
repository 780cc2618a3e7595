/-!
# Reading a decimal

`read?` is the nearest float to a written decimal: an optional sign, digits with at most one point
and at least one digit, an optional exponent; or a name of infinity or NaN in any letter case.
-/

namespace Reshape.Decimal

/-- The number that a run of decimal digits writes. -/
def ofDigits (ds : List Char) : Nat :=
  ds.foldl (fun n c => 10 * n + (c.toNat - '0'.toNat)) 0

/-- The nearest float to `coefficient * 10 ^ exponent`. Beyond `10 ^ 310` there is only infinity,
and below `10 ^ (-330)` only zero. -/
def nearest (coefficient : Nat) (exponent : Int) : Float :=
  if coefficient = 0 then 0
  else if 310 ≤ exponent then Float.ofScientific 1 false 310
  else if ((Nat.toDigits 10 coefficient).length : Int) + exponent < -330 then 0
  else Float.ofScientific coefficient (exponent < 0) exponent.natAbs

def takeSign : List Char → Bool × List Char
  | '-' :: rest => (true, rest)
  | '+' :: rest => (false, rest)
  | rest => (false, rest)

/-- An exponent part is empty, or a mark, an optional sign and at least one digit. -/
def exponentOf? : List Char → Option Int
  | [] => some 0
  | mark :: rest =>
    if mark = 'e' ∨ mark = 'E' then
      let (negative, ds) := takeSign rest
      if ds.isEmpty ∨ ¬ ds.all Char.isDigit then none
      else
        let magnitude : Int := ofDigits ds
        some (if negative then -magnitude else magnitude)
    else none

def magnitude? (text : List Char) : Option Float := do
  let whole := text.takeWhile Char.isDigit
  let rest := text.dropWhile Char.isDigit
  let (fraction, rest) := match rest with
    | '.' :: rest => (rest.takeWhile Char.isDigit, rest.dropWhile Char.isDigit)
    | rest => ([], rest)
  if whole.isEmpty ∧ fraction.isEmpty then none
  else
    let exponent ← exponentOf? rest
    some (nearest (ofDigits (whole ++ fraction)) (exponent - fraction.length))

/-- A name of a float that is not finite, in any letter case. -/
def named? (text : List Char) : Option Float :=
  let name := String.ofList (text.map Char.toLower)
  if name = "inf" ∨ name = "infinity" then some (1 / 0)
  else if name = "nan" then some (0 / 0)
  else none

def read? (text : List Char) : Option Float :=
  let (negative, rest) := takeSign text
  let magnitude := (magnitude? rest).or (named? rest)
  magnitude.map fun x => if negative then -x else x

end Reshape.Decimal
