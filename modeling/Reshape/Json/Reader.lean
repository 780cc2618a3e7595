import Reshape.Decimal.Reading
import Reshape.Value.Basic

/-!
# Reading JSON

`read?` is the value of a JSON text, if it is one: strict syntax, at most 127 nested containers, a
repeated field taking its first place and last value.

An integer of at most 64 bits is kept exactly. Any other number becomes a float: as many digits as
fit 64 bits, scaled by powers of ten in float arithmetic, which beyond sixteen digits can differ
from the nearest float in the last place. A number beyond the largest float is refused.
-/

namespace Reshape.Json

/-! ## Numbers -/

/-- Digits added to a number for as long as it fits 64 bits, and the digits left over. -/
def absorb (n : Nat) : List Char → Nat × List Char
  | [] => (n, [])
  | c :: rest =>
    let next := 10 * n + (c.toNat - '0'.toNat)
    if next < 0x10000000000000000 then absorb next rest else (n, c :: rest)

def powerOfTen (n : Nat) : Float :=
  Float.ofScientific 1 false n

/-- Division by a power of ten, in steps of the largest power that is a float. -/
def shrink (x : Float) (places : Nat) : Float :=
  if places ≤ 308 then x / powerOfTen places
  else if x == 0 then x
  else shrink (x / powerOfTen 308) (places - 308)
termination_by places

/-- A natural number times a power of ten, in float arithmetic. -/
def scale? (n : Nat) (exponent : Int) : Option Float :=
  let x := Float.ofNat n
  if exponent < 0 then some (shrink x exponent.natAbs)
  else if n = 0 then some 0
  else if 308 < exponent then none
  else
    let y := x * powerOfTen exponent.toNat
    if y.isInf then none else some y

/-- The float that a number with a point, an exponent or too many digits denotes. -/
def floatOf? (negative : Bool) (whole fraction : List Char) (exponent : Int) : Option Float :=
  let (n, skipped) := absorb 0 whole
  let (n, unused) := absorb n fraction
  let exponent := exponent + skipped.length - (fraction.length - unused.length : Nat)
  (scale? n exponent).map fun x => if negative then -x else x

/-- An integer that fits a signed or unsigned word of 64 bits; a negative zero is a float. -/
def wordOf? (negative : Bool) (whole : List Char) : Option Int :=
  let n := Decimal.ofDigits whole
  if negative then if 0 < n ∧ n ≤ 0x8000000000000000 then some (-n) else none
  else if n < 0x10000000000000000 then some n else none

/-- The digits of an exponent part with its sign, and what follows; `none` inside when there is no
exponent part. -/
def readExponent? : List Char → Option (Option Int × List Char)
  | [] => some (none, [])
  | mark :: rest =>
    if mark = 'e' ∨ mark = 'E' then
      let (negative, rest) := Decimal.takeSign rest
      let ds := rest.takeWhile Char.isDigit
      if ds.isEmpty then none
      else
        let magnitude : Int := Decimal.ofDigits ds
        some (some (if negative then -magnitude else magnitude), rest.dropWhile Char.isDigit)
    else some (none, mark :: rest)

/-- The digits after a point and what follows; `none` inside when there is no point. -/
def readFraction? : List Char → Option (Option (List Char) × List Char)
  | '.' :: rest =>
    let ds := rest.takeWhile Char.isDigit
    if ds.isEmpty then none else some (some ds, rest.dropWhile Char.isDigit)
  | rest => some (none, rest)

def readNumber? (text : List Char) : Option (Number × List Char) := do
  let (negative, rest) := match text with
    | '-' :: rest => (true, rest)
    | rest => (false, rest)
  let whole := rest.takeWhile Char.isDigit
  if whole.isEmpty ∨ (whole.head? = some '0' ∧ whole ≠ ['0']) then none
  let (fraction, rest) ← readFraction? (rest.dropWhile Char.isDigit)
  let (exponent, rest) ← readExponent? rest
  match fraction, exponent, wordOf? negative whole with
  | none, none, some n => some (.int n, rest)
  | _, _, _ =>
    let x ← floatOf? negative whole (fraction.getD []) (exponent.getD 0)
    some (.float x, rest)

/-! ## Strings -/

def hexValue? (c : Char) : Option Nat :=
  if c.isDigit then some (c.toNat - 48)
  else if 'a' ≤ c ∧ c ≤ 'f' then some (c.toNat - 87)
  else if 'A' ≤ c ∧ c ≤ 'F' then some (c.toNat - 55)
  else none

def readUnit? : List Char → Option (Nat × List Char)
  | a :: b :: c :: d :: rest => do
    let a ← hexValue? a
    let b ← hexValue? b
    let c ← hexValue? c
    let d ← hexValue? d
    some (((a * 16 + b) * 16 + c) * 16 + d, rest)
  | _ => none

/-- The character of a `\u` escape: one unit, or a high and a low surrogate in two escapes. -/
def readUnicode? (text : List Char) : Option (Char × List Char) := do
  let (unit, rest) ← readUnit? text
  if unit < 0xD800 ∨ 0xDFFF < unit then some (Char.ofNat unit, rest)
  else if 0xDC00 ≤ unit then none
  else
    match rest with
    | '\\' :: 'u' :: rest =>
      let (low, rest) ← readUnit? rest
      if 0xDC00 ≤ low ∧ low ≤ 0xDFFF then
        some (Char.ofNat (0x10000 + (unit - 0xD800) * 0x400 + (low - 0xDC00)), rest)
      else none
    | _ => none

/-- The character that stands after a backslash, for all escapes but `\u`. -/
def escaped? (c : Char) : Option Char :=
  if c = '"' ∨ c = '\\' ∨ c = '/' then some c
  else if c = 'b' then some '\x08'
  else if c = 'f' then some '\x0c'
  else if c = 'n' then some '\n'
  else if c = 'r' then some '\r'
  else if c = 't' then some '\t'
  else none

/-- The rest of a string after its opening quote. Each step takes a character of the text, so its
length is fuel enough. -/
def readChars? : Nat → List Char → List Char → Option (String × List Char)
  | 0, _, _ => none
  | _, _, [] => none
  | fuel + 1, seen, c :: rest =>
    if c = '"' then some (String.ofList seen.reverse, rest)
    else if c = '\\' then
      match rest with
      | 'u' :: rest => do
        let (c, rest) ← readUnicode? rest
        readChars? fuel (c :: seen) rest
      | e :: rest => do
        let c ← escaped? e
        readChars? fuel (c :: seen) rest
      | [] => none
    else if c.toNat < 32 then none
    else readChars? fuel (c :: seen) rest

/-! ## Values -/

def isSpace (c : Char) : Bool :=
  c == ' ' || c == '\n' || c == '\t' || c == '\r'

def skipSpace (text : List Char) : List Char :=
  text.dropWhile isSpace

def takeWord? : List Char → List Char → Option (List Char)
  | [], rest => some rest
  | w :: ws, c :: rest => if w = c then takeWord? ws rest else none
  | _ :: _, [] => none

mutual

/-- One value and what follows it; `depth` containers may still be opened. -/
def readValue? : Nat → Nat → List Char → Option (Value × List Char)
  | 0, _, _ => none
  | fuel + 1, depth, text =>
    match skipSpace text with
    | 'n' :: rest => (takeWord? ['u', 'l', 'l'] rest).map fun rest => (.null, rest)
    | 't' :: rest => (takeWord? ['r', 'u', 'e'] rest).map fun rest => (.bool true, rest)
    | 'f' :: rest => (takeWord? ['a', 'l', 's', 'e'] rest).map fun rest => (.bool false, rest)
    | '"' :: rest => (readChars? (rest.length + 1) [] rest).map fun (s, rest) => (.string s, rest)
    | '[' :: rest =>
      match depth with
      | 0 => none
      | depth + 1 =>
        match skipSpace rest with
        | ']' :: rest => some (.array [], rest)
        | rest => (readItems? fuel depth rest).map fun (items, rest) => (.array items, rest)
    | '{' :: rest =>
      match depth with
      | 0 => none
      | depth + 1 =>
        match skipSpace rest with
        | '}' :: rest => some (.object [], rest)
        | rest => (readFields? fuel depth [] rest).map fun (r, rest) => (.object r, rest)
    | rest => (readNumber? rest).map fun (n, rest) => (.number n, rest)

def readItems? : Nat → Nat → List Char → Option (List Value × List Char)
  | 0, _, _ => none
  | fuel + 1, depth, text => do
    let (item, rest) ← readValue? fuel depth text
    match skipSpace rest with
    | ']' :: rest => some ([item], rest)
    | ',' :: rest =>
      let (items, rest) ← readItems? fuel depth rest
      some (item :: items, rest)
    | _ => none

def readFields? : Nat → Nat → Record → List Char → Option (Record × List Char)
  | 0, _, _, _ => none
  | fuel + 1, depth, seen, text =>
    match skipSpace text with
    | '"' :: rest => do
      let (key, rest) ← readChars? (rest.length + 1) [] rest
      match skipSpace rest with
      | ':' :: rest =>
        let (value, rest) ← readValue? fuel depth rest
        let seen := seen.insert key value
        match skipSpace rest with
        | '}' :: rest => some (seen, rest)
        | ',' :: rest => readFields? fuel depth seen rest
        | _ => none
      | _ => none
    | _ => none

end

/-- The value of a JSON text. Every second step of the reader takes a character, so twice the
length is fuel enough. -/
def read? (text : String) : Option Value :=
  let chars := text.toList
  match readValue? (2 * chars.length + 2) 127 chars with
  | some (value, rest) => if (skipSpace rest).isEmpty then some value else none
  | none => none

end Reshape.Json
