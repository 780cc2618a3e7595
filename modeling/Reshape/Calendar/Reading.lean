import Reshape.Calendar.Date
import Reshape.Decimal.Binary
import Reshape.Decimal.Reading
import Reshape.Text.Blank
import Reshape.Value.Basic

/-!
# Reading dates

A date is read from a text in one of four layouts, tried in this order:

* RFC 3339, which gives the local time that is written and drops the offset;
* `2024-03-09 14:05:07`;
* `2024-03-09T14:05:07`;
* `2024-03-09`, at midnight;

or from a number of milliseconds since 1970. RFC 3339 has fixed widths. The other layouts are
lenient: a number may have white space before it and fewer digits, a year may have a sign and then
any number of digits, and the space between date and time is any white space or none.
-/

namespace Reshape.Calendar

/-- Between `low` and `high` decimal digits, as many as there are, and what follows. -/
def number? (low high : Nat) (text : List Char) : Option (Nat × List Char) :=
  let ds := (text.take high).takeWhile Char.isDigit
  if ds.length < low then none else some (Decimal.ofDigits ds, text.drop ds.length)

def char? (c : Char) : List Char → Option (List Char)
  | first :: rest => if first = c then some rest else none
  | [] => none

/-! ## RFC 3339 -/

/-- A fraction of a second in nanoseconds: one to nine digits, and more that are dropped. -/
def fraction? : List Char → Option (Nat × List Char)
  | '.' :: rest => do
    let (n, after) ← number? 1 9 rest
    let places := rest.length - after.length
    return (n * Nat.pow 10 (9 - places), after.dropWhile Char.isDigit)
  | rest => some (0, rest)

/-- The minutes that a clock is ahead of universal time: `Z` or `z`, or a sign with hours up to 23 and
minutes. -/
def offset? : List Char → Option (Int × List Char)
  | c :: rest =>
    if c = 'Z' ∨ c = 'z' then some (0, rest)
    else if c = '+' ∨ c = '-' ∨ c = '−' then do
      let (hours, rest) ← number? 2 2 rest
      let rest ← char? ':' rest
      let (minutes, rest) ← number? 2 2 rest
      let ahead : Int := (hours * 60 + minutes : Nat)
      if hours < 24 ∧ minutes < 60 then some (if c = '+' then ahead else -ahead, rest) else none
    else none
  | [] => none

/-- The local time that is written, with its offset. -/
def rfc3339? (text : List Char) : Option (DateTime × Int) := do
  let (year, rest) ← number? 4 4 text
  let rest ← char? '-' rest
  let (month, rest) ← number? 2 2 rest
  let rest ← char? '-' rest
  let (day, rest) ← number? 2 2 rest
  let rest ← (char? 'T' rest).or ((char? 't' rest).or (char? ' ' rest))
  let (hour, rest) ← number? 2 2 rest
  let rest ← char? ':' rest
  let (minute, rest) ← number? 2 2 rest
  let rest ← char? ':' rest
  let (second, rest) ← number? 2 2 rest
  let (nanos, rest) ← fraction? rest
  let (offset, rest) ← offset? rest
  if rest.isEmpty then
    let date ← Date.ofYmd? year month day
    let time ← Time.ofHms? hour minute second nanos
    return (⟨date, time⟩, offset)
  else none

def instant? (text : String) : Option DateTime := do
  let (t, offset) ← rfc3339? text.toList
  t.addMinutes? (-offset)

/-! ## Lenient layouts -/

/-- Up to two digits after white space. -/
def pair? (text : List Char) : Option (Nat × List Char) :=
  number? 1 2 (Text.dropBlank text)

/-- Up to four digits after white space, or a sign and any number of digits. -/
def year? (text : List Char) : Option (Int × List Char) :=
  match Text.dropBlank text with
  | '-' :: rest => (number? 1 rest.length rest).map fun (n, rest) => (-(n : Int), rest)
  | '+' :: rest => (number? 1 rest.length rest).map fun (n, rest) => ((n : Int), rest)
  | rest => (number? 1 4 rest).map fun (n, rest) => ((n : Int), rest)

def datePart? (text : List Char) : Option (Date × List Char) := do
  let (year, rest) ← year? text
  let rest ← char? '-' rest
  let (month, rest) ← pair? rest
  let rest ← char? '-' rest
  let (day, rest) ← pair? rest
  let date ← Date.ofYmd? year month day
  return (date, rest)

def timePart? (text : List Char) : Option (Time × List Char) := do
  let (hour, rest) ← pair? text
  let rest ← char? ':' rest
  let (minute, rest) ← pair? rest
  let rest ← char? ':' rest
  let (second, rest) ← pair? rest
  let time ← Time.ofHms? hour minute second 0
  return (time, rest)

def dateAndTime? (between : List Char → Option (List Char)) (text : List Char) :
    Option DateTime := do
  let (date, rest) ← datePart? text
  let rest ← between rest
  let (time, rest) ← timePart? rest
  if rest.isEmpty then return ⟨date, time⟩ else none

def dateOnly? (text : List Char) : Option DateTime := do
  let (date, rest) ← datePart? text
  if rest.isEmpty then return ⟨date, .midnight⟩ else none

/-- The date in a text, in the first layout that fits. -/
def inText? (text : List Char) : Option DateTime :=
  let text := Text.trimChars text
  ((rfc3339? text).map Prod.fst).or ((dateAndTime? (fun rest => some (Text.dropBlank rest)) text).or
    ((dateAndTime? (char? 'T') text).or (dateOnly? text)))

/-- The integer part of a float. -/
def truncate? (x : Float) : Option Int :=
  (Decimal.Binary.ofFloat? x).map fun b =>
    let magnitude : Int := (b.numerator / b.denominator : Nat)
    if b.negative then -magnitude else magnitude

def read? : Value → Option DateTime
  | .number (.int n) => DateTime.ofMillis? n
  | .number (.float x) => (truncate? x).bind DateTime.ofMillis?
  | .string s => inText? s.toList
  | _ => none

end Reshape.Calendar
