import Reshape.Calendar.Date
import Reshape.Decimal.Layout

/-!
# Writing dates

A date pattern holds the fields `YYYY`, `MM`, `DD`, `HH`, `mm` and `ss`; all else in it is literal.
`render` turns the pattern into a template of `strftime` directives, in which a literal percent
sign is doubled, and expands the template.
-/

namespace Reshape.Calendar

open Decimal

def padded (width n : Nat) : List Char :=
  let ds := digits n
  List.replicate (width - ds.length) '0' ++ ds

/-- Four digits; a year outside 0 to 9999 has a sign in front of at least four digits. -/
def yearText (year : Int) : List Char :=
  if 0 ≤ year ∧ year ≤ 9999 then padded 4 year.natAbs
  else (if year < 0 then '-' else '+') :: padded 4 year.natAbs

def field? (t : DateTime) (directive : Char) : Option (List Char) :=
  if directive = 'Y' then some (yearText t.date.year)
  else if directive = 'm' then some (padded 2 t.date.month)
  else if directive = 'd' then some (padded 2 t.date.day)
  else if directive = 'H' then some (padded 2 t.time.hour)
  else if directive = 'M' then some (padded 2 t.time.minute)
  else if directive = 'S' then some (padded 2 t.time.second)
  else none

/-- Replaces `%Y`, `%m`, `%d`, `%H`, `%M` and `%S` by the fields of a date and `%%` by a percent sign;
all else is copied. -/
def expand (t : DateTime) : List Char → List Char
  | [] => []
  | '%' :: c :: rest =>
    if c = '%' then '%' :: expand t rest
    else
      match field? t c with
      | some text => text ++ expand t rest
      | none => '%' :: c :: expand t rest
  | c :: rest => c :: expand t rest

/-- The `strftime` template of a pattern. -/
def template : List Char → List Char
  | [] => []
  | 'Y' :: 'Y' :: 'Y' :: 'Y' :: rest => '%' :: 'Y' :: template rest
  | 'M' :: 'M' :: rest => '%' :: 'm' :: template rest
  | 'D' :: 'D' :: rest => '%' :: 'd' :: template rest
  | 'H' :: 'H' :: rest => '%' :: 'H' :: template rest
  | 'm' :: 'm' :: rest => '%' :: 'M' :: template rest
  | 's' :: 's' :: rest => '%' :: 'S' :: template rest
  | '%' :: rest => '%' :: '%' :: template rest
  | c :: rest => c :: template rest

def render (pattern : String) (t : DateTime) : String :=
  String.ofList (expand t (template pattern.toList))

/-- The fraction of a second after a point, in the fewest groups of three digits. -/
def fractionText (nanos : Nat) : List Char :=
  if nanos = 0 then []
  else if nanos % 1000000 = 0 then '.' :: padded 3 (nanos / 1000000)
  else if nanos % 1000 = 0 then '.' :: padded 6 (nanos / 1000)
  else '.' :: padded 9 nanos

def isoText (t : DateTime) : String :=
  String.ofList (expand t "%Y-%m-%dT%H:%M:%S".toList ++ fractionText t.time.nanos)

end Reshape.Calendar
