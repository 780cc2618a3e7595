/-!
# Dates and times

Dates of the proleptic Gregorian calendar with times of day, without a time zone. The types admit
valid dates and times only; a second may be the leap second 60.

* `Date.ofEpochDays?`: the date a number of days after 1970-01-01.
* `DateTime.ofMillis?`: the moment a number of milliseconds after it.
-/

namespace Reshape

def isLeapYear (year : Int) : Bool :=
  year % 4 == 0 && (year % 100 != 0 || year % 400 == 0)

def daysInMonth (year : Int) (month : Nat) : Nat :=
  if month = 2 then if isLeapYear year then 29 else 28
  else if month = 4 ∨ month = 6 ∨ month = 9 ∨ month = 11 then 30
  else 31

/-- The years that dates may have. -/
def minYear : Int := -262143
def maxYear : Int := 262142

def ValidDate (year : Int) (month day : Nat) : Prop :=
  minYear ≤ year ∧ year ≤ maxYear ∧ 1 ≤ month ∧ month ≤ 12 ∧ 1 ≤ day ∧ day ≤ daysInMonth year month

instance (year : Int) (month day : Nat) : Decidable (ValidDate year month day) :=
  inferInstanceAs (Decidable (_ ∧ _))

structure Date where
  year : Int
  month : Nat
  day : Nat
  valid : ValidDate year month day
deriving DecidableEq

def ValidTime (hour minute second nanos : Nat) : Prop :=
  hour < 24 ∧ minute < 60 ∧ second ≤ 60 ∧ nanos < 1000000000

instance (hour minute second nanos : Nat) : Decidable (ValidTime hour minute second nanos) :=
  inferInstanceAs (Decidable (_ ∧ _))

/-- A time of day with its fraction in nanoseconds. -/
structure Time where
  hour : Nat
  minute : Nat
  second : Nat
  nanos : Nat
  valid : ValidTime hour minute second nanos
deriving DecidableEq

structure DateTime where
  date : Date
  time : Time
deriving DecidableEq

def Date.ofYmd? (year : Int) (month day : Nat) : Option Date :=
  if valid : ValidDate year month day then some ⟨year, month, day, valid⟩ else none

def Time.ofHms? (hour minute second nanos : Nat) : Option Time :=
  if valid : ValidTime hour minute second nanos then some ⟨hour, minute, second, nanos, valid⟩
  else none

def Time.midnight : Time :=
  ⟨0, 0, 0, 0, by decide⟩

/-- The number of days from 1 March of the year 0 to 1970-01-01. -/
def epochOffset : Int := 719468

/-- The date a number of days after 1970-01-01. Years are counted from 1 March, so that a leap day
is the last day of its year; 146097 days make 400 years, and 153 days five months from March. -/
def Date.ofEpochDays? (days : Int) : Option Date :=
  let shifted := days + epochOffset
  let era := Int.fdiv shifted 146097
  let dayOfEra := (Int.fmod shifted 146097).toNat
  let yearOfEra := (dayOfEra - dayOfEra / 1460 + dayOfEra / 36524 - dayOfEra / 146096) / 365
  let dayOfYear := dayOfEra - (365 * yearOfEra + yearOfEra / 4 - yearOfEra / 100)
  let marchMonth := (5 * dayOfYear + 2) / 153
  let day := dayOfYear - (153 * marchMonth + 2) / 5 + 1
  let month := if marchMonth < 10 then marchMonth + 3 else marchMonth - 9
  let year := era * 400 + yearOfEra + (if month ≤ 2 then 1 else 0)
  Date.ofYmd? year month day

def DateTime.ofMillis? (millis : Int) : Option DateTime := do
  let seconds := Int.fdiv millis 1000
  let fraction := (Int.fmod millis 1000).toNat
  let secondOfDay := (Int.fmod seconds 86400).toNat
  let date ← Date.ofEpochDays? (Int.fdiv seconds 86400)
  let time ← Time.ofHms? (secondOfDay / 3600) (secondOfDay / 60 % 60) (secondOfDay % 60)
    (fraction * 1000000)
  return ⟨date, time⟩

def Date.epochDays (d : Date) : Int :=
  let year := if d.month ≤ 2 then d.year - 1 else d.year
  let marchMonth := if 2 < d.month then d.month - 3 else d.month + 9
  let era := Int.fdiv year 400
  let yearOfEra := (Int.fmod year 400).toNat
  let dayOfYear := (153 * marchMonth + 2) / 5 + d.day - 1
  let dayOfEra := yearOfEra * 365 + yearOfEra / 4 - yearOfEra / 100 + dayOfYear
  era * 146097 + dayOfEra - epochOffset

/-- The number of milliseconds since the start of 1970, without what is below a millisecond. -/
def DateTime.toMillis (t : DateTime) : Int :=
  let seconds := t.date.epochDays * 86400
    + (t.time.hour * 3600 + t.time.minute * 60 + t.time.second : Nat)
  seconds * 1000 + (t.time.nanos / 1000000 : Nat)

/-- The time on the clock a number of minutes later; seconds are kept. -/
def DateTime.addMinutes? (t : DateTime) (minutes : Int) : Option DateTime := do
  let total := t.date.epochDays * 1440 + (t.time.hour * 60 + t.time.minute : Nat) + minutes
  let minuteOfDay := (Int.fmod total 1440).toNat
  let date ← Date.ofEpochDays? (Int.fdiv total 1440)
  let time ← Time.ofHms? (minuteOfDay / 60) (minuteOfDay % 60) t.time.second t.time.nanos
  return ⟨date, time⟩

end Reshape
