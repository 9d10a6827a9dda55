/-!
# Dates

Dates of the Gregorian calendar, carried on before its introduction and through
a year `0`, and their numbering by days: `Date.dayNumber` counts from the first
day of 1970, and `Date.ofDayNumber` goes back.

Years are counted here from March on, so that the day which comes and goes is the
last of its year, and in *eras* of 400 years, all of which have the same length.
-/

namespace Astrogation.Calendar

/-- A date. -/
structure Date where
  year : Int
  month : Nat
  day : Nat
  deriving DecidableEq, Repr

/-- Whether a year has a 29th of February. -/
def isLeapYear (year : Int) : Bool := year % 4 == 0 && (year % 100 != 0 || year % 400 == 0)

/-- The number of days of a month, and `0` if there is no such month. -/
def daysIn (year : Int) : (month : Nat) → Nat
  | 1 | 3 | 5 | 7 | 8 | 10 | 12 => 31
  | 4 | 6 | 9 | 11 => 30
  | 2 => if isLeapYear year then 29 else 28
  | _ => 0

/-- The years for which dates are kept. -/
def firstYear : Int := -262143

/-- The last of the years for which dates are kept. -/
def lastYear : Int := 262142

namespace Date

/-- Whether a date is on the calendar. -/
def isValid (d : Date) : Bool :=
  firstYear ≤ d.year && d.year ≤ lastYear && 1 ≤ d.day && d.day ≤ daysIn d.year d.month

/-- The days of an era. -/
def eraDays : Int := 146097

/-- The number of a date, the first day of 1970 being `0`. -/
def dayNumber (d : Date) : Int :=
  let year := if d.month ≤ 2 then d.year - 1 else d.year
  let era := year / 400
  let yearOfEra := year % 400
  let monthsAfterMarch : Int := (d.month + 9) % 12
  let dayOfYear := (153 * monthsAfterMarch + 2) / 5 + d.day - 1
  let dayOfEra := yearOfEra * 365 + yearOfEra / 4 - yearOfEra / 100 + dayOfYear
  era * eraDays + dayOfEra - 719468

/-- The date with a number. -/
def ofDayNumber (number : Int) : Date :=
  let shifted := number + 719468
  let era := shifted / eraDays
  let dayOfEra := shifted % eraDays
  let yearOfEra := (dayOfEra - dayOfEra / 1460 + dayOfEra / 36524 - dayOfEra / 146096) / 365
  let dayOfYear := dayOfEra - (365 * yearOfEra + yearOfEra / 4 - yearOfEra / 100)
  let monthsAfterMarch := (5 * dayOfYear + 2) / 153
  let day := dayOfYear - (153 * monthsAfterMarch + 2) / 5 + 1
  let month := if monthsAfterMarch < 10 then monthsAfterMarch + 3 else monthsAfterMarch - 9
  let year := yearOfEra + era * 400
  ⟨if month ≤ 2 then year + 1 else year, month.toNat, day.toNat⟩

end Date

end Astrogation.Calendar
