/-!
# Dates

Dates of the Gregorian calendar, extended to all years before its introduction; year zero exists.
A day is counted from 1970-01-01, which is day zero.

* `Date.toDay` counts the days and `Date.ofDay` names them.
* `Date.isoWeek` is the week with the Thursday rule: a week belongs to the year that holds its
  Thursday.
* The calendar of the program runs from `firstDay` to `lastDay`.
-/

namespace SpotForecast

/-- A date by year, month from 1 and day of the month from 1. -/
structure Date where
  /-- The year; zero is the year before year one. -/
  year : Int
  month : Nat
  day : Nat
deriving DecidableEq, Repr

namespace Date

/-- A year of 366 days. -/
def isLeapYear (year : Int) : Bool :=
  year % 4 == 0 && (year % 100 != 0 || year % 400 == 0)

/-- The lengths of the twelve months of a year. -/
def monthLengths (year : Int) : List Nat :=
  [31, if isLeapYear year then 29 else 28, 31, 30, 31, 30, 31, 31, 30, 31, 30, 31]

/-- The number of the first day of a year. -/
def firstDayOfYear (year : Int) : Int :=
  let past := year - 1
  365 * past + past / 4 - past / 100 + past / 400 - 719162

/-- Whether there is a day with this year, month and day of the month. -/
def exists? (d : Date) : Bool :=
  1 ≤ d.month && d.month ≤ 12 && 1 ≤ d.day && d.day ≤ (monthLengths d.year).getD (d.month - 1) 0

/-- The day of the year, from 1. -/
def ordinal (d : Date) : Nat :=
  ((monthLengths d.year).take (d.month - 1)).foldl Nat.add d.day

/-- The number of a date. -/
def toDay (d : Date) : Int :=
  firstDayOfYear d.year + d.ordinal - 1

/-- The year that holds a day: a quotient by the mean length of a year, moved by one where it
misses. -/
def yearOfDay (day : Int) : Int :=
  let guess := (400 * (day + 719162)) / 146097 + 1
  if day < firstDayOfYear guess then guess - 1
  else if firstDayOfYear (guess + 1) ≤ day then guess + 1
  else guess

/-- The month, counted from `month`, and the day of the month of a day counted from zero, given
the lengths of the months from there on. -/
def splitOrdinal (month : Nat) : List Nat → Nat → Nat × Nat
  | [], rest => (month, rest + 1)
  | length :: lengths, rest =>
    if rest < length then (month, rest + 1) else splitOrdinal (month + 1) lengths (rest - length)

/-- The date with a number. -/
def ofDay (day : Int) : Date :=
  let year := yearOfDay day
  let (month, dayOfMonth) := splitOrdinal 1 (monthLengths year) (day - firstDayOfYear year).toNat
  ⟨year, month, dayOfMonth⟩

/-- The number of days since the last Monday. -/
def daysSinceMonday (d : Date) : Nat :=
  ((d.toDay + 3) % 7).toNat

/-- The number of days since the last Sunday. -/
def daysSinceSunday (d : Date) : Nat :=
  ((d.toDay + 4) % 7).toNat

/-- The quarter of the year, from 1 to 4. -/
def quarter (d : Date) : Nat :=
  (d.month - 1) / 3 + 1

/-- The number of weeks of a year by the Thursday rule: 53 if it begins or ends with a Thursday. -/
def weeksOfYear (year : Int) : Nat :=
  if daysSinceMonday ⟨year, 1, 1⟩ = 3 ∨ daysSinceMonday ⟨year, 12, 31⟩ = 3 then 53 else 52

/-- The year and the number of the week of a date by the Thursday rule. -/
def isoWeek (d : Date) : Int × Nat :=
  let week := (d.ordinal + 9 - d.daysSinceMonday) / 7
  if week = 0 then (d.year - 1, weeksOfYear (d.year - 1))
  else if weeksOfYear d.year < week then (d.year + 1, 1)
  else (d.year, week)

/-- The first year of the calendar. -/
def firstYear : Int := -262143

/-- The last year of the calendar. -/
def lastYear : Int := 262142

/-- The first day of the calendar. -/
def firstDay : Int :=
  firstDayOfYear firstYear

/-- The last day of the calendar. -/
def lastDay : Int :=
  firstDayOfYear (lastYear + 1) - 1

end Date

end SpotForecast
