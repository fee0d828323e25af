import Interchain.Text.Decimal

/-
  Dates of the proleptic Gregorian calendar.

  Days are counted from 1970-01-01.  The calendar repeats
  every 400 years, which are 146097 days; a year is taken to
  start in March, so that the leap day is its last.

  Main declarations:
    * `Date`
    * `Date.ofDay`
    * `Date.day`
    * `Date.isValid`
-/

------------------------------------------------------------
-- Dates
------------------------------------------------------------

namespace Interchain

/- A day of the calendar. -/
structure Date where
  year : Int
  month : Nat
  dayOfMonth : Nat
  deriving DecidableEq

namespace Date

/- A leap day every four years, but in only one of four
   centuries. -/
def isLeapYear (year : Int) : Bool :=
  year % 4 == 0 && (year % 100 != 0 || year % 400 == 0)

/- The number of days of a month, counted from one. -/
def daysInMonth (year : Int) (month : Nat) : Nat :=
  if month = 2 then
    if isLeapYear year then 29 else 28
  else if month = 4 ∨ month = 6 ∨ month = 9 ∨ month = 11 then
    30
  else
    31

/- The first year that a date can have. -/
def firstYear : Int := -262143

/- The last year that a date can have. -/
def lastYear : Int := 262142

/- A day that is in the calendar. -/
def isValid (d : Date) : Bool :=
  firstYear ≤ d.year && d.year ≤ lastYear &&
    1 ≤ d.month && d.month ≤ 12 &&
    1 ≤ d.dayOfMonth &&
    d.dayOfMonth ≤ daysInMonth d.year d.month

end Date

end Interchain

------------------------------------------------------------
-- Day Counts
------------------------------------------------------------

namespace Interchain

namespace Date

/- The day of a March year on which a month starts. -/
def monthStart (monthFromMarch : Nat) : Nat :=
  (153 * monthFromMarch + 2) / 5

/- The days from 1970-01-01 to a date. -/
def day (d : Date) : Int :=
  let year := if d.month ≤ 2 then d.year - 1 else d.year
  let era := year / 400
  let yearOfEra := year - era * 400
  let monthFromMarch :=
    if d.month ≤ 2 then d.month + 9 else d.month - 3
  let dayOfYear := monthStart monthFromMarch + d.dayOfMonth - 1
  era * 146097 +
    (yearOfEra * 365 + yearOfEra / 4 - yearOfEra / 100 +
      dayOfYear) - 719468

/- The date a number of days from 1970-01-01. -/
def ofDay (day : Int) : Date :=
  let shifted := day + 719468
  let era := shifted / 146097
  let dayOfEra := (shifted - era * 146097).toNat
  let yearOfEra :=
    (dayOfEra - dayOfEra / 1460 + dayOfEra / 36524 -
      dayOfEra / 146096) / 365
  let dayOfYear :=
    dayOfEra -
      (365 * yearOfEra + yearOfEra / 4 - yearOfEra / 100)
  let monthFromMarch := (5 * dayOfYear + 2) / 153
  let month :=
    if monthFromMarch < 10 then monthFromMarch + 3
    else monthFromMarch - 9
  let year := era * 400 + yearOfEra
  { year := if month ≤ 2 then year + 1 else year
    month := month
    dayOfMonth := dayOfYear - monthStart monthFromMarch + 1 }

example : ofDay 0 = ⟨1970, 1, 1⟩ := by decide
example : ofDay 11016 = ⟨2000, 2, 29⟩ := by decide
example : ofDay (-1) = ⟨1969, 12, 31⟩ := by decide
example : day ⟨2000, 2, 29⟩ = 11016 := by decide

end Date

end Interchain

------------------------------------------------------------
-- Written Dates
------------------------------------------------------------

namespace Interchain

namespace Date

/-
  The digits of a year: four, and a sign if it takes more or
  lies before year zero.
-/
def yearChars (year : Int) : List Char :=
  if year < 0 then
    '-' :: Text.paddedDigits 4 year.natAbs
  else if year ≤ 9999 then
    Text.paddedDigits 4 year.natAbs
  else
    '+' :: Text.paddedDigits 4 year.natAbs

/- Year, month and day, with hyphens. -/
def chars (d : Date) : List Char :=
  yearChars d.year ++ '-' :: Text.paddedDigits 2 d.month ++
    '-' :: Text.paddedDigits 2 d.dayOfMonth

end Date

end Interchain
