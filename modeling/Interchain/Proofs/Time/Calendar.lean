import Interchain.Time.Date
import Mathlib.Tactic.Common
import Mathlib.Tactic.IntervalCases

/-
  Counting days and naming them are inverse to each other.

  An era has four centuries, a century 25 cycles of four years,
  and a cycle three years of 365 days and one with the leap
  day.  The cycle at the end of the first three centuries lacks
  its leap day.

  Main declarations:
    * `Date.LiesInEra`
    * `Date.ofMarchYear`

  Main statements:
    * `Date.day_ofDay`
    * `Date.isValid_ofDay`
-/

------------------------------------------------------------
-- Days of an Era
------------------------------------------------------------

namespace Interchain

namespace Date

/-
  A day of an era, given by century, cycle, year and day; the
  leap day is the 366th day of the last year of a cycle.
-/
structure LiesInEra
    (century cycle year day : Nat) : Prop where
  century_le : century ≤ 3
  cycle_le : cycle ≤ 24
  year_le : year ≤ 3
  day_le : day ≤ 365
  leap : day = 365 → year = 3 ∧ (cycle = 24 → century = 3)

/- The number of a day within its era. -/
def eraDay (century cycle year day : Nat) : Nat :=
  36524 * century + 1461 * cycle + 365 * year + day

/- The number of a year within its era. -/
def eraYear (century cycle year : Nat) : Nat :=
  100 * century + 4 * cycle + year

/- Each day of an era lies in some year of it. -/
theorem exists_liesInEra
    {n : Nat}
    (hDay : n < 146097) :
    ∃ century cycle year day,
      LiesInEra century cycle year day ∧
        n = eraDay century cycle year day := by
  let century := min (n / 36524) 3
  let inCentury := n - 36524 * century
  let cycle := min (inCentury / 1461) 24
  let inCycle := inCentury - 1461 * cycle
  let year := min (inCycle / 365) 3
  refine ⟨century, cycle, year, inCycle - 365 * year, ?_, ?_⟩
  · constructor <;> omega
  · unfold eraDay
    omega

namespace LiesInEra

variable {century cycle year day : Nat}
variable (hLies : LiesInEra century cycle year day)

include hLies

/- How often 1460 days fit before a day, which is once more
   than there are cycles late in a cycle. -/
theorem div_cycle :
    let n := eraDay century cycle year day
    n / 1460 = 25 * century + cycle ∧
        24 * century + cycle + 365 * year + day < 1460 ∨
      n / 1460 = 25 * century + cycle + 1 ∧
        year = 3 ∧ 0 < day := by
  rcases hLies with ⟨hCentury, hCycle, hYear, hDay, hLeap⟩
  unfold eraDay
  omega

/- The formula for the year makes up for the leap days that
   lie before a day. -/
theorem year_eq :
    let n := eraDay century cycle year day
    (n - n / 1460 + n / 36524 - n / 146096) / 365 =
      eraYear century cycle year := by
  intro n
  have hCycles := hLies.div_cycle
  rcases hLies with ⟨hCentury, hCycle, hYear, hDay, hLeap⟩
  have hEnd :
      n / 36524 = century ∧ n / 146096 = 0 ∨ n = 146096 := by
    simp only [n, eraDay]
    omega
  simp only [n, eraDay, eraYear] at hCycles hEnd ⊢
  rcases hEnd with ⟨hCenturies, hEras⟩ | hLast
  · rw [hCenturies, hEras]
    rcases hCycles with ⟨hDiv, hRest⟩ | ⟨hDiv, hRest⟩ <;>
      rw [hDiv] <;>
      omega
  · rw [hLast]
    omega

/- The days before a year, with their leap days. -/
theorem eraDay_eq :
    let k := eraYear century cycle year
    eraDay century cycle year day =
      365 * k + k / 4 - k / 100 + day := by
  rcases hLies with ⟨hCentury, hCycle, hYear, _, _⟩
  unfold eraDay eraYear
  omega

/- There are 400 years to an era. -/
theorem eraYear_lt : eraYear century cycle year < 400 := by
  rcases hLies with ⟨hCentury, hCycle, hYear, _, _⟩
  unfold eraYear
  omega

theorem eraDay_lt : eraDay century cycle year day < 146097 := by
  rcases hLies with ⟨hCentury, hCycle, hYear, hDay, hLeap⟩
  unfold eraDay
  omega

/- A year with a 366th day ends in a leap day. -/
theorem isLeapYear
    (era : Int)
    (hDay : day = 365) :
    isLeapYear (era * 400 + eraYear century cycle year + 1) =
      true := by
  rcases hLies with ⟨hCentury, hCycle, _, _, hLeap⟩
  rcases hLeap hDay with ⟨hYear, hLast⟩
  simp only [Date.isLeapYear, eraYear, Bool.and_eq_true,
    Bool.or_eq_true, beq_iff_eq, bne_iff_ne]
  omega

end LiesInEra

end Date

end Interchain

------------------------------------------------------------
-- Years From March
------------------------------------------------------------

namespace Interchain

namespace Date

/- The date on a day of a year that starts in March. -/
def ofMarchYear (year : Int) (dayOfYear : Nat) : Date :=
  let monthFromMarch := (5 * dayOfYear + 2) / 153
  let month :=
    if monthFromMarch < 10 then monthFromMarch + 3
    else monthFromMarch - 9
  { year := if month ≤ 2 then year + 1 else year
    month := month
    dayOfMonth := dayOfYear - monthStart monthFromMarch + 1 }

/- A day lies within the month that it is counted in. -/
theorem month_spec
    {dayOfYear : Nat}
    (hDay : dayOfYear ≤ 365) :
    let month := (5 * dayOfYear + 2) / 153
    month ≤ 11 ∧
      monthStart month ≤ dayOfYear ∧
      dayOfYear < monthStart (month + 1) := by
  unfold monthStart
  omega

/- The number of a day, from its year and its place there. -/
theorem day_ofMarchYear
    (year : Int)
    {dayOfYear : Nat}
    (hDay : dayOfYear ≤ 365) :
    let yearOfEra := year - year / 400 * 400
    (ofMarchYear year dayOfYear).day =
      year / 400 * 146097 +
        (yearOfEra * 365 + yearOfEra / 4 - yearOfEra / 100 +
          dayOfYear) - 719468 := by
  rcases month_spec hDay with ⟨hMonth, hStart, hEnd⟩
  simp only [day, ofMarchYear]
  by_cases hEarly : (5 * dayOfYear + 2) / 153 < 10
  · have hNot : ¬ (5 * dayOfYear + 2) / 153 + 3 ≤ 2 := by omega
    simp only [if_pos hEarly, if_neg hNot, Nat.add_sub_cancel]
    omega
  · have hJanuary : (5 * dayOfYear + 2) / 153 - 9 ≤ 2 := by omega
    have hBack :
        (5 * dayOfYear + 2) / 153 - 9 + 9 =
          (5 * dayOfYear + 2) / 153 := by
      omega
    simp only [if_neg hEarly, if_pos hJanuary, hBack,
      Int.add_sub_cancel]
    omega

/- A month other than February lasts until the next one
   starts. -/
theorem monthStart_succ_le
    (year : Int)
    {monthFromMarch : Nat}
    (hMonth : monthFromMarch ≤ 10) :
    let month :=
      if monthFromMarch < 10 then monthFromMarch + 3
      else monthFromMarch - 9
    monthStart (monthFromMarch + 1) ≤
      monthStart monthFromMarch + daysInMonth year month := by
  interval_cases monthFromMarch <;>
    simp [monthStart, daysInMonth]

/- The month that a day is counted in is long enough. -/
theorem dayOfMonth_le
    (year : Int)
    {dayOfYear : Nat}
    (hDay : dayOfYear ≤ 365)
    (hLeap : dayOfYear = 365 → isLeapYear (year + 1) = true) :
    let d := ofMarchYear year dayOfYear
    d.dayOfMonth ≤ daysInMonth d.year d.month := by
  rcases month_spec hDay with ⟨hMonth, hStart, hEnd⟩
  simp only [ofMarchYear]
  rcases Nat.lt_or_eq_of_le hMonth with hOther | hFebruary
  · have hLong :=
      monthStart_succ_le
        (if (if (5 * dayOfYear + 2) / 153 < 10 then
              (5 * dayOfYear + 2) / 153 + 3
            else (5 * dayOfYear + 2) / 153 - 9) ≤ 2 then
          year + 1 else year)
        (Nat.le_of_lt_succ hOther)
    omega
  · simp only [hFebruary, monthStart] at hStart hEnd ⊢
    simp only [daysInMonth]
    by_cases hLast : dayOfYear = 365
    · simp [hLast, hLeap hLast]
    · simp
      split <;> omega

end Date

end Interchain

------------------------------------------------------------
-- Dates and Days
------------------------------------------------------------

namespace Interchain

namespace Date

variable {century cycle year day : Nat}

/- The year and the day that are found for a number of days. -/
theorem LiesInEra.ofDay_eq
    (hLies : LiesInEra century cycle year day)
    (era : Int) :
    ofDay
        (era * 146097 + eraDay century cycle year day -
          719468) =
      ofMarchYear
        (era * 400 + eraYear century cycle year) day := by
  have hLt := hLies.eraDay_lt
  have hYear := hLies.year_eq
  have hDays := hLies.eraDay_eq
  generalize hN : eraDay century cycle year day = n at *
  generalize eraYear century cycle year = k at *
  have hEra :
      (era * 146097 + (n : Int) - 719468 + 719468) / 146097 =
        era := by
    omega
  have hRest :
      (era * 146097 + (n : Int) - 719468 + 719468 -
        era * 146097).toNat = n := by
    omega
  have hDay : n - (365 * k + k / 4 - k / 100) = day := by
    simp only at hDays
    omega
  simp only [ofDay, ofMarchYear, hEra, hRest, hYear, hDay]

/- Every day lies in an era. -/
theorem exists_era (z : Int) :
    ∃ (era : Int) (century cycle year day : Nat),
      LiesInEra century cycle year day ∧
        z =
          era * 146097 + eraDay century cycle year day -
            719468 := by
  have hLt : ((z + 719468) % 146097).toNat < 146097 := by omega
  rcases exists_liesInEra hLt with
    ⟨century, cycle, year, day, hLies, hDay⟩
  refine ⟨(z + 719468) / 146097, century, cycle, year, day,
    hLies, ?_⟩
  rw [← hDay]
  omega

/- The day of a date is the one that it was named for. -/
theorem day_ofDay (z : Int) : (ofDay z).day = z := by
  rcases exists_era z with
    ⟨era, century, cycle, year, day, hLies, rfl⟩
  have hLt := hLies.eraYear_lt
  have hDays := hLies.eraDay_eq
  rw [hLies.ofDay_eq, day_ofMarchYear _ hLies.day_le]
  simp only at hDays
  omega

/- The first 306 days of a year from March lie in the year of
   the calendar with the same number. -/
theorem year_ofMarchYear
    (year : Int)
    {dayOfYear : Nat}
    (hDay : dayOfYear ≤ 365) :
    (ofMarchYear year dayOfYear).year =
      if dayOfYear < 306 then year else year + 1 := by
  simp only [ofMarchYear]
  split <;> split <;> split <;> omega

/- A month is one of twelve. -/
theorem month_ofMarchYear
    (year : Int)
    {dayOfYear : Nat}
    (hDay : dayOfYear ≤ 365) :
    1 ≤ (ofMarchYear year dayOfYear).month ∧
      (ofMarchYear year dayOfYear).month ≤ 12 := by
  simp only [ofMarchYear]
  split <;> omega

/- The years from March of the days of the calendar.  Only the
   days from January lie in the first of them, and only those
   before January in the last. -/
theorem LiesInEra.year_bounds
    (hLies : LiesInEra century cycle year day)
    {era : Int}
    (hFirst :
      Date.day ⟨firstYear, 1, 1⟩ ≤
        era * 146097 + eraDay century cycle year day - 719468)
    (hLast :
      era * 146097 + eraDay century cycle year day - 719468 ≤
        Date.day ⟨lastYear, 12, 31⟩) :
    let y := era * 400 + eraYear century cycle year
    firstYear - 1 ≤ y ∧ y ≤ lastYear ∧
      (y = firstYear - 1 → 306 ≤ day) ∧
      (y = lastYear → day < 306) := by
  have hFirstDay : Date.day ⟨firstYear, 1, 1⟩ = -96465292 := by
    decide
  have hLastDay : Date.day ⟨lastYear, 12, 31⟩ = 95026236 := by
    decide
  have hDay := hLies.day_le
  have hYear := hLies.eraYear_lt
  rw [hFirstDay, hLies.eraDay_eq] at hFirst
  rw [hLastDay, hLies.eraDay_eq] at hLast
  simp only [firstYear, lastYear]
  generalize eraYear century cycle year = k at *
  refine ⟨by omega, by omega, ?_, ?_⟩
  · intro hStart
    have hEra : era = -656 := by omega
    have hIn : k = 256 := by omega
    subst hEra hIn
    omega
  · intro hEnd
    have hEra : era = 655 := by omega
    have hIn : k = 142 := by omega
    subst hEra hIn
    omega

/- A day between the first and the last of the calendar has a
   valid date. -/
theorem isValid_ofDay
    {z : Int}
    (hFirst : Date.day ⟨firstYear, 1, 1⟩ ≤ z)
    (hLast : z ≤ Date.day ⟨lastYear, 12, 31⟩) :
    (ofDay z).isValid = true := by
  rcases exists_era z with
    ⟨era, century, cycle, year, day, hLies, rfl⟩
  have hDay := hLies.day_le
  have hBounds := hLies.year_bounds hFirst hLast
  rw [hLies.ofDay_eq]
  simp only at hBounds
  have hLong := dayOfMonth_le _ hDay (hLies.isLeapYear era)
  generalize era * 400 + (eraYear century cycle year : Int) = y
    at *
  have hMonth := month_ofMarchYear y hDay
  have hRange :
      firstYear ≤ (ofMarchYear y day).year ∧
        (ofMarchYear y day).year ≤ lastYear := by
    rw [year_ofMarchYear y hDay]
    split <;> omega
  have hPositive : 1 ≤ (ofMarchYear y day).dayOfMonth :=
    Nat.le_add_left 1 _
  simp [isValid, hRange, hMonth, hPositive, hLong]

/- The first and the last day of the calendar are named. -/
example : ofDay (-96465292) = ⟨-262143, 1, 1⟩ := by decide
example : ofDay 95026236 = ⟨262142, 12, 31⟩ := by decide

end Date

end Interchain
