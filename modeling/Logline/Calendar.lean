/-!
# The calendar

Dates of the proleptic Gregorian calendar, for years of either sign.  A date is tied to the number
of days since 1970-01-01 in both directions.

The conversions count years from the first of March, so that a leap day is the last day of its
year.  Such years come in cycles of 400, 100 and 4; inside a year the months from March on start
at days that one linear formula gives.

## What is here

* `Date`, with `Date.Valid` for the dates that exist.
* `Date.toDay` and `Date.ofDay` — the day number of a date, and the date of a day number.
  `toDay_ofDay` says that a day number is recovered from its date.
* `Date.weekday` and the Sundays of a month, which daylight-saving rules go by.
-/

set_option autoImplicit false
namespace Logline

/-- A calendar date. -/
structure Date where
  year : Int
  month : Nat
  day : Nat
  deriving DecidableEq, Repr

namespace Date

/-- Whether a year has a 29th of February. -/
def isLeap (year : Int) : Bool := year % 4 = 0 && (year % 100 ≠ 0 || year % 400 = 0)

/-- The number of days of a month. -/
def monthLength (year : Int) (month : Nat) : Nat :=
  if month = 2 then if isLeap year then 29 else 28
  else if month = 4 ∨ month = 6 ∨ month = 9 ∨ month = 11 then 30
  else 31

/-- The dates that exist. -/
def Valid (d : Date) : Prop :=
  1 ≤ d.month ∧ d.month ≤ 12 ∧ 1 ≤ d.day ∧ d.day ≤ monthLength d.year d.month

instance (d : Date) : Decidable d.Valid := by
  unfold Valid
  infer_instance

/-! ## Years from March to February -/

/-- The number of days before the first of March of a year, counted from that of year 0. -/
def yearStart (year : Int) : Int := 365 * year + year / 4 - year / 100 + year / 400

/-- The number of days in a year before its `month`-th month, March being the 0-th. -/
def monthStart (month : Int) : Int := (153 * month + 2) / 5

/-- The year, from March on, in which a day falls. -/
def marchYear (day : Int) : Int :=
  let era := day / 146097
  let inEra := day % 146097
  let century := min (inEra / 36524) 3
  let inCentury := inEra - 36524 * century
  let cycle := inCentury / 1461
  let inCycle := inCentury - 1461 * cycle
  let place := min (inCycle / 365) 3
  400 * era + 100 * century + 4 * cycle + place

/-- A day falls into the year that `marchYear` gives: at or after its start, and before the start
of the next one. -/
theorem marchYear_bounds (day : Int) :
    yearStart (marchYear day) ≤ day ∧ day < yearStart (marchYear day + 1) := by
  unfold marchYear yearStart
  extract_lets era inEra century inCentury cycle inCycle place
  have hday : day = 146097 * era + inEra := by simp only [era, inEra]; omega
  have hera : 0 ≤ inEra ∧ inEra < 146097 := by simp only [inEra]; omega
  have hcentury : 0 ≤ century ∧ century ≤ 3 ∧ 0 ≤ inCentury ∧ inCentury ≤ 36524 ∧
      (century < 3 → inCentury < 36524) := by
    simp only [century, inCentury]; omega
  have hinEra : inEra = 36524 * century + inCentury := by simp only [inCentury]; omega
  have hcycle : 0 ≤ cycle ∧ cycle ≤ 24 ∧ 0 ≤ inCycle ∧ inCycle < 1461 ∧
      inCentury = 1461 * cycle + inCycle := by
    simp only [cycle, inCycle]; omega
  have hplace : 0 ≤ place ∧ place ≤ 3 ∧ 365 * place ≤ inCycle ∧
      (place < 3 → inCycle < 365 * place + 365) := by
    simp only [place]; omega
  clear_value era inEra century inCentury cycle inCycle place
  have h4 : (400 * era + 100 * century + 4 * cycle + place) / 4
      = 100 * era + 25 * century + cycle := by omega
  have h100 : (400 * era + 100 * century + 4 * cycle + place) / 100 = 4 * era + century := by omega
  have h400 : (400 * era + 100 * century + 4 * cycle + place) / 400 = era := by omega
  refine ⟨by rw [h4, h100, h400]; omega, ?_⟩
  obtain hp | rfl : place < 3 ∨ place = 3 := by omega
  · have h4' : (400 * era + 100 * century + 4 * cycle + place + 1) / 4
        = 100 * era + 25 * century + cycle := by omega
    have h100' : (400 * era + 100 * century + 4 * cycle + place + 1) / 100
        = 4 * era + century := by omega
    have h400' : (400 * era + 100 * century + 4 * cycle + place + 1) / 400 = era := by omega
    rw [h4', h100', h400']
    omega
  · have h4' : (400 * era + 100 * century + 4 * cycle + 3 + 1) / 4
        = 100 * era + 25 * century + cycle + 1 := by omega
    rw [h4']
    obtain hq | rfl : cycle < 24 ∨ cycle = 24 := by omega
    · have h100' : (400 * era + 100 * century + 4 * cycle + 3 + 1) / 100
          = 4 * era + century := by omega
      have h400' : (400 * era + 100 * century + 4 * cycle + 3 + 1) / 400 = era := by omega
      rw [h100', h400']
      omega
    · have h100' : (400 * era + 100 * century + 4 * 24 + 3 + 1) / 100
          = 4 * era + century + 1 := by omega
      rw [h100']
      obtain hc | rfl : century < 3 ∨ century = 3 := by omega
      · have h400' : (400 * era + 100 * century + 4 * 24 + 3 + 1) / 400 = era := by omega
        rw [h400']
        omega
      · have h400' : (400 * era + 100 * 3 + 4 * 24 + 3 + 1) / 400 = era + 1 := by omega
        rw [h400']
        omega

/-- A year from March to February has at most 366 days. -/
theorem yearStart_succ_le (year : Int) : yearStart (year + 1) ≤ yearStart year + 366 := by
  unfold yearStart
  omega

/-! ## Days since 1970-01-01 -/

/-- The number of days from the first of March of year 0 to the first day of 1970. -/
def epochShift : Int := 719468

/-- The number of a date's day, counted from 1970-01-01. -/
def toDay (d : Date) : Int :=
  let year := if d.month ≤ 2 then d.year - 1 else d.year
  let month : Int := if d.month ≤ 2 then d.month + 9 else d.month - 3
  yearStart year + monthStart month + d.day - 1 - epochShift

/-- The date in a year from March on that has `inYear` days of that year before it. -/
def ofMarch (year inYear : Int) : Date :=
  let month := (5 * inYear + 2) / 153
  let day := (inYear - monthStart month + 1).toNat
  if month < 10 then ⟨year, (month + 3).toNat, day⟩ else ⟨year + 1, (month - 9).toNat, day⟩

theorem toDay_ofMarch {inYear : Int} (year : Int) (h0 : 0 ≤ inYear) (h1 : inYear ≤ 365) :
    toDay (ofMarch year inYear) = yearStart year + inYear - epochShift := by
  simp only [ofMarch]
  generalize hm : (5 * inYear + 2) / 153 = month
  have hmonth : 0 ≤ month ∧ month ≤ 11 ∧ monthStart month ≤ inYear := by
    unfold monthStart
    omega
  by_cases hlt : month < 10
  · have h2 : ¬ (month + 3).toNat ≤ 2 := by omega
    have h3 : ((month + 3).toNat : Int) - 3 = month := by omega
    simp only [if_pos hlt, toDay, if_neg h2, h3]
    omega
  · have h2 : (month - 9).toNat ≤ 2 := by omega
    have h3 : ((month - 9).toNat : Int) + 9 = month := by omega
    have h4 : year + 1 - 1 = year := by omega
    simp only [if_neg hlt, toDay, if_pos h2, h3, h4]
    omega

/-- The date of a day number. -/
def ofDay (n : Int) : Date :=
  let year := marchYear (n + epochShift)
  ofMarch year (n + epochShift - yearStart year)

/-- **Day numbers lose nothing**: the date of a day number has that day number. -/
theorem toDay_ofDay (n : Int) : toDay (ofDay n) = n := by
  have hbounds := marchYear_bounds (n + epochShift)
  have hlength := yearStart_succ_le (marchYear (n + epochShift))
  rw [ofDay, toDay_ofMarch _ (by omega) (by omega)]
  omega

example : toDay ⟨1970, 1, 1⟩ = 0 := by decide
example : ofDay 0 = ⟨1970, 1, 1⟩ := by decide
example : ofDay 11016 = ⟨2000, 2, 29⟩ := by decide
example : toDay ⟨2000, 2, 29⟩ = 11016 := by decide

/-! ## Weekdays -/

/-- The day of the week of a day number; Sunday is 0. -/
def weekday (n : Int) : Nat := ((n + 4) % 7).toNat

/-- The day number of the `k`-th Sunday of a month, the first one being the 0-th. -/
def sunday (year : Int) (month k : Nat) : Int :=
  let first := toDay ⟨year, month, 1⟩
  first + ((7 - weekday first) % 7 + 7 * k : Nat)

/-- The day number of the last Sunday of a month. -/
def lastSunday (year : Int) (month : Nat) : Int :=
  let last := toDay ⟨year, month, monthLength year month⟩
  last - weekday last

example : ofDay (sunday 2024 3 1) = ⟨2024, 3, 10⟩ := by decide
example : ofDay (lastSunday 2024 10) = ⟨2024, 10, 27⟩ := by decide

end Date
end Logline
