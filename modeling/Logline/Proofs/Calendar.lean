import Logline.Timestamp.Reader
import Mathlib.Tactic.IntervalCases

/-!
# Dates, days and seconds

The date of a day number is one that exists, and the day number of a date is what counting days on
the calendar gives: it grows by one from a date to the next.  The second fact fixes `Date.toDay` up
to where counting starts, by month lengths and leap years alone.

## What is here

* `Date.yearStart_succ` — the length of a year from March to February.
* `Date.valid_ofDay` — **day numbers stand for dates that exist**.
* `Date.next` and `Date.toDay_next` — **day numbers count dates**.
* `Moment.valid_ofSecond` and `Moment.representable_of_year` — the fields at a second are those of a
  clock, and the years of four digits are in the calendar's range.
-/

set_option autoImplicit false
namespace Logline

namespace Date

/-- A year from March to February is as long as the calendar year of its February. -/
theorem yearStart_succ (year : Int) :
    yearStart (year + 1) = yearStart year + if isLeap (year + 1) then 366 else 365 := by
  have hleap : isLeap (year + 1) = true ↔
      (year + 1) % 4 = 0 ∧ ((year + 1) % 100 ≠ 0 ∨ (year + 1) % 400 = 0) := by
    rw [isLeap, Bool.and_eq_true, Bool.or_eq_true, decide_eq_true_eq, decide_eq_true_eq,
      decide_eq_true_eq]
  rw [yearStart, yearStart]
  split
  · next h =>
    obtain ⟨h4, h100⟩ := hleap.mp h
    omega
  · next h =>
    rw [hleap] at h
    omega

/-! ## Dates that exist -/

/-- The place of a month in a year from March to February. -/
def fromMarch (month : Nat) : Int := if month ≤ 2 then month + 9 else month - 3

/-- The linear formula for the starts of the months knows how long they are, all but February. -/
theorem monthStart_succ (year : Int) (month : Nat) (h1 : 1 ≤ month) (h12 : month ≤ 12)
    (h2 : month ≠ 2) :
    monthStart (fromMarch month + 1) = monthStart (fromMarch month) + monthLength year month := by
  interval_cases month
  case «2» => contradiction
  all_goals rfl

theorem valid_ofMarch {year inYear : Int} (h0 : 0 ≤ inYear)
    (h1 : yearStart year + inYear < yearStart (year + 1)) : (ofMarch year inYear).Valid := by
  rw [yearStart_succ] at h1
  rw [ofMarch, Valid]
  generalize hm : (5 * inYear + 2) / 153 = month
  have hmonth : 0 ≤ month ∧ month ≤ 11 := by
    split at h1 <;> omega
  have hday : monthStart month ≤ inYear ∧ inYear < monthStart (month + 1) := by
    rw [monthStart, monthStart]
    omega
  split
  · next hlt =>
    have hplace : fromMarch (month + 3).toNat = month := by rw [fromMarch]; omega
    have hlength := monthStart_succ year (month + 3).toNat (by omega) (by omega)
      (by omega)
    rw [hplace] at hlength
    show 1 ≤ (month + 3).toNat ∧ (month + 3).toNat ≤ 12 ∧
      1 ≤ (inYear - monthStart month + 1).toNat ∧
      (inYear - monthStart month + 1).toNat ≤ monthLength year (month + 3).toNat
    omega
  · next hge =>
    show 1 ≤ (month - 9).toNat ∧ (month - 9).toNat ≤ 12 ∧
      1 ≤ (inYear - monthStart month + 1).toNat ∧
      (inYear - monthStart month + 1).toNat ≤ monthLength (year + 1) (month - 9).toNat
    obtain rfl | rfl : month = 10 ∨ month = 11 := by omega
    · have hlength : monthLength (year + 1) (10 - 9 : Int).toNat = 31 := rfl
      simp only [monthStart] at hday ⊢
      omega
    · -- February has the days that the year has left
      have hlength : monthLength (year + 1) (11 - 9 : Int).toNat =
        if isLeap (year + 1) then 29 else 28 := rfl
      rw [hlength]
      simp only [monthStart] at hday ⊢
      split at h1 <;> split <;> omega

/-- **Day numbers stand for dates that exist.** -/
theorem valid_ofDay (n : Int) : (ofDay n).Valid := by
  have hbounds := marchYear_bounds (n + epochShift)
  exact valid_ofMarch (by omega) (by omega)

theorem monthLength_le (year : Int) (month : Nat) : monthLength year month ≤ 31 := by
  rw [monthLength]
  split
  · split <;> omega
  · split <;> omega

/-- The date after a date. -/
def next (d : Date) : Date :=
  if d.day < monthLength d.year d.month then { d with day := d.day + 1 }
  else if d.month < 12 then { d with month := d.month + 1, day := 1 }
  else ⟨d.year + 1, 1, 1⟩

theorem toDay_mk (year : Int) (month day : Nat) :
    toDay ⟨year, month, day⟩ = yearStart (if month ≤ 2 then year - 1 else year) +
      monthStart (fromMarch month) + day - 1 - epochShift := rfl

/-- **Day numbers count dates.** -/
theorem toDay_next {d : Date} (h : d.Valid) : toDay d.next = toDay d + 1 := by
  obtain ⟨year, month, day⟩ := d
  obtain ⟨hm1, hm12, hd1, hd⟩ : 1 ≤ month ∧ month ≤ 12 ∧ 1 ≤ day ∧ day ≤ monthLength year month := h
  by_cases hlast : day < monthLength year month
  · have hnext : next ⟨year, month, day⟩ = ⟨year, month, day + 1⟩ := if_pos hlast
    rw [hnext, toDay_mk, toDay_mk]
    omega
  obtain rfl : day = monthLength year month := by omega
  by_cases h12 : month < 12
  · have hnext : next ⟨year, month, monthLength year month⟩ = ⟨year, month + 1, 1⟩ :=
      (if_neg hlast).trans (if_pos h12)
    rw [hnext, toDay_mk, toDay_mk]
    by_cases h2 : month = 2
    · -- the end of February is the end of a year from March on
      subst h2
      have hyear := yearStart_succ (year - 1)
      rw [Int.sub_add_cancel] at hyear
      have hlength : monthLength year 2 = if isLeap year then 29 else 28 := rfl
      have hmarch : monthStart (fromMarch (2 + 1)) = 0 := rfl
      have hfebruary : monthStart (fromMarch 2) = 337 := rfl
      rw [if_neg (by decide : ¬ 2 + 1 ≤ 2), if_pos (by decide : 2 ≤ 2), hyear, hlength, hmarch,
        hfebruary]
      split <;> omega
    · have hlength := monthStart_succ year month hm1 hm12 h2
      have hplace : fromMarch (month + 1) = fromMarch month + 1 := by
        rw [fromMarch, fromMarch]
        omega
      have hsame : month + 1 ≤ 2 ↔ month ≤ 2 := by omega
      simp only [hplace, hlength, hsame]
      omega
  · obtain rfl : month = 12 := by omega
    have hnext : next ⟨year, 12, monthLength year 12⟩ = ⟨year + 1, 1, 1⟩ :=
      (if_neg hlast).trans (if_neg h12)
    have hlength : monthLength year 12 = 31 := rfl
    have hjanuary : monthStart (fromMarch 1) = 306 := rfl
    have hdecember : monthStart (fromMarch 12) = 275 := rfl
    rw [hnext, toDay_mk, toDay_mk, hlength, if_pos (by decide : 1 ≤ 2),
      if_neg (by decide : ¬ 12 ≤ 2), Int.add_sub_cancel, hjanuary, hdecember]
    omega

end Date

/-! ## The fields at a second -/

namespace Moment

theorem valid_ofSecond (second : Int) (nano : Nat) : (ofSecond second nano).Valid := by
  refine ⟨Date.valid_ofDay _, ?_, ?_, ?_, ?_⟩ <;> simp only [ofSecond] <;> omega

/-- A second with a year of four digits is in the calendar's range. -/
theorem representable_of_year {second : Int} {nano : Nat} (h0 : 0 ≤ (ofSecond second nano).year)
    (h1 : (ofSecond second nano).year ≤ 9999) : Representable second := by
  have hvalid : (Date.ofDay (second / 86400)).Valid := Date.valid_ofDay _
  have hday : Date.toDay (Date.ofDay (second / 86400)) = second / 86400 := Date.toDay_ofDay _
  simp only [ofSecond] at h0 h1
  generalize Date.ofDay (second / 86400) = d at hvalid hday h0 h1
  obtain ⟨year, month, day⟩ := d
  obtain ⟨hm1, hm12, hd1, hd⟩ : 1 ≤ month ∧ month ≤ 12 ∧ 1 ≤ day ∧
      day ≤ Date.monthLength year month := hvalid
  have hlength : Date.monthLength year month ≤ 31 := Date.monthLength_le year month
  rw [Date.toDay_mk, Date.yearStart, Date.monthStart, Date.fromMarch, Date.epochShift] at hday
  simp only at h0 h1
  constructor
  · rw [earliest]
    omega
  · rw [latest]
    omega

end Moment

end Logline
