import Mathlib.Order.Monotone.Basic
import Midscale.Data.Datetime

/-!
# Dates in order

`civil` counts in years of 400-year eras that begin in March.  A later day has a later date: by
eras first, then by years, months and days.

* `yearOfEra_mono`, `yearStart_le`, `lt_yearStart` : each day of an era lies in its year.
* `civil_ranges` : months and days of the month.
* `civil_lt` : **later days have later dates.**
-/

namespace Midscale

namespace Timestamp

/-! ### Years of an era -/

/-- The year of a day of an era, from 0 to 399. -/
def yearOfEra (doe : ℕ) : ℕ := (doe - doe / 1460 + doe / 36524 - doe / 146096) / 365

/-- The first day of a year of an era. -/
def yearStart (y : ℕ) : ℕ := 365 * y + y / 4 - y / 100

theorem yearOfEra_mono : Monotone yearOfEra := by
  refine monotone_nat_of_le_succ fun doe => Nat.div_le_div_right ?_
  omega

theorem yearOfEra_yearStart : ∀ y < 400,
    yearOfEra (yearStart y) = y ∧ (y ≠ 0 → yearOfEra (yearStart y - 1) = y - 1) := by
  decide +kernel

theorem yearOfEra_lt {doe : ℕ} (h : doe < 146097) : yearOfEra doe < 400 := by
  have hlast : yearOfEra 146096 = 399 := by decide
  have hmono := yearOfEra_mono (show doe ≤ 146096 by omega)
  omega

theorem yearStart_le {doe : ℕ} (h : doe < 146097) : yearStart (yearOfEra doe) ≤ doe := by
  by_contra hlt
  obtain ⟨-, hbefore⟩ := yearOfEra_yearStart _ (yearOfEra_lt h)
  have hpos : yearOfEra doe ≠ 0 := fun hzero => by
    rw [hzero] at hlt
    exact hlt (Nat.zero_le _)
  have hmono := yearOfEra_mono (show doe ≤ yearStart (yearOfEra doe) - 1 by omega)
  have := hbefore hpos
  omega

/-- The last year of an era has one day more than the formula for the next one tells. -/
theorem lt_yearStart {doe : ℕ} (h : doe < 146097) : doe ≤ yearStart (yearOfEra doe) + 365 := by
  have hlt := yearOfEra_lt h
  by_cases hlast : yearOfEra doe = 399
  · rw [hlast]
    have : yearStart 399 = 145731 := by decide
    omega
  · by_contra hgt
    have hnext : yearStart (yearOfEra doe + 1) ≤ yearStart (yearOfEra doe) + 366 := by
      simp only [yearStart]
      omega
    have hmono := yearOfEra_mono (show yearStart (yearOfEra doe + 1) ≤ doe by omega)
    have := (yearOfEra_yearStart (yearOfEra doe + 1) (by omega)).1
    omega

/-! ### The parts of a date -/

/-- The day of the year, from March on. -/
def dayOfYear (doe : ℕ) : ℕ := doe - yearStart (yearOfEra doe)

/-- The month, from March on. -/
def monthOfYear (doe : ℕ) : ℕ := (5 * dayOfYear doe + 2) / 153

def dayOfMonth (doe : ℕ) : ℕ := dayOfYear doe - (153 * monthOfYear doe + 2) / 5 + 1

/-- The day of its era. -/
def dayOfEra (days : ℤ) : ℕ := ((days + 719468) % 146097).toNat

theorem dayOfEra_lt (days : ℤ) : dayOfEra days < 146097 := by
  rw [dayOfEra]
  omega

theorem dayOfYear_le {doe : ℕ} (h : doe < 146097) : dayOfYear doe ≤ 365 := by
  have := lt_yearStart h
  rw [dayOfYear]
  omega

theorem monthOfYear_le {doe : ℕ} (h : doe < 146097) : monthOfYear doe ≤ 11 := by
  have := dayOfYear_le h
  rw [monthOfYear]
  omega

theorem dayOfMonth_le (doe : ℕ) : dayOfMonth doe ≤ 31 := by
  rw [dayOfMonth, monthOfYear]
  omega

theorem civil_eq (days : ℤ) : civil days =
    (yearOfEra (dayOfEra days) + (days + 719468) / 146097 * 400 +
        (if monthOfYear (dayOfEra days) < 10 then 0 else 1),
      if monthOfYear (dayOfEra days) < 10 then monthOfYear (dayOfEra days) + 3
        else monthOfYear (dayOfEra days) - 9,
      dayOfMonth (dayOfEra days)) := by
  have hmonth := monthOfYear_le (dayOfEra_lt days)
  have hyear : (if (if monthOfYear (dayOfEra days) < 10 then monthOfYear (dayOfEra days) + 3
      else monthOfYear (dayOfEra days) - 9) ≤ 2 then (1 : ℤ) else 0) =
      if monthOfYear (dayOfEra days) < 10 then 0 else 1 := by
    split_ifs <;> omega
  rw [← hyear]
  rfl

/-- Months are from 1 to 12 and days of the month from 1 to 31. -/
theorem civil_ranges (days : ℤ) : 1 ≤ (civil days).2.1 ∧ (civil days).2.1 ≤ 12 ∧
    1 ≤ (civil days).2.2 ∧ (civil days).2.2 ≤ 31 := by
  have hmonth := monthOfYear_le (dayOfEra_lt days)
  have hday := dayOfMonth_le (dayOfEra days)
  have hone : 1 ≤ dayOfMonth (dayOfEra days) := by
    rw [dayOfMonth]
    omega
  rw [civil_eq]
  simp only
  split_ifs <;> omega

theorem civil_months (days : ℤ) : 12 * (civil days).1 + (civil days).2.1 =
    12 * (yearOfEra (dayOfEra days) + (days + 719468) / 146097 * 400) +
      monthOfYear (dayOfEra days) + 3 := by
  have hmonth := monthOfYear_le (dayOfEra_lt days)
  rw [civil_eq]
  simp only
  split_ifs <;> push_cast <;> omega

theorem dayOfEra_date_lt {doe doe' : ℕ} (h' : doe' < 146097) (h : doe < doe') :
    12 * yearOfEra doe + monthOfYear doe < 12 * yearOfEra doe' + monthOfYear doe' ∨
      12 * yearOfEra doe + monthOfYear doe = 12 * yearOfEra doe' + monthOfYear doe' ∧
        dayOfMonth doe < dayOfMonth doe' := by
  have hmonth := monthOfYear_le (show doe < 146097 by omega)
  have hstart := yearStart_le (show doe < 146097 by omega)
  rcases (yearOfEra_mono h.le).lt_or_eq with hyear | hyear
  · left
    omega
  · have hday : dayOfYear doe < dayOfYear doe' := by
      rw [dayOfYear, dayOfYear, ← hyear]
      omega
    rcases (show monthOfYear doe ≤ monthOfYear doe' by
      rw [monthOfYear, monthOfYear]; omega).lt_or_eq with hm | hm
    · left
      omega
    · refine .inr ⟨by omega, ?_⟩
      have hfirst : (153 * monthOfYear doe + 2) / 5 ≤ dayOfYear doe := by
        rw [monthOfYear]
        omega
      rw [dayOfMonth, dayOfMonth, ← hm]
      omega

/-- **Later days have later dates.** -/
theorem civil_lt {days days' : ℤ} (h : days < days') :
    12 * (civil days).1 + (civil days).2.1 < 12 * (civil days').1 + (civil days').2.1 ∨
      12 * (civil days).1 + (civil days).2.1 = 12 * (civil days').1 + (civil days').2.1 ∧
        (civil days).2.2 < (civil days').2.2 := by
  have hdate : ∀ d, (civil d).2.2 = dayOfMonth (dayOfEra d) := fun d => by rw [civil_eq]
  have hyear := yearOfEra_lt (dayOfEra_lt days)
  have hmonth := monthOfYear_le (dayOfEra_lt days)
  rw [civil_months, civil_months, hdate, hdate]
  have hera : (days + 719468) / 146097 ≤ (days' + 719468) / 146097 := by omega
  rcases hera.lt_or_eq with hlt | heq
  · left
    omega
  · have hdoe : dayOfEra days < dayOfEra days' := by
      rw [dayOfEra, dayOfEra]
      omega
    rw [heq]
    rcases dayOfEra_date_lt (dayOfEra_lt days') hdoe with hm | ⟨hm, hd⟩
    · left
      omega
    · exact .inr ⟨by omega, hd⟩

end Timestamp

end Midscale
