import LoveApi.Go

/-!
# The calendar

The first day of the next month lies ahead, and adding years or months to a date moves it forward. A year is counted
from March here, so that a leap day is its last day.
-/

namespace LoveApi.Proofs

open Go

variable {year month : Int}

lemma ediv_eq_of_bounds {a k v : Int} (h : 0 < k ∧ v * k ≤ a ∧ a < (v + 1) * k) : a / k = v := by
  have hle : v ≤ a / k := (Int.le_ediv_iff_mul_le h.1).mpr h.2.1
  have hlt : a / k < v + 1 := (Int.ediv_lt_iff_lt_mul h.1).mpr h.2.2
  omega

def marchDays (year : Int) : Int := 365 * year + year / 4 - year / 100 + year / 400

lemma marchDays_succ (y : Int) : marchDays y + 365 ≤ marchDays (y + 1) ∧ marchDays (y + 1) ≤ marchDays y + 366 := by
  unfold marchDays
  have h4 : (y + 1) / 4 = y / 4 ∨ (y + 1) / 4 = y / 4 + 1 := by omega
  have h100 : (y + 1) / 100 = y / 100 ∨ (y + 1) / 100 = y / 100 + 1 ∧ (y + 1) % 100 = 0 := by omega
  have h400 : (y + 1) / 400 = y / 400 ∨ (y + 1) / 400 = y / 400 + 1 ∧ (y + 1) % 400 = 0 := by omega
  rcases h4 with h4 | h4 <;> rcases h100 with h100 | ⟨h100, h100'⟩ <;>
    rcases h400 with h400 | ⟨h400, h400'⟩ <;> rw [h4, h100, h400] <;> omega

lemma marchDays_era (y era : Int) : marchDays (y + era * 400) = marchDays y + era * 146097 := by
  unfold marchDays
  have h4 : (y + era * 400) / 4 = y / 4 + era * 100 := by omega
  have h100 : (y + era * 400) / 100 = y / 100 + era * 4 := by omega
  have h400 : (y + era * 400) / 400 = y / 400 + era := by omega
  rw [h4, h100, h400]
  omega

section YearOfEra

variable {dayOfEra : Int}

lemma exists_cycle (h₀ : 0 ≤ dayOfEra) (h₁ : dayOfEra < 146097) :
    ∃ c q d : Int, dayOfEra = 36524 * c + 1461 * q + d ∧ (0 ≤ c ∧ c ≤ 3) ∧ (0 ≤ q ∧ q ≤ 24) ∧
      (0 ≤ d ∧ d ≤ 1460) ∧ (1461 * q + d < 36524 ∨ c = 3) := by
  by_cases h : dayOfEra = 146096
  · exact ⟨3, 24, 1460, by omega, by omega, by omega, by omega, by omega⟩
  · have hc := Int.emod_add_mul_ediv dayOfEra 36524
    have hc₀ := Int.emod_nonneg dayOfEra (b := 36524) (by omega)
    have hc₁ := Int.emod_lt_of_pos dayOfEra (b := 36524) (by omega)
    have hq := Int.emod_add_mul_ediv (dayOfEra % 36524) 1461
    have hq₀ := Int.emod_nonneg (dayOfEra % 36524) (b := 1461) (by omega)
    have hq₁ := Int.emod_lt_of_pos (dayOfEra % 36524) (b := 1461) (by omega)
    generalize dayOfEra % 36524 % 1461 = d at *
    generalize dayOfEra % 36524 / 1461 = q at *
    generalize dayOfEra % 36524 = e at *
    generalize dayOfEra / 36524 = c at *
    exact ⟨c, q, d, by omega, by omega, by omega, by omega, by omega⟩

lemma yearOfEra_eq {c q d : Int} (hc : 0 ≤ c ∧ c ≤ 3) (hq : 0 ≤ q ∧ q ≤ 24) (hd : 0 ≤ d ∧ d ≤ 1460)
    (hcentury : 1461 * q + d < 36524 ∨ c = 3) (hday : dayOfEra = 36524 * c + 1461 * q + d) :
    ∃ r : Int, (dayOfEra - dayOfEra / 1460 + dayOfEra / 36524 - dayOfEra / 146096) / 365 = 100 * c + 4 * q + r ∧
      (0 ≤ r ∧ r ≤ 3) ∧ 365 * r ≤ d ∧ (d < 365 * (r + 1) ∨ r = 3) := by
  have hcenturies : dayOfEra / 36524 - dayOfEra / 146096 = c := by
    by_cases h : dayOfEra = 146096
    · subst h
      omega
    · have h₁ : dayOfEra / 36524 = c := ediv_eq_of_bounds (by omega)
      have h₂ : dayOfEra / 146096 = 0 := ediv_eq_of_bounds (by omega)
      omega
  obtain ⟨s, hs, hcycles⟩ : ∃ s : Int, (s = 0 ∧ d ≤ 1459 ∨ s = 1 ∧ 1364 ≤ d) ∧ dayOfEra / 1460 = 25 * c + q + s := by
    by_cases h : 24 * c + q + d < 1460
    · exact ⟨0, by omega, ediv_eq_of_bounds (by omega)⟩
    · exact ⟨1, by omega, ediv_eq_of_bounds (by omega)⟩
  have hnum : dayOfEra - dayOfEra / 1460 + dayOfEra / 36524 - dayOfEra / 146096 =
      365 * (100 * c + 4 * q) + (d - s) := by
    rw [hcycles]
    omega
  rw [hnum]
  clear hnum hcycles hcenturies hday hcentury
  obtain ⟨r, hr, hr'⟩ : ∃ r : Int, (0 ≤ r ∧ r ≤ 3) ∧ 365 * r ≤ d - s ∧ d - s < 365 * (r + 1) :=
    ⟨(d - s) / 365, by omega, by omega, by omega⟩
  exact ⟨r, ediv_eq_of_bounds (by omega), hr, by omega, by omega⟩

lemma yearOfEra_bounds (h₀ : 0 ≤ dayOfEra) (h₁ : dayOfEra < 146097) {y : Int}
    (hy : (dayOfEra - dayOfEra / 1460 + dayOfEra / 36524 - dayOfEra / 146096) / 365 = y) :
    (0 ≤ y ∧ y ≤ 399) ∧ marchDays y ≤ dayOfEra ∧ dayOfEra < marchDays (y + 1) := by
  obtain ⟨c, q, d, hday, hc, hq, hd, hcentury⟩ := exists_cycle h₀ h₁
  obtain ⟨r, hr, hr3, hlow, hhigh⟩ := yearOfEra_eq hc hq hd hcentury hday
  rw [hr] at hy
  clear hr
  have h4 : y / 4 = 25 * c + q := ediv_eq_of_bounds (by omega)
  have h100 : y / 100 = c := ediv_eq_of_bounds (by omega)
  have h400 : y / 400 = 0 := ediv_eq_of_bounds (by omega)
  unfold marchDays
  rw [h4, h100, h400]
  refine ⟨by omega, by omega, ?_⟩
  by_cases hr' : r = 3
  · have h4' : (y + 1) / 4 = 25 * c + q + 1 := ediv_eq_of_bounds (by omega)
    by_cases hq' : q = 24
    · have h100' : (y + 1) / 100 = c + 1 := ediv_eq_of_bounds (by omega)
      rw [h4', h100']
      omega
    · have h100' : (y + 1) / 100 = c := ediv_eq_of_bounds (by omega)
      rw [h4', h100']
      omega
  · have h4' : (y + 1) / 4 = 25 * c + q := ediv_eq_of_bounds (by omega)
    have h100' : (y + 1) / 100 = c := ediv_eq_of_bounds (by omega)
    rw [h4', h100']
    omega

end YearOfEra

lemma yearMonth_eq (day : Int) : ∃ y m dayOfYear : Int, day + 719468 = marchDays y + dayOfYear ∧
    (0 ≤ m ∧ m ≤ 11) ∧ dayOfYear < (153 * (m + 1) + 2) / 5 ∧
    dayOfYear < marchDays (y + 1) - marchDays y ∧
    yearMonth day = if m < 10 then (y, m + 3) else (y + 1, m - 9) := by
  obtain ⟨era, hera⟩ : ∃ era, (day + 719468) / 146097 = era := ⟨_, rfl⟩
  obtain ⟨dayOfEra, hday⟩ : ∃ d, day + 719468 - era * 146097 = d := ⟨_, rfl⟩
  obtain ⟨y, hy⟩ : ∃ y, (dayOfEra - dayOfEra / 1460 + dayOfEra / 36524 - dayOfEra / 146096) / 365 = y :=
    ⟨_, rfl⟩
  obtain ⟨hrange, hlow, hhigh⟩ := yearOfEra_bounds (by omega) (by omega) hy
  have hdays : 365 * y + y / 4 - y / 100 = marchDays y := by
    have h400 : y / 400 = 0 := ediv_eq_of_bounds (by omega)
    unfold marchDays
    rw [h400, add_zero]
  obtain ⟨dayOfYear, hdoy⟩ : ∃ d, dayOfEra - marchDays y = d := ⟨_, rfl⟩
  have hsucc := marchDays_succ y
  have hm : 0 ≤ (5 * dayOfYear + 2) / 153 ∧ (5 * dayOfYear + 2) / 153 ≤ 11 := by
    clear hy hdays hera
    omega
  have hym : yearMonth day =
      if (5 * dayOfYear + 2) / 153 < 10 then (y + era * 400, (5 * dayOfYear + 2) / 153 + 3)
      else (y + era * 400 + 1, (5 * dayOfYear + 2) / 153 - 9) := by
    unfold yearMonth
    simp only [hera, hday, hy, hdays, hdoy]
    generalize (5 * dayOfYear + 2) / 153 = m at hm
    by_cases h : m < 10
    · simp only [if_pos h, if_neg (show ¬m + 3 ≤ 2 by omega), add_zero]
    · simp only [if_neg h, if_pos (show m - 9 ≤ 2 by omega)]
  clear hy hdays hera
  have hera := marchDays_era y era
  have hera' := marchDays_era (y + 1) era
  rw [show y + 1 + era * 400 = y + era * 400 + 1 by omega] at hera'
  exact ⟨y + era * 400, (5 * dayOfYear + 2) / 153, dayOfYear, by omega, hm, by omega, by omega, hym⟩

lemma yearOfEra (y : Int) : (y - y / 400 * 400) / 4 = y / 4 - 100 * (y / 400) ∧
    (y - y / 400 * 400) / 100 = y / 100 - 4 * (y / 400) := by
  omega

lemma daysFromCivil_march (h : 3 ≤ month) (day : Int) :
    daysFromCivil year month day = marchDays year + ((153 * (month - 3) + 2) / 5 + day - 1) - 719468 := by
  unfold daysFromCivil marchDays
  simp only [if_neg (show ¬month ≤ 2 by omega)]
  rw [(yearOfEra year).1, (yearOfEra year).2]
  generalize (153 * (month - 3) + 2) / 5 = n
  omega

lemma daysFromCivil_january (h : month ≤ 2) (day : Int) : daysFromCivil year month day =
      marchDays (year - 1) + ((153 * (month + 9) + 2) / 5 + day - 1) - 719468 := by
  unfold daysFromCivil marchDays
  simp only [if_pos h]
  generalize year - 1 = y
  rw [(yearOfEra y).1, (yearOfEra y).2]
  generalize (153 * (month + 9) + 2) / 5 = n
  omega

/-- The next month starts later. -/
theorem lt_firstOfNextMonth (day : Int) : day < firstOfNextMonth day := by
  obtain ⟨y, m, dayOfYear, hday, hm, hnext, hyear, hym⟩ := yearMonth_eq day
  unfold firstOfNextMonth
  rw [hym]
  rcases (by omega : m < 9 ∨ m = 9 ∨ m = 10 ∨ m = 11) with h | rfl | rfl | rfl
  · simp only [if_pos (show m < 10 by omega), if_neg (show ¬m + 3 = 12 by omega)]
    rw [daysFromCivil_march (by omega), show m + 3 + 1 - 3 = m + 1 by omega]
    omega
  · -- December is followed by January of the same year that started in March
    simp only [if_pos (show (9 : Int) < 10 by omega), if_pos (show (9 : Int) + 3 = 12 by omega)]
    rw [daysFromCivil_january (by omega), add_sub_cancel_right]
    omega
  · simp only [if_neg (show ¬(10 : Int) < 10 by omega), if_neg (show ¬(10 : Int) - 9 = 12 by omega)]
    rw [daysFromCivil_january (by omega), add_sub_cancel_right]
    omega
  · -- February ends the year, whatever its length
    simp only [if_neg (show ¬(11 : Int) < 10 by omega), if_neg (show ¬(11 : Int) - 9 = 12 by omega)]
    rw [daysFromCivil_march (by omega)]
    omega

def firstOfMonth (month : Int) : Int := daysFromCivil (month / 12) (month % 12 + 1) 1

lemma firstOfMonth_lt_succ (k : Int) : firstOfMonth k < firstOfMonth (k + 1) := by
  unfold firstOfMonth
  obtain ⟨y, hy⟩ : ∃ y, k / 12 = y := ⟨_, rfl⟩
  obtain ⟨j, hj⟩ : ∃ j, k % 12 = j := ⟨_, rfl⟩
  have hsucc := (marchDays_succ (y - 1)).1
  rw [sub_add_cancel] at hsucc
  by_cases hdec : j = 11
  · have hy' : (k + 1) / 12 = y + 1 := by omega
    have hj' : (k + 1) % 12 = 0 := by omega
    rw [hy, hj, hy', hj', hdec, daysFromCivil_march (by omega), daysFromCivil_january (by omega),
      show y + 1 - 1 = y by omega]
    omega
  · have hy' : (k + 1) / 12 = y := by omega
    have hj' : (k + 1) % 12 = j + 1 := by omega
    have hrange : 0 ≤ j := by omega
    rw [hy, hj, hy', hj']
    clear hy hj hy' hj'
    rcases (by omega : j = 0 ∨ j = 1 ∨ 2 ≤ j) with rfl | rfl | hj
    · rw [daysFromCivil_january (by omega), daysFromCivil_january (by omega)]
      omega
    · rw [daysFromCivil_january (by omega), daysFromCivil_march (by omega)]
      omega
    · rw [daysFromCivil_march (by omega), daysFromCivil_march (by omega)]
      omega

/-- Adding a positive number of months moves a time forward. -/
theorem lt_addDate (utcOffset t : Int) {years months : Int} (h : 0 < 12 * years + months) :
    t < addDate utcOffset t years months 0 := by
  obtain ⟨year, hyear⟩ : ∃ y, (yearMonth (localDay utcOffset t)).1 = y := ⟨_, rfl⟩
  obtain ⟨month, hmonth⟩ : ∃ m, (yearMonth (localDay utcOffset t)).2 = m := ⟨_, rfl⟩
  have hrange : 1 ≤ month ∧ month ≤ 12 := by
    obtain ⟨y, m, -, -, hm, -, -, hym⟩ := yearMonth_eq (localDay utcOffset t)
    rw [hym] at hmonth
    split at hmonth <;> dsimp only at hmonth <;> omega
  have hlt := strictMono_int_of_lt_succ firstOfMonth_lt_succ (lt_add_of_pos_right (12 * year + (month - 1)) h)
  unfold firstOfMonth at hlt
  rw [show (12 * year + (month - 1)) / 12 = year by omega, show (12 * year + (month - 1)) % 12 + 1 = month by omega,
    show (12 * year + (month - 1) + (12 * years + months)) / 12 = year + years + (month - 1 + months) / 12 by omega,
    show (12 * year + (month - 1) + (12 * years + months)) % 12 = (month - 1 + months) % 12 by omega] at hlt
  unfold addDate
  simp only [hyear, hmonth]
  unfold startOfDay localDay secondsPerDay
  generalize daysFromCivil year month 1 = a at *
  generalize daysFromCivil (year + years + (month - 1 + months) / 12) ((month - 1 + months) % 12 + 1) 1 = b at *
  clear hyear hmonth hrange
  omega

end LoveApi.Proofs
