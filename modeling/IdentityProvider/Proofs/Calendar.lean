import Mathlib.Algebra.BigOperators.Intervals
import Mathlib.Algebra.Order.BigOperators.Group.Finset
import Mathlib.Tactic.IntervalCases
import Mathlib.Tactic.Linarith
import IdentityProvider.Instant
/-! The proleptic Gregorian calendar told by its years and months, and the numbers of days in which an instant
is kept. Each day has one date, and dates are in the order of the days. -/

namespace IdentityProvider

open Finset

def isLeapYear (year : Int) : Prop :=
  year % 4 = 0 ∧ year % 100 ≠ 0 ∨ year % 400 = 0

instance (year : Int) : Decidable (isLeapYear year) :=
  inferInstanceAs (Decidable (_ ∨ _))

def yearLength (year : Int) : Nat :=
  if isLeapYear year then 366 else 365

def monthLength (year : Int) : Nat → Nat
  | 2 => if isLeapYear year then 29 else 28
  | 4 | 6 | 9 | 11 => 30
  | _ => 31

namespace CalendarDate

def IsValid (d : CalendarDate) : Prop :=
  (1 ≤ d.month ∧ d.month ≤ 12) ∧ 1 ≤ d.day ∧ d.day ≤ monthLength d.year d.month

instance (d : CalendarDate) : Decidable d.IsValid :=
  inferInstanceAs (Decidable (_ ∧ _))

def dayOfYear (d : CalendarDate) : Nat :=
  ∑ m ∈ range (d.month - 1), monthLength d.year (m + 1) + (d.day - 1)

def dayCount (d : CalendarDate) : Nat :=
  ∑ y ∈ range d.year.toNat, yearLength y + d.dayOfYear

def dayNumber (d : CalendarDate) : Int :=
  d.dayCount - (CalendarDate.mk 1970 1 1).dayCount

def next (d : CalendarDate) : CalendarDate :=
  if d.day < monthLength d.year d.month then ⟨d.year, d.month, d.day + 1⟩
  else if d.month < 12 then ⟨d.year, d.month + 1, 1⟩
  else ⟨d.year + 1, 1, 1⟩

lemma monthLength_pos (year : Int) (month : Nat) : 0 < monthLength year month := by
  unfold monthLength
  split <;> try split
  all_goals omega

lemma sum_yearLength (n : Nat) :
    ∑ y ∈ range n, yearLength y + (n + 99) / 100 = 365 * n + (n + 3) / 4 + (n + 399) / 400 := by
  induction n with
  | zero => rfl
  | succ n ih =>
    rw [sum_range_succ, yearLength]
    split_ifs with h <;> rw [isLeapYear] at h <;> omega

lemma sum_monthLength (year : Int) {month : Nat} (h₁ : 1 ≤ month) (h₁₂ : month ≤ 12) :
    ∑ m ∈ range (month - 1), monthLength year (m + 1) =
      if month ≤ 2 then 31 * (month - 1) else (153 * (month - 3) + 2) / 5 + yearLength year - 306 := by
  by_cases hl : isLeapYear year <;> interval_cases month <;> simp [sum_range_succ, monthLength, yearLength, hl]

lemma sum_months (year : Int) : ∑ m ∈ range 12, monthLength year (m + 1) = yearLength year := by
  by_cases hl : isLeapYear year <;> simp [sum_range_succ, monthLength, yearLength, hl]

def eraStart (yearOfEra : Nat) : Nat :=
  365 * yearOfEra + yearOfEra / 4 - yearOfEra / 100 + yearOfEra / 400

def daysWithoutLeaps (dayOfEra : Nat) : Nat :=
  dayOfEra - dayOfEra / 1460 + dayOfEra / 36524 - dayOfEra / 146096

lemma daysWithoutLeaps_mono : Monotone daysWithoutLeaps := by
  apply monotone_nat_of_le_succ
  intro n
  rw [daysWithoutLeaps, daysWithoutLeaps]
  omega

lemma daysWithoutLeaps_ends : ∀ y < 400,
    365 * y ≤ daysWithoutLeaps (eraStart y) ∧ daysWithoutLeaps (eraStart (y + 1) - 1) < 365 * (y + 1) := by
  decide +kernel

lemma yearOfEra_eq {yearOfEra dayOfEra : Nat} (hy : yearOfEra < 400) (hs : eraStart yearOfEra ≤ dayOfEra)
    (he : dayOfEra < eraStart (yearOfEra + 1)) : daysWithoutLeaps dayOfEra / 365 = yearOfEra := by
  obtain ⟨hfirst, hlast⟩ := daysWithoutLeaps_ends yearOfEra hy
  have h₁ := daysWithoutLeaps_mono hs
  have h₂ := daysWithoutLeaps_mono (Nat.le_sub_one_of_lt he)
  omega

section Era

variable (era : Int) (yearOfEra dayOfYear : Nat)

lemma ofDays_era (hy : yearOfEra < 400) (hd : eraStart yearOfEra + dayOfYear < eraStart (yearOfEra + 1)) :
    ofDays (era * 146097 + (eraStart yearOfEra + dayOfYear : Nat) - 719468) =
      let shifted := (5 * dayOfYear + 2) / 153
      let month := if shifted < 10 then shifted + 3 else shifted - 9
      ⟨era * 400 + yearOfEra + (if month ≤ 2 then 1 else 0), month, dayOfYear - (153 * shifted + 2) / 5 + 1⟩ := by
  have hlt : eraStart yearOfEra + dayOfYear < 146097 := by
    rw [eraStart, eraStart] at hd
    rw [eraStart]
    omega
  have hera : (era * 146097 + (eraStart yearOfEra + dayOfYear : Nat) - 719468 + 719468).fdiv 146097 = era := by
    rw [Int.fdiv_eq_ediv_of_nonneg _ (by decide)]
    omega
  have hday : ((era * 146097 + (eraStart yearOfEra + dayOfYear : Nat) - 719468 + 719468).fmod 146097).toNat =
      eraStart yearOfEra + dayOfYear := by
    rw [Int.fmod_eq_emod_of_nonneg _ (by decide)]
    omega
  have hyear := yearOfEra_eq hy (Nat.le_add_right _ dayOfYear) hd
  have hrest : eraStart yearOfEra + dayOfYear - (365 * yearOfEra + yearOfEra / 4 - yearOfEra / 100) =
    dayOfYear := by
    rw [eraStart]
    omega
  rw [daysWithoutLeaps] at hyear
  simp only [ofDays, hera, hday, hyear, hrest]

end Era

def shiftedMonth (month : Nat) : Nat :=
  if month ≤ 2 then month + 9 else month - 3

def marchYear (d : CalendarDate) : Int :=
  d.year - if d.month ≤ 2 then 1 else 0

def marchDay (d : CalendarDate) : Nat :=
  (153 * shiftedMonth d.month + 2) / 5 + d.day - 1

lemma toDays_eq (d : CalendarDate) : d.toDays =
    d.marchYear / 400 * 146097 + (eraStart (d.marchYear % 400).toNat + d.marchDay : Nat) - 719468 := by
  have hm : (d.marchYear % 400).toNat < 400 := by omega
  rw [toDays, eraStart, marchDay, shiftedMonth]
  simp only [Int.fdiv_eq_ediv_of_nonneg _ (show (0 : Int) ≤ 400 by decide),
    Int.fmod_eq_emod_of_nonneg _ (show (0 : Int) ≤ 400 by decide)]
  rw [← marchYear]
  omega

lemma IsValid.shiftedMonth_eq {d : CalendarDate} (h : d.IsValid) :
    (5 * d.marchDay + 2) / 153 = shiftedMonth d.month ∧
      d.marchDay - (153 * shiftedMonth d.month + 2) / 5 + 1 = d.day ∧
      (if shiftedMonth d.month < 10 then shiftedMonth d.month + 3 else shiftedMonth d.month - 9) = d.month := by
  obtain ⟨year, month, day⟩ := d
  obtain ⟨⟨h₁, h₁₂⟩, hd, hl⟩ := h
  have hlength : monthLength year month ≤ if month = 2 then 29 else if month ∈ [4, 6, 9, 11] then 30 else 31 := by
    by_cases hy : isLeapYear year <;> interval_cases month <;> simp [monthLength, hy]
  simp only at h₁ h₁₂ hd hl ⊢
  interval_cases month <;> simp [marchDay, shiftedMonth] at hlength ⊢ <;> omega

lemma IsValid.marchDay_lt {d : CalendarDate} (h : d.IsValid) :
    eraStart (d.marchYear % 400).toNat + d.marchDay < eraStart ((d.marchYear % 400).toNat + 1) := by
  obtain ⟨year, month, day⟩ := d
  obtain ⟨⟨h₁, h₁₂⟩, hd, hl⟩ := h
  simp only at h₁ h₁₂ hd hl
  have hday : CalendarDate.marchDay ⟨year, month, day⟩ ≤ 364 ∨
      CalendarDate.marchDay ⟨year, month, day⟩ = 365 ∧ month = 2 ∧ isLeapYear year := by
    by_cases hy : isLeapYear year <;> interval_cases month <;>
      simp [marchDay, shiftedMonth, monthLength, hy] at hl ⊢ <;> omega
  rw [eraStart, eraStart]
  rcases hday with hlt | ⟨heq, hm, hy⟩
  · omega
  · have hyear : CalendarDate.marchYear ⟨year, month, day⟩ = year - 1 := by simp [marchYear, hm]
    rw [heq, hyear]
    rw [isLeapYear] at hy
    omega

theorem ofDays_toDays {d : CalendarDate} (h : d.IsValid) : ofDays d.toDays = d := by
  obtain ⟨hs, hd, hm⟩ := h.shiftedMonth_eq
  have hy : d.marchYear / 400 * 400 + ((d.marchYear % 400).toNat : Int) = d.marchYear := by omega
  rw [toDays_eq, ofDays_era _ _ _ (by omega) h.marchDay_lt]
  simp only [hs, hd, hm, hy]
  rw [marchYear, Int.sub_add_cancel]

lemma IsValid.dayCount_eq {d : CalendarDate} (h : d.IsValid) (hy : 0 ≤ d.year) :
    (d.dayCount : Int) = d.toDays + 719528 := by
  have hm := sum_monthLength d.year h.1.1 h.1.2
  have hl := sum_yearLength d.year.toNat
  have hlength : isLeapYear d.year ∧ yearLength d.year = 366 ∨ ¬ isLeapYear d.year ∧ yearLength d.year = 365 := by
    by_cases hleap : isLeapYear d.year <;> simp [yearLength, hleap]
  obtain ⟨⟨h₁, h₁₂⟩, hd, _⟩ := h
  rw [toDays_eq, eraStart, marchDay, marchYear, shiftedMonth, dayCount, dayOfYear, hm]
  rw [isLeapYear] at hlength
  split_ifs with hle <;> omega

theorem dayNumber_eq {d : CalendarDate} (h : d.IsValid) (hy : 0 ≤ d.year) : d.dayNumber = d.toDays := by
  have hd := h.dayCount_eq hy
  have he := IsValid.dayCount_eq (d := ⟨1970, 1, 1⟩) (by decide) (by decide)
  have ht : (CalendarDate.mk 1970 1 1).toDays = 0 := by decide
  rw [dayNumber, hd, he, ht]
  omega

lemma IsValid.next {d : CalendarDate} (h : d.IsValid) : d.next.IsValid := by
  obtain ⟨⟨h₁, h₁₂⟩, hd, hl⟩ := h
  rw [CalendarDate.next]
  split_ifs with hday hmonth
  · exact ⟨⟨h₁, h₁₂⟩, Nat.le_succ_of_le hd, hday⟩
  · exact ⟨⟨Nat.le_succ_of_le h₁, hmonth⟩, le_refl 1, monthLength_pos _ _⟩
  · exact ⟨⟨le_refl 1, show 1 ≤ 12 by decide⟩, le_refl 1, monthLength_pos _ _⟩

lemma sum_months_succ (year : Int) {month : Nat} (h : 1 ≤ month) : ∑ m ∈ range month, monthLength year (m + 1) =
    ∑ m ∈ range (month - 1), monthLength year (m + 1) + monthLength year month := by
  obtain ⟨m, rfl⟩ : ∃ m, month = m + 1 := ⟨month - 1, by omega⟩
  exact sum_range_succ _ m

lemma sum_years_succ {year : Int} (hy : 0 ≤ year) : ∑ y ∈ range (year + 1).toNat, yearLength y =
    ∑ y ∈ range year.toNat, yearLength y + yearLength year := by
  obtain ⟨n, rfl⟩ := Int.eq_ofNat_of_zero_le hy
  exact sum_range_succ (fun y : Nat => yearLength y) n

lemma IsValid.dayCount_next {d : CalendarDate} (h : d.IsValid) (hy : 0 ≤ d.year) :
    d.next.dayCount = d.dayCount + 1 := by
  obtain ⟨⟨h₁, h₁₂⟩, hd, hl⟩ := h
  have hmonth := sum_months_succ d.year h₁
  rw [CalendarDate.next]
  split_ifs with hday hlast
  · simp only [dayCount, dayOfYear]
    omega
  · simp only [dayCount, dayOfYear, Nat.add_sub_cancel, hmonth]
    omega
  · have hm : d.month = 12 := by omega
    rw [hm, sum_months] at hmonth
    simp only [dayCount, dayOfYear, sum_years_succ hy, Nat.sub_self, range_zero, sum_empty, hm] at hday hl ⊢
    omega

lemma exists_dayCount (n : Nat) : ∃ d : CalendarDate, d.IsValid ∧ 0 ≤ d.year ∧ d.dayCount = n := by
  induction n with
  | zero => exact ⟨⟨0, 1, 1⟩, by decide, le_refl 0, rfl⟩
  | succ n ih =>
    obtain ⟨d, hd, hy, rfl⟩ := ih
    refine ⟨d.next, hd.next, ?_, hd.dayCount_next hy⟩
    rw [CalendarDate.next]
    split_ifs
    · exact hy
    · exact hy
    · exact Int.le_add_one hy

lemma IsValid.dayOfYear_lt_months {d : CalendarDate} (h : d.IsValid) :
    d.dayOfYear < ∑ m ∈ range d.month, monthLength d.year (m + 1) := by
  obtain ⟨⟨h₁, h₁₂⟩, hd, hl⟩ := h
  rw [sum_months_succ d.year h₁, dayOfYear]
  omega

lemma sum_months_mono (year : Int) {m n : Nat} (h : m ≤ n) :
    ∑ i ∈ range m, monthLength year (i + 1) ≤ ∑ i ∈ range n, monthLength year (i + 1) :=
  sum_le_sum_of_subset (range_subset_range.mpr h)

lemma sum_years_mono {y z : Int} (h : y ≤ z) :
    ∑ i ∈ range y.toNat, yearLength i ≤ ∑ i ∈ range z.toNat, yearLength i :=
  sum_le_sum_of_subset (range_subset_range.mpr (Int.toNat_le_toNat h))

lemma IsValid.dayCount_lt_years {d : CalendarDate} (h : d.IsValid) (hy : 0 ≤ d.year) {year : Int}
    (hlt : d.year < year) :
    d.dayCount < ∑ y ∈ range year.toNat, yearLength y := by
  have hday := h.dayOfYear_lt_months
  have hmonths := sum_months_mono d.year h.1.2
  have hyears := sum_years_mono (show d.year + 1 ≤ year by omega)
  rw [sum_months] at hmonths
  rw [sum_years_succ hy] at hyears
  rw [dayCount]
  omega

def Before (d e : CalendarDate) : Prop :=
  d.year < e.year ∨ d.year = e.year ∧ (d.month < e.month ∨ d.month = e.month ∧ d.day < e.day)

lemma IsValid.dayNumber_lt {d e : CalendarDate} (hd : d.IsValid) (hy : 0 ≤ d.year) (h : d.Before e) :
    d.dayNumber < e.dayNumber := by
  have hlt : d.dayCount < e.dayCount := by
    rcases h with hyear | ⟨hyear, hmonth | ⟨hmonth, hday⟩⟩
    · exact Nat.lt_of_lt_of_le (hd.dayCount_lt_years hy hyear) (Nat.le_add_right _ _)
    · have hbefore := hd.dayOfYear_lt_months
      have hmonths := sum_months_mono d.year (show d.month ≤ e.month - 1 by omega)
      rw [dayCount, dayCount, dayOfYear.eq_def e, ← hyear]
      omega
    · have h₁ := hd.2.1
      rw [dayCount, dayCount, dayOfYear, dayOfYear, ← hyear, ← hmonth]
      omega
  rw [dayNumber, dayNumber]
  omega

end CalendarDate

end IdentityProvider
