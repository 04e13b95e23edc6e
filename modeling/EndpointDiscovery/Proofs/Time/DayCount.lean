import EndpointDiscovery.Time.Civil
import Mathlib.Tactic.IntervalCases

/-!
# Counting days

The days of a date are those of the whole years and whole months before it and of
its own month.  Counting years from March gives the same number.
-/

namespace EndpointDiscovery.CivilDate

/-! ## Counting by years and months -/

def yearLength (year : Nat) : Nat := if isLeapYear year then 366 else 365

def daysOfYears : Nat → Nat
  | 0 => 0
  | count + 1 => daysOfYears count + yearLength (count + 1)

def daysOfMonths (year : Nat) : Nat → Nat
  | 0 => 0
  | count + 1 => daysOfMonths year count + daysInMonth year (count + 1)

/-- The number of a date, where the first day of the year 1 has the number 1. -/
def dayNumber (year month day : Nat) : Nat :=
  daysOfYears (year - 1) + daysOfMonths year (month - 1) + day

/-! ## Counting from March -/

theorem isLeapYear_iff {year : Nat} :
    isLeapYear year = true ↔ year % 4 = 0 ∧ (year % 100 ≠ 0 ∨ year % 400 = 0) := by
  simp only [isLeapYear, Bool.and_eq_true, Bool.or_eq_true, decide_eq_true_eq]
  omega

theorem daysOfYears_eq (count : Nat) :
    (daysOfYears count : Int) = 365 * count + count / 4 -
      count / 100 + count / 400 := by
  induction count with
  | zero => rfl
  | succ count ih =>
      rw [daysOfYears, yearLength]
      by_cases hleap : isLeapYear ((count + 1 : Nat) : Int) = true
      · rw [if_pos hleap]
        obtain ⟨hfour, hcycle⟩ := isLeapYear_iff.mp hleap
        omega
      · have hplain : (count + 1) % 4 ≠ 0 ∨
            (count + 1) % 100 = 0 ∧ (count + 1) % 400 ≠ 0 := by
          rw [isLeapYear_iff] at hleap
          tauto
        rw [if_neg hleap]
        rcases hplain with hfour | ⟨hhundred, hcycle⟩ <;> omega

theorem daysOfMonths_eq (year : Nat) {month : Nat} (hleast : 1 ≤ month)
    (hmost : month ≤ 12) :
    daysOfMonths year (month - 1) + 306 =
      daysBeforeMonth ((month + 9) % 12) +
        if month ≤ 2 then 0 else yearLength year := by
  have hlast : daysInMonth year 2 + 337 = yearLength year := by
    rw [daysInMonth, if_pos rfl, yearLength]
    split <;> rfl
  interval_cases month <;>
    simp [daysOfMonths, daysBeforeMonth, daysInMonth] at hlast ⊢ <;> omega

theorem toDays_eq {year month : Nat} (hyear : 1 ≤ year) (hleast : 1 ≤ month)
    (hmost : month ≤ 12) (day : Nat) :
    toDays ⟨year, month, day⟩ = dayNumber year month day - dayNumber 1970 1 1 := by
  have hepoch : (dayNumber 1970 1 1 : Int) = 719163 := by
    have hyears := daysOfYears_eq 1969
    simp only [dayNumber, Nat.reduceSub, daysOfMonths]
    omega
  have hmonths := daysOfMonths_eq year hleast hmost
  rw [hepoch, dayNumber, toDays]
  dsimp only
  by_cases hfirst : month ≤ 2
  · have hyears := daysOfYears_eq (year - 1)
    rw [if_pos hfirst] at hmonths ⊢
    omega
  · have hyears := daysOfYears_eq year
    have hnext : daysOfYears year = daysOfYears (year - 1) + yearLength year := by
      obtain ⟨before, rfl⟩ := Nat.exists_eq_add_of_le' hyear
      rfl
    rw [if_neg hfirst] at hmonths ⊢
    omega

/-! ## One day after another -/

theorem daysOfYears_le {count other : Nat} (h : count ≤ other) :
    daysOfYears count ≤ daysOfYears other := by
  induction h with
  | refl => rfl
  | step _ ih => exact ih.trans (Nat.le_add_right _ _)

theorem daysOfMonths_twelve (year : Nat) :
    daysOfMonths year 12 = yearLength year := by
  simp [daysOfMonths, daysInMonth, yearLength]
  split <;> rfl

theorem daysOfMonths_le (year : Nat) {count other : Nat} (h : count ≤ other) :
    daysOfMonths year count ≤ daysOfMonths year other := by
  induction h with
  | refl => rfl
  | step _ ih => exact ih.trans (Nat.le_add_right _ _)

theorem newYear_le {first year day : Nat} (h : first ≤ year) (month : Nat)
    (hday : 1 ≤ day) :
    dayNumber first 1 1 ≤ dayNumber year month day := by
  have hyears := daysOfYears_le (Nat.sub_le_sub_right h 1)
  simp only [dayNumber, Nat.sub_self, daysOfMonths]
  omega

theorem lt_newYear {year later month day : Nat} (hyear : 1 ≤ year)
    (hlater : year < later) (hmonth : 1 ≤ month ∧ month ≤ 12)
    (hday : day ≤ daysInMonth year month) :
    dayNumber year month day < dayNumber later 1 1 := by
  obtain ⟨before, rfl⟩ := Nat.exists_eq_add_of_le' hyear
  obtain ⟨months, rfl⟩ := Nat.exists_eq_add_of_le' hmonth.1
  have hyears := daysOfYears_le (Nat.sub_le_sub_right hlater 1)
  have hmonths := daysOfMonths_le (before + 1) hmonth.2
  rw [daysOfMonths_twelve, daysOfMonths] at hmonths
  simp only [dayNumber, Nat.add_sub_cancel, daysOfYears, Nat.succ_eq_add_one] at *
  omega

theorem exists_dayNumber_eq {first : Nat} (hfirst : 1 ≤ first) (count : Nat) :
    ∃ year month day, first ≤ year ∧ (1 ≤ month ∧ month ≤ 12) ∧
      (1 ≤ day ∧ day ≤ daysInMonth year month) ∧
        dayNumber year month day = dayNumber first 1 1 + count := by
  induction count with
  | zero =>
      exact ⟨first, 1, 1, le_rfl, by decide, ⟨le_rfl, by simp [daysInMonth]⟩, rfl⟩
  | succ count ih =>
      obtain ⟨year, month, day, hyear, hmonth, hday, hcount⟩ := ih
      have hleast : ∀ year month : Nat, 1 ≤ daysInMonth year month := by
        intro year month
        unfold daysInMonth
        repeat' split
        all_goals decide
      obtain ⟨months, rfl⟩ := Nat.exists_eq_add_of_le' hmonth.1
      -- The next day is of the same month, or the first of the next month or of
      -- the next year.
      rcases hday.2.lt_or_eq with hlt | hlast
      · refine ⟨year, months + 1, day + 1, hyear, hmonth, ⟨by omega, hlt⟩, ?_⟩
        rw [← Nat.add_assoc, ← hcount]
        rfl
      · subst hlast
        rcases hmonth.2.lt_or_eq with hlt | hlast
        · refine ⟨year, months + 2, 1, hyear, ⟨by omega, hlt⟩,
            ⟨le_rfl, hleast year _⟩, ?_⟩
          rw [← Nat.add_assoc, ← hcount]
          simp only [dayNumber, Nat.add_sub_cancel, Nat.add_succ_sub_one,
            daysOfMonths]
          omega
        · refine ⟨year + 1, 1, 1, by omega, by decide,
            ⟨le_rfl, hleast (year + 1 : Nat) 1⟩, ?_⟩
          obtain ⟨before, rfl⟩ := Nat.exists_eq_add_of_le' (hfirst.trans hyear)
          obtain rfl : months = 11 := by omega
          have hlength := daysOfMonths_twelve (before + 1)
          rw [daysOfMonths] at hlength
          rw [← Nat.add_assoc, ← hcount]
          simp only [dayNumber, Nat.add_sub_cancel, daysOfYears, Nat.sub_self,
            daysOfMonths] at *
          omega

end EndpointDiscovery.CivilDate
