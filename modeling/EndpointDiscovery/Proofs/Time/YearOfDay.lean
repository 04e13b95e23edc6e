import EndpointDiscovery.Proofs.Time.DayCount

/-!
# The year of a day

A day lies in a year or in a later one exactly if it does not come before the
first day of that year.  The year is computed by eras of 400 years and by years
that begin in March.
-/

namespace EndpointDiscovery.CivilDate

/-! ## Years from March -/

def daysToMarch (year : Int) : Int :=
  365 * year + year / 4 - year / 100 + year / 400

theorem daysToMarch_add_le {year other : Int} (h : year < other) :
    daysToMarch year + 365 ≤ daysToMarch other := by
  unfold daysToMarch
  omega

theorem daysToMarch_succ_le (year : Int) :
    daysToMarch (year + 1) ≤ daysToMarch year + 366 := by
  unfold daysToMarch
  omega

theorem daysToMarch_add_era (year era : Int) :
    daysToMarch (year + era * 400) = daysToMarch year + era * 146097 := by
  have hfour : (year + era * 400) / 4 = year / 4 + era * 100 := by omega
  have hhundred : (year + era * 400) / 100 = year / 100 + era * 4 := by omega
  have hcycle : (year + era * 400) / 400 = year / 400 + era := by omega
  unfold daysToMarch
  omega

theorem toDays_newYear (year : Int) :
    toDays ⟨year, 1, 1⟩ = daysToMarch (year - 1) + 306 - 719468 := by
  simp [toDays, daysBeforeMonth, daysToMarch]
  omega

/-! ## Eras -/

theorem yearOfEra_eq {century span day dayOfEra : Nat} (hcentury : century ≤ 3)
    (hday : day ≤ 1460) (hlt : 1461 * span + day < 36524)
    (h : dayOfEra = 36524 * century + (1461 * span + day)) :
    (dayOfEra - dayOfEra / 1460 + dayOfEra / 36524 - dayOfEra / 146096) / 365 =
      100 * century + 4 * span + min (day / 365) 3 := by
  have hcenturies : dayOfEra / 36524 = century := by omega
  have hlast : dayOfEra / 146096 = 0 := by omega
  have hspans : dayOfEra / 1460 = 25 * century + span +
      (24 * century + span + day) / 1460 := by
    omega
  rw [hcenturies, hlast, hspans]
  omega

theorem yearOfEra_bounds {dayOfEra : Nat} (h : dayOfEra < 146097) {year : Nat}
    (hyear :
      (dayOfEra - dayOfEra / 1460 + dayOfEra / 36524 - dayOfEra / 146096) / 365 =
        year) :
    year < 400 ∧ daysToMarch year ≤ dayOfEra ∧
    dayOfEra < daysToMarch (year + 1) := by
  by_cases hlast : dayOfEra = 146096
  · subst hlast hyear
    decide
  obtain ⟨century, span, day, hcentury, hday, hlt, heq⟩ : ∃ century span day,
      century ≤ 3 ∧ day ≤ 1460 ∧ 1461 * span + day < 36524 ∧
        dayOfEra = 36524 * century + (1461 * span + day) :=
    ⟨dayOfEra / 36524, dayOfEra % 36524 / 1461, dayOfEra % 36524 % 1461, by omega⟩
  rw [yearOfEra_eq hcentury hday hlt heq] at hyear
  have hspan : span ≤ 24 := by omega
  have hfour : (year : Int) / 4 = 25 * century + span := by omega
  have hhundred : (year : Int) / 100 = century := by omega
  have hcycle : (year : Int) / 400 = 0 := by omega
  refine ⟨by omega, by unfold daysToMarch; omega, ?_⟩
  -- The next year may begin another span, and after the last span of a century
  -- another century.
  unfold daysToMarch
  by_cases hshort : day < 1095
  · have hnextFour : ((year : Int) + 1) / 4 = 25 * century + span := by omega
    have hnextHundred : ((year : Int) + 1) / 100 = century := by omega
    omega
  · have hnextFour : ((year : Int) + 1) / 4 = 25 * century + span + 1 := by omega
    by_cases hend : span = 24
    · have hnextHundred : ((year : Int) + 1) / 100 = century + 1 := by omega
      omega
    · have hnextHundred : ((year : Int) + 1) / 100 = century := by omega
      omega

/-! ## Years -/

/-- January and February belong to the year after the one that begins in March. -/
theorem exists_marchYear (days : Int) : ∃ (marchYear : Int) (dayOfYear : Nat),
    daysToMarch marchYear + dayOfYear = days + 719468 ∧
    days + 719468 < daysToMarch (marchYear + 1) ∧
    (ofDays days).year = if 306 ≤ dayOfYear then marchYear + 1 else marchYear := by
  obtain ⟨era, hera⟩ : ∃ era, (days + 719468) / 146097 = era := ⟨_, rfl⟩
  obtain ⟨day, hday⟩ : ∃ day, ((days + 719468) % 146097).toNat = day := ⟨_, rfl⟩
  obtain ⟨count, hcount⟩ : ∃ count,
      (day - day / 1460 + day / 36524 - day / 146096) / 365 = count := ⟨_, rfl⟩
  obtain ⟨hlt, hfirst, hnext⟩ := yearOfEra_bounds (by omega) hcount
  have hsum : ((365 * count + count / 4 - count / 100 : Nat) : Int) =
      daysToMarch count := by
    unfold daysToMarch
    omega
  have hcurrentEra := daysToMarch_add_era count era
  have hnextEra := daysToMarch_add_era (count + 1) era
  rw [add_right_comm] at hnextEra
  refine ⟨count + era * 400, day - (365 * count + count / 4 - count / 100), by
    omega, by omega, ?_⟩
  simp only [ofDays, hera, hday, hcount]
  have hlength := daysToMarch_succ_le count
  have hmost : day - (365 * count + count / 4 - count / 100) ≤ 365 := by omega
  generalize day - (365 * count + count / 4 - count / 100) = dayOfYear at hmost ⊢
  have hlate : (if (5 * dayOfYear + 2) / 153 < 10 then (5 * dayOfYear + 2) / 153 + 3
      else (5 * dayOfYear + 2) / 153 - 9) ≤ 2 ↔ 306 ≤ dayOfYear := by
    split <;> omega
  simp only [hlate]

theorem le_year_ofDays_iff (year days : Int) :
    year ≤ (ofDays days).year ↔ toDays ⟨year, 1, 1⟩ ≤ days := by
  obtain ⟨marchYear, dayOfYear, hdays, hnext, hyear⟩ := exists_marchYear days
  rw [hyear, toDays_newYear]
  rcases Int.lt_trichotomy (year - 1) marchYear with hbefore | hsame | hafter
  · have := daysToMarch_add_le hbefore
    split <;> omega
  · subst hsame
    split <;> omega
  · by_cases hsame : year - 1 = marchYear + 1
    · rw [hsame]
      split <;> omega
    · have hlater : marchYear + 1 < year - 1 := by omega
      have := daysToMarch_add_le hlater
      split <;> omega

end EndpointDiscovery.CivilDate
