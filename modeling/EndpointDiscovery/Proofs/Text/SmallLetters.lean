import EndpointDiscovery.Proofs.Text.Border

/-!
# Texts in lower case

No run of the lower-case mapping leads into another one, and none leads to a capital
sigma.  So the lower-case form of a text consists of characters that stay as they
are, whatever stands around them.
-/

namespace EndpointDiscovery.Text

def IsSmall (character : Char) : Prop := lowerChar character = [character]

instance (character : Char) : Decidable (IsSmall character) :=
  inferInstanceAs (Decidable (_ = _))

variable {character lowered : Char} {before text : List Char}

/-! ## Texts of small letters -/

theorem IsSmall.ne_sigma (h : IsSmall character) : character ≠ '\u03A3' := by
  rintro rfl
  revert h
  decide +kernel

theorem sigma_not_mem_of_small (h : ∀ character ∈ text, IsSmall character) :
    '\u03A3' ∉ text :=
  fun hmem => (h _ hmem).ne_sigma rfl

theorem lowerAfter_of_small (h : ∀ character ∈ text, IsSmall character)
    (before : List Char) :
    lowerAfter before text = text := by
  rw [lowerAfter_eq_flatMap (sigma_not_mem_of_small h)]
  calc text.flatMap lowerChar
      = text.flatMap fun character => [character] := List.flatMap_congr h
    _ = text := by simp

/-! ## Runs of the mapping -/

/-- What the first run leads to is outside the second one, or between
its code points. -/
def CaseRun.misses (run other : CaseRun) : Bool :=
  (run.target + (run.last - run.first)).blt other.first ||
  other.last.blt run.target ||
    (other.stride.beq 2 && (run.stride.beq 2 || run.first.beq run.last) &&
      ((run.target + other.first) % 2).beq 1)

theorem lowerRuns_miss :
    (lowerRuns.all fun run => lowerRuns.all run.misses) = true := by
  decide +kernel

theorem dotted_outside_targets : ∀ run ∈ lowerRuns,
    0x130 < run.target ∨ run.target + (run.last - run.first) < 0x130 := by
  decide +kernel

theorem CaseRun.image?_eq_some {run : CaseRun} {code image : Nat}
    (h : run.image? code = some image) :
    ∃ offset ≤ run.last - run.first,
      code = run.first + offset ∧ image = run.target + offset ∧
      offset % run.stride = 0 := by
  unfold image? at h
  split at h
  · cases h
    exact ⟨code - run.first, by omega, by omega, rfl, by omega⟩
  · contradiction

theorem CaseRun.image?_eq_none_of_misses {run other : CaseRun}
    (h : run.misses other = true) {code image : Nat}
    (himage : run.image? code = some image) : other.image? image = none := by
  obtain ⟨offset, hoffset, -, rfl, hstep⟩ := image?_eq_some himage
  simp only [misses, Bool.or_eq_true, Bool.and_eq_true, Nat.blt_eq, Nat.beq_eq] at h
  unfold image?
  rw [if_neg]
  rintro ⟨hfirst, hlast, hother⟩
  obtain (hbelow | habove) | ⟨⟨htwo, heven⟩, hodd⟩ := h
  · omega
  · omega
  · rw [htwo] at hother
    obtain hstride | hsingle := heven
    · rw [hstride] at hstep
      omega
    · omega

/-! ## Lower-case forms -/

theorem isSmall_ofNat_of_image {run : CaseRun} (hrun : run ∈ lowerRuns)
    {code image : Nat} (himage : run.image? code = some image) :
    IsSmall (Char.ofNat image) := by
  obtain ⟨offset, hoffset, -, htarget, -⟩ := CaseRun.image?_eq_some himage
  have hletter := letter_le_target run hrun
  have hdotted := dotted_outside_targets run hrun
  obtain hsame | hzero := toNat_ofNat_cases image
  · unfold IsSmall lowerChar
    rw [hsame]
    split
    · have hsmall : ¬('A' ≤ Char.ofNat image ∧ Char.ofNat image ≤ 'Z') := by
        rintro ⟨-, hle⟩
        have hcode : (Char.ofNat image).toNat ≤ 'Z'.toNat := hle
        have hlast : 'Z'.toNat = 0x5A := rfl
        omega
      rw [if_neg hsmall]
    · have hne : Char.ofNat image ≠ '\u0130' := by
        intro heq
        have hcode : (Char.ofNat image).toNat = 0x130 := by rw [heq]; rfl
        omega
      have hmiss :=
        List.all_eq_true.mp (List.all_eq_true.mp lowerRuns_miss run hrun)
      have hnone : lowerRuns.findSome? (·.image? image) = none :=
        List.findSome?_eq_none_iff.mpr fun other hother =>
          CaseRun.image?_eq_none_of_misses (hmiss other hother) himage
      rw [if_neg hne, hnone]
  · have hnull : Char.ofNat image = Char.ofNat 0 := by
      rw [← Char.ofNat_toNat (Char.ofNat image), hzero]
    rw [hnull]
    decide

theorem isSmall_of_mem_lowerChar (h : lowered ∈ lowerChar character) :
    IsSmall lowered := by
  by_cases hascii : character.toNat < 0x80
  · have hall : (lowerChar character).all (IsSmall ·) = true :=
      of_ascii (P := fun character => (lowerChar character).all (IsSmall ·) = true)
        (by decide) hascii
    exact of_decide_eq_true (List.all_eq_true.mp hall lowered h)
  · rw [lowerChar, if_neg hascii] at h
    split at h
    · simp only [List.mem_cons, List.not_mem_nil, or_false] at h
      obtain rfl | rfl := h <;> decide +kernel
    · rename_i hdotted
      split at h
      · rename_i code himage
        obtain ⟨run, hrun, hcode⟩ := List.exists_of_findSome?_eq_some himage
        rw [List.mem_singleton.mp h]
        exact isSmall_ofNat_of_image hrun hcode
      · rename_i himage
        rw [List.mem_singleton.mp h, IsSmall, lowerChar, if_neg hascii,
          if_neg hdotted, himage]

theorem isSmall_of_mem_lowerAfter (h : lowered ∈ lowerAfter before text) :
    IsSmall lowered := by
  induction text generalizing before with
  | nil => contradiction
  | cons character text ih =>
      rw [lowerAfter_cons, List.mem_append] at h
      obtain hfirst | hrest := h
      · unfold lowerBetween at hfirst
        split at hfirst
        · split at hfirst <;> (rw [List.mem_singleton.mp hfirst]; decide +kernel)
        · exact isSmall_of_mem_lowerChar hfirst
      · exact ih hrest

theorem isSmall_of_mem_lower {text : String} (h : lowered ∈ (lower text).toList) :
    IsSmall lowered := by
  rw [lower, String.toList_ofList] at h
  exact isSmall_of_mem_lowerAfter h

theorem lower_eq_self_iff {text : String} :
    lower text = text ↔ ∀ character ∈ text.toList, IsSmall character := by
  constructor
  · intro h character hmem
    rw [← h] at hmem
    exact isSmall_of_mem_lower hmem
  · intro h
    rw [lower, lowerAfter_of_small h, String.ofList_toList]

theorem lower_lower (text : String) : lower (lower text) = lower text :=
  lower_eq_self_iff.mpr fun _ hmem => isSmall_of_mem_lower hmem

theorem length_lower {text : String}
    (h : ∀ character ∈ text.toList, (lowerChar character).length = 1) :
    (lower text).length = text.length := by
  have hsum : (text.toList.map fun character => (lowerChar character).length) =
      text.toList.map fun _ => 1 :=
    List.map_congr_left h
  rw [← String.length_toList, lower, String.toList_ofList, length_lowerAfter,
    List.length_flatMap, hsum]
  simp [String.length_toList]

end EndpointDiscovery.Text
