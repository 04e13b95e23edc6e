import EndpointDiscovery.Text.Case
import Mathlib.Data.List.Basic

/-!
# Lower case in ASCII

Outside ASCII the lower-case form of a text depends on the text around a character.
A text whose lower-case form is in ASCII has no such character.
-/

namespace EndpointDiscovery.Text

theorem of_ascii {P : Char → Prop} (h : ∀ number < 0x80, P (Char.ofNat number))
    {character : Char} (hascii : character.toNat < 0x80) : P character := by
  have hnumber := h character.toNat hascii
  rwa [Char.ofNat_toNat] at hnumber

theorem ascii_lowerChar {character lowered : Char} (h : character.toNat < 0x80)
    (hmem : lowered ∈ lowerChar character) : lowered.toNat < 0x80 := by
  have hall : (lowerChar character).all (·.toNat < 0x80) = true :=
    of_ascii
      (P := fun character => (lowerChar character).all (·.toNat < 0x80) = true)
      (by decide) h
  exact of_decide_eq_true (List.all_eq_true.mp hall lowered hmem)

/-- Only a capital sigma looks at the text around it. -/
theorem lowerAfter_eq_flatMap {text : List Char} (hsigma : '\u03A3' ∉ text)
    (before : List Char) :
    lowerAfter before text = text.flatMap lowerChar := by
  induction text generalizing before with
  | nil => rfl
  | cons character text ih =>
      rw [List.mem_cons, not_or] at hsigma
      obtain ⟨hne, hrest⟩ := hsigma
      rw [lowerAfter, if_neg (Ne.symm hne), ih hrest, List.flatMap_cons]

theorem sigma_not_mem_of_ascii {text : List Char} {before : List Char}
    (h : ∀ lowered ∈ lowerAfter before text, lowered.toNat < 0x80) :
    '\u03A3' ∉ text := by
  induction text generalizing before with
  | nil => exact List.not_mem_nil
  | cons character text ih =>
      rw [lowerAfter, List.forall_mem_append] at h
      obtain ⟨hfirst, hrest⟩ := h
      rw [List.mem_cons, not_or]
      refine ⟨?_, ih hrest⟩
      rintro rfl
      -- Both lower-case forms of sigma are outside ASCII.
      rw [if_pos rfl, List.forall_mem_singleton] at hfirst
      split at hfirst
      · exact absurd hfirst (by decide)
      · exact absurd hfirst (by decide)

theorem toList_lower {text : String} (hsigma : '\u03A3' ∉ text.toList) :
    (lower text).toList = text.toList.flatMap lowerChar := by
  rw [lower, String.toList_ofList, lowerAfter_eq_flatMap hsigma]

theorem toList_lower_of_ascii {text : String}
    (h : ∀ character ∈ text.toList, character.toNat < 0x80) :
    (lower text).toList = text.toList.flatMap lowerChar :=
  toList_lower fun hsigma => absurd (h _ hsigma) (by decide)

theorem lower_append {first second : String}
    (hsigma : '\u03A3' ∉ (first ++ second).toList) :
    lower (first ++ second) = lower first ++ lower second := by
  rw [String.toList_append, List.mem_append, not_or] at hsigma
  rw [← String.toList_inj, String.toList_append, toList_lower hsigma.1,
    toList_lower hsigma.2, toList_lower, String.toList_append, List.flatMap_append]
  rw [String.toList_append, List.mem_append, not_or]
  exact hsigma

end EndpointDiscovery.Text
