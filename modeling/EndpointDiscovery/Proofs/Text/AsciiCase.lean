import EndpointDiscovery.Certificate.Name
import EndpointDiscovery.Proofs.Text.Border

/-!
# Texts up to the case of ASCII letters

Neither blanks nor colons nor lower-case forms can tell two texts that differ in the
case of ASCII letters only.
-/

namespace EndpointDiscovery.Text

open NameAttribute (lowerAscii)

def SameUpToCase (text other : List Char) : Prop :=
  text.map lowerAscii = other.map lowerAscii

instance (text other : List Char) : Decidable (SameUpToCase text other) :=
  inferInstanceAs (Decidable (_ = _))

variable {character : Char} {text other before after : List Char}

/-! ## Single characters -/

theorem lowerAscii_congr {α : Type} [DecidableEq α] {f : Char → α}
    (h : ∀ code < 0x80, f (lowerAscii (Char.ofNat code)) = f (Char.ofNat code))
    (character : Char) : f (lowerAscii character) = f character := by
  by_cases hascii : character.toNat < 0x80
  · exact of_ascii (P := fun character => f (lowerAscii character) = f character)
      h hascii
  · have hsame : lowerAscii character = character := by
      refine if_neg fun hletter => hascii ?_
      have hlast : character.toNat ≤ 'Z'.toNat := hletter.2
      have hcode : 'Z'.toNat < 0x80 := by decide
      omega
    rw [hsame]

theorem lowerChar_lowerAscii (character : Char) :
    lowerChar (lowerAscii character) = lowerChar character :=
  lowerAscii_congr (by decide) character

theorem isBlank_lowerAscii (character : Char) :
    isBlank (lowerAscii character) = isBlank character :=
  lowerAscii_congr (by decide) character

theorem cased_lowerAscii (character : Char) :
    cased.contains (lowerAscii character) = cased.contains character :=
  lowerAscii_congr (by decide +kernel) character

theorem caseIgnorable_lowerAscii (character : Char) :
    caseIgnorable.contains (lowerAscii character) =
      caseIgnorable.contains character :=
  lowerAscii_congr (by decide +kernel) character

theorem lowerAscii_eq_iff {fixed : Char}
    (h : ∀ code < 0x80, decide (lowerAscii (Char.ofNat code) = fixed) =
      decide (Char.ofNat code = fixed)) (character : Char) :
    lowerAscii character = fixed ↔ character = fixed :=
  decide_eq_decide.mp
    (lowerAscii_congr (f := fun character => decide (character = fixed)) h
    character)

/-! ## Lower case -/

theorem nextIsCased_map_lowerAscii (text : List Char) :
    nextIsCased (text.map lowerAscii) = nextIsCased text := by
  induction text with
  | nil => rfl
  | cons character text ih =>
      rw [List.map_cons, nextIsCased_cons, nextIsCased_cons, ih,
        caseIgnorable_lowerAscii, cased_lowerAscii]

theorem lowerBetween_lowerAscii (before : List Char) (character : Char)
    (after : List Char) :
    lowerBetween (before.map lowerAscii) (lowerAscii character)
      (after.map lowerAscii) =
      lowerBetween before character after := by
  have hsigma : lowerAscii character = '\u03A3' ↔ character = '\u03A3' :=
    lowerAscii_eq_iff (by decide) character
  simp only [lowerBetween, hsigma, nextIsCased_map_lowerAscii, lowerChar_lowerAscii]

theorem lowerAfter_map_lowerAscii (before text : List Char) :
    lowerAfter (before.map lowerAscii) (text.map lowerAscii) =
      lowerAfter before text := by
  induction text generalizing before with
  | nil => rfl
  | cons character text ih =>
      rw [List.map_cons, lowerAfter_cons, lowerAfter_cons, lowerBetween_lowerAscii,
        ← List.map_cons, ih]

theorem SameUpToCase.lowerList_eq (h : SameUpToCase text other) :
    lowerList text = lowerList other := by
  have hsmall : ∀ text, lowerList (text.map lowerAscii) = lowerList text :=
    lowerAfter_map_lowerAscii []
  rw [← hsmall text, h, hsmall]

theorem SameUpToCase.flatMap_lowerChar_eq (h : SameUpToCase text other) :
    text.flatMap lowerChar = other.flatMap lowerChar := by
  have hsmall : ∀ text : List Char,
      (text.map lowerAscii).flatMap lowerChar = text.flatMap lowerChar := by
    intro text
    rw [List.flatMap_map]
    exact List.flatMap_congr fun character _ => lowerChar_lowerAscii character
  rw [← hsmall text, h, hsmall]

/-! ## Blanks and colons -/

theorem dropWhile_map_lowerAscii (text : List Char) :
    (text.map lowerAscii).dropWhile isBlank =
      (text.dropWhile isBlank).map lowerAscii := by
  rw [List.dropWhile_map]
  congr 2
  exact funext isBlank_lowerAscii

theorem trimList_map_lowerAscii (text : List Char) :
    trimList (text.map lowerAscii) = (trimList text).map lowerAscii := by
  rw [trimList, trimList, dropWhile_map_lowerAscii, ← List.map_reverse,
    dropWhile_map_lowerAscii, List.map_reverse]

theorem SameUpToCase.trimList (h : SameUpToCase text other) :
    SameUpToCase (trimList text) (trimList other) := by
  unfold SameUpToCase at h ⊢
  rw [← trimList_map_lowerAscii, ← trimList_map_lowerAscii, h]

theorem SameUpToCase.filter_ne (h : SameUpToCase text other) {fixed : Char}
    (hfixed : ∀ character, lowerAscii character = fixed ↔ character = fixed) :
    SameUpToCase (text.filter (· ≠ fixed)) (other.filter (· ≠ fixed)) := by
  have hkept : ∀ text : List Char, (text.filter (· ≠ fixed)).map lowerAscii =
      (text.map lowerAscii).filter (· ≠ fixed) := by
    intro text
    rw [List.filter_map]
    congr 1
    refine List.filter_congr fun character _ => ?_
    simp [hfixed]
  unfold SameUpToCase at h ⊢
  rw [hkept, hkept, h]

end EndpointDiscovery.Text
