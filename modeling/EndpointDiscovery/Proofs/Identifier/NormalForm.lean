import EndpointDiscovery.Proofs.Identifier.Grammar
import EndpointDiscovery.Proofs.Text.AsciiCase
import EndpointDiscovery.Proofs.Text.SmallLetters

/-!
# Normal forms of values

Normalization is final, and no spelling in ASCII gets around it.  Both character
sets are closed under lower case and give every character one lower-case form, so a
policy that checks them accepts the normal form of every value that it accepts.
-/

namespace EndpointDiscovery

/-! ## Case rules -/

namespace CaseRules

variable {rules : CaseRules} {scheme value other : String}

theorem normalize_of_sensitive (h : rules.rule scheme = .caseSensitive) :
    rules.normalize scheme value = value := by
  simp [normalize, h]

theorem normalize_of_insensitive (h : rules.rule scheme = .caseInsensitive) :
    rules.normalize scheme value = Text.lower value := by
  simp [normalize, h]

theorem normalize_normalize (rules : CaseRules) (scheme value : String) :
    rules.normalize scheme (rules.normalize scheme value) =
      rules.normalize scheme value := by
  cases h : rules.rule scheme with
  | caseSensitive => simp [normalize_of_sensitive h]
  | caseInsensitive => simp [normalize_of_insensitive h, Text.lower_lower]

theorem normalize_eq_of_sameUpToCase (h : rules.rule scheme = .caseInsensitive)
    (hcase : Text.SameUpToCase value.toList other.toList) :
    rules.normalize scheme value = rules.normalize scheme other := by
  simp only [normalize_of_insensitive h, Text.lower_eq_lowerList,
    hcase.lowerList_eq]

end CaseRules

/-! ## Character sets -/

namespace Charset

variable {charset : Charset} {character : Char}

theorem latin1_run : ∀ run ∈ Text.lowerRuns,
    0xFF < run.first ∨ run.target + (run.last - run.first) ≤ 0xFF := by
  decide +kernel

theorem latin1_contains_image {run : Text.CaseRun} (hrun : run ∈ Text.lowerRuns)
    {code image : Nat} (hcode : code ≤ 0xFF)
    (himage : run.image? code = some image) :
    latin1.contains (Char.ofNat image) = true := by
  obtain ⟨offset, hoffset, hfirst, htarget, -⟩ := Text.CaseRun.image?_eq_some himage
  have hlast := latin1_run run hrun
  have hlatin : (Char.ofNat image).toNat ≤ 0xFF := by
    obtain hsame | hzero := Text.toNat_ofNat_cases image <;> omega
  simpa [contains] using hlatin

theorem map_contains_lowerChar (h : charset.contains character = true) :
    (Text.lowerChar character).map charset.contains = [true] := by
  by_cases hascii : character.toNat < 0x80
  · exact Text.of_ascii (P := fun character =>
      (Text.lowerChar character).map charset.contains = [true])
      (by cases charset <;> decide) hascii
  · cases charset with
    | usAscii => exact absurd (of_decide_eq_true h) hascii
    | latin1 =>
        have hlatin : character.toNat ≤ 0xFF := of_decide_eq_true h
        have hdotted : character ≠ '\u0130' := by
          rintro rfl
          exact absurd hlatin (by decide)
        rw [Text.lowerChar, if_neg hascii, if_neg hdotted]
        split
        · rename_i code himage
          obtain ⟨run, hrun, hcode⟩ := List.exists_of_findSome?_eq_some himage
          rw [List.map_singleton, latin1_contains_image hrun hlatin hcode]
        · rw [List.map_singleton, h]

theorem ne_sigma (h : charset.contains character = true) :
    character ≠ '\u03A3' := by
  rintro rfl
  cases charset <;> exact absurd h (by decide)

variable {value : String}

theorem length_lower
    (h : ∀ character ∈ value.toList, charset.contains character = true) :
    (Text.lower value).length = value.length := by
  refine Text.length_lower fun character hmem => ?_
  simpa using congrArg List.length (map_contains_lowerChar (h character hmem))

theorem contains_lower
    (h : ∀ character ∈ value.toList, charset.contains character = true) :
    ∀ lowered ∈ (Text.lower value).toList, charset.contains lowered = true := by
  intro lowered hmem
  rw [Text.toList_lower fun hsigma => ne_sigma (h _ hsigma) rfl,
    List.mem_flatMap] at hmem
  obtain ⟨character, hcharacter, hlowered⟩ := hmem
  have hcontained := List.mem_map_of_mem (f := charset.contains) hlowered
  rwa [map_contains_lowerChar (h character hcharacter),
    List.mem_singleton] at hcontained

end Charset

/-! ## Identifiers of one policy -/

namespace IdentifierPolicy

variable {policy : IdentifierPolicy} {kind : IdentifierKind} {scheme value : String}
  {identifier : Identifier}

/-- The ways to an identifier; the shortcuts are ways of creating one. -/
inductive Makes (policy : IdentifierPolicy) (identifier : Identifier) : Prop where
  | created {kind : IdentifierKind} {scheme value : String}
      (h : policy.create kind scheme value = .ok identifier)
  | parsed {kind : IdentifierKind} {text : String}
      (h : policy.parse kind text = .ok identifier)
  | decoded {kind : IdentifierKind} {text : String}
      (h : policy.parsePercentEncoded kind text = .ok identifier)

theorem makes_iff_create : policy.Makes identifier ↔
    policy.create identifier.kind identifier.scheme identifier.value =
      .ok identifier := by
  have hcreated : ∀ {kind : IdentifierKind} {scheme value : String},
      policy.create kind scheme value = .ok identifier →
        policy.create identifier.kind identifier.scheme identifier.value =
          .ok identifier := by
    intro kind scheme value h
    obtain ⟨-, -, rfl⟩ := create_eq_ok_iff.mp h
    exact h
  constructor
  · intro h
    cases h with
    | created h => exact hcreated h
    | parsed h => exact hcreated (parse_eq_ok_iff.mp h).2
    | decoded h =>
        obtain ⟨text, -, hparsed⟩ := parsePercentEncoded_eq_ok_iff.mp h
        exact hcreated (parse_eq_ok_iff.mp hparsed).2
  · exact .created

theorem Makes.normalizedValue_eq (h : policy.Makes identifier) :
    identifier.normalizedValue =
    policy.caseRules.normalize identifier.scheme identifier.value :=
  congrArg Identifier.normalizedValue
    (create_eq_ok_iff.mp (makes_iff_create.mp h)).2.2

theorem length_normalize (hchecked : policy.checkCharset = true)
    (h : policy.AllowsValue kind value) :
    (policy.caseRules.normalize scheme value).length = value.length := by
  cases hrule : policy.caseRules.rule scheme with
  | caseSensitive => rw [CaseRules.normalize_of_sensitive hrule]
  | caseInsensitive =>
      rw [CaseRules.normalize_of_insensitive hrule]
      exact Charset.length_lower (h.representable hchecked)

theorem AllowsValue.normalize (hchecked : policy.checkCharset = true)
    (h : policy.AllowsValue kind value) :
    policy.AllowsValue kind (policy.caseRules.normalize scheme value) where
  nonempty := by
    intro hempty
    have hlength :
        (policy.caseRules.normalize scheme value).length = value.length :=
      length_normalize hchecked h
    rw [hempty] at hlength
    exact h.nonempty (String.length_eq_zero_iff.mp hlength.symm)
  short := by
    rw [length_normalize hchecked h]
    exact h.short
  representable := by
    intro _
    cases hrule : policy.caseRules.rule scheme with
    | caseSensitive =>
        rw [CaseRules.normalize_of_sensitive hrule]
        exact h.representable hchecked
    | caseInsensitive =>
        rw [CaseRules.normalize_of_insensitive hrule]
        exact Charset.contains_lower (h.representable hchecked)

theorem Makes.create_normalizedValue (hchecked : policy.checkCharset = true)
    (h : policy.Makes identifier) :
    ∃ normal,
      policy.create identifier.kind identifier.scheme identifier.normalizedValue =
      .ok normal ∧ normal.sameContent identifier = true := by
  obtain ⟨hscheme, hvalue, -⟩ := create_eq_ok_iff.mp (makes_iff_create.mp h)
  rw [valueFlaw?_eq_none_iff] at hvalue
  refine ⟨_, create_eq_ok_iff.mpr ⟨hscheme, ?_, rfl⟩, ?_⟩
  · rw [valueFlaw?_eq_none_iff, h.normalizedValue_eq]
    exact hvalue.normalize hchecked
  · simp [Identifier.sameContent, h.normalizedValue_eq,
      CaseRules.normalize_normalize]

end IdentifierPolicy

/-- Normalizing twice is normalizing once, whatever the characters, and spellings of
one value in ASCII have one normal form where case does not count. -/
structure CaseRules.IsCanonical (rules : CaseRules) : Prop where
  final : ∀ scheme value,
    rules.normalize scheme (rules.normalize scheme value) =
      rules.normalize scheme value
  spellings : ∀ scheme value other, rules.rule scheme = .caseInsensitive →
    Text.SameUpToCase value.toList other.toList →
      rules.normalize scheme value = rules.normalize scheme other

/-- All case rules are canonical, and under a policy that checks character sets the
normalized value of an identifier is a value of the same length, of an identifier
with the same content. -/
theorem normalization_is_canonical :
    (∀ rules : CaseRules, rules.IsCanonical) ∧
      ∀ (policy : IdentifierPolicy) (identifier : Identifier),
        policy.checkCharset = true → policy.Makes identifier →
          identifier.normalizedValue.length = identifier.value.length ∧
          ∃ normal,
            policy.create identifier.kind identifier.scheme
              identifier.normalizedValue =
            .ok normal ∧ normal.sameContent identifier = true := by
  refine ⟨fun rules => ⟨rules.normalize_normalize, ?_⟩, ?_⟩
  · exact fun _ _ _ => CaseRules.normalize_eq_of_sameUpToCase
  · intro policy identifier hchecked h
    have hvalue := (IdentifierPolicy.create_eq_ok_iff.mp
      (IdentifierPolicy.makes_iff_create.mp h)).2.1
    refine ⟨?_, h.create_normalizedValue hchecked⟩
    rw [h.normalizedValue_eq]
    exact IdentifierPolicy.length_normalize hchecked
      (IdentifierPolicy.valueFlaw?_eq_none_iff.mp hvalue)

def accentedType : Identifier :=
  ⟨.documentType, Scheme.documentType, "urn:ÉTÉ-Ø##A", "urn:été-ø##a"⟩

theorem normalization_is_canonical_accented :
    IdentifierPolicy.Makes {} accentedType ∧
      ∃ normal,
        IdentifierPolicy.create
          {} .documentType Scheme.documentType "urn:été-ø##a" =
        .ok normal ∧ normal.sameContent accentedType = true := by
  have hmade : IdentifierPolicy.Makes {} accentedType :=
    .created
      (show IdentifierPolicy.create
        {} .documentType Scheme.documentType "urn:ÉTÉ-Ø##A" =
      .ok accentedType by rfl)
  exact ⟨hmade, (normalization_is_canonical.2 {} accentedType rfl hmade).2⟩

-- The final form of a sigma is left as it is where it is no longer final.
example : Text.lower "ΟΔΟΣ" = "οδος" ∧ Text.lower "οδοςΑ" = "οδοςα" := by
  decide +kernel

end EndpointDiscovery
