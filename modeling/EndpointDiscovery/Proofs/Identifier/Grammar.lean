import EndpointDiscovery.Proofs.Identifier.PercentCodec
import EndpointDiscovery.Proofs.Identifier.UriRoundTrip

/-!
# Which texts are identifiers

A text is an identifier if it can be cut at a separator and the parts around the
first one obey the rules for schemes and values.  The identifier that is read has
the text for its written form, so reading it again changes nothing.
-/

namespace EndpointDiscovery

structure CutsAtFirst (text scheme value : String) : Prop where
  written : text = scheme ++ schemeSeparator ++ value
  least : ∀ before after : String, text = before ++ schemeSeparator ++ after →
    scheme.length ≤ before.length

namespace IdentifierPolicy

structure AllowsScheme (policy : IdentifierPolicy) (scheme : String) : Prop where
  plain : ¬schemeSeparator.toList <:+: scheme.toList
  nonempty : scheme ≠ ""
  short : policy.checkSchemeLength = true → scheme.length ≤ schemeMaxLength

structure AllowsValue (policy : IdentifierPolicy) (kind : IdentifierKind)
    (value : String) :
    Prop where
  nonempty : value ≠ ""
  short : value.length ≤ kind.maxValueLength
  representable : policy.checkCharset = true →
    ∀ character ∈ value.toList, kind.charset.contains character = true

variable {policy : IdentifierPolicy} {kind : IdentifierKind}
  {text scheme value : String} {identifier : Identifier}

/-! ## Rules -/

theorem schemeFlaw?_eq_none_iff :
    policy.schemeFlaw? scheme = none ↔ policy.AllowsScheme scheme := by
  constructor
  · intro h
    unfold schemeFlaw? at h
    split at h
    · cases h
    rename_i hplain
    split at h
    · cases h
    rename_i hnonempty
    split at h
    · cases h
    rename_i hshort
    refine ⟨mt Text.occurs_iff_infix.mpr hplain,
      mt String.isEmpty_iff.mpr hnonempty, ?_⟩
    intro hchecked
    rw [hchecked, Bool.true_and, decide_eq_true_eq] at hshort
    exact Nat.le_of_not_lt hshort
  · rintro ⟨hplain, hnonempty, hshort⟩
    rw [schemeFlaw?, if_neg (mt Text.occurs_iff_infix.mp hplain),
      if_neg (mt String.isEmpty_iff.mp hnonempty), if_neg]
    rw [Bool.and_eq_true, decide_eq_true_eq, not_and]
    exact fun hchecked => Nat.not_lt_of_le (hshort hchecked)

theorem valueFlaw?_eq_none_iff :
    policy.valueFlaw? kind value = none ↔ policy.AllowsValue kind value := by
  have hfind : value.toList.find? (!kind.charset.contains ·) = none ↔
      ∀ character ∈ value.toList, kind.charset.contains character = true := by
    simp only [List.find?_eq_none, Bool.not_eq_true', Bool.not_eq_false]
  constructor
  · intro h
    unfold valueFlaw? at h
    split at h
    · cases h
    rename_i hnonempty
    split at h
    · cases h
    rename_i hshort
    refine ⟨mt String.isEmpty_iff.mpr hnonempty, Nat.le_of_not_lt hshort, ?_⟩
    intro hchecked
    rw [if_pos hchecked, Option.map_eq_none_iff] at h
    exact hfind.mp h
  · rintro ⟨hnonempty, hshort, hrepresentable⟩
    rw [valueFlaw?, if_neg (mt String.isEmpty_iff.mp hnonempty),
      if_neg (Nat.not_lt_of_le hshort)]
    split
    · rename_i hchecked
      rw [Option.map_eq_none_iff]
      exact hfind.mpr (hrepresentable hchecked)
    · rfl

/-! ## Cuts -/

theorem cutFirst_eq_some_iff_cutsAtFirst :
    Text.cutFirst schemeSeparator.toList text.toList =
      some (scheme.toList, value.toList) ↔
      CutsAtFirst text scheme value := by
  have hne : schemeSeparator.toList ≠ [] := List.cons_ne_nil ':' [':']
  rw [Text.cutFirst_eq_some_iff_least hne, ← toList_written, String.toList_inj]
  constructor
  · rintro ⟨hwritten, hleast⟩
    refine ⟨hwritten, fun before after heq => ?_⟩
    have hlength := hleast before.toList after.toList (by rw [heq, toList_written])
    rwa [String.length_toList, String.length_toList] at hlength
  · rintro ⟨hwritten, hleast⟩
    refine ⟨hwritten, fun front back heq => ?_⟩
    have hcut : text = String.ofList front ++ schemeSeparator ++
        String.ofList back := by
      rw [← String.toList_inj, toList_written, String.toList_ofList,
        String.toList_ofList, heq]
    have hlength := hleast _ _ hcut
    rwa [← String.length_toList, ← String.length_toList,
      String.toList_ofList] at hlength

theorem parse_eq_ok_iff :
    policy.parse kind text = .ok identifier ↔
      CutsAtFirst text identifier.scheme identifier.value ∧
        policy.create kind identifier.scheme identifier.value = .ok identifier := by
  rw [← cutFirst_eq_some_iff_cutsAtFirst]
  unfold parse
  constructor
  · intro h
    split at h
    · cases h
    · rename_i scheme value hcut
      obtain ⟨hscheme, hvalue, rfl⟩ := create_eq_ok_iff.mp h
      rw [String.toList_ofList, String.toList_ofList]
      exact ⟨hcut, h⟩
  · rintro ⟨hcut, hcreated⟩
    simp only [hcut, String.ofList_toList, hcreated]

/-! ## Written identifiers -/

theorem uri_of_parse (h : policy.parse kind text = .ok identifier) :
    identifier.uri = text :=
  (parse_eq_ok_iff.mp h).1.written.symm

theorem parsePercentEncoded_eq_ok_iff :
    policy.parsePercentEncoded kind text = .ok identifier ↔
      ∃ decoded, Percent.decode text = .ok decoded ∧
        policy.parse kind decoded = .ok identifier := by
  unfold parsePercentEncoded
  cases Percent.decode text with
  | error flaw => cases flaw <;> simp
  | ok decoded => cases hread : policy.parse kind decoded <;>
    simp [withContext, hread]

theorem kind_of_parse (h : policy.parse kind text = .ok identifier) :
    identifier.kind = kind := by
  obtain ⟨-, -, heq⟩ := create_eq_ok_iff.mp (parse_eq_ok_iff.mp h).2
  rw [heq]

theorem not_infix_scheme_of_parse (h : policy.parse kind text = .ok identifier) :
    ¬schemeSeparator.toList <:+: identifier.scheme.toList ++ [':'] := by
  obtain ⟨hcut, hcreated⟩ := parse_eq_ok_iff.mp h
  have hfirst := cutFirst_eq_some_iff_cutsAtFirst.mpr hcut
  rw [hcut.written,
    cutFirst_written_iff _ (create_eq_ok_iff.mp hcreated).1] at hfirst
  rw [separator_infix_concat_iff, not_or]
  exact ⟨hfirst, not_infix_of_schemeFlaw? (create_eq_ok_iff.mp hcreated).1⟩

theorem exists_parse_iff :
    (∃ identifier, policy.parse kind text = .ok identifier) ↔
      ∃ scheme value, CutsAtFirst text scheme value ∧ policy.AllowsScheme scheme ∧
        policy.AllowsValue kind value := by
  constructor
  · rintro ⟨identifier, h⟩
    obtain ⟨hcut, hcreated⟩ := parse_eq_ok_iff.mp h
    obtain ⟨hscheme, hvalue, -⟩ := create_eq_ok_iff.mp hcreated
    exact ⟨_, _, hcut, schemeFlaw?_eq_none_iff.mp hscheme,
      valueFlaw?_eq_none_iff.mp hvalue⟩
  · rintro ⟨scheme, value, hcut, hscheme, hvalue⟩
    refine ⟨⟨kind, scheme, value, policy.caseRules.normalize scheme value⟩, ?_⟩
    refine parse_eq_ok_iff.mpr ⟨hcut, create_eq_ok_iff.mpr ⟨?_, ?_, rfl⟩⟩
    · exact schemeFlaw?_eq_none_iff.mpr hscheme
    · exact valueFlaw?_eq_none_iff.mpr hvalue

/-! ## The grammar -/

/-- A text is read exactly if it is cut by a separator and the policy allows both
parts.  The identifier has these parts and the text for its written form, no
separator begins in its scheme, and both of its written forms are read as the same
identifier again.  An encoded text is read exactly as what it is decoded to. -/
theorem parse_accepts_grammar (policy : IdentifierPolicy) (kind : IdentifierKind)
    (text : String) :
    ((∃ identifier, policy.parse kind text = .ok identifier) ↔
        ∃ scheme value, CutsAtFirst text scheme value ∧ policy.AllowsScheme scheme ∧
          policy.AllowsValue kind value) ∧
      (∀ identifier, policy.parse kind text = .ok identifier →
        identifier.kind = kind ∧
        CutsAtFirst text identifier.scheme identifier.value ∧
          identifier.uri = text ∧
          ¬schemeSeparator.toList <:+: identifier.scheme.toList ++ [':'] ∧
          policy.parse kind identifier.uri = .ok identifier ∧
          policy.parsePercentEncoded kind identifier.percentEncodedUri =
            .ok identifier) ∧
      ∀ identifier, policy.parsePercentEncoded kind text = .ok identifier ↔
        ∃ decoded, Percent.decode text = .ok decoded ∧
          policy.parse kind decoded = .ok identifier := by
  refine ⟨exists_parse_iff, fun identifier h => ?_,
    fun _ => parsePercentEncoded_eq_ok_iff⟩
  have huri := uri_of_parse h
  have hagain : policy.parse kind identifier.uri = .ok identifier := by rw [huri, h]
  refine ⟨kind_of_parse h, (parse_eq_ok_iff.mp h).1, huri,
    not_infix_scheme_of_parse h, hagain, ?_⟩
  exact parsePercentEncoded_eq_ok_iff.mpr
    ⟨identifier.uri, Percent.decode_encode _, hagain⟩

-- Of four colons the first two are the separator.
example :
    ((IdentifierPolicy.parse {} .participant "a::::b").toOption.map fun read =>
    (read.scheme, read.value)) = some ("a", "::b") := by
  decide +kernel

end IdentifierPolicy

/-! ## Identifiers of any policy -/

namespace Identifier

variable {identifier : Identifier} {kind : IdentifierKind}

/-- Some policy accepts the parts and makes this identifier of them. -/
def IsCreated (identifier : Identifier) (kind : IdentifierKind) : Prop :=
  ∃ policy : IdentifierPolicy,
    policy.create kind identifier.scheme identifier.value = .ok identifier

theorem IsCreated.kind_eq (h : identifier.IsCreated kind) :
    identifier.kind = kind := by
  obtain ⟨policy, hcreated⟩ := h
  rw [(IdentifierPolicy.create_eq_ok_iff.mp hcreated).2.2]

theorem IsCreated.normalizedValue_cases (h : identifier.IsCreated kind) :
    identifier.normalizedValue = identifier.value ∨
      identifier.normalizedValue = Text.lower identifier.value := by
  obtain ⟨policy, hcreated⟩ := h
  have hnormalized : identifier.normalizedValue =
      policy.caseRules.normalize identifier.scheme identifier.value :=
    congrArg normalizedValue (IdentifierPolicy.create_eq_ok_iff.mp hcreated).2.2
  rw [hnormalized, CaseRules.normalize]
  cases policy.caseRules.rule identifier.scheme with
  | caseSensitive => exact .inl rfl
  | caseInsensitive => exact .inr rfl

end Identifier

end EndpointDiscovery
