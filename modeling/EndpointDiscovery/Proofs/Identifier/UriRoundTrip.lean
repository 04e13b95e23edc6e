import EndpointDiscovery.Identifier.Policy
import EndpointDiscovery.Proofs.Identifier.PercentRoundTrip
import EndpointDiscovery.Proofs.Text.Cut

/-!
# Written identifiers are read back

A written identifier is cut at the first separator.  That is where it was put
together, unless the scheme ends with a colon, which then counts as the beginning
of the separator.
-/

namespace EndpointDiscovery

def ReadsAs (result : Except IdentifierFault Identifier) (kind : IdentifierKind)
    (scheme value : String) : Prop :=
  ∃ read, result = .ok read ∧ read.kind = kind ∧ read.scheme = scheme ∧
    read.value = value

namespace IdentifierPolicy

variable {policy : IdentifierPolicy} {kind : IdentifierKind} {scheme value : String}
  {identifier : Identifier}

theorem create_eq_ok_iff :
    policy.create kind scheme value = .ok identifier ↔
      policy.schemeFlaw? scheme = none ∧ policy.valueFlaw? kind value = none ∧
        identifier =
          ⟨kind, scheme, value, policy.caseRules.normalize scheme value⟩ := by
  unfold create
  cases policy.schemeFlaw? scheme with
  | some flaw => simp
  | none =>
      cases policy.valueFlaw? kind value with
      | some flaw => simp
      | none => simp [eq_comm]

theorem not_infix_of_schemeFlaw? (h : policy.schemeFlaw? scheme = none) :
    ¬schemeSeparator.toList <:+: scheme.toList := by
  rw [← Text.occurs_iff_infix]
  intro hoccurs
  simp [schemeFlaw?, hoccurs] at h

theorem separator_infix_concat_iff (characters : List Char) :
    schemeSeparator.toList <:+: characters ++ [':'] ↔
      characters.getLast? = some ':' ∨ schemeSeparator.toList <:+: characters := by
  have hseparator : schemeSeparator.toList = [':'] ++ [':'] := rfl
  rw [List.infix_concat_iff, hseparator, List.suffix_append_self_iff,
    List.singleton_suffix_iff_getLast?_eq_some]

theorem toList_written (scheme value : String) :
    (scheme ++ schemeSeparator ++ value).toList =
      scheme.toList ++ (schemeSeparator.toList ++ value.toList) := by
  rw [String.toList_append, String.toList_append, List.append_assoc]

theorem cutFirst_written_iff (value : String)
    (h : policy.schemeFlaw? scheme = none) :
    Text.cutFirst schemeSeparator.toList
      (scheme ++ schemeSeparator ++ value).toList =
        some (scheme.toList, value.toList) ↔
      scheme.toList.getLast? ≠ some ':' := by
  have hne : schemeSeparator.toList ≠ [] := List.cons_ne_nil ':' [':']
  have hlast : schemeSeparator.toList.dropLast = [':'] := rfl
  rw [toList_written, Text.cutFirst_append_iff _ _ hne, hlast,
    separator_infix_concat_iff]
  simp only [not_infix_of_schemeFlaw? h, or_false, ne_eq]

theorem readsAs_parse_iff
    (created : policy.create kind scheme value = .ok identifier) :
    ReadsAs (policy.parse kind identifier.uri) kind scheme value ↔
      scheme.toList.getLast? ≠ some ':' := by
  obtain ⟨hscheme, -, rfl⟩ := create_eq_ok_iff.mp created
  rw [← cutFirst_written_iff value hscheme]
  unfold parse Identifier.uri
  constructor
  · rintro ⟨read, hread, -, hreadScheme, hreadValue⟩
    split at hread
    · cases hread
    · rename_i before after hcut
      obtain ⟨-, -, rfl⟩ := create_eq_ok_iff.mp hread
      rw [hcut, ← hreadScheme, ← hreadValue, String.toList_ofList,
        String.toList_ofList]
  · intro hcut
    refine ⟨⟨kind, scheme, value, policy.caseRules.normalize scheme value⟩, ?_, rfl,
      rfl, rfl⟩
    rw [hcut]
    simpa using created

theorem readsAs_withContext_iff (remark : String)
    (result : Except IdentifierFault Identifier) :
    ReadsAs (withContext remark result) kind scheme value ↔
      ReadsAs result kind scheme value := by
  cases result <;> simp [ReadsAs, withContext]

theorem readsAs_parsePercentEncoded_iff (text : String) :
    ReadsAs (policy.parsePercentEncoded kind (Percent.encode text)) kind
      scheme value ↔ ReadsAs (policy.parse kind text) kind scheme value := by
  unfold parsePercentEncoded
  rw [Percent.decode_encode]
  exact readsAs_withContext_iff _ _

end IdentifierPolicy

theorem ReadsAs.unique {result : Except IdentifierFault Identifier}
    {kind : IdentifierKind} {scheme value otherScheme otherValue : String}
    (h : ReadsAs result kind scheme value)
    (hother : ReadsAs result kind otherScheme otherValue) :
    scheme = otherScheme ∧ value = otherValue := by
  obtain ⟨read, hread, -, rfl, rfl⟩ := h
  obtain ⟨found, hfound, -, rfl, rfl⟩ := hother
  rw [hread] at hfound
  cases hfound
  exact ⟨rfl, rfl⟩

namespace IdentifierPolicy

variable {policy : IdentifierPolicy} {kind : IdentifierKind}
  {scheme value otherScheme otherValue : String} {identifier other : Identifier}

theorem eq_of_uri (created : policy.create kind scheme value = .ok identifier)
    (otherCreated : policy.create kind otherScheme otherValue = .ok other)
    (hplain : scheme.toList.getLast? ≠ some ':')
    (hotherPlain : otherScheme.toList.getLast? ≠ some ':')
    (huri : identifier.uri = other.uri) : identifier = other := by
  have hread := (readsAs_parse_iff created).mpr hplain
  rw [huri] at hread
  obtain ⟨rfl, rfl⟩ :=
    hread.unique ((readsAs_parse_iff otherCreated).mpr hotherPlain)
  rw [created] at otherCreated
  exact Except.ok.inj otherCreated

/-- An identifier is read back from its written forms exactly if its scheme does not
end with a colon, and the written forms tell such identifiers of one kind apart. -/
theorem create_reads_back_iff
    (created : policy.create kind scheme value = .ok identifier) :
    (ReadsAs (policy.parse kind identifier.uri) kind scheme value ↔
        scheme.toList.getLast? ≠ some ':') ∧
      (ReadsAs (policy.parsePercentEncoded kind identifier.percentEncodedUri) kind
        scheme value ↔ scheme.toList.getLast? ≠ some ':') ∧
      (scheme.toList.getLast? ≠ some ':' →
        ∀ otherScheme otherValue other,
          policy.create kind otherScheme otherValue = .ok other →
          otherScheme.toList.getLast? ≠ some ':' →
          identifier.uri = other.uri ∨
          identifier.percentEncodedUri = other.percentEncodedUri →
          identifier = other) := by
  refine ⟨readsAs_parse_iff created, ?_, ?_⟩
  · exact (readsAs_parsePercentEncoded_iff identifier.uri).trans
      (readsAs_parse_iff created)
  · rintro hplain otherScheme otherValue other hother hotherPlain (huri | hencoded)
    · exact eq_of_uri created hother hplain hotherPlain huri
    · exact eq_of_uri created hother hplain hotherPlain
        (Percent.encode_injective hencoded)

theorem not_reads_back_colon :
    (∃ identifier,
      IdentifierPolicy.create {} .participant "a:" "b" = .ok identifier ∧
      identifier.uri = "a:::b") ∧
      ¬ReadsAs (IdentifierPolicy.parse {} .participant "a:::b") .participant
        "a:" "b" ∧
      ReadsAs (IdentifierPolicy.parse {} .participant "a:::b")
        .participant "a" ":b" := by
  have hcolon : IdentifierPolicy.create {} .participant "a:" "b" =
      .ok ⟨.participant, "a:", "b", "b"⟩ := by rfl
  have hplain : IdentifierPolicy.create {} .participant "a" ":b" =
      .ok ⟨.participant, "a", ":b", ":b"⟩ := by rfl
  refine ⟨⟨_, hcolon, by decide⟩, ?_, ?_⟩
  · exact mt (create_reads_back_iff hcolon).1.mp (by decide)
  · exact (create_reads_back_iff hplain).1.mpr (by decide)

end IdentifierPolicy

end EndpointDiscovery
