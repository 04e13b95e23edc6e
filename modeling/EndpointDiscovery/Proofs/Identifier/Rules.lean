import EndpointDiscovery.Proofs.Identifier.Grammar

/-!
# Rules of identifiers

Six rules in a fixed order decide which parts make an identifier, and the first
one that is violated is reported.  Whatever a policy is asked for, it gives
identifiers that obey its rules and no others, and a policy that checks less
gives the same ones.
-/

namespace EndpointDiscovery

/-! ## Rules -/

inductive IdentifierRule where
  | schemeWithoutSeparator
  | schemeNotEmpty
  | schemeShort
  | valueNotEmpty
  | valueShort
  | valueRepresentable
deriving DecidableEq

namespace IdentifierRule

def place : IdentifierRule → Nat
  | schemeWithoutSeparator => 1
  | schemeNotEmpty => 2
  | schemeShort => 3
  | valueNotEmpty => 4
  | valueShort => 5
  | valueRepresentable => 6

/-- Two of the rules hold only where they are checked. -/
def Holds (policy : IdentifierPolicy) (kind : IdentifierKind)
    (scheme value : String) :
    IdentifierRule → Prop
  | schemeWithoutSeparator => ¬schemeSeparator.toList <:+: scheme.toList
  | schemeNotEmpty => scheme ≠ ""
  | schemeShort => policy.checkSchemeLength = true → scheme.length ≤ schemeMaxLength
  | valueNotEmpty => value ≠ ""
  | valueShort => value.length ≤ kind.maxValueLength
  | valueRepresentable => policy.checkCharset = true →
      ∀ character ∈ value.toList, kind.charset.contains character = true

/-- What is said of a violated rule; of the characters outside a set the first
one is named. -/
inductive Reports (kind : IdentifierKind) (scheme value : String) :
    IdentifierRule → FormatFlaw → Prop
  | schemeWithoutSeparator :
      Reports kind scheme value schemeWithoutSeparator .separatorInScheme
  | schemeNotEmpty : Reports kind scheme value schemeNotEmpty .emptyScheme
  | schemeShort : Reports kind scheme value schemeShort
      (.schemeTooLong scheme.length schemeMaxLength)
  | valueNotEmpty : Reports kind scheme value valueNotEmpty .emptyValue
  | valueShort : Reports kind scheme value valueShort
      (.valueTooLong value.length kind.maxValueLength)
  | valueRepresentable {before after : List Char} {character : Char}
      (hvalue : value.toList = before ++ character :: after)
      (hbefore : ∀ other ∈ before, kind.charset.contains other = true)
      (hcharacter : kind.charset.contains character = false) :
      Reports kind scheme value valueRepresentable
        (.unrepresentable character kind.charset)

def remark (scheme value : String) : IdentifierRule → String
  | schemeWithoutSeparator | schemeNotEmpty | schemeShort => s!"scheme: {scheme}"
  | valueNotEmpty | valueShort | valueRepresentable => s!"value: {value}"

variable {policy : IdentifierPolicy} {kind : IdentifierKind} {scheme value : String}
  {rule other : IdentifierRule} {flaw reported : FormatFlaw}

def HoldsBefore (policy : IdentifierPolicy) (kind : IdentifierKind)
    (scheme value : String) (rule : IdentifierRule) : Prop :=
  ∀ earlier : IdentifierRule, earlier.place < rule.place →
    earlier.Holds policy kind scheme value

/-- The rule is violated, and none before it. -/
structure IsFirstViolated (policy : IdentifierPolicy) (kind : IdentifierKind)
    (scheme value : String) (rule : IdentifierRule) : Prop where
  violated : ¬rule.Holds policy kind scheme value
  before : rule.HoldsBefore policy kind scheme value

theorem place_injective (h : rule.place = other.place) : rule = other := by
  revert h
  cases rule <;> cases other <;> decide

theorem HoldsBefore.first :
    schemeWithoutSeparator.HoldsBefore policy kind scheme value := by
  intro earlier hearlier
  cases earlier <;> simp [place] at hearlier

theorem HoldsBefore.next (h : rule.HoldsBefore policy kind scheme value)
    (hholds : rule.Holds policy kind scheme value)
    (hplace : other.place = rule.place + 1) :
    other.HoldsBefore policy kind scheme value := by
  intro earlier hearlier
  rcases Nat.lt_succ_iff_lt_or_eq.mp (hplace ▸ hearlier) with hlt | heq
  · exact h earlier hlt
  · rwa [place_injective heq]

theorem IsFirstViolated.unique (h : IsFirstViolated policy kind scheme value rule)
    (hother : IsFirstViolated policy kind scheme value other) : rule = other := by
  rcases Nat.lt_trichotomy rule.place other.place with hlt | heq | hgt
  · exact absurd (hother.before rule hlt) h.violated
  · exact place_injective heq
  · exact absurd (h.before other hgt) hother.violated

theorem Reports.unique (h : Reports kind scheme value rule flaw)
    (hother : Reports kind scheme value rule reported) : flaw = reported := by
  cases h with
  | schemeWithoutSeparator | schemeNotEmpty | schemeShort | valueNotEmpty
  | valueShort =>
      cases hother
      rfl
  | @valueRepresentable before after character hvalue hbefore hcharacter =>
      cases hother with
      | @valueRepresentable front back found hfront hrepresentable hfound =>
          have hfirst :
              value.toList.find? (!kind.charset.contains ·) = some character :=
            List.find?_eq_some_iff_append.mpr
              ⟨by simp [hcharacter], before, after, hvalue,
                fun character hmem => by simp [hbefore character hmem]⟩
          have hsame : value.toList.find? (!kind.charset.contains ·) = some found :=
            List.find?_eq_some_iff_append.mpr
              ⟨by simp [hfound], front, back, hfront,
                fun character hmem => by simp [hrepresentable character hmem]⟩
          rw [hfirst, Option.some.injEq] at hsame
          rw [hsame]

end IdentifierRule

namespace IdentifierPolicy

open IdentifierRule (HoldsBefore IsFirstViolated Reports)

variable {policy : IdentifierPolicy} {kind : IdentifierKind}
  {scheme value text : String} {identifier : Identifier} {flaw : FormatFlaw}

theorem isValidScheme_iff : policy.isValidScheme scheme = true ↔
    policy.AllowsScheme scheme := by
  rw [isValidScheme, Option.isNone_iff_eq_none, schemeFlaw?_eq_none_iff]

theorem isValidValue_iff :
    policy.isValidValue kind value = true ↔ policy.AllowsValue kind value := by
  rw [isValidValue, Option.isNone_iff_eq_none, valueFlaw?_eq_none_iff]

theorem allows_iff_rules :
    policy.AllowsScheme scheme ∧ policy.AllowsValue kind value ↔
    ∀ rule : IdentifierRule, rule.Holds policy kind scheme value := by
  constructor
  · rintro ⟨hscheme, hvalue⟩ rule
    cases rule with
    | schemeWithoutSeparator => exact hscheme.plain
    | schemeNotEmpty => exact hscheme.nonempty
    | schemeShort => exact hscheme.short
    | valueNotEmpty => exact hvalue.nonempty
    | valueShort => exact hvalue.short
    | valueRepresentable => exact hvalue.representable
  · intro h
    exact ⟨⟨h .schemeWithoutSeparator, h .schemeNotEmpty, h .schemeShort⟩,
      ⟨h .valueNotEmpty, h .valueShort, h .valueRepresentable⟩⟩

theorem exists_violated_of_schemeFlaw? (h : policy.schemeFlaw? scheme = some flaw) :
    ∃ rule, IsFirstViolated policy kind scheme value rule ∧
      Reports kind scheme value rule flaw ∧
      rule.remark scheme value = s!"scheme: {scheme}" := by
  unfold schemeFlaw? at h
  split at h
  · rename_i hoccurs
    cases h
    have hviolated := not_not.mpr (Text.occurs_iff_infix.mp hoccurs)
    exact ⟨.schemeWithoutSeparator, ⟨hviolated, .first⟩,
      .schemeWithoutSeparator, rfl⟩
  rename_i hplain
  have hbefore : HoldsBefore policy kind scheme value .schemeNotEmpty :=
    .next .first (mt Text.occurs_iff_infix.mpr hplain) rfl
  split at h
  · rename_i hempty
    cases h
    have hviolated := not_not.mpr (String.isEmpty_iff.mp hempty)
    exact ⟨.schemeNotEmpty, ⟨hviolated, hbefore⟩, .schemeNotEmpty, rfl⟩
  rename_i hnonempty
  have hbefore : HoldsBefore policy kind scheme value .schemeShort :=
    .next hbefore (mt String.isEmpty_iff.mpr hnonempty) rfl
  split at h
  · rename_i hlong
    cases h
    rw [Bool.and_eq_true, decide_eq_true_eq] at hlong
    refine ⟨.schemeShort, ⟨fun hshort => ?_, hbefore⟩, .schemeShort, rfl⟩
    exact absurd (hshort hlong.1) (Nat.not_le_of_lt hlong.2)
  · cases h

theorem exists_violated_of_valueFlaw? (hscheme : policy.AllowsScheme scheme)
    (h : policy.valueFlaw? kind value = some flaw) :
    ∃ rule, IsFirstViolated policy kind scheme value rule ∧
      Reports kind scheme value rule flaw ∧
      rule.remark scheme value = s!"value: {value}" := by
  have hbefore : HoldsBefore policy kind scheme value .schemeNotEmpty :=
    .next .first hscheme.plain rfl
  have hbefore : HoldsBefore policy kind scheme value .schemeShort :=
    .next hbefore hscheme.nonempty rfl
  have hbefore : HoldsBefore policy kind scheme value .valueNotEmpty :=
    .next hbefore hscheme.short rfl
  unfold valueFlaw? at h
  split at h
  · rename_i hempty
    cases h
    have hviolated := not_not.mpr (String.isEmpty_iff.mp hempty)
    exact ⟨.valueNotEmpty, ⟨hviolated, hbefore⟩, .valueNotEmpty, rfl⟩
  rename_i hnonempty
  have hbefore : HoldsBefore policy kind scheme value .valueShort :=
    .next hbefore (mt String.isEmpty_iff.mpr hnonempty) rfl
  split at h
  · rename_i hlong
    cases h
    exact ⟨.valueShort, ⟨Nat.not_le_of_lt hlong, hbefore⟩, .valueShort, rfl⟩
  rename_i hshort
  have hbefore : HoldsBefore policy kind scheme value .valueRepresentable :=
    .next hbefore (Nat.le_of_not_lt hshort) rfl
  split at h
  · rename_i hchecked
    obtain ⟨character, hfind, rfl⟩ := Option.map_eq_some_iff.mp h
    obtain ⟨hcharacter, front, back, hvalue, hfront⟩ :=
      List.find?_eq_some_iff_append.mp hfind
    rw [Bool.not_eq_true'] at hcharacter
    refine ⟨.valueRepresentable, ⟨fun hholds => ?_, hbefore⟩,
      .valueRepresentable hvalue
        (fun other hmem => by simpa using hfront other hmem) hcharacter, rfl⟩
    have hcontained := hholds hchecked character (by simp [hvalue])
    rw [hcharacter] at hcontained
    contradiction
  · cases h

theorem create_eq_error_iff {fault : IdentifierFault} :
    policy.create kind scheme value = .error fault ↔
      ∃ rule flaw, IsFirstViolated policy kind scheme value rule ∧
        Reports kind scheme value rule flaw ∧
        fault = (Fault.root (.invalidFormat kind flaw)).addContext
          (rule.remark scheme value) := by
  have hreported : ∀ {fault : IdentifierFault},
      policy.create kind scheme value = .error fault →
      ∃ rule flaw, IsFirstViolated policy kind scheme value rule ∧
        Reports kind scheme value rule flaw ∧
        fault = (Fault.root (.invalidFormat kind flaw)).addContext
          (rule.remark scheme value) := by
    intro fault h
    unfold create at h
    split at h
    · rename_i flaw hflaw
      cases h
      obtain ⟨rule, hfirst, hreports, hremark⟩ :=
        exists_violated_of_schemeFlaw? hflaw
      exact ⟨rule, flaw, hfirst, hreports, by rw [hremark]; rfl⟩
    · rename_i hscheme
      rw [schemeFlaw?_eq_none_iff] at hscheme
      split at h
      · rename_i flaw hflaw
        cases h
        obtain ⟨rule, hfirst, hreports, hremark⟩ :=
          exists_violated_of_valueFlaw? hscheme hflaw
        exact ⟨rule, flaw, hfirst, hreports, by rw [hremark]; rfl⟩
      · cases h
  refine ⟨hreported, ?_⟩
  rintro ⟨rule, flaw, hfirst, hreports, rfl⟩
  cases hcreated : policy.create kind scheme value with
  | ok identifier =>
      obtain ⟨hscheme, hvalue, -⟩ := create_eq_ok_iff.mp hcreated
      exact absurd (allows_iff_rules.mp ⟨schemeFlaw?_eq_none_iff.mp hscheme,
        valueFlaw?_eq_none_iff.mp hvalue⟩ rule) hfirst.violated
  | error fault =>
      obtain ⟨other, reported, hother, hotherReports, rfl⟩ := hreported hcreated
      obtain rfl := hfirst.unique hother
      rw [hreports.unique hotherReports]

theorem exists_create_iff :
    (∃ identifier, policy.create kind scheme value = .ok identifier) ↔
    policy.isValidScheme scheme = true ∧ policy.isValidValue kind value = true := by
  rw [isValidScheme_iff, isValidValue_iff, ← schemeFlaw?_eq_none_iff,
    ← valueFlaw?_eq_none_iff]
  simp only [create_eq_ok_iff]
  constructor
  · rintro ⟨identifier, hscheme, hvalue, -⟩
    exact ⟨hscheme, hvalue⟩
  · rintro ⟨hscheme, hvalue⟩
    exact ⟨_, hscheme, hvalue, rfl⟩

end IdentifierPolicy

/-! ## Identifiers that obey the rules -/

/-- The parts are allowed, and comparison uses the form that the case rules give. -/
structure Identifier.Obeys (identifier : Identifier) (policy : IdentifierPolicy) :
    Prop where
  scheme : policy.AllowsScheme identifier.scheme
  value : policy.AllowsValue identifier.kind identifier.value
  normalized : identifier.normalizedValue =
    policy.caseRules.normalize identifier.scheme identifier.value

inductive IdentifierRequest where
  | create (kind : IdentifierKind) (scheme value : String)
  | parse (kind : IdentifierKind) (text : String)
  | parsePercentEncoded (kind : IdentifierKind) (text : String)
  | participant (scheme value : String)
  | documentType (scheme value : String)
  | process (scheme value : String)
  | peppolParticipant (value : String)
  | peppolDocumentType (value : String)
  | peppolProcess (value : String)

namespace IdentifierRequest

def kind : IdentifierRequest → IdentifierKind
  | create kind _ _ | parse kind _ | parsePercentEncoded kind _ => kind
  | participant _ _ | peppolParticipant _ => .participant
  | documentType _ _ | peppolDocumentType _ => .documentType
  | process _ _ | peppolProcess _ => .process

def answer (policy : IdentifierPolicy) : IdentifierRequest →
    Except IdentifierFault Identifier
  | create kind scheme value => policy.create kind scheme value
  | parse kind text => policy.parse kind text
  | parsePercentEncoded kind text => policy.parsePercentEncoded kind text
  | participant scheme value => policy.participant scheme value
  | documentType scheme value => policy.documentType scheme value
  | process scheme value => policy.process scheme value
  | peppolParticipant value => policy.peppolParticipant value
  | peppolDocumentType value => policy.peppolDocumentType value
  | peppolProcess value => policy.peppolProcess value

end IdentifierRequest

namespace IdentifierPolicy

variable {policy laxer : IdentifierPolicy} {kind : IdentifierKind}
  {scheme value text : String} {identifier : Identifier}

theorem create_iff_obeys :
    policy.create kind identifier.scheme identifier.value = .ok identifier ↔
      identifier.kind = kind ∧ identifier.Obeys policy := by
  rw [create_eq_ok_iff, schemeFlaw?_eq_none_iff, valueFlaw?_eq_none_iff]
  constructor
  · rintro ⟨hscheme, hvalue, hidentifier⟩
    have hkind : identifier.kind = kind := congrArg Identifier.kind hidentifier
    exact ⟨hkind, hscheme, hkind ▸ hvalue,
      congrArg Identifier.normalizedValue hidentifier⟩
  · rintro ⟨rfl, hscheme, hvalue, hnormalized⟩
    exact ⟨hscheme, hvalue, by rw [← hnormalized]⟩

theorem obeys_of_create (h : policy.create kind scheme value = .ok identifier) :
    identifier.kind = kind ∧ identifier.Obeys policy := by
  obtain ⟨-, -, hidentifier⟩ := create_eq_ok_iff.mp h
  refine create_iff_obeys.mp ?_
  rw [hidentifier]
  rwa [hidentifier] at h

theorem obeys_of_parse (h : policy.parse kind text = .ok identifier) :
    identifier.kind = kind ∧ identifier.Obeys policy :=
  create_iff_obeys.mp (parse_eq_ok_iff.mp h).2

theorem obeys_of_parsePercentEncoded
    (h : policy.parsePercentEncoded kind text = .ok identifier) :
    identifier.kind = kind ∧ identifier.Obeys policy := by
  obtain ⟨decoded, -, hparsed⟩ := parsePercentEncoded_eq_ok_iff.mp h
  exact obeys_of_parse hparsed

theorem obeys_of_answer {request : IdentifierRequest}
    (h : request.answer policy = .ok identifier) :
    identifier.kind = request.kind ∧ identifier.Obeys policy := by
  cases request with
  | parse => exact obeys_of_parse h
  | parsePercentEncoded => exact obeys_of_parsePercentEncoded h
  | create | participant | documentType | process => exact obeys_of_create h
  | peppolParticipant | peppolDocumentType | peppolProcess =>
      exact obeys_of_create h

/-! ## Checking less -/

/-- The second policy has the same case rules and makes no check that the first
one does not. -/
structure Relaxes (policy laxer : IdentifierPolicy) : Prop where
  caseRules : laxer.caseRules = policy.caseRules
  charset : laxer.checkCharset = true → policy.checkCharset = true
  schemeLength : laxer.checkSchemeLength = true → policy.checkSchemeLength = true

theorem Relaxes.create (h : policy.Relaxes laxer)
    (hcreated : policy.create kind scheme value = .ok identifier) :
    laxer.create kind scheme value = .ok identifier := by
  rw [create_eq_ok_iff, schemeFlaw?_eq_none_iff,
    valueFlaw?_eq_none_iff] at hcreated ⊢
  obtain ⟨hscheme, hvalue, hidentifier⟩ := hcreated
  refine ⟨⟨hscheme.plain, hscheme.nonempty, fun hchecked => ?_⟩,
    ⟨hvalue.nonempty, hvalue.short, fun hchecked => ?_⟩,
    by rw [h.caseRules, hidentifier]⟩
  · exact hscheme.short (h.schemeLength hchecked)
  · exact hvalue.representable (h.charset hchecked)

theorem Relaxes.parse (h : policy.Relaxes laxer)
    (hparsed : policy.parse kind text = .ok identifier) :
    laxer.parse kind text = .ok identifier := by
  rw [parse_eq_ok_iff] at hparsed ⊢
  exact ⟨hparsed.1, h.create hparsed.2⟩

theorem Relaxes.parsePercentEncoded (h : policy.Relaxes laxer)
    (hparsed : policy.parsePercentEncoded kind text = .ok identifier) :
    laxer.parsePercentEncoded kind text = .ok identifier := by
  rw [parsePercentEncoded_eq_ok_iff] at hparsed ⊢
  obtain ⟨decoded, hdecoded, hread⟩ := hparsed
  exact ⟨decoded, hdecoded, h.parse hread⟩

theorem Relaxes.answer (h : policy.Relaxes laxer) {request : IdentifierRequest}
    (hanswer : request.answer policy = .ok identifier) :
    request.answer laxer = .ok identifier := by
  cases request with
  | parse => exact h.parse hanswer
  | parsePercentEncoded => exact h.parsePercentEncoded hanswer
  | create | participant | documentType | process => exact h.create hanswer
  | peppolParticipant | peppolDocumentType | peppolProcess => exact h.create hanswer

end IdentifierPolicy

end EndpointDiscovery
