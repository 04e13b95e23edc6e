import EndpointDiscovery.Proofs.Bytes.Digits
import EndpointDiscovery.Proofs.Identifier.Grammar
import EndpointDiscovery.Proofs.Sml.ClassicUrl
import EndpointDiscovery.Proofs.Text.Border

/-!
# Host names tell participants apart

No label of a host name has a dot, so a host name under a zone can be taken apart at
the first one: what stands before it is the label, and what stands between it and
the zone is the scheme in lower case.  The label tells the normalized value as far
as the digest does.
-/

namespace EndpointDiscovery

/-! ## Lengths of digests -/

theorem Bytes.length_littleEndian (count number : Nat) :
    (Bytes.littleEndian count number).length = count := by
  induction count generalizing number with
  | zero => rfl
  | succ count ih => rw [littleEndian, List.length_cons, ih]

theorem Bytes.length_bigEndian (count number : Nat) :
    (Bytes.bigEndian count number).length = count := by
  rw [bigEndian, List.length_reverse, length_littleEndian]

theorem Md5.length_digest (message : List UInt8) :
    (Md5.digest message).length = 16 := by
  simp [digest, Bytes.length_littleEndian]

theorem Sha256.length_digest (message : List UInt8) :
    (Sha256.digest message).length = 32 := by
  simp [digest, Sha2.digest, family, Bytes.length_bigEndian]

/-! ## The wildcard -/

theorem lower_eq_wildcard_iff {value : String} :
    Text.lower value = wildcardValue ↔ value = wildcardValue := by
  constructor
  · intro h
    have hlist : Text.lowerAfter [] value.toList = ['*'] := by
      rw [← String.toList_inj, Text.lower, String.toList_ofList] at h
      exact h
    rw [← String.toList_inj]
    cases hvalue : value.toList with
    | nil =>
        rw [hvalue] at hlist
        cases hlist
    | cons character rest =>
        rw [hvalue, Text.lowerAfter_cons] at hlist
        rcases List.append_eq_singleton_iff.mp hlist with
          ⟨hnone, -⟩ | ⟨hstar, hrest⟩
        · exact absurd hnone (Text.lowerBetween_ne_nil [] character rest)
        · rw [Text.lowerAfter_eq_nil_iff.mp hrest]
          have hmem : '*' ∈ Text.lowerBetween [] character rest := by
            rw [hstar]
            exact List.mem_cons_self
          unfold Text.lowerBetween at hmem
          split at hmem
          · split at hmem <;> exact absurd (List.mem_singleton.mp hmem) (by decide)
          · rw [Text.eq_of_mem_lowerChar (by decide) (by decide) hmem]
            rfl
  · rintro rfl
    decide

theorem Identifier.IsCreated.normalizedValue_eq_wildcard_iff
    {identifier : Identifier} {kind : IdentifierKind}
    (h : identifier.IsCreated kind) :
    identifier.normalizedValue = wildcardValue ↔
      identifier.value = wildcardValue := by
  rcases h.normalizedValue_cases with hsame | hlower
  · rw [hsame]
  · rw [hlower, lower_eq_wildcard_iff]

/-! ## Labels -/

theorem classicLabel_eq_wildcard_iff {value : String} :
    classicLabel value = wildcardValue ↔ value = wildcardValue := by
  unfold classicLabel
  constructor
  · intro h
    split at h
    · assumption
    · have hhead := congrArg (fun label => label.toList.head?) h
      simp [classicHashPrefix, wildcardValue] at hhead
  · intro h
    rw [if_pos h]

theorem classicLabel_hashed {value : String} (h : value ≠ wildcardValue) :
    ∃ digits : List Char,
      classicLabel value = classicHashPrefix ++ String.ofList digits ∧
      digits.length = 32 ∧ ∀ digit ∈ digits, digit ∈ "0123456789abcdef".toList := by
  refine ⟨(Bytes.hex (Md5.digest (Text.Utf8.encodeString value))).toList,
    ?_, ?_, ?_⟩
  · rw [classicLabel, if_neg h, String.ofList_toList]
  · rw [Bytes.length_hex, Md5.length_digest]
  · exact fun digit hmem => Bytes.mem_hex hmem

theorem bdxlLabel_form (value : String) :
    (bdxlLabel value).toList.length = 52 ∧
      ∀ digit ∈ (bdxlLabel value).toList, digit ∈ Bytes.Base32.alphabet := by
  refine ⟨?_, fun digit hmem => Bytes.Base32.mem_encode hmem⟩
  rw [bdxlLabel, Bytes.Base32.length_encode, Sha256.length_digest]

theorem dot_not_mem_classicLabel (value : String) :
    '.' ∉ (classicLabel value).toList := by
  by_cases h : value = wildcardValue
  · rw [classicLabel, if_pos h]
    decide
  · obtain ⟨digits, hlabel, -, hdigits⟩ := classicLabel_hashed h
    rw [hlabel, String.toList_append, String.toList_ofList, List.mem_append, not_or]
    exact ⟨by decide, fun hmem => absurd (hdigits '.' hmem) (by decide)⟩

theorem dot_not_mem_bdxlLabel (value : String) : '.' ∉ (bdxlLabel value).toList :=
  fun hmem => absurd ((bdxlLabel_form value).2 '.' hmem) (by decide)

/-- A digest does not take two texts for one. -/
def TellsApart (digest : List UInt8 → List UInt8) (first second : String) : Prop :=
  digest (Text.Utf8.encodeString first) = digest (Text.Utf8.encodeString second) →
    first = second

variable {first second : String}

theorem eq_of_classicLabel (hapart : TellsApart Md5.digest first second)
    (h : classicLabel first = classicLabel second) : first = second := by
  by_cases hfirst : first = wildcardValue
  · rw [hfirst, classicLabel_eq_wildcard_iff.mpr rfl, eq_comm,
      classicLabel_eq_wildcard_iff] at h
    rw [hfirst, h]
  · have hsecond : second ≠ wildcardValue := by
      rintro rfl
      rw [classicLabel_eq_wildcard_iff.mpr rfl, classicLabel_eq_wildcard_iff] at h
      exact hfirst h
    rw [classicLabel, classicLabel, if_neg hfirst, if_neg hsecond,
      String.append_right_inj] at h
    exact hapart (Bytes.hex_injective h)

theorem eq_of_bdxlLabel (hapart : TellsApart Sha256.digest first second)
    (h : bdxlLabel first = bdxlLabel second) : first = second := by
  refine hapart (Bytes.Base32.encode_injective ?_ h)
  rw [Sha256.length_digest, Sha256.length_digest]

/-! ## Host names -/

variable {label otherLabel scheme otherScheme : String} {zone : SmlZone}

theorem assembleHostName_dot (label scheme : String) (zone : SmlZone) :
    assembleHostName label scheme zone ++ "." =
      label ++ "." ++ Text.lower scheme ++ "." ++ zone.dnsZone := by
  have hlast : zone.dnsZone.toList.getLast? = some '.' := by
    have hvalid := zone.valid
    unfold zoneFlaw? at hvalid
    split at hvalid
    · cases hvalid
    split at hvalid
    · cases hvalid
    · rename_i hdot
      exact not_not.mp hdot
  have hzone : withoutFinalDot zone.dnsZone ++ "." = zone.dnsZone := by
    rw [withoutFinalDot, if_pos hlast, ← String.toList_inj, String.toList_append,
      String.toList_ofList]
    exact List.dropLast_append_getLast? '.' hlast
  rw [assembleHostName_eq, String.append_assoc, hzone]

theorem assembleHostName_eq_iff (hlabel : '.' ∉ label.toList)
    (hother : '.' ∉ otherLabel.toList) :
    assembleHostName label scheme zone =
      assembleHostName otherLabel otherScheme zone ↔
      label = otherLabel ∧ Text.lower scheme = Text.lower otherScheme := by
  constructor
  · intro h
    have hdotted := congrArg (fun name => (name ++ ".").toList) h
    have hcut : ∀ first rest : String,
        (first ++ ("." ++ rest)).toList = first.toList ++ '.' :: rest.toList := by
      intro first rest
      rw [String.toList_append, String.toList_append]
      rfl
    simp only [assembleHostName_dot, String.append_assoc, hcut] at hdotted
    obtain ⟨hsame, hrest⟩ := Text.append_cons_injective hlabel hother hdotted
    exact ⟨String.toList_inj.mp hsame,
      String.toList_inj.mp (List.append_cancel_right hrest)⟩
  · rintro ⟨rfl, hscheme⟩
    rw [assembleHostName_eq, assembleHostName_eq, hscheme]

theorem classicHostName_eq {participant : Identifier}
    (h : participant.kind = .participant) (zone : SmlZone) :
    classicHostName participant zone = .ok
      (assembleHostName (classicLabel participant.normalizedValue)
        participant.scheme zone) := by
  cases participant
  cases h
  rfl

theorem bdxlHostName_eq {participant : Identifier}
    (h : participant.kind = .participant) (zone : SmlZone) :
    bdxlHostName participant zone =
      .ok
        (assembleHostName (bdxlLabel participant.normalizedValue)
          participant.scheme zone) := by
  cases participant
  cases h
  rfl

/-! ## Participants -/

structure IsClassicName (participant : Identifier) (zone : SmlZone)
    (label name : String) :
    Prop where
  parts : name ++ "." = label ++ "." ++ Text.lower participant.scheme ++ "." ++
    zone.dnsZone
  wildcard : label = wildcardValue ↔ participant.value = wildcardValue
  hashed : participant.value ≠ wildcardValue → ∃ digits : List Char,
    label = classicHashPrefix ++ String.ofList digits ∧ digits.length = 32 ∧
      ∀ digit ∈ digits, digit ∈ "0123456789abcdef".toList

structure IsBdxlName (participant : Identifier) (zone : SmlZone)
    (label name : String) :
    Prop where
  parts : name ++ "." = label ++ "." ++ Text.lower participant.scheme ++ "." ++
    zone.dnsZone
  length : label.toList.length = 52
  digits : ∀ digit ∈ label.toList, digit ∈ Bytes.Base32.alphabet

theorem isClassicName {participant : Identifier}
    (h : participant.IsCreated .participant) (zone : SmlZone) :
    IsClassicName participant zone (classicLabel participant.normalizedValue)
      (assembleHostName (classicLabel participant.normalizedValue)
        participant.scheme zone) where
  parts := assembleHostName_dot _ _ zone
  wildcard := classicLabel_eq_wildcard_iff.trans h.normalizedValue_eq_wildcard_iff
  hashed hvalue :=
    classicLabel_hashed (mt h.normalizedValue_eq_wildcard_iff.mp hvalue)

theorem isBdxlName (participant : Identifier) (zone : SmlZone) :
    IsBdxlName participant zone (bdxlLabel participant.normalizedValue)
      (assembleHostName (bdxlLabel participant.normalizedValue) participant.scheme
        zone) where
  parts := assembleHostName_dot _ _ zone
  length := (bdxlLabel_form _).1
  digits := (bdxlLabel_form _).2

theorem eq_of_sameContent {first second : Identifier}
    (h : first.sameContent second = true) :
    first.scheme = second.scheme ∧ first.normalizedValue =
      second.normalizedValue := by
  simp only [Identifier.sameContent, Bool.and_eq_true, beq_iff_eq] at h
  exact ⟨h.1.2, h.2⟩

/-- Participants with the same content have the same host names.  Where the digest
tells their normalized values apart, participants have the same host name only if
these values are equal and their schemes are so in lower case. -/
theorem hostNames_separate (zone : SmlZone) {first second : Identifier}
    (hfirst : first.IsCreated .participant)
    (hsecond : second.IsCreated .participant) :
    ∃ classic otherClassic bdxl otherBdxl,
      classicHostName first zone = .ok classic ∧
      classicHostName second zone = .ok otherClassic ∧
      bdxlHostName first zone = .ok bdxl ∧
      bdxlHostName second zone = .ok otherBdxl ∧
      (first.sameContent second = true → classic = otherClassic ∧
        bdxl = otherBdxl) ∧
      (TellsApart Md5.digest first.normalizedValue second.normalizedValue →
        (classic = otherClassic ↔ first.normalizedValue = second.normalizedValue ∧
          Text.lower first.scheme = Text.lower second.scheme)) ∧
      (TellsApart Sha256.digest first.normalizedValue second.normalizedValue →
        (bdxl = otherBdxl ↔ first.normalizedValue = second.normalizedValue ∧
          Text.lower first.scheme = Text.lower second.scheme)) ∧
      IsClassicName first zone (classicLabel first.normalizedValue) classic ∧
      IsBdxlName first zone (bdxlLabel first.normalizedValue) bdxl := by
  refine ⟨_, _, _, _, classicHostName_eq hfirst.kind_eq zone,
    classicHostName_eq hsecond.kind_eq zone, bdxlHostName_eq hfirst.kind_eq zone,
    bdxlHostName_eq hsecond.kind_eq zone, ?_, ?_, ?_, isClassicName hfirst zone,
    isBdxlName first zone⟩
  · intro hsame
    obtain ⟨hscheme, hvalue⟩ := eq_of_sameContent hsame
    rw [hscheme, hvalue]
    exact ⟨rfl, rfl⟩
  · intro hapart
    rw [assembleHostName_eq_iff (dot_not_mem_classicLabel _)
      (dot_not_mem_classicLabel _)]
    exact and_congr_left fun _ => ⟨eq_of_classicLabel hapart, congrArg classicLabel⟩
  · intro hapart
    rw [assembleHostName_eq_iff (dot_not_mem_bdxlLabel _) (dot_not_mem_bdxlLabel _)]
    exact and_congr_left fun _ => ⟨eq_of_bdxlLabel hapart, congrArg bdxlLabel⟩

def upperSpelling : Identifier :=
  ⟨.participant, Scheme.participant, "0088:ABC", "0088:abc"⟩

def lowerSpelling : Identifier :=
  ⟨.participant, Scheme.participant, "0088:abc", "0088:abc"⟩

theorem hostNames_separate_spellings :
    upperSpelling.IsCreated .participant ∧ lowerSpelling.IsCreated .participant ∧
      ∃ classic bdxl,
        classicHostName upperSpelling PeppolNetwork.production.zone = .ok classic ∧
        classicHostName lowerSpelling PeppolNetwork.production.zone = .ok classic ∧
        bdxlHostName upperSpelling PeppolNetwork.production.zone = .ok bdxl ∧
        bdxlHostName lowerSpelling PeppolNetwork.production.zone = .ok bdxl := by
  have hupper : upperSpelling.IsCreated .participant := ⟨{}, by rfl⟩
  have hlower : lowerSpelling.IsCreated .participant := ⟨{}, by rfl⟩
  obtain ⟨classic, otherClassic, bdxl, otherBdxl, hclassic, hotherClassic, hbdxl,
      hotherBdxl, hsame, -⟩ :=
        hostNames_separate PeppolNetwork.production.zone hupper hlower
  obtain ⟨rfl, rfl⟩ := hsame (by decide)
  exact ⟨hupper, hlower, classic, bdxl, hclassic, hotherClassic, hbdxl, hotherBdxl⟩

end EndpointDiscovery
