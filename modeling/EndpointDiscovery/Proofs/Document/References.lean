import EndpointDiscovery.Proofs.Document.Shape
import EndpointDiscovery.Proofs.Identifier.Grammar
import EndpointDiscovery.Smp.Client

/-!
# References of service groups

What a reference tells is the inverse of the path that is asked for: a document type
that was read under the policy of the reader is found again behind the last mark,
whatever the reference begins with.  Every reference is read on its own.
-/

namespace EndpointDiscovery

namespace SmpReader

open Xml (Element)

variable {policy : IdentifierPolicy} {documentType : Identifier}

/-! ## References -/

def Names (policy : IdentifierPolicy) (href : String)
    (documentType : Identifier) : Prop :=
  ∃ before encoded decoded : String, href = before ++ servicesMark ++ encoded ∧
    ¬servicesMark.toList <:+: servicesMark.toList.tail ++ encoded.toList ∧
    Percent.decode encoded = .ok decoded ∧
    policy.parse .documentType decoded = .ok documentType

theorem referencedType?_eq_some_iff {href : String} :
    referencedType? policy href = some documentType ↔
      Names policy href documentType := by
  have hne : servicesMark.toList ≠ [] := by decide
  have hread : ∀ encoded : String,
      (policy.parsePercentEncoded .documentType encoded).toOption =
        some documentType ↔ ∃ decoded, Percent.decode encoded = .ok decoded ∧
          policy.parse .documentType decoded = .ok documentType := by
    intro encoded
    rw [← IdentifierPolicy.parsePercentEncoded_eq_ok_iff]
    cases policy.parsePercentEncoded .documentType encoded <;>
      simp [Except.toOption]
  unfold referencedType? Names
  constructor
  · intro h
    obtain ⟨⟨before, encoded⟩, hcut, hencoded⟩ := Option.bind_eq_some_iff.mp h
    obtain ⟨hhref, hlast⟩ := (Text.cutLast_eq_some_iff hne).mp hcut
    obtain ⟨decoded, hdecoded, hparsed⟩ := (hread _).mp hencoded
    refine ⟨String.ofList before, String.ofList encoded, decoded, ?_, ?_, hdecoded,
      hparsed⟩
    · rw [← String.toList_inj, hhref]
      simp
    · rwa [String.toList_ofList]
  · rintro ⟨before, encoded, decoded, rfl, hlast, hdecoded, hparsed⟩
    have hcut :
        Text.cutLast servicesMark.toList
          (before ++ servicesMark ++ encoded).toList =
        some (before.toList, encoded.toList) :=
      (Text.cutLast_eq_some_iff hne).mpr ⟨by simp, hlast⟩
    refine Option.bind_eq_some_iff.mpr ⟨_, hcut, ?_⟩
    simp only [String.ofList_toList]
    exact (hread encoded).mpr ⟨decoded, hdecoded, hparsed⟩

theorem not_mark_infix {encoded : List Char} (h : '/' ∉ encoded) :
    ¬servicesMark.toList <:+: servicesMark.toList.tail ++ encoded := by
  rintro ⟨before, after, heq⟩
  have hcount := congrArg (List.count '/') heq
  have hmark : servicesMark.toList.count '/' = 2 := by decide
  have htail : servicesMark.toList.tail.count '/' = 1 := by decide
  rw [List.count_append, List.count_append, List.count_append, hmark, htail,
    List.count_eq_zero.mpr h] at hcount
  omega

theorem names_of_parse {written : String}
    (h : policy.parse .documentType written = .ok documentType) (before : String) :
    Names policy (before ++ servicesMark ++ documentType.percentEncodedUri)
      documentType := by
  refine ⟨before, documentType.percentEncodedUri, written, rfl, ?_, ?_, h⟩
  · exact not_mark_infix (Percent.slash_not_mem_encode _)
  · rw [Identifier.percentEncodedUri, IdentifierPolicy.uri_of_parse h,
      Percent.decode_encode]

/-! ## Service groups -/

theorem reference_eq_ok_iff {element : Element} {read : ServiceReference} :
    reference policy element = .ok read ↔
      ∃ href, element.attribute? "href" = some href ∧
        read = ⟨href, referencedType? policy href⟩ := by
  rw [reference, bind_eq_ok_iff]
  simp only [required_eq_ok_iff]
  refine exists_congr fun href => and_congr_right fun _ => ?_
  exact (Except.ok.injEq _ _).to_iff.trans eq_comm

theorem mapM_reference_eq_ok_iff {elements : List Element}
    {references : List ServiceReference} :
    elements.mapM (reference policy) = .ok references ↔
      ∃ hrefs : List String, elements.map (·.attribute? "href") = hrefs.map some ∧
        references = hrefs.map fun href => ⟨href, referencedType? policy href⟩ := by
  induction elements generalizing references with
  | nil =>
      rw [List.mapM_nil, List.map_nil]
      constructor
      · intro h
        cases h
        exact ⟨[], rfl, rfl⟩
      · rintro ⟨hrefs, hnone, rfl⟩
        rw [List.map_eq_nil_iff.mp hnone.symm]
        rfl
  | cons element elements ih =>
      rw [List.mapM_cons, bind_eq_ok_iff]
      simp only [bind_eq_ok_iff, reference_eq_ok_iff, ih]
      constructor
      · rintro ⟨first, ⟨href, hhref, rfl⟩, others, ⟨hrefs, hmap, rfl⟩, heq⟩
        cases heq
        exact ⟨href :: hrefs, by simp [hhref, hmap], rfl⟩
      · rintro ⟨hrefs, hmap, rfl⟩
        cases hrefs with
        | nil => contradiction
        | cons href hrefs =>
            obtain ⟨hhref, hrest⟩ := List.cons.inj hmap
            exact ⟨_, ⟨href, hhref, rfl⟩, _, ⟨hrefs, hrest, rfl⟩, rfl⟩

def IsServiceGroup (policy : IdentifierPolicy) (text : String)
    (participant : Identifier) (hrefs : List String) : Prop :=
  ∃ root named collection, Xml.parse? text = some root ∧
    checkRoot root ["ServiceGroup"] = .ok () ∧
    root.child? "ParticipantIdentifier" = some named ∧
    identifier policy named .participant = .ok participant ∧
    root.child? "ServiceMetadataReferenceCollection" = some collection ∧
    (collection.children "ServiceMetadataReference").map (·.attribute? "href") =
      hrefs.map some

theorem groupOfRoot_eq_ok_iff {root : Element} {group : ServiceGroup} :
    groupOfRoot policy root = .ok group ↔
      ∃ named collection, checkRoot root ["ServiceGroup"] = .ok () ∧
        root.child? "ParticipantIdentifier" = some named ∧
        identifier policy named .participant = .ok group.participant ∧
        root.child? "ServiceMetadataReferenceCollection" = some collection ∧
        (collection.children "ServiceMetadataReference").mapM (reference policy) =
          .ok group.references := by
  unfold groupOfRoot
  simp only [bind_eq_ok_iff, requiredChild_eq_ok_iff]
  constructor
  · rintro ⟨checked, hroot, named, hnamed, participant, hparticipant, collection,
      hcollection, references, hreferences, heq⟩
    cases heq
    exact ⟨named, collection, hroot, hnamed, hparticipant, hcollection, hreferences⟩
  · rintro ⟨named, collection, hroot, hnamed, hparticipant, hcollection,
      hreferences⟩
    exact ⟨(), hroot, named, hnamed, group.participant, hparticipant, collection,
      hcollection, group.references, hreferences, rfl⟩

theorem serviceGroup_eq_ok_iff {text : String} {group : ServiceGroup} :
    serviceGroup policy text = .ok group ↔
      ∃ hrefs, IsServiceGroup policy text group.participant hrefs ∧
        group.references = hrefs.map fun href =>
          ⟨href, referencedType? policy href⟩ := by
  unfold IsServiceGroup
  constructor
  · intro h
    cases hparse : Xml.parse? text with
    | none =>
        rw [serviceGroup, document, hparse] at h
        contradiction
    | some root =>
        rw [serviceGroup, document_of_parse? _ hparse] at h
        obtain ⟨named, collection, hroot, hnamed, hparticipant,
            hcollection, hreferences⟩ :=
          groupOfRoot_eq_ok_iff.mp h
        obtain ⟨hrefs, hmap, hread⟩ := mapM_reference_eq_ok_iff.mp hreferences
        exact ⟨hrefs,
          ⟨root, named, collection, rfl, hroot, hnamed, hparticipant, hcollection,
            hmap⟩, hread⟩
  · rintro ⟨hrefs,
      ⟨root, named, collection, hparse, hroot, hnamed, hparticipant, hcollection,
        hmap⟩, hread⟩
    rw [serviceGroup, document_of_parse? _ hparse]
    exact groupOfRoot_eq_ok_iff.mpr
      ⟨named, collection, hroot, hnamed, hparticipant, hcollection,
        mapM_reference_eq_ok_iff.mpr ⟨hrefs, hmap, hread⟩⟩

/-- References are read as what the client asks for is written. -/
structure InvertsQueries (policy : IdentifierPolicy) : Prop where
  /-- Only a reference without an address can keep a service group
  from being read. -/
  group : ∀ text group, serviceGroup policy text = .ok group ↔
    ∃ hrefs, IsServiceGroup policy text group.participant hrefs ∧
      group.references = hrefs.map fun href => ⟨href, referencedType? policy href⟩
  documentTypes : ∀ text group, serviceGroup policy text = .ok group →
    group.documentTypes = (group.references.map (·.href)).filterMap
      (referencedType? policy)
  readable : ∀ href documentType,
    referencedType? policy href = some documentType ↔ Names policy href documentType
  written : ∀ text documentType,
    policy.parse .documentType text = .ok documentType →
    ∀ before : String,
      referencedType? policy
        (before ++ servicesMark ++ documentType.percentEncodedUri) =
        some documentType
  query : ∀ text documentType, policy.parse .documentType text = .ok documentType →
    ∀ (base : String) (participant : Identifier),
      referencedType? policy
        (base ++ DiscoveryClient.queryPath participant (some documentType)) =
        some documentType

theorem inverts_queries (policy : IdentifierPolicy) : InvertsQueries policy where
  group _ _ := serviceGroup_eq_ok_iff
  documentTypes text group h := by
    obtain ⟨hrefs, -, hreferences⟩ := serviceGroup_eq_ok_iff.mp h
    rw [ServiceGroup.documentTypes, hreferences, List.filterMap_map, List.map_map,
      List.filterMap_map]
    rfl
  readable _ _ := referencedType?_eq_some_iff
  written _ _ h before := referencedType?_eq_some_iff.mpr (names_of_parse h before)
  query text documentType h base participant := by
    have hnames := names_of_parse h (base ++ ("/" ++ participant.percentEncodedUri))
    rw [referencedType?_eq_some_iff, DiscoveryClient.queryPath]
    simpa only [String.append_assoc] using hnames

def mixedGroup : List Char :=
  "<ServiceGroup xmlns='http://busdox.org/serviceMetadata/publishing/1.0/'>".toList
    ++ "<ParticipantIdentifier scheme='a'>p</ParticipantIdentifier>".toList ++
    "<ServiceMetadataReferenceCollection>".toList ++
    "<ServiceMetadataReference href='/services/a%3A%3'/>".toList ++
    "<ServiceMetadataReference href='/services/services/a%3A%3Ad'/>".toList ++
    "</ServiceMetadataReferenceCollection></ServiceGroup>".toList

example :
    (serviceGroup {} (String.ofList mixedGroup)).toOption.map (fun group =>
      group.references.map fun read => read.documentType?.map Identifier.uri) =
      some [none, some "a::d"] := by
  rw [serviceGroup, document, Xml.parse?, String.toList_ofList]
  decide +kernel

end SmpReader

end EndpointDiscovery
