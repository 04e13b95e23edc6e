import EndpointDiscovery.Proofs.Document.Rejection
import EndpointDiscovery.Proofs.Document.Statements
import Mathlib.Logic.Relation

/-!
# Metadata are read faithfully or not at all

Service metadata are read exactly as their root states them.  What a whole
document consists of is described by steps from a part to the parts inside it: a
part that is readable has readable parts only, so one unreadable part makes the
document malformed.
-/

namespace EndpointDiscovery

open Xml (Element)

namespace SmpReader

/-! ## Roots -/

structure IsMetadataRoot (root : Element) : Prop where
  space : root.name.space = some peppolSmpNamespace ∨
    root.name.space = some bdxrSmpNamespace
  localName : root.localName = "SignedServiceMetadata" ∨
    root.localName = "ServiceMetadata"

theorem checkRoot_metadata_eq_ok_iff {root : Element} :
    checkRoot root ["SignedServiceMetadata", "ServiceMetadata"] = .ok () ↔
      IsMetadataRoot root := by
  have hspace (space : String) (hne : "" ≠ space) :
      root.name.space.getD "" = space ↔ root.name.space = some space := by
    cases root.name.space <;> simp [hne]
  rw [checkRoot]
  simp only [ne_eq, hspace peppolSmpNamespace (by decide),
    hspace bdxrSmpNamespace (by decide)]
  constructor
  · intro h
    split at h
    · cases h
    · rename_i hknown
      split at h
      · cases h
      · rename_i hname
        rw [List.mem_pair, not_not] at hname
        exact ⟨by tauto, hname⟩
  · rintro ⟨hknown, hname⟩
    rw [if_neg (by tauto), if_neg (not_not.mpr (List.mem_pair.mpr hname))]

def signatureCertificates (root : Element) : List Element :=
  ((root.children "Signature").flatMap (·.descendants)).filter
    (·.localName = "X509Certificate")

def StatesSigner (root : Element) (signer? : Option Certificate) : Prop :=
  ∃ text?, HasOptionalContent (signatureCertificates root).head? text? ∧
    Option.Rel (fun text certificate => publishedCertificate text = .ok certificate)
      text? signer?

end SmpReader

open SmpReader

structure ServiceMetadata.StatedBy (policy : IdentifierPolicy)
    (metadata : ServiceMetadata) (root : Element) : Prop where
  accepted : IsMetadataRoot root
  content : ∃ place, metadataElement? root = some place ∧
    metadata.content.StatedBy policy place
  signer : StatesSigner root metadata.signer?

namespace SmpReader

variable {policy : IdentifierPolicy} {root element : Element}

theorem signer?_eq_ok_iff {certificate? : Option Certificate} :
    signer? root = .ok certificate? ↔ StatesSigner root certificate? := by
  unfold signer? StatesSigner
  simp only [hasOptionalContent_iff, exists_eq_left', signatureCertificates]
  cases ((((root.children "Signature").flatMap (·.descendants)).filter
      (·.localName = "X509Certificate")).head?.bind content?) with
  | none =>
      constructor
      · intro h
        cases h
        exact .none
      · intro h
        cases h
        rfl
  | some text =>
      simp only [map_eq_ok_iff]
      constructor
      · rintro ⟨certificate, hpublished, rfl⟩
        exact .some hpublished
      · intro h
        cases h with
        | some hpublished => exact ⟨_, hpublished, rfl⟩

theorem read_eq_ok_iff {read : ServiceMetadata} :
    metadataOfRoot policy root = .ok read ↔ read.StatedBy policy root := by
  rw [metadataOfRoot_eq_ok_iff, checkRoot_metadata_eq_ok_iff, signer?_eq_ok_iff]
  simp only [metadataContent_eq_ok_iff]
  constructor
  · rintro ⟨haccepted, hcontent, hsigner⟩
    exact ⟨haccepted, hcontent, hsigner⟩
  · rintro ⟨haccepted, hcontent, hsigner⟩
    exact ⟨haccepted, hcontent, hsigner⟩

theorem of_exists_some {α : Type} {said : α → Prop} {value? : Option α} {value : α}
    (hvalue : value? = some value) (h : ∃ found, value? = some found ∧ said found) :
    said value := by
  obtain ⟨found, hfound, hsaid⟩ := h
  rw [hvalue, Option.some.injEq] at hfound
  exact hfound ▸ hsaid

theorem statedBy_of_element {place : Element} {read : ServiceMetadata}
    (haccepted : IsMetadataRoot root)
    (hplace : metadataElement? root = some place) :
    read.StatedBy policy root ↔
      read.content.StatedBy policy place ∧ StatesSigner root read.signer? := by
  constructor
  · rintro ⟨-, hcontent, hsigner⟩
    have hstated := of_exists_some hplace hcontent
    exact ⟨hstated, hsigner⟩
  · rintro ⟨hcontent, hsigner⟩
    exact ⟨haccepted, ⟨place, hplace, hcontent⟩, hsigner⟩

/-! ## Parts -/

/-- What is read as one thing, by the element or the text that states it. -/
inductive Part where
  | metadata (root : Element)
  | redirect (element : Element)
  | information (element : Element)
  | process (element : Element)
  | endpoint (element : Element)
  | identifier (kind : IdentifierKind) (element : Element)
  | flag (text : String)
  | date (text : String)
  | signer (text : String)

namespace Part

def Readable (policy : IdentifierPolicy) : Part → Prop
  | .metadata root => ∃ read : ServiceMetadata, read.StatedBy policy root
  | .redirect element => ∃ read : Redirect, read.StatedBy element
  | .information element => ∃ read : ServiceInformation,
        read.StatedBy policy element
  | .process element => ∃ read : ProcessRecord, read.StatedBy policy element
  | .endpoint element => ∃ read : EndpointRecord, read.StatedBy element
  | .identifier kind element => ∃ read, StatesIdentifier policy kind element read
  | .flag text => ∃ read, IsFlag (some text) read
  | .date text => ∃ read, DateText.parse? text = some read
  | .signer text => ∃ read, publishedCertificate text = .ok read

/-- The second part is read as a part of the first. -/
inductive Includes : Part → Part → Prop
  | redirect {root place element : Element}
      (hplace : metadataElement? root = some place)
      (helement : place.child? "Redirect" = some element) :
      Includes (.metadata root) (.redirect element)
  | information {root place element : Element}
      (hplace : metadataElement? root = some place)
      (hnone : place.child? "Redirect" = none)
      (helement : place.child? "ServiceInformation" = some element) :
      Includes (.metadata root) (.information element)
  | signer {root place : Element} {text : String}
      (hplace : (signatureCertificates root).head? = some place)
      (htext : HasContent place text) :
      Includes (.metadata root) (.signer text)
  | participant {element place : Element}
      (hplace : element.child? "ParticipantIdentifier" = some place) :
      Includes (.information element) (.identifier .participant place)
  | documentType {element place : Element}
      (hplace : element.child? "DocumentIdentifier" = some place) :
      Includes (.information element) (.identifier .documentType place)
  | process {element list place : Element}
      (hlist : element.child? "ProcessList" = some list)
      (hplace : place ∈ list.children "Process") :
      Includes (.information element) (.process place)
  | processIdentifier {element place : Element}
      (hplace : element.child? "ProcessIdentifier" = some place) :
      Includes (.process element) (.identifier .process place)
  | endpoint {element list place : Element}
      (hlist : element.child? "ServiceEndpointList" = some list)
      (hplace : place ∈ list.children "Endpoint") :
      Includes (.process element) (.endpoint place)
  | flag {element place : Element} {text : String}
      (hplace : element.child? "RequireBusinessLevelSignature" = some place)
      (htext : HasContent place text) : Includes (.endpoint element) (.flag text)
  | activation {element place : Element} {text : String}
      (hplace : element.child? "ServiceActivationDate" = some place)
      (htext : HasContent place text) : Includes (.endpoint element) (.date text)
  | expiration {element place : Element} {text : String}
      (hplace : element.child? "ServiceExpirationDate" = some place)
      (htext : HasContent place text) : Includes (.endpoint element) (.date text)

end Part

theorem exists_of_forall₂ {α β : Type} {related : α → β → Prop} {items : List α}
    {values : List β} (h : List.Forall₂ related items values) {item : α}
    (hmem : item ∈ items) :
    ∃ value, related item value := by
  induction h with
  | nil => cases hmem
  | cons hhead htail ih =>
      rcases List.mem_cons.mp hmem with rfl | hmem
      · exact ⟨_, hhead⟩
      · exact ih hmem

theorem HasOptionalContent.exists_of_rel {α : Type} {related : String → α → Prop}
    {place : Element} {text : String} {text? : Option String} {value? : Option α}
    (h : HasOptionalContent (some place) text?) (htext : HasContent place text)
    (hvalue : Option.Rel related text? value?) : ∃ value, related text value := by
  obtain rfl := (h text).mpr ⟨place, rfl, htext⟩
  cases hvalue with
  | some hrelated => exact ⟨_, hrelated⟩

theorem Part.Includes.readable {whole part : Part} (h : whole.Includes part)
    (hread : whole.Readable policy) : part.Readable policy := by
  cases h with
  | redirect hplace helement =>
      obtain ⟨read, hread⟩ := hread
      rw [statedBy_of_element hread.accepted hplace,
        MetadataContent.statedBy_of_redirect helement] at hread
      obtain ⟨⟨redirect, hstated, -⟩, -⟩ := hread
      exact ⟨redirect, hstated⟩
  | information hplace hnone helement =>
      obtain ⟨read, hread⟩ := hread
      rw [statedBy_of_element hread.accepted hplace,
        MetadataContent.statedBy_of_no_redirect hnone] at hread
      obtain ⟨information, hstated, -⟩ := of_exists_some helement hread.1
      exact ⟨information, hstated⟩
  | signer hplace htext =>
      obtain ⟨read, hread⟩ := hread
      obtain ⟨text?, hcontent, hsigner⟩ := hread.signer
      exact (hplace ▸ hcontent).exists_of_rel htext hsigner
  | participant hplace =>
      obtain ⟨read, hread⟩ := hread
      have hstated := of_exists_some hplace hread.participant
      exact ⟨read.participant, hstated⟩
  | documentType hplace =>
      obtain ⟨read, hread⟩ := hread
      have hstated := of_exists_some hplace hread.documentType
      exact ⟨read.documentType, hstated⟩
  | process hlist hplace =>
      obtain ⟨read, hread⟩ := hread
      have hprocesses := of_exists_some hlist hread.processes
      exact exists_of_forall₂ hprocesses hplace
  | processIdentifier hplace =>
      obtain ⟨read, hread⟩ := hread
      have hstated := of_exists_some hplace hread.process
      exact ⟨read.process, hstated⟩
  | endpoint hlist hplace =>
      obtain ⟨read, hread⟩ := hread
      have hendpoints := of_exists_some hlist hread.endpoints
      exact exists_of_forall₂ hendpoints hplace
  | flag hplace htext =>
      obtain ⟨read, hread⟩ := hread
      obtain ⟨text?, hcontent, hflag⟩ := hread.requiresBusinessLevelSignature
      rw [hplace] at hcontent
      obtain rfl := (hcontent _).mpr ⟨_, rfl, htext⟩
      exact ⟨_, hflag⟩
  | activation hplace htext =>
      obtain ⟨read, hread⟩ := hread
      obtain ⟨text?, hcontent, hdate⟩ := hread.activation
      exact (hplace ▸ hcontent).exists_of_rel htext hdate
  | expiration hplace htext =>
      obtain ⟨read, hread⟩ := hread
      obtain ⟨text?, hcontent, hdate⟩ := hread.expiration
      exact (hplace ▸ hcontent).exists_of_rel htext hdate

theorem Part.readable_of_reaches {whole part : Part}
    (h : Relation.ReflTransGen Part.Includes whole part)
    (hread : whole.Readable policy) :
    part.Readable policy := by
  induction h with
  | refl => exact hread
  | tail _ hstep ih => exact hstep.readable ih

/-! ## Documents -/

/-- What a document tells is read as it stands there, or the
response is to blame. -/
structure ReadsFaithfully (policy : IdentifierPolicy) : Prop where
  metadata : ∀ root read, metadataOfRoot policy root = .ok read ↔
    read.StatedBy policy root
  /-- Nothing besides the first redirect and the signer is read. -/
  redirect : ∀ root place element, IsMetadataRoot root →
    metadataElement? root = some place →
    place.child? "Redirect" = some element →
    ∀ read, metadataOfRoot policy root = .ok read ↔
      (∃ redirect : Redirect, redirect.StatedBy element ∧
        read.content = .redirect redirect) ∧
        StatesSigner root read.signer?
  information : ∀ root place, IsMetadataRoot root →
    metadataElement? root = some place →
    place.child? "Redirect" = none →
    ∀ read, metadataOfRoot policy root = .ok read ↔
      (∃ element, place.child? "ServiceInformation" = some element ∧
        ∃ information : ServiceInformation, information.StatedBy policy element ∧
          read.content = .information information) ∧ StatesSigner root read.signer?
  allOrNothing : ∀ root part,
    Relation.ReflTransGen Part.Includes (.metadata root) part →
    ¬ part.Readable policy →
    ∃ fault flaw, metadataOfRoot policy root = .error fault ∧
      fault.cause = .malformedResponse flaw
  text : ∀ text read, serviceMetadata policy text = .ok read ↔
    ∃ root, Xml.parse? text = some root ∧ metadataOfRoot policy root = .ok read
  metadataFailure : ∀ text, BlamesResponse (serviceMetadata policy text)
  groupFailure : ∀ text, BlamesResponse (serviceGroup policy text)

theorem reads_faithfully (policy : IdentifierPolicy) : ReadsFaithfully policy where
  metadata _ _ := read_eq_ok_iff
  redirect root place element haccepted hplace helement read := by
    rw [read_eq_ok_iff, statedBy_of_element haccepted hplace,
      MetadataContent.statedBy_of_redirect helement]
  information root place haccepted hplace hnone read := by
    rw [read_eq_ok_iff, statedBy_of_element haccepted hplace,
      MetadataContent.statedBy_of_no_redirect hnone]
  allOrNothing root part hreaches hpart := by
    cases hread : metadataOfRoot policy root with
    | ok read =>
        have hwhole : (Part.metadata root).Readable policy :=
          ⟨read, read_eq_ok_iff.mp hread⟩
        exact absurd (Part.readable_of_reaches hreaches hwhole) hpart
    | error fault =>
        obtain ⟨flaw, hflaw⟩ :=
          blamesResponse_metadataOfRoot policy root fault hread
        exact ⟨fault, flaw, rfl, hflaw⟩
  text text read := by
    rw [serviceMetadata, document]
    cases Xml.parse? text <;> simp
  metadataFailure := blamesResponse_serviceMetadata policy
  groupFailure := blamesResponse_serviceGroup policy

end SmpReader

end EndpointDiscovery
