import EndpointDiscovery.Proofs.Document.Faithfulness
import EndpointDiscovery.Proofs.Document.References
import EndpointDiscovery.Proofs.Identifier.Rules

/-!
# Identifiers of documents

Every identifier that a document of an SMP tells obeys the rules of the policy that
it is read under.  So identifiers need not be checked again, wherever they come
from; and what was read once is read the same under a policy that checks less.
-/

namespace EndpointDiscovery

open Xml (Element)
open IdentifierRule (IsFirstViolated Reports)

/-! ## Documents -/

def ServiceGroup.identifiers (group : ServiceGroup) :
    List (IdentifierKind × Identifier) :=
  (.participant, group.participant) :: group.documentTypes.map (.documentType, ·)

def ServiceInformation.identifiers (information : ServiceInformation) :
    List (IdentifierKind × Identifier) :=
  (.participant, information.participant) ::
  (.documentType, information.documentType) ::
    information.processes.map (.process, ·.process)

def MetadataContent.identifiers : MetadataContent →
    List (IdentifierKind × Identifier)
  | .information told => told.identifiers
  | .redirect _ => []

namespace SmpReader

variable {policy laxer : IdentifierPolicy} {kind : IdentifierKind}
  {element root : Element} {identifier : Identifier} {text : String}

theorem document_eq_ok_iff {α : Type} {read : Element → Except DiscoveryFault α}
    {value : α} :
    document read text = .ok value ↔ ∃ root,
      Xml.parse? text = some root ∧ read root = .ok value := by
  rw [document]
  cases Xml.parse? text <;> simp

theorem StatesIdentifier.obeys
    (h : StatesIdentifier policy kind element identifier) :
    identifier.kind = kind ∧ identifier.Obeys policy := by
  obtain ⟨scheme, -, hcreated⟩ := h
  exact IdentifierPolicy.obeys_of_create hcreated

theorem referencedType?_obeys {href : String}
    (h : referencedType? policy href = some identifier) :
    identifier.kind = .documentType ∧ identifier.Obeys policy := by
  obtain ⟨before, encoded, decoded, -, -, -, hparsed⟩ :=
    referencedType?_eq_some_iff.mp h
  exact IdentifierPolicy.obeys_of_parse hparsed

theorem serviceGroup_obeys {group : ServiceGroup}
    (h : serviceGroup policy text = .ok group) :
    ∀ entry ∈ group.identifiers, entry.2.kind = entry.1 ∧ entry.2.Obeys policy := by
  obtain ⟨hrefs, ⟨root, named, collection, -, -, -, hparticipant, -, -⟩,
      hreferences⟩ :=
    serviceGroup_eq_ok_iff.mp h
  rw [ServiceGroup.identifiers, List.forall_mem_cons, List.forall_mem_map]
  constructor
  · exact (identifier_eq_ok_iff.mp hparticipant).obeys
  · intro documentType hmem
    rw [ServiceGroup.documentTypes, hreferences, List.filterMap_map] at hmem
    obtain ⟨href, -, hread⟩ := List.mem_filterMap.mp hmem
    exact referencedType?_obeys hread

theorem exists_of_forall₂_right {α β : Type} {related : α → β → Prop}
    {items : List α} {values : List β} (h : List.Forall₂ related items values)
    {value : β} (hmem : value ∈ values) :
    ∃ item, related item value := by
  have hflipped :
      List.Forall₂ (fun value item => related item value) values items :=
    List.Forall₂.flip h
  exact exists_of_forall₂ hflipped hmem

theorem serviceInformation_obeys {information : ServiceInformation}
    (h : information.StatedBy policy element) :
    ∀ entry ∈ information.identifiers,
      entry.2.kind = entry.1 ∧ entry.2.Obeys policy := by
  obtain ⟨⟨_, -, hparticipant⟩, ⟨_, -, hdocumentType⟩, list, -, hprocesses⟩ := h
  rw [ServiceInformation.identifiers, List.forall_mem_cons, List.forall_mem_cons,
    List.forall_mem_map]
  refine ⟨hparticipant.obeys, hdocumentType.obeys, fun record hmem => ?_⟩
  obtain ⟨place, hrecord⟩ := exists_of_forall₂_right hprocesses hmem
  obtain ⟨_, -, hprocess⟩ := hrecord.process
  exact hprocess.obeys

theorem metadataContent_obeys {content : MetadataContent}
    (h : content.StatedBy policy element) :
    ∀ entry ∈ content.identifiers,
      entry.2.kind = entry.1 ∧ entry.2.Obeys policy := by
  cases h with
  | redirect => simp [MetadataContent.identifiers]
  | information _ _ hstated => exact serviceInformation_obeys hstated

theorem serviceMetadata_obeys {metadata : ServiceMetadata}
    (h : serviceMetadata policy text = .ok metadata) :
    ∀ entry ∈ metadata.content.identifiers,
      entry.2.kind = entry.1 ∧ entry.2.Obeys policy := by
  obtain ⟨root, -, hread⟩ := document_eq_ok_iff.mp h
  obtain ⟨place, -, hcontent⟩ := (read_eq_ok_iff.mp hread).content
  exact metadataContent_obeys hcontent

/-! ## Reading under a policy that checks less -/

section Relaxing

variable (h : policy.Relaxes laxer)
include h

theorem StatesIdentifier.relax
    (hstated : StatesIdentifier policy kind element identifier) :
    StatesIdentifier laxer kind element identifier := by
  obtain ⟨scheme, hscheme, hcreated⟩ := hstated
  exact ⟨scheme, hscheme, h.create hcreated⟩

theorem processRecord_relax {record : ProcessRecord}
    (hstated : record.StatedBy policy element) :
    record.StatedBy laxer element := by
  obtain ⟨⟨place, hplace, hprocess⟩, hendpoints⟩ := hstated
  exact ⟨⟨place, hplace, hprocess.relax h⟩, hendpoints⟩

theorem serviceInformation_relax {information : ServiceInformation}
    (hstated : information.StatedBy policy element) :
    information.StatedBy laxer element := by
  obtain ⟨⟨place, hplace, hparticipant⟩, ⟨other, hother, hdocumentType⟩,
      list, hlist, hprocesses⟩ := hstated
  exact ⟨⟨place, hplace, hparticipant.relax h⟩,
    ⟨other, hother, hdocumentType.relax h⟩, list, hlist,
    hprocesses.imp fun _ _ => processRecord_relax h⟩

theorem metadataContent_relax {content : MetadataContent}
    (hstated : content.StatedBy policy element) :
    content.StatedBy laxer element := by
  cases hstated with
  | redirect hplace hstated => exact .redirect hplace hstated
  | information hnone hplace hstated =>
      exact .information hnone hplace (serviceInformation_relax h hstated)

theorem serviceMetadata_relax {metadata : ServiceMetadata}
    (hread : serviceMetadata policy text = .ok metadata) :
    serviceMetadata laxer text = .ok metadata := by
  obtain ⟨root, hparse, hroot⟩ := document_eq_ok_iff.mp hread
  obtain ⟨haccepted, ⟨place, hplace, hcontent⟩, hsigner⟩ := read_eq_ok_iff.mp hroot
  refine document_eq_ok_iff.mpr
    ⟨root, hparse, read_eq_ok_iff.mpr ⟨haccepted, ?_, hsigner⟩⟩
  exact ⟨place, hplace, metadataContent_relax h hcontent⟩

theorem referencedType?_relax {href : String}
    (hread : referencedType? policy href = some identifier) :
    referencedType? laxer href = some identifier := by
  rw [referencedType?_eq_some_iff] at hread ⊢
  obtain ⟨before, encoded, decoded, hhref, hlast, hdecoded, hparsed⟩ := hread
  exact ⟨before, encoded, decoded, hhref, hlast, hdecoded, h.parse hparsed⟩

theorem serviceGroup_relax {group : ServiceGroup}
    (hread : serviceGroup policy text = .ok group) :
    ∃ read, serviceGroup laxer text = .ok read ∧
      read.participant = group.participant ∧
      List.Forall₂ (fun old new => new.href = old.href ∧ ∀ documentType,
        old.documentType? = some documentType →
          new.documentType? = some documentType)
        group.references read.references := by
  obtain ⟨hrefs,
      ⟨root, named, collection, hparse, hroot, hnamed, hparticipant, hcollection,
        hmap⟩, hreferences⟩ := serviceGroup_eq_ok_iff.mp hread
  have hstated := (identifier_eq_ok_iff.mp hparticipant).relax h
  refine ⟨⟨group.participant, hrefs.map fun href =>
    ⟨href, referencedType? laxer href⟩⟩,
    serviceGroup_eq_ok_iff.mpr
      ⟨hrefs,
        ⟨root, named, collection, hparse, hroot, hnamed,
          identifier_eq_ok_iff.mpr hstated, hcollection, hmap⟩, rfl⟩, rfl, ?_⟩
  rw [hreferences, List.forall₂_map_left_iff, List.forall₂_map_right_iff,
    List.forall₂_same]
  exact fun href _ => ⟨rfl, fun _ => referencedType?_relax h⟩

end Relaxing

end SmpReader

/-! ## All identifiers -/

/-- Checking less neither refuses nor changes an identifier. -/
structure KeepsAccepted (policy laxer : IdentifierPolicy) : Prop where
  answer : ∀ (request : IdentifierRequest) identifier,
    request.answer policy = .ok identifier → request.answer laxer = .ok identifier
  metadata : ∀ text metadata, SmpReader.serviceMetadata policy text = .ok metadata →
    SmpReader.serviceMetadata laxer text = .ok metadata
  group : ∀ text group, SmpReader.serviceGroup policy text = .ok group →
    ∃ read, SmpReader.serviceGroup laxer text = .ok read ∧
      read.participant = group.participant ∧
      List.Forall₂ (fun old new => new.href = old.href ∧ ∀ documentType,
        old.documentType? = some documentType →
          new.documentType? = some documentType) group.references read.references

/-- All identifiers of a policy obey its rules, and only the rules keep one
from being made. -/
structure UpholdsRules (policy : IdentifierPolicy) : Prop where
  scheme : ∀ scheme, policy.isValidScheme scheme = true ↔ policy.AllowsScheme scheme
  value : ∀ kind value, policy.isValidValue kind value = true ↔
    policy.AllowsValue kind value
  created : ∀ kind scheme value,
    (∃ identifier, policy.create kind scheme value = .ok identifier) ↔
      policy.isValidScheme scheme = true ∧ policy.isValidValue kind value = true
  refused : ∀ kind scheme value fault,
    policy.create kind scheme value = .error fault ↔
    ∃ rule flaw, IsFirstViolated policy kind scheme value rule ∧
      Reports kind scheme value rule flaw ∧
      fault = (Fault.root (.invalidFormat kind flaw)).addContext
        (rule.remark scheme value)
  answer : ∀ (request : IdentifierRequest) identifier,
    request.answer policy = .ok identifier →
      identifier.kind = request.kind ∧ identifier.Obeys policy
  metadata : ∀ text metadata, SmpReader.serviceMetadata policy text = .ok metadata →
    ∀ entry ∈ metadata.content.identifiers,
      entry.2.kind = entry.1 ∧ entry.2.Obeys policy
  group : ∀ text group, SmpReader.serviceGroup policy text = .ok group →
    ∀ entry ∈ group.identifiers, entry.2.kind = entry.1 ∧ entry.2.Obeys policy
  relaxed : ∀ laxer, policy.Relaxes laxer → KeepsAccepted policy laxer

theorem upholds_rules (policy : IdentifierPolicy) : UpholdsRules policy where
  scheme _ := IdentifierPolicy.isValidScheme_iff
  value _ _ := IdentifierPolicy.isValidValue_iff
  created _ _ _ := IdentifierPolicy.exists_create_iff
  refused _ _ _ _ := IdentifierPolicy.create_eq_error_iff
  answer _ _ := IdentifierPolicy.obeys_of_answer
  metadata _ _ := SmpReader.serviceMetadata_obeys
  group _ _ := SmpReader.serviceGroup_obeys
  relaxed _ h := {
    answer := fun _ _ => h.answer
    metadata := fun _ _ => SmpReader.serviceMetadata_relax h
    group := fun _ _ => SmpReader.serviceGroup_relax h }

def IdentifierPolicy.unchecked : IdentifierPolicy :=
  { checkCharset := false, checkSchemeLength := false }

theorem upholds_rules_unchecked :
    ∃ identifier, identifier.normalizedValue = "0088:a" ∧ identifier.Obeys {} ∧
      IdentifierPolicy.create {} .participant "iso6523-actorid-upis" "0088:A" =
        .ok identifier ∧
      IdentifierPolicy.unchecked.create .participant "iso6523-actorid-upis"
        "0088:A" =
        .ok identifier := by
  obtain ⟨identifier, hcreated, hnormalized⟩ : ∃ identifier,
      IdentifierPolicy.create {} .participant "iso6523-actorid-upis" "0088:A" =
        .ok identifier ∧
        identifier.normalizedValue = "0088:a" := ⟨_, by rfl, by decide +kernel⟩
  have h := upholds_rules {}
  have hrelaxes : IdentifierPolicy.Relaxes {} .unchecked := ⟨rfl, nofun, nofun⟩
  let request :=
    IdentifierRequest.create .participant "iso6523-actorid-upis" "0088:A"
  exact ⟨identifier, hnormalized, (h.answer request identifier hcreated).2,
    hcreated, (h.relaxed .unchecked hrelaxes).answer request identifier hcreated⟩

end EndpointDiscovery
