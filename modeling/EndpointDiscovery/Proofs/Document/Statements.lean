import EndpointDiscovery.Proofs.Document.Shape

/-!
# What documents state

Each record is described by the parts of the element that it is read of:
which attribute or child each field comes from, and that lists keep the
number and the order of their elements.  A reader returns a record exactly if
the element states it.
-/

namespace EndpointDiscovery

open Xml (Element)

namespace SmpReader

/-! ## Texts -/

def HasContent (element : Element) (text : String) : Prop :=
  ∃ whole, element.text? = some whole ∧ Text.trim whole = text ∧ text ≠ ""

def HasOptionalContent (place? : Option Element) (text? : Option String) : Prop :=
  ∀ text, text? = some text ↔ ∃ place, place? = some place ∧ HasContent place text

variable {element : Element} {text : String} {text? : Option String}

theorem content?_eq_some_iff : content? element = some text ↔
    HasContent element text := by
  simp only [content?, HasContent, Option.filter_eq_some_iff,
    Option.map_eq_some_iff]
  constructor
  · rintro ⟨⟨whole, hwhole, rfl⟩, hvisible⟩
    exact ⟨whole, hwhole, rfl, by simpa using hvisible⟩
  · rintro ⟨whole, hwhole, rfl, hvisible⟩
    exact ⟨⟨whole, hwhole, rfl⟩, by simpa using hvisible⟩

theorem bind_content?_eq_some_iff {place? : Option Element} :
    place?.bind content? = some text ↔
    ∃ place, place? = some place ∧ HasContent place text := by
  simp only [Option.bind_eq_some_iff, content?_eq_some_iff]

theorem hasOptionalContent_iff {place? : Option Element} :
    HasOptionalContent place? text? ↔ place?.bind content? = text? := by
  unfold HasOptionalContent
  simp only [← bind_content?_eq_some_iff]
  constructor
  · exact fun h => Option.ext fun text => (h text).symm
  · rintro rfl text
    rfl

/-! ## Results -/

theorem mapM_eq_ok_iff {α β ε : Type} {f : α → Except ε β} {items : List α}
    {values : List β} :
    items.mapM f = .ok values ↔
      List.Forall₂ (fun item value => f item = .ok value) items values := by
  induction items generalizing values with
  | nil =>
      rw [List.mapM_nil, List.forall₂_nil_left_iff]
      exact (Except.ok.injEq _ _).to_iff.trans eq_comm
  | cons item items ih =>
      rw [List.mapM_cons, List.forall₂_cons_left_iff]
      cases hitem : f item with
      | error fault => simp [bind, Except.bind]
      | ok value =>
          cases hitems : items.mapM f with
          | error fault =>
              simp only [hitems, reduceCtorEq, false_iff] at ih
              simp [bind, Except.bind, ih]
          | ok others =>
              simp only [hitems, Except.ok.injEq] at ih
              simp [bind, Except.bind, pure, Except.pure, ← ih, eq_comm]

/-! ## Values -/

inductive IsFlag : Option String → Bool → Prop
  | absent : IsFlag none false
  | no : IsFlag (some "false") false
  | zero : IsFlag (some "0") false
  | yes : IsFlag (some "true") true
  | one : IsFlag (some "1") true

theorem boolean_eq_ok_iff {flag : Bool} : boolean text? = .ok flag ↔
    IsFlag text? flag := by
  constructor
  · intro h
    unfold boolean at h
    split at h
    · cases h
      exact .absent
    · split at h
      · rename_i hno
        cases h
        rcases hno with rfl | rfl
        · exact .no
        · exact .zero
      · split at h
        · rename_i hyes
          cases h
          rcases hyes with rfl | rfl
          · exact .yes
          · exact .one
        · cases h
  · rintro ⟨⟩ <;> rfl

/-- A text that is there must be a date. -/
def IsDate (text? : Option String) (date? : Option Instant) : Prop :=
  Option.Rel (fun text instant => DateText.parse? text = some instant) text? date?

theorem date?_eq_ok_iff {instant? : Option Instant} :
    date? text? = .ok instant? ↔ IsDate text? instant? := by
  cases text? with
  | none =>
      constructor
      · intro h
        cases h
        exact .none
      · rintro ⟨⟩
        rfl
  | some text =>
      cases hdate : DateText.parse? text with
      | none =>
          constructor
          · intro h
            simp [date?, hdate, required, Except.map] at h
          · intro h
            cases h with
            | some hparse => simp [hdate] at hparse
      | some instant =>
          constructor
          · intro h
            simp only [date?, hdate, required, Except.map, Except.ok.injEq] at h
            rw [← h]
            exact .some hdate
          · intro h
            cases h with
            | some hparse =>
                rw [hdate, Option.some.injEq] at hparse
                simp [date?, hdate, required, Except.map, hparse]

def StatesIdentifier (policy : IdentifierPolicy) (kind : IdentifierKind)
    (element : Element) (identifier : Identifier) : Prop :=
  ∃ scheme, element.attribute? "scheme" = some scheme ∧
    policy.create kind scheme (Text.trim (element.text?.getD "")) = .ok identifier

theorem identifier_eq_ok_iff {policy : IdentifierPolicy} {kind : IdentifierKind}
    {result : Identifier} :
    identifier policy element kind = .ok result ↔
      StatesIdentifier policy kind element result := by
  unfold identifier StatesIdentifier
  simp only [bind_eq_ok_iff, required_eq_ok_iff]
  refine exists_congr fun scheme => and_congr_right fun _ => ?_
  cases policy.create kind scheme (Text.trim (element.text?.getD "")) <;> simp

/-! ## Endpoints -/

/-- The element that holds the address: the one of web service addressing if
there is one. -/
inductive HoldsAddress (element : Element) : Element → Prop
  | addressing {reference place : Element}
      (hreference : element.child? "EndpointReference" = some reference)
      (hplace : reference.child? "Address" = some place) :
      HoldsAddress element place
  | plain {place : Element}
      (hnone : ∀ reference, element.child? "EndpointReference" = some reference →
        reference.child? "Address" = none)
      (hplace : element.child? "EndpointURI" = some place) :
      HoldsAddress element place

theorem address?_eq_some_iff :
    address? element = some text ↔ ∃ place,
      HoldsAddress element place ∧ HasContent place text := by
  rw [address?, Option.bind_eq_some_iff]
  simp only [content?_eq_some_iff]
  refine exists_congr fun place => and_congr_left fun _ => ?_
  cases haddress :
      (element.child? "EndpointReference").bind (·.child? "Address") with
  | some found =>
      obtain ⟨reference, hreference, hfound⟩ := Option.bind_eq_some_iff.mp haddress
      constructor
      · rintro ⟨⟩
        exact .addressing hreference hfound
      · rintro (⟨hother, hplace⟩ | ⟨hnone, -⟩)
        · rw [hreference, Option.some.injEq] at hother
          rw [← hplace, ← hother, hfound]
          rfl
        · rw [hnone reference hreference] at hfound
          contradiction
  | none =>
      rw [Option.bind_eq_none_iff] at haddress
      constructor
      · exact .plain haddress
      · rintro (⟨hreference, hplace⟩ | ⟨-, hplace⟩)
        · rw [haddress _ hreference] at hplace
          contradiction
        · exact hplace

end SmpReader

open SmpReader

structure EndpointRecord.StatedBy (record : EndpointRecord) (element : Element) :
    Prop where
  transportProfile : element.attribute? "transportProfile" =
    some record.transportProfile
  address : ∃ place, HoldsAddress element place ∧ HasContent place record.address
  certificate : ∃ place, element.child? "Certificate" = some place ∧
    HasContent place record.certificate
  requiresBusinessLevelSignature : ∃ text?,
    HasOptionalContent (element.child? "RequireBusinessLevelSignature") text? ∧
      IsFlag text? record.details.requiresBusinessLevelSignature
  minimumAuthenticationLevel :
    HasOptionalContent (element.child? "MinimumAuthenticationLevel")
    record.details.minimumAuthenticationLevel?
  activation : ∃ text?,
    HasOptionalContent (element.child? "ServiceActivationDate") text? ∧
    IsDate text? record.details.period.activation?
  expiration : ∃ text?,
    HasOptionalContent (element.child? "ServiceExpirationDate") text? ∧
    IsDate text? record.details.period.expiration?
  serviceDescription : HasOptionalContent (element.child? "ServiceDescription")
    record.details.serviceDescription?
  technicalContactUrl : HasOptionalContent (element.child? "TechnicalContactUrl")
    record.details.technicalContactUrl?
  technicalInformationUrl :
    HasOptionalContent (element.child? "TechnicalInformationUrl")
    record.details.technicalInformationUrl?

structure ProcessRecord.StatedBy (policy : IdentifierPolicy)
    (record : ProcessRecord) (element : Element) : Prop where
  process : ∃ place, element.child? "ProcessIdentifier" = some place ∧
    StatesIdentifier policy .process place record.process
  endpoints : ∃ list, element.child? "ServiceEndpointList" = some list ∧
    List.Forall₂ (fun place endpoint => EndpointRecord.StatedBy endpoint place)
      (list.children "Endpoint") record.endpoints

structure ServiceInformation.StatedBy (policy : IdentifierPolicy)
    (information : ServiceInformation) (element : Element) : Prop where
  participant : ∃ place, element.child? "ParticipantIdentifier" = some place ∧
    StatesIdentifier policy .participant place information.participant
  documentType : ∃ place, element.child? "DocumentIdentifier" = some place ∧
    StatesIdentifier policy .documentType place information.documentType
  processes : ∃ list, element.child? "ProcessList" = some list ∧
    List.Forall₂ (fun place process => ProcessRecord.StatedBy policy process place)
      (list.children "Process") information.processes

structure Redirect.StatedBy (redirect : Redirect) (element : Element) : Prop where
  href : ∃ href, element.attribute? "href" = some href ∧
    redirect.href = Text.trim href
  certificateUid : redirect.certificateUid =
    ((element.child? "CertificateUID").bind (·.text?)).getD ""

/-- Service information counts only where there is no redirect. -/
inductive MetadataContent.StatedBy (policy : IdentifierPolicy) (element : Element) :
    MetadataContent → Prop
  | redirect {place : Element} {redirect : Redirect}
      (hplace : element.child? "Redirect" = some place)
      (hstated : redirect.StatedBy place) :
      StatedBy policy element (.redirect redirect)
  | information {place : Element} {information : ServiceInformation}
      (hnone : element.child? "Redirect" = none)
      (hplace : element.child? "ServiceInformation" = some place)
      (hstated : information.StatedBy policy place) :
      StatedBy policy element (.information information)

section

variable {policy : IdentifierPolicy} {element place : Element}
  {content : MetadataContent}

theorem MetadataContent.statedBy_of_redirect
    (h : element.child? "Redirect" = some place) :
    content.StatedBy policy element ↔
      ∃ redirect : Redirect, redirect.StatedBy place ∧
        content = .redirect redirect := by
  constructor
  · rintro (⟨hplace, hstated⟩ | ⟨hnone, -, -⟩)
    · rw [h, Option.some.injEq] at hplace
      exact ⟨_, hplace ▸ hstated, rfl⟩
    · rw [h] at hnone
      contradiction
  · rintro ⟨redirect, hstated, rfl⟩
    exact .redirect h hstated

theorem MetadataContent.statedBy_of_no_redirect
    (h : element.child? "Redirect" = none) :
    content.StatedBy policy element ↔
      ∃ place, element.child? "ServiceInformation" = some place ∧
        ∃ information : ServiceInformation, information.StatedBy policy place ∧
          content = .information information := by
  constructor
  · rintro (⟨hplace, -⟩ | ⟨-, hplace, hstated⟩)
    · rw [h] at hplace
      contradiction
    · exact ⟨_, hplace, _, hstated, rfl⟩
  · rintro ⟨place, hplace, information, hstated, rfl⟩
    exact .information h hplace hstated

end

namespace SmpReader

variable {policy : IdentifierPolicy} {element : Element}

theorem endpoint_eq_ok_iff {record : EndpointRecord} :
    endpoint element = .ok record ↔ record.StatedBy element := by
  simp only [endpoint, bind_eq_ok_iff, required_eq_ok_iff, address?_eq_some_iff,
    childContent?, bind_content?_eq_some_iff, boolean_eq_ok_iff, date?_eq_ok_iff]
  constructor
  · rintro ⟨transportProfile, hprofile, address, haddress, certificate,
      hcertificate, flag, hflag, activation?, hactivation, expiration?,
      hexpiration, heq⟩
    cases heq
    exact ⟨hprofile, haddress, hcertificate,
      ⟨_, hasOptionalContent_iff.mpr rfl, hflag⟩, hasOptionalContent_iff.mpr rfl,
      ⟨_, hasOptionalContent_iff.mpr rfl, hactivation⟩,
      ⟨_, hasOptionalContent_iff.mpr rfl, hexpiration⟩,
      hasOptionalContent_iff.mpr rfl, hasOptionalContent_iff.mpr rfl,
      hasOptionalContent_iff.mpr rfl⟩
  · intro h
    obtain ⟨flagText?, hflagText, hflag⟩ := h.requiresBusinessLevelSignature
    obtain ⟨activationText?, hactivationText, hactivation⟩ := h.activation
    obtain ⟨expirationText?, hexpirationText, hexpiration⟩ := h.expiration
    refine ⟨_, h.transportProfile, _, h.address, _, h.certificate, _,
      hasOptionalContent_iff.mp hflagText ▸ hflag, _,
      hasOptionalContent_iff.mp hactivationText ▸ hactivation, _,
      hasOptionalContent_iff.mp hexpirationText ▸ hexpiration, ?_⟩
    rw [hasOptionalContent_iff.mp h.minimumAuthenticationLevel,
      hasOptionalContent_iff.mp h.serviceDescription,
      hasOptionalContent_iff.mp h.technicalContactUrl,
      hasOptionalContent_iff.mp h.technicalInformationUrl]
    rfl

theorem processRecord_eq_ok_iff {record : ProcessRecord} :
    processRecord policy element = .ok record ↔ record.StatedBy policy element := by
  simp only [processRecord, bind_eq_ok_iff, requiredChild_eq_ok_iff,
    identifier_eq_ok_iff, mapM_eq_ok_iff, endpoint_eq_ok_iff]
  constructor
  · rintro ⟨place, hplace, process, hprocess, list, hlist, endpoints,
      hendpoints, heq⟩
    cases heq
    exact ⟨⟨place, hplace, hprocess⟩, list, hlist, hendpoints⟩
  · rintro ⟨⟨place, hplace, hprocess⟩, list, hlist, hendpoints⟩
    exact ⟨place, hplace, _, hprocess, list, hlist, _, hendpoints, rfl⟩

theorem serviceInformation_eq_ok_iff {information : ServiceInformation} :
    serviceInformation policy element = .ok information ↔
      information.StatedBy policy element := by
  simp only [serviceInformation, bind_eq_ok_iff, requiredChild_eq_ok_iff,
    identifier_eq_ok_iff, mapM_eq_ok_iff, processRecord_eq_ok_iff]
  constructor
  · rintro ⟨place, hplace, participant, hparticipant, other, hother, documentType,
      hdocumentType, list, hlist, processes, hprocesses, heq⟩
    cases heq
    exact ⟨⟨place, hplace, hparticipant⟩, ⟨other, hother, hdocumentType⟩, list,
      hlist, hprocesses⟩
  · rintro ⟨⟨place, hplace, hparticipant⟩, ⟨other, hother, hdocumentType⟩, list,
      hlist, hprocesses⟩
    exact ⟨place, hplace, _, hparticipant, other, hother, _, hdocumentType, list,
      hlist, _, hprocesses, rfl⟩

theorem redirect_eq_ok_iff {record : Redirect} :
    redirect element = .ok record ↔ record.StatedBy element := by
  simp only [redirect, bind_eq_ok_iff, required_eq_ok_iff]
  constructor
  · rintro ⟨href, hhref, heq⟩
    cases heq
    exact ⟨⟨href, hhref, rfl⟩, rfl⟩
  · rintro ⟨⟨href, hhref, htrim⟩, huid⟩
    refine ⟨href, hhref, ?_⟩
    rw [← htrim, ← huid]
    rfl

theorem map_eq_ok_iff {α β : Type} {result : Except DiscoveryFault α} {f : α → β}
    {value : β} :
    result.map f = .ok value ↔ ∃ produced,
      result = .ok produced ∧ value = f produced := by
  cases result <;> simp [Except.map, eq_comm]

theorem metadataContent_eq_ok_iff {content : MetadataContent} :
    metadataContent policy element = .ok content ↔
      content.StatedBy policy element := by
  unfold metadataContent
  cases hredirect : element.child? "Redirect" with
  | some place =>
      simp only [map_eq_ok_iff, redirect_eq_ok_iff,
        MetadataContent.statedBy_of_redirect hredirect]
  | none =>
      simp only [bind_eq_ok_iff, requiredChild_eq_ok_iff, map_eq_ok_iff,
        serviceInformation_eq_ok_iff,
        MetadataContent.statedBy_of_no_redirect hredirect]

end SmpReader

end EndpointDiscovery
