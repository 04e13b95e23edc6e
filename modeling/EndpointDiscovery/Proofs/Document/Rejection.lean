import EndpointDiscovery.Smp.Reader

/-!
# Documents that are rejected

A document that cannot be read is malformed, whichever of its parts is at fault.
-/

namespace EndpointDiscovery

/-- If the result is a failure, the response is to blame. -/
def BlamesResponse {α : Type} (result : Except DiscoveryFault α) : Prop :=
  ∀ fault, result = .error fault → ∃ flaw, fault.cause = .malformedResponse flaw

namespace BlamesResponse

variable {α β : Type}

theorem ok (value : α) : BlamesResponse (.ok value) := by
  intro fault h
  cases h

theorem error {fault : DiscoveryFault} {flaw : ResponseFlaw}
    (h : fault.cause = .malformedResponse flaw) :
    BlamesResponse (.error fault : Except DiscoveryFault α) := by
  intro found hfound
  cases hfound
  exact ⟨flaw, h⟩

theorem bind {first : Except DiscoveryFault α} {next : α → Except DiscoveryFault β}
    (hfirst : BlamesResponse first) (hnext : ∀ value, BlamesResponse (next value)) :
    BlamesResponse (first >>= next) := by
  cases first with
  | error fault =>
      intro found hfound
      cases hfound
      exact hfirst fault rfl
  | ok value => exact hnext value

theorem map {result : Except DiscoveryFault α} (f : α → β)
    (h : BlamesResponse result) :
    BlamesResponse (result.map f) := by
  cases result with
  | error fault =>
      intro found hfound
      cases hfound
      exact h fault rfl
  | ok value => exact ok (f value)

theorem mapM {f : α → Except DiscoveryFault β} (h : ∀ item, BlamesResponse (f item))
    (items : List α) : BlamesResponse (items.mapM f) := by
  induction items with
  | nil => exact ok []
  | cons item items ih =>
      rw [List.mapM_cons]
      apply (h item).bind
      intro value
      apply ih.bind
      intro values
      exact ok (value :: values)

end BlamesResponse

theorem blamesResponse_publishedCertificate (text : String) :
    BlamesResponse (publishedCertificate text) := by
  unfold publishedCertificate
  dsimp only
  repeat' split
  all_goals first | exact .ok _ | exact .error rfl

namespace SmpReader

open Xml (Element)

/-! ## Parts of elements -/

theorem blamesResponse_requiredChild (element : Element) (name : String) :
    BlamesResponse (requiredChild element name) := by
  unfold requiredChild
  split
  · exact .ok _
  · exact .error rfl

theorem blamesResponse_required {α : Type} (flaw : ResponseFlaw)
    (value? : Option α) :
    BlamesResponse (required flaw value?) := by
  cases value? with
  | none => exact .error rfl
  | some value => exact .ok value

theorem blamesResponse_identifier (policy : IdentifierPolicy) (element : Element)
    (kind : IdentifierKind) : BlamesResponse (identifier policy element kind) := by
  apply (blamesResponse_required _ _).bind
  intro scheme
  split
  · exact .ok _
  · exact .error rfl

theorem blamesResponse_checkRoot (root : Element) (names : List String) :
    BlamesResponse (checkRoot root names) := by
  unfold checkRoot
  dsimp only
  split
  · exact .error rfl
  · split
    · exact .error rfl
    · exact .ok ()

/-! ## Endpoints -/

theorem blamesResponse_boolean (text? : Option String) :
    BlamesResponse (boolean text?) := by
  unfold boolean
  repeat' split
  all_goals first | exact .ok _ | exact .error rfl

theorem blamesResponse_date? (text? : Option String) :
    BlamesResponse (date? text?) := by
  cases text? with
  | none => exact .ok none
  | some text => exact (blamesResponse_required _ _).map some

theorem blamesResponse_endpoint (element : Element) :
    BlamesResponse (endpoint element) := by
  apply (blamesResponse_required _ _).bind
  intro transportProfile
  apply (blamesResponse_required _ _).bind
  intro address
  apply (blamesResponse_required _ _).bind
  intro certificate
  apply (blamesResponse_boolean _).bind
  intro requiresBusinessLevelSignature
  apply (blamesResponse_date? _).bind
  intro activation?
  apply (blamesResponse_date? _).bind
  intro expiration?
  exact .ok _

/-! ## Service metadata -/

variable (policy : IdentifierPolicy)

theorem blamesResponse_processRecord (element : Element) :
    BlamesResponse (processRecord policy element) := by
  apply (blamesResponse_requiredChild _ _).bind
  intro name
  apply (blamesResponse_identifier policy _ _).bind
  intro process
  apply (blamesResponse_requiredChild _ _).bind
  intro list
  apply (BlamesResponse.mapM blamesResponse_endpoint _).bind
  intro endpoints
  exact .ok _

theorem blamesResponse_serviceInformation (element : Element) :
    BlamesResponse (serviceInformation policy element) := by
  apply (blamesResponse_requiredChild _ _).bind
  intro participantName
  apply (blamesResponse_identifier policy _ _).bind
  intro participant
  apply (blamesResponse_requiredChild _ _).bind
  intro documentName
  apply (blamesResponse_identifier policy _ _).bind
  intro documentType
  apply (blamesResponse_requiredChild _ _).bind
  intro list
  apply (BlamesResponse.mapM (blamesResponse_processRecord policy) _).bind
  intro processes
  exact .ok _

theorem blamesResponse_redirect (element : Element) :
    BlamesResponse (redirect element) := by
  apply (blamesResponse_required _ _).bind
  intro href
  exact .ok _

theorem blamesResponse_metadataContent (element : Element) :
    BlamesResponse (metadataContent policy element) := by
  unfold metadataContent
  split
  · exact (blamesResponse_redirect _).map _
  · apply (blamesResponse_requiredChild _ _).bind
    intro information
    exact (blamesResponse_serviceInformation policy information).map _

theorem blamesResponse_signer? (root : Element) :
    BlamesResponse (signer? root) := by
  unfold signer?
  dsimp only
  split
  · exact .ok none
  · exact (blamesResponse_publishedCertificate _).map some

theorem blamesResponse_metadataOfRoot (root : Element) :
    BlamesResponse (metadataOfRoot policy root) := by
  apply (blamesResponse_checkRoot _ _).bind
  intro checked
  have hrest : ∀ metadata : Element, BlamesResponse (do
      let content ← metadataContent policy metadata
      return ⟨content, ← signer? root⟩ :
        Except DiscoveryFault ServiceMetadata) := by
    intro metadata
    apply (blamesResponse_metadataContent policy metadata).bind
    intro content
    apply (blamesResponse_signer? root).bind
    intro signer?
    exact .ok _
  dsimp only
  split
  · exact hrest root
  · exact (blamesResponse_requiredChild _ _).bind hrest

theorem blamesResponse_serviceMetadata (text : String) :
    BlamesResponse (serviceMetadata policy text) := by
  unfold serviceMetadata document
  split
  · exact .error rfl
  · exact blamesResponse_metadataOfRoot policy _

/-! ## Service groups -/

theorem blamesResponse_reference (element : Element) :
    BlamesResponse (reference policy element) := by
  apply (blamesResponse_required _ _).bind
  intro href
  exact .ok _

theorem blamesResponse_groupOfRoot (root : Element) :
    BlamesResponse (groupOfRoot policy root) := by
  apply (blamesResponse_checkRoot _ _).bind
  intro checked
  apply (blamesResponse_requiredChild _ _).bind
  intro named
  apply (blamesResponse_identifier policy _ _).bind
  intro participant
  apply (blamesResponse_requiredChild _ _).bind
  intro collection
  apply (BlamesResponse.mapM (blamesResponse_reference policy) _).bind
  intro references
  exact .ok _

theorem blamesResponse_serviceGroup (text : String) :
    BlamesResponse (serviceGroup policy text) := by
  unfold serviceGroup document
  split
  · exact .error rfl
  · exact blamesResponse_groupOfRoot policy _

end SmpReader

end EndpointDiscovery
