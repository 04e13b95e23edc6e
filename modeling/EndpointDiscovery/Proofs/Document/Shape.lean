import EndpointDiscovery.Smp.Reader
import Mathlib.Data.List.Forall2

/-!
# What is read of a document

A reader goes down from the root by local names and ends at texts.  Two documents
in which it finds the same texts on all these ways are read alike, however they
differ elsewhere.
-/

namespace EndpointDiscovery.SmpReader

open Xml (Element)

/-! ## Shapes -/

/-- What is looked at in an element: the text that it begins with, such
texts of the elements below it that have some local name, or its children
with some local names. -/
inductive Shape where
  | text
  | texts (name : String)
  | parts (names : List String) (part : String → Shape)

def textsBelow (name : String) (element : Element) : List (Option String) :=
  (element.descendants.filter (·.localName = name)).map (·.text?)

namespace Shape

def Alike : Shape → Element → Element → Prop
  | .text, first, second =>
      first.name = second.name ∧ first.attributes = second.attributes ∧
        first.text? = second.text?
  | .texts name, first, second => textsBelow name first = textsBelow name second
  | .parts names part, first, second =>
      first.name = second.name ∧ first.attributes = second.attributes ∧
        ∀ name ∈ names,
          List.Forall₂ (fun child other => (part name).Alike child other)
            (first.children name) (second.children name)

theorem Alike.refl (shape : Shape) (element : Element) :
    shape.Alike element element := by
  induction shape generalizing element with
  | text => exact ⟨rfl, rfl, rfl⟩
  | texts name => rfl
  | parts names part ih =>
      exact ⟨rfl, rfl, fun name _ => List.forall₂_same.mpr fun child _ =>
        ih name child⟩

end Shape

/-! ## The shapes of documents -/

def endpointTexts : List String :=
  ["EndpointURI", "Certificate", "RequireBusinessLevelSignature",
    "MinimumAuthenticationLevel", "ServiceActivationDate", "ServiceExpirationDate",
    "ServiceDescription", "TechnicalContactUrl", "TechnicalInformationUrl"]

def endpointShape : Shape :=
  .parts ("EndpointReference" :: endpointTexts) fun name =>
    if name = "EndpointReference" then .parts ["Address"] fun _ => .text else .text

def processShape : Shape :=
  .parts ["ProcessIdentifier", "ServiceEndpointList"] fun
    | "ServiceEndpointList" => .parts ["Endpoint"] fun _ => endpointShape
    | _ => .text

def informationShape : Shape :=
  .parts ["ParticipantIdentifier", "DocumentIdentifier", "ProcessList"] fun
    | "ProcessList" => .parts ["Process"] fun _ => processShape
    | _ => .text

def redirectShape : Shape :=
  .parts ["CertificateUID"] fun _ => .text

def contentShape : String → Shape
  | "Redirect" => redirectShape
  | _ => informationShape

def signatureShape : Shape :=
  .texts "X509Certificate"

def metadataShape (rootName : String) : Shape :=
  if rootName = "ServiceMetadata" then
    .parts ["Redirect", "ServiceInformation", "Signature"] fun
      | "Signature" => signatureShape
      | name => contentShape name
  else
    .parts ["ServiceMetadata", "Signature"] fun
      | "Signature" => signatureShape
      | _ => .parts ["Redirect", "ServiceInformation"] contentShape

def groupShape : Shape :=
  .parts ["ParticipantIdentifier", "ServiceMetadataReferenceCollection"] fun
    | "ServiceMetadataReferenceCollection" =>
        .parts ["ServiceMetadataReference"] fun _ => .parts [] fun _ => .text
    | _ => .text

/-! ## Texts of documents -/

theorem document_of_parse? {α : Type} (read : Element → Except DiscoveryFault α)
    {text : String} {root : Element} (h : Xml.parse? text = some root) :
    document read text = read root := by
  rw [document, h]

/-! ## Parts that are there -/

section

variable {α β : Type} {element : Element}

theorem bind_eq_ok_iff {first : Except DiscoveryFault α}
    {next : α → Except DiscoveryFault β} {value : β} :
    first >>= next = .ok value ↔ ∃ produced,
      first = .ok produced ∧ next produced = .ok value := by
  cases first with
  | error fault => simp [bind, Except.bind]
  | ok produced => simp [bind, Except.bind]

theorem required_eq_ok_iff {flaw : ResponseFlaw} {value? : Option α} {value : α} :
    required flaw value? = .ok value ↔ value? = some value := by
  cases value? <;> simp [required]

theorem requiredChild_eq_ok_iff {name : String} {child : Element} :
    requiredChild element name = .ok child ↔ element.child? name = some child := by
  unfold requiredChild
  cases element.child? name <;> simp

end

/-! ## Metadata that are read -/

section

variable {policy : IdentifierPolicy} {root : Element}

def metadataElement? (root : Element) : Option Element :=
  if root.localName = "ServiceMetadata" then
    some root
  else
    root.child? "ServiceMetadata"

theorem metadataOfRoot_eq (policy : IdentifierPolicy) (root : Element) :
    metadataOfRoot policy root = (do
      checkRoot root ["SignedServiceMetadata", "ServiceMetadata"]
      let metadata ← required (.missingChild "ServiceMetadata" root.localName)
        (metadataElement? root)
      let content ← metadataContent policy metadata
      return ⟨content, ← signer? root⟩) := by
  unfold metadataOfRoot metadataElement?
  congr 1
  funext checked
  by_cases hroot : root.localName = "ServiceMetadata"
  · rw [if_pos hroot, if_pos hroot]
    rfl
  · rw [if_neg hroot, if_neg hroot]
    unfold requiredChild
    cases root.child? "ServiceMetadata" <;> rfl

theorem metadataOfRoot_eq_ok_iff {read : ServiceMetadata} :
    metadataOfRoot policy root = .ok read ↔
      checkRoot root ["SignedServiceMetadata", "ServiceMetadata"] = .ok () ∧
      (∃ metadata, metadataElement? root = some metadata ∧
        metadataContent policy metadata = .ok read.content) ∧
      signer? root = .ok read.signer? := by
  rw [metadataOfRoot_eq]
  simp only [bind_eq_ok_iff, required_eq_ok_iff]
  constructor
  · rintro ⟨checked, hchecked, metadata, hmetadata, content, hcontent, signer,
      hsigner, hread⟩
    cases hread
    exact ⟨hchecked, ⟨metadata, hmetadata, hcontent⟩, hsigner⟩
  · rintro ⟨hchecked, ⟨metadata, hmetadata, hcontent⟩, hsigner⟩
    exact ⟨(), hchecked, metadata, hmetadata, read.content, hcontent, read.signer?,
      hsigner, rfl⟩

end

/-! ## Parts that are alike -/

section

variable {β : Type} {first second : Element} {name : String}
  {related : Element → Element → Prop}

theorem child?_rel
    (h : List.Forall₂ related (first.children name) (second.children name)) :
    Option.Rel related (first.child? name) (second.child? name) := by
  rw [Element.child?, Element.child?]
  generalize first.children name = children, second.children name = others at h
  cases h with
  | nil => exact .none
  | cons hhead htail => exact .some hhead

theorem bind_congr {first? second? : Option Element}
    (h : Option.Rel related first? second?) {next other : Element → Option β}
    (hnext : ∀ child changed, related child changed → next child = other changed) :
    first?.bind next = second?.bind other := by
  cases h with
  | none => rfl
  | some hrelated => exact hnext _ _ hrelated

theorem requiredChild_bind_congr {next other : Element → Except DiscoveryFault β}
    (hname : first.name = second.name)
    (hchildren : List.Forall₂ related (first.children name) (second.children name))
    (hnext : ∀ child changed, related child changed → next child = other changed) :
    (requiredChild first name >>= next) =
      (requiredChild second name >>= other) := by
  have hrel := child?_rel hchildren
  unfold requiredChild Element.localName
  rw [hname]
  generalize first.child? name = child?, second.child? name = other? at hrel
  cases hrel with
  | none => rfl
  | some hrelated => exact hnext _ _ hrelated

theorem mapM_congr {f g : Element → Except DiscoveryFault β}
    {elements others : List Element} (h : List.Forall₂ related elements others)
    (hread : ∀ element other, related element other → f element = g other) :
    elements.mapM f = others.mapM g := by
  induction h with
  | nil => rfl
  | cons hhead htail ih => rw [List.mapM_cons, List.mapM_cons, hread _ _ hhead, ih]

theorem content?_congr (h : first.text? = second.text?) :
    content? first = content? second := by
  rw [content?, content?, h]

theorem childContent?_congr
    (h : List.Forall₂ (fun child other => Shape.text.Alike child other)
      (first.children name) (second.children name)) :
    childContent? first name = childContent? second name :=
  bind_congr (child?_rel h) fun _ _ halike => content?_congr halike.2.2

theorem attribute?_congr (h : first.attributes = second.attributes)
    (name : String) :
    first.attribute? name = second.attribute? name := by
  rw [Element.attribute?, Element.attribute?, h]

theorem checkRoot_congr (h : first.name = second.name) (names : List String) :
    checkRoot first names = checkRoot second names := by
  unfold checkRoot Element.localName
  rw [h]

theorem identifier_congr (policy : IdentifierPolicy)
    (h : Shape.text.Alike first second) (kind : IdentifierKind) :
    identifier policy first kind = identifier policy second kind := by
  rw [identifier, identifier, attribute?_congr h.2.1, h.2.2]

end

/-! ## Documents that are alike -/

section

variable {first second : Element}

theorem endpointTexts_alike (h : endpointShape.Alike first second) (name : String)
    (hmem : name ∈ endpointTexts) :
    List.Forall₂ (fun child other => Shape.text.Alike child other)
      (first.children name) (second.children name) := by
  have hother : name ≠ "EndpointReference" := by
    rintro rfl
    simp [endpointTexts] at hmem
  have halike := h.2.2 name (List.mem_cons_of_mem _ hmem)
  simp only [if_neg hother] at halike
  exact halike

theorem address?_congr (h : endpointShape.Alike first second) :
    address? first = address? second := by
  have haddress : Option.Rel (fun child other => Shape.text.Alike child other)
      ((first.child? "EndpointReference").bind (·.child? "Address"))
      ((second.child? "EndpointReference").bind (·.child? "Address")) := by
    have hreference := child?_rel (h.2.2 "EndpointReference" (by simp))
    generalize first.child? "EndpointReference" = reference?,
      second.child? "EndpointReference" = other? at hreference
    cases hreference with
    | none => exact .none
    | some halike => exact child?_rel (halike.2.2 "Address" (by simp))
  have huri :=
    child?_rel (endpointTexts_alike h "EndpointURI" (by simp [endpointTexts]))
  unfold address?
  generalize (first.child? "EndpointReference").bind (·.child? "Address") =
    address?, (second.child? "EndpointReference").bind (·.child? "Address") =
      other? at haddress
  cases haddress with
  | none => exact bind_congr huri fun _ _ halike => content?_congr halike.2.2
  | some halike => exact content?_congr halike.2.2

theorem endpoint_congr (h : endpointShape.Alike first second) :
    endpoint first = endpoint second := by
  have hcontent : ∀ name ∈ endpointTexts,
      childContent? first name = childContent? second name :=
    fun name hmem => childContent?_congr (endpointTexts_alike h name hmem)
  simp only [endpointTexts, List.forall_mem_cons] at hcontent
  simp only [endpoint, attribute?_congr h.2.1, address?_congr h, hcontent]

theorem reference_congr (policy : IdentifierPolicy)
    (h : first.attributes = second.attributes) :
    reference policy first = reference policy second := by
  rw [reference, reference, attribute?_congr h]

theorem redirect_congr (h : redirectShape.Alike first second) :
    redirect first = redirect second := by
  obtain ⟨-, hattributes, hparts⟩ := h
  have huid : (first.child? "CertificateUID").bind (·.text?) =
      (second.child? "CertificateUID").bind (·.text?) :=
    bind_congr (child?_rel (hparts "CertificateUID" (by simp))) fun _ _ halike =>
      halike.2.2
  rw [redirect, redirect, attribute?_congr hattributes, huid]

variable (policy : IdentifierPolicy)

theorem processRecord_congr (h : processShape.Alike first second) :
    processRecord policy first = processRecord policy second := by
  obtain ⟨hname, -, hparts⟩ := h
  refine requiredChild_bind_congr hname (hparts "ProcessIdentifier" (by simp)) ?_
  intro child other hchild
  rw [identifier_congr policy hchild]
  congr 1
  funext process
  refine requiredChild_bind_congr hname (hparts "ServiceEndpointList" (by simp)) ?_
  intro list changed hlist
  rw [mapM_congr (hlist.2.2 "Endpoint" (by simp)) fun _ _ => endpoint_congr]

theorem serviceInformation_congr (h : informationShape.Alike first second) :
    serviceInformation policy first = serviceInformation policy second := by
  obtain ⟨hname, -, hparts⟩ := h
  refine requiredChild_bind_congr hname
    (hparts "ParticipantIdentifier" (by simp)) ?_
  intro child other hchild
  rw [identifier_congr policy hchild]
  congr 1
  funext participant
  refine requiredChild_bind_congr hname (hparts "DocumentIdentifier" (by simp)) ?_
  intro child other hchild
  rw [identifier_congr policy hchild]
  congr 1
  funext documentType
  refine requiredChild_bind_congr hname (hparts "ProcessList" (by simp)) ?_
  intro list changed hlist
  rw [mapM_congr (hlist.2.2 "Process" (by simp)) fun _ _ =>
    processRecord_congr policy]

theorem metadataContent_congr (hname : first.name = second.name)
    (hredirect : List.Forall₂ (fun child other => redirectShape.Alike child other)
      (first.children "Redirect") (second.children "Redirect"))
    (hinformation :
      List.Forall₂ (fun child other => informationShape.Alike child other)
      (first.children "ServiceInformation")
      (second.children "ServiceInformation")) :
    metadataContent policy first = metadataContent policy second := by
  have hrel := child?_rel hredirect
  unfold metadataContent
  generalize first.child? "Redirect" = redirect?,
    second.child? "Redirect" = other? at hrel
  cases hrel with
  | none =>
      refine requiredChild_bind_congr hname hinformation ?_
      intro information changed halike
      rw [serviceInformation_congr policy halike]
  | some halike =>
      dsimp only
      rw [redirect_congr halike]

theorem signerTexts_congr {signatures others : List Element}
    (h : List.Forall₂ (fun child other => signatureShape.Alike child other)
      signatures others) :
    signatures.flatMap (textsBelow "X509Certificate") =
      others.flatMap (textsBelow "X509Certificate") := by
  induction h with
  | nil => rfl
  | @cons signature other _ _ hhead htail ih =>
      have hbelow : textsBelow "X509Certificate" signature =
          textsBelow "X509Certificate" other :=
        hhead
      rw [List.flatMap_cons, List.flatMap_cons, hbelow, ih]

theorem signerContent_eq (root : Element) :
    (((root.children "Signature").flatMap (·.descendants)).filter
        (·.localName = "X509Certificate")).head?.bind content? =
      ((root.children "Signature").flatMap
        (textsBelow "X509Certificate")).head?.bind
        fun text? => (text?.map Text.trim).filter (!·.isEmpty) := by
  unfold textsBelow
  rw [← List.map_flatMap, ← List.filter_flatMap, List.head?_map, Option.bind_map]
  rfl

theorem signer?_congr
    (h : List.Forall₂ (fun child other => signatureShape.Alike child other)
      (first.children "Signature") (second.children "Signature")) :
    signer? first = signer? second := by
  simp only [signer?, signerContent_eq, signerTexts_congr h]

theorem metadataOfRoot_congr
    (h : (metadataShape first.localName).Alike first second) :
    metadataOfRoot policy first = metadataOfRoot policy second := by
  by_cases hroot : first.localName = "ServiceMetadata"
  · simp only [metadataShape, if_pos hroot] at h
    obtain ⟨hname, -, hparts⟩ := h
    have hsigner := signer?_congr (hparts "Signature" (by simp))
    have hcontent :=
      metadataContent_congr policy hname (hparts "Redirect" (by simp))
        (hparts "ServiceInformation" (by simp))
    have hother : second.localName = "ServiceMetadata" := by
      rwa [Element.localName, ← hname]
    simp only [metadataOfRoot, checkRoot_congr hname, if_pos hroot, if_pos hother,
      hsigner, hcontent, pure_bind]
  · simp only [metadataShape, if_neg hroot] at h
    obtain ⟨hname, -, hparts⟩ := h
    have hsigner := signer?_congr (hparts "Signature" (by simp))
    have hother : second.localName ≠ "ServiceMetadata" := by
      rwa [Element.localName, ← hname]
    simp only [metadataOfRoot, checkRoot_congr hname, if_neg hroot, if_neg hother,
      hsigner]
    congr 1
    funext checked
    refine requiredChild_bind_congr hname (hparts "ServiceMetadata" (by simp)) ?_
    intro metadata other halike
    rw [metadataContent_congr policy halike.1 (halike.2.2 "Redirect" (by simp))
      (halike.2.2 "ServiceInformation" (by simp))]

theorem groupOfRoot_congr (h : groupShape.Alike first second) :
    groupOfRoot policy first = groupOfRoot policy second := by
  obtain ⟨hname, -, hparts⟩ := h
  unfold groupOfRoot
  rw [checkRoot_congr hname]
  congr 1
  funext checked
  refine requiredChild_bind_congr hname
    (hparts "ParticipantIdentifier" (by simp)) ?_
  intro child other hchild
  rw [identifier_congr policy hchild]
  congr 1
  funext participant
  refine requiredChild_bind_congr hname
    (hparts "ServiceMetadataReferenceCollection" (by simp)) ?_
  intro collection changed hcollection
  rw [mapM_congr (hcollection.2.2 "ServiceMetadataReference" (by simp))
    fun _ _ halike =>
    reference_congr policy halike.2.1]

end

end EndpointDiscovery.SmpReader
