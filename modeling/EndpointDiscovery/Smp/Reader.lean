import EndpointDiscovery.Identifier.Policy
import EndpointDiscovery.Smp.Document
import EndpointDiscovery.Smp.PublishedCertificate
import EndpointDiscovery.Time.DateText
import EndpointDiscovery.Xml.Parser

/-!
# Reading documents of an SMP

Elements are found by their local names.  Identifiers are accepted under a policy.
A document whose required parts cannot all be read is malformed.
-/

namespace EndpointDiscovery

open Xml (Element)

def peppolSmpNamespace : String :=
  "http://busdox.org/serviceMetadata/publishing/1.0/"

def bdxrSmpNamespace : String := "http://docs.oasis-open.org/bdxr/ns/SMP/2016/05"

namespace SmpReader

/-! ## Parts of elements -/

def requiredChild (element : Element) (name : String) :
    Except DiscoveryFault Element :=
  match element.child? name with
  | some child => .ok child
  | none => .error (.malformed (.missingChild name element.localName))

/-- The text of an element without the blanks around it, unless nothing is left. -/
def content? (element : Element) : Option String :=
  (element.text?.map Text.trim).filter (!·.isEmpty)

def childContent? (element : Element) (name : String) : Option String :=
  (element.child? name).bind content?

def required {α : Type} (flaw : ResponseFlaw) : Option α → Except DiscoveryFault α
  | some value => .ok value
  | none => .error (.malformed flaw)

def identifier (policy : IdentifierPolicy) (element : Element)
    (kind : IdentifierKind) :
    Except DiscoveryFault Identifier := do
  let scheme ← required (.identifierWithoutScheme kind)
    (element.attribute? "scheme")
  match policy.create kind scheme (Text.trim (element.text?.getD "")) with
  | .ok identifier => .ok identifier
  | .error fault =>
      .error { cause := .malformedResponse (.invalidIdentifier kind),
               source := some (.identifier fault) }

def checkRoot (root : Element) (names : List String) : Except DiscoveryFault Unit :=
  let space := root.name.space.getD ""
  if space ≠ peppolSmpNamespace ∧ space ≠ bdxrSmpNamespace then
    .error (.malformed (.unknownNamespace space))
  else if root.localName ∉ names then
    .error (.malformed (.unexpectedRoot root.localName))
  else
    .ok ()

def document {α : Type} (read : Element → Except DiscoveryFault α) (text : String) :
    Except DiscoveryFault α :=
  match Xml.parse? text with
  | none => .error (.external (.malformedResponse .invalidXml))
  | some root => read root

/-! ## Service groups -/

def servicesMark : String := "/services/"

def referencedType? (policy : IdentifierPolicy) (href : String) :
    Option Identifier := do
  let (_, encoded) ← Text.cutLast servicesMark.toList href.toList
  (policy.parsePercentEncoded .documentType (String.ofList encoded)).toOption

def reference (policy : IdentifierPolicy) (element : Element) :
    Except DiscoveryFault ServiceReference := do
  let href ← required .referenceWithoutHref (element.attribute? "href")
  return ⟨href, referencedType? policy href⟩

def groupOfRoot (policy : IdentifierPolicy) (root : Element) :
    Except DiscoveryFault ServiceGroup := do
  checkRoot root ["ServiceGroup"]
  let participant ←
    identifier policy (← requiredChild root "ParticipantIdentifier") .participant
  let collection ← requiredChild root "ServiceMetadataReferenceCollection"
  let references ←
    (collection.children "ServiceMetadataReference").mapM (reference policy)
  return ⟨participant, references⟩

def serviceGroup (policy : IdentifierPolicy) : String →
    Except DiscoveryFault ServiceGroup :=
  document (groupOfRoot policy)

/-! ## Endpoints -/

/-- The address in the form of web service addressing, or in an
element of its own. -/
def address? (element : Element) : Option String :=
  (((element.child? "EndpointReference").bind (·.child? "Address")).orElse fun _ =>
    element.child? "EndpointURI").bind content?

def boolean (text? : Option String) : Except DiscoveryFault Bool :=
  match text? with
  | none => .ok false
  | some text =>
      if text = "false" ∨ text = "0" then .ok false
      else if text = "true" ∨ text = "1" then .ok true
      else .error (.malformed (.invalidBoolean text))

def date? (text? : Option String) : Except DiscoveryFault (Option Instant) :=
  match text? with
  | none => .ok none
  | some text => (required (.invalidDate text) (DateText.parse? text)).map some

def endpoint (element : Element) : Except DiscoveryFault EndpointRecord := do
  let transportProfile ←
    required .endpointWithoutProfile (element.attribute? "transportProfile")
  let address ← required .endpointWithoutAddress (address? element)
  let certificate ←
    required .endpointWithoutCertificate (childContent? element "Certificate")
  let requiresBusinessLevelSignature ←
    boolean (childContent? element "RequireBusinessLevelSignature")
  let activation? ← date? (childContent? element "ServiceActivationDate")
  let expiration? ← date? (childContent? element "ServiceExpirationDate")
  return {
    transportProfile, address, certificate
    details := {
      requiresBusinessLevelSignature
      minimumAuthenticationLevel? :=
        childContent? element "MinimumAuthenticationLevel"
      period := ⟨activation?, expiration?⟩
      serviceDescription? := childContent? element "ServiceDescription"
      technicalContactUrl? := childContent? element "TechnicalContactUrl"
      technicalInformationUrl? :=
        childContent? element "TechnicalInformationUrl" } }

/-! ## Service metadata -/

def processRecord (policy : IdentifierPolicy) (element : Element) :
    Except DiscoveryFault ProcessRecord := do
  let process ←
    identifier policy (← requiredChild element "ProcessIdentifier") .process
  let list ← requiredChild element "ServiceEndpointList"
  let endpoints ← (list.children "Endpoint").mapM endpoint
  return ⟨process, endpoints⟩

def serviceInformation (policy : IdentifierPolicy) (element : Element) :
    Except DiscoveryFault ServiceInformation := do
  let participant ←
    identifier policy (← requiredChild element "ParticipantIdentifier") .participant
  let documentType ←
    identifier policy (← requiredChild element "DocumentIdentifier") .documentType
  let list ← requiredChild element "ProcessList"
  let processes ← (list.children "Process").mapM (processRecord policy)
  return ⟨participant, documentType, processes⟩

def redirect (element : Element) : Except DiscoveryFault Redirect := do
  let href ← required .redirectWithoutHref (element.attribute? "href")
  let uid? := (element.child? "CertificateUID").bind (·.text?)
  return ⟨Text.trim href, uid?.getD ""⟩

/-- A redirect takes precedence over service information. -/
def metadataContent (policy : IdentifierPolicy) (element : Element) :
    Except DiscoveryFault MetadataContent :=
  match element.child? "Redirect" with
  | some child => (redirect child).map .redirect
  | none => do
      let information ← requiredChild element "ServiceInformation"
      (serviceInformation policy information).map .information

/-- The first certificate in the signatures of the root. -/
def signer? (root : Element) : Except DiscoveryFault (Option Certificate) :=
  let certificates := ((root.children "Signature").flatMap (·.descendants)).filter
    (·.localName = "X509Certificate")
  match certificates.head?.bind content? with
  | none => .ok none
  | some text => (publishedCertificate text).map some

def metadataOfRoot (policy : IdentifierPolicy) (root : Element) :
    Except DiscoveryFault ServiceMetadata := do
  checkRoot root ["SignedServiceMetadata", "ServiceMetadata"]
  let metadata ←
    if root.localName = "ServiceMetadata" then
      pure root
    else
      requiredChild root "ServiceMetadata"
  let content ← metadataContent policy metadata
  return ⟨content, ← signer? root⟩

def serviceMetadata (policy : IdentifierPolicy) :
    String → Except DiscoveryFault ServiceMetadata :=
  document (metadataOfRoot policy)

end SmpReader

end EndpointDiscovery
