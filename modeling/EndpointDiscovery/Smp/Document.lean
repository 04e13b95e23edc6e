import EndpointDiscovery.Certificate.Basic
import EndpointDiscovery.Identifier.Basic
import EndpointDiscovery.Time.Instant

/-!
# Documents of an SMP

A service group lists the document types of a participant.  Service metadata tells
the endpoints for one of them, or points to another SMP.
-/

namespace EndpointDiscovery

/-! ## Service groups -/

structure ServiceReference where
  href : String
  /-- The document type at the end of the reference, if one can be read there. -/
  documentType? : Option Identifier
deriving Repr

structure ServiceGroup where
  participant : Identifier
  references : List ServiceReference
deriving Repr

def ServiceGroup.documentTypes (group : ServiceGroup) : List Identifier :=
  group.references.filterMap (·.documentType?)

/-! ## Endpoints -/

/-- A time of use whose ends belong to it; a missing end does not restrict. -/
structure ActivePeriod where
  activation? : Option Instant := none
  expiration? : Option Instant := none
deriving DecidableEq, Repr

def ActivePeriod.contains (period : ActivePeriod) (instant : Instant) : Bool :=
  period.activation?.all (· ≤ instant) && period.expiration?.all (instant ≤ ·)

structure EndpointDetails where
  requiresBusinessLevelSignature : Bool
  minimumAuthenticationLevel? : Option String
  period : ActivePeriod
  serviceDescription? : Option String
  technicalContactUrl? : Option String
  technicalInformationUrl? : Option String
deriving DecidableEq, Repr

structure EndpointRecord where
  transportProfile : String
  address : String
  certificate : String
  details : EndpointDetails
deriving DecidableEq, Repr

/-! ## Service metadata -/

structure ProcessRecord where
  process : Identifier
  endpoints : List EndpointRecord
deriving Repr

structure ServiceInformation where
  participant : Identifier
  documentType : Identifier
  processes : List ProcessRecord
deriving Repr

/-- The first endpoint of a process that has exactly the given transport profile. -/
def ServiceInformation.findEndpoint? (information : ServiceInformation)
    (process : Identifier) (transportProfile : String) : Option EndpointRecord :=
  ((information.processes.filter (·.process.sameContent process)).flatMap
    (·.endpoints)).find? (·.transportProfile = transportProfile)

structure Redirect where
  href : String
  /-- Tells the certificate that the other SMP signs with. -/
  certificateUid : String
deriving DecidableEq, Repr

inductive MetadataContent where
  | information (information : ServiceInformation)
  | redirect (redirect : Redirect)
deriving Repr

structure ServiceMetadata where
  content : MetadataContent
  /-- The certificate in the signature, which is not verified. -/
  signer? : Option Certificate
deriving Repr

end EndpointDiscovery
