import EndpointDiscovery.Http.Web
import EndpointDiscovery.Smp.CertificateUid
import EndpointDiscovery.Smp.Configuration
import EndpointDiscovery.Smp.PublishedCertificate
import EndpointDiscovery.Smp.Reader
import EndpointDiscovery.Smp.ResolvedEndpoint
import EndpointDiscovery.Smp.Session
import EndpointDiscovery.Sml.Locator
import EndpointDiscovery.Url.Strict

/-!
# Discovery

The client locates the SMP of a participant, asks it for documents, follows a
redirect once, and selects an endpoint.  A redirect is trusted if the certificate
identifier in it tells the signer of what it leads to.
-/

namespace EndpointDiscovery

structure DiscoveryClient where
  config : ClientConfig := {}
  locator : SmpLocator := .classic
  web : Http.Web
  policy : IdentifierPolicy := {}

structure EndpointQuery where
  participant : Identifier
  documentType : Identifier
  process : Identifier
  transportProfile : String
deriving Repr

namespace DiscoveryClient

variable (client : DiscoveryClient)

/-! ## Query URLs -/

def faultOfLocation (fault : SmlFault) : DiscoveryFault :=
  { cause := .smpLocation, source := some (.location fault) }

def locate (participant : Identifier) : Discovery Url where
  run session :=
    let located := client.locator.locate participant client.config.zone
    ({ session with queried := session.queried ++ located.queried },
      located.result.mapError faultOfLocation)

/-- Where an SMP keeps the document about a participant, or about one of its
document types. -/
def queryPath (participant : Identifier) : Option Identifier → String
  | none => "/" ++ participant.percentEncodedUri
  | some documentType =>
      "/" ++ participant.percentEncodedUri ++ SmpReader.servicesMark ++
        documentType.percentEncodedUri

def extendBase (base : Url) (path : String) : Except DiscoveryFault Url :=
  match base.extendPath? path with
  | some url => .ok url
  | none => .error (.external .smpLocation)

def queryUrl (participant : Identifier) (documentType? : Option Identifier) :
    Discovery Url := do
  let base ← client.locate participant
  extendBase base (queryPath participant documentType?)

/-! ## Requests -/

/-- The text that a reply brings, if it is a success and arrives in time. -/
def textOfReply (timeout : Duration) (url : String) (reply : Http.Reply) :
    Except DiscoveryFault String :=
  let late : DiscoveryFault :=
    (DiscoveryFault.external (.transport url)).addContext
      s!"no response within {timeout.display}"
  if timeout < reply.delay then .error late
  else
    match reply.response? with
    | none => .error (.external (.transport url))
    | some response =>
        let status := response.status
        if status = .notFound then
          .error
            ((Fault.root .endpointNotFound).addContext
              s!"{url} returned {status.toText}")
        else if !status.isSuccess then
          .error
            ((Fault.root (.transport url)).addContext
              s!"unexpected status {status.toText}")
        else if timeout < reply.delay + response.bodyDelay then .error late
        else if response.breaksOff then
          .error (.external (.malformedResponse .unreadableBody))
        else .ok response.text

def fetch (url : Url) : Discovery String where
  run session :=
    ({ session with requests := session.requests ++ [url.toText] },
      textOfReply client.config.timeout url.toText
        (client.web session.requests url.toText))

/-! ## Documents -/

def serviceGroup (participant : Identifier) : Discovery ServiceGroup := do
  let url ← client.queryUrl participant none
  let text ← client.fetch url
  SmpReader.serviceGroup client.policy text

def readMetadata (url : Url) : Discovery ServiceMetadata := do
  let text ← client.fetch url
  SmpReader.serviceMetadata client.policy text

def redirectTarget (redirect : Redirect) : Except DiscoveryFault Url := do
  CertificateUid.check redirect.certificateUid
  match Url.parse? redirect.href with
  | some url => .ok url
  | none => .error (.external (.malformedResponse (.invalidRedirect redirect.href)))

def acceptRedirected (redirect : Redirect) (target : Url)
    (metadata : ServiceMetadata) :
    Except DiscoveryFault ServiceInformation :=
  match metadata.content with
  | .redirect second =>
      .error ((Fault.root .tooManyRedirects).addContext
        s!"{target.toText} redirects to {second.href}")
  | .information information =>
      if metadata.signer?.any
        (CertificateUid.identifies redirect.certificateUid) then
        .ok information
      else
        .error
          ((Fault.root
            (.redirectCertificateMismatch redirect.certificateUid)).addContext
          s!"redirect target {target.toText}")

def serviceMetadata (participant documentType : Identifier) :
    Discovery ServiceInformation := do
  let url ← client.queryUrl participant (some documentType)
  let metadata ← client.readMetadata url
  match metadata.content with
  | .information information => return information
  | .redirect redirect =>
      let target ← redirectTarget redirect
      let followed ← client.readMetadata target
      acceptRedirected redirect target followed

/-! ## Endpoints -/

def selectEndpoint (query : EndpointQuery) (information : ServiceInformation) :
    Except DiscoveryFault EndpointRecord :=
  match information.findEndpoint? query.process query.transportProfile with
  | some record => .ok record
  | none =>
      .error ((Fault.root .endpointNotFound).addContext
        s!"no `{query.transportProfile}` endpoint for process {query.process.uri}")

def findEndpoint (query : EndpointQuery) : Discovery EndpointRecord := do
  let information ← client.serviceMetadata query.participant query.documentType
  selectEndpoint query information

def endpointAddress (query : EndpointQuery) : Discovery Url := do
  let record ← client.findEndpoint query
  publishedAddress record.address

def endpointCertificate (query : EndpointQuery) : Discovery Certificate := do
  let record ← client.findEndpoint query
  publishedCertificate record.certificate

def faultOfCheck (fault : TrustFault) : DiscoveryFault :=
  let error : DiscoveryError :=
    match fault.cause with
    | .revocationCheckUnavailable _ => .revocationCheckUnavailable
    | _ => .untrustedEndpoint
  { cause := error, source := some (.trust fault) }

def acceptCheck (caSet : CaSet) : Except TrustFault CheckResult →
    Except DiscoveryFault Unit
  | .error fault => .error (faultOfCheck fault)
  | .ok .valid => .ok ()
  | .ok result =>
      .error ((Fault.root .untrustedEndpoint).addContext
        s!"certificate is {result.display} according to {caSet.name}")

def requireTrust (checker : Checker) (now : Instant) (certificate : Certificate) :
    Discovery Unit where
  run session :=
    let (checks, result) := checker.check certificate now session.checks
    ({ session with checks }, acceptCheck checker.caSet result)

/-- The endpoint, if its certificate is trusted.  The time of use is
not looked at. -/
def resolve (checker : Checker) (now : Instant) (query : EndpointQuery) :
    Discovery ResolvedEndpoint := do
  let record ← client.findEndpoint query
  let address ← publishedAddress record.address
  let certificate ← publishedCertificate record.certificate
  requireTrust checker now certificate
  return {
    address, certificate
    transportProfile := record.transportProfile
    details := record.details }

end DiscoveryClient

end EndpointDiscovery
