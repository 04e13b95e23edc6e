import EndpointDiscovery.Identifier.Error
import EndpointDiscovery.Sml.Error
import EndpointDiscovery.Trust.Error

/-!
# Failures of discovery

What can go wrong on the way from a participant to its endpoint.  A response is
malformed for one of a fixed number of flaws.
-/

namespace EndpointDiscovery

/-- What is wrong with a response of an SMP. -/
inductive ResponseFlaw where
  | unreadableBody
  | invalidXml
  | unknownNamespace (name : String)
  | unexpectedRoot (name : String)
  | missingChild (child parent : String)
  | identifierWithoutScheme (kind : IdentifierKind)
  | invalidIdentifier (kind : IdentifierKind)
  | referenceWithoutHref
  | redirectWithoutHref
  | redirectWithoutUid
  | redirectUidWithControls
  | invalidRedirect (href : String)
  | endpointWithoutProfile
  | endpointWithoutAddress
  | endpointWithoutCertificate
  | invalidAddress (address : String)
  | invalidBoolean (text : String)
  | invalidDate (text : String)
  | invalidPemCertificate
  | invalidCertificate
deriving DecidableEq, Repr

def ResponseFlaw.message : ResponseFlaw → String
  | .unreadableBody => "unreadable response body"
  | .invalidXml => "invalid XML"
  | .unknownNamespace name => s!"unknown namespace `{name}`"
  | .unexpectedRoot name => s!"unexpected root element `{name}`"
  | .missingChild child parent => s!"missing `{child}` in `{parent}`"
  | .identifierWithoutScheme kind => s!"{kind.display} identifier without scheme"
  | .invalidIdentifier kind => s!"invalid {kind.display} identifier"
  | .referenceWithoutHref => "ServiceMetadataReference without href"
  | .redirectWithoutHref => "Redirect without href"
  | .redirectWithoutUid => "redirect without certificate UID"
  | .redirectUidWithControls =>
      "redirect certificate UID contains control characters"
  | .invalidRedirect href => s!"invalid redirect href `{href}`"
  | .endpointWithoutProfile => "Endpoint without transportProfile"
  | .endpointWithoutAddress => "Endpoint without address"
  | .endpointWithoutCertificate => "Endpoint without certificate"
  | .invalidAddress address => s!"invalid endpoint address `{address}`"
  | .invalidBoolean text => s!"invalid boolean `{text}`"
  | .invalidDate text => s!"invalid date `{text}`"
  | .invalidPemCertificate => "invalid PEM certificate"
  | .invalidCertificate => "invalid certificate"

inductive DiscoveryError where
  | smpLocation
  | transport (url : String)
  | malformedResponse (flaw : ResponseFlaw)
  | tooManyRedirects
  | redirectCertificateMismatch (uid : String)
  | endpointNotFound
  | untrustedEndpoint
  | revocationCheckUnavailable
deriving DecidableEq, Repr

namespace DiscoveryError

def name : DiscoveryError → String
  | .smpLocation => "SmpLocation"
  | .transport _ => "Transport"
  | .malformedResponse _ => "MalformedResponse"
  | .tooManyRedirects => "TooManyRedirects"
  | .redirectCertificateMismatch _ => "RedirectCertificateMismatch"
  | .endpointNotFound => "EndpointNotFound"
  | .untrustedEndpoint => "UntrustedEndpoint"
  | .revocationCheckUnavailable => "RevocationCheckUnavailable"

def message : DiscoveryError → String
  | .smpLocation => "Unable to locate the SMP"
  | .transport url => s!"SMP transport failure for {url}"
  | .malformedResponse flaw => s!"Malformed SMP response: {flaw.message}"
  | .tooManyRedirects => "Too many SMP redirects"
  | .redirectCertificateMismatch uid =>
      s!"Redirect target certificate does not match {uid}"
  | .endpointNotFound => "Endpoint not found"
  | .untrustedEndpoint => "Untrusted endpoint certificate"
  | .revocationCheckUnavailable =>
      "Revocation check of the endpoint certificate is unavailable"

end DiscoveryError

inductive DiscoverySource where
  | foreign
  | identifier (fault : IdentifierFault)
  | location (fault : SmlFault)
  | trust (fault : TrustFault)
deriving Repr

abbrev DiscoveryFault := Fault DiscoveryError DiscoverySource

namespace DiscoveryFault

def malformed (flaw : ResponseFlaw) : DiscoveryFault :=
  .root (.malformedResponse flaw)

def external (error : DiscoveryError) : DiscoveryFault :=
  { cause := error, source := some .foreign }

end DiscoveryFault

end EndpointDiscovery
