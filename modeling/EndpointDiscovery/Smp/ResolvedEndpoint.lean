import EndpointDiscovery.Certificate.Pem
import EndpointDiscovery.Smp.Document
import EndpointDiscovery.Smp.Error
import EndpointDiscovery.Url.Parser

/-!
# Resolved endpoints

An endpoint whose address and certificate have been read, and whose
certificate is trusted.
-/

namespace EndpointDiscovery

structure ResolvedEndpoint where
  address : Url
  transportProfile : String
  certificate : Certificate
  details : EndpointDetails
deriving Repr

namespace ResolvedEndpoint

def certificatePem (endpoint : ResolvedEndpoint) : String :=
  Pem.encode endpoint.certificate

def isActiveAt (endpoint : ResolvedEndpoint) (instant : Instant) : Bool :=
  endpoint.details.period.contains instant

end ResolvedEndpoint

def publishedAddress (text : String) : Except DiscoveryFault Url :=
  match Url.parse? text with
  | some url => .ok url
  | none => .error (.external (.malformedResponse (.invalidAddress text)))

end EndpointDiscovery
