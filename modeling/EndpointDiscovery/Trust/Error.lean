import EndpointDiscovery.Fault

/-!
# Failures of checking trust

Why a set of trusted authorities cannot be loaded or a certificate cannot be judged.
-/

namespace EndpointDiscovery

inductive TrustError where
  | invalidCertificate
  | caSetLoading (name : String)
  | revocationCheckUnavailable (serialNumber : String)
  | signatureFailure
deriving DecidableEq, Repr

namespace TrustError

def name : TrustError → String
  | .invalidCertificate => "InvalidCertificate"
  | .caSetLoading _ => "CaSetLoading"
  | .revocationCheckUnavailable _ => "RevocationCheckUnavailable"
  | .signatureFailure => "Openssl"

def message : TrustError → String
  | .invalidCertificate => "Invalid certificate"
  | .caSetLoading name => s!"Unable to load the trusted CA set {name}"
  | .revocationCheckUnavailable serialNumber =>
      s!"Revocation check of certificate {serialNumber} is unavailable"
  | .signatureFailure => "OpenSSL failure"

end TrustError

abbrev TrustFault := Fault TrustError Foreign

end EndpointDiscovery
