import EndpointDiscovery.Certificate.Pem
import EndpointDiscovery.Trust.Error

/-!
# Sets of trusted authorities

A named set of certificates that is not empty.
-/

namespace EndpointDiscovery

structure CaSet where
  name : String
  certificates : List Certificate
  certificates_ne_nil : certificates ≠ []

namespace CaSet

def create (name : String) : List Certificate → Except TrustFault CaSet
  | [] =>
      .error
        ((Fault.root (.caSetLoading name)).addContext "no CA certificates supplied")
  | certificate :: certificates => .ok ⟨name, certificate :: certificates, by simp⟩

def ofPemBundle (name : String) (bundle : List UInt8) : Except TrustFault CaSet :=
  match Pem.bundle? bundle with
  | some certificates => create name certificates
  | none =>
      .error ((Fault.foreign (.caSetLoading name)).addContext "invalid PEM bundle")

end CaSet

end EndpointDiscovery
