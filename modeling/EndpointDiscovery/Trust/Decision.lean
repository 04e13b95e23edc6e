import EndpointDiscovery.Certificate.Issuer
import EndpointDiscovery.Time.Instant
import EndpointDiscovery.Trust.Error

/-!
# Judging a certificate

A certificate must be issued by an authority whose key verifies its signature,
and must be valid at the instant in question.  Whether it is revoked is a
question of its own.
-/

namespace EndpointDiscovery

inductive CheckResult where
  | valid
  | notYetValid
  | expired
  | untrustedIssuer
  | revoked
deriving DecidableEq, Repr

namespace CheckResult

def display : CheckResult → String
  | .valid => "valid"
  | .notYetValid => "not yet valid"
  | .expired => "expired"
  | .untrustedIssuer => "untrusted issuer"
  | .revoked => "revoked"

def isValid (result : CheckResult) : Bool := result == .valid

end CheckResult

namespace Certificate

/-! ## Issuer -/

/-- What an authority says of a certificate: nothing unless it is named
as the issuer. -/
def verdictOf? (certificate authority : Certificate) : Option Verdict :=
  if authority.isIssuerOf certificate then
    some ((authority.publicKey?.map certificate.verdict).getD .unreadable)
  else
    none

/-- Whether one of the authorities vouches for something, asking them in turn.  A
signature that cannot be judged ends the search. -/
def isVouchedFor {α : Type} (verdict? : α → Option Verdict) : List α →
    Except TrustFault Bool
  | [] => .ok false
  | authority :: authorities =>
      match verdict? authority with
      | some .genuine => .ok true
      | some .unreadable =>
          .error ((Fault.foreign .signatureFailure).addContext
            "signature verification failed unexpectedly")
      | some .forged | none => isVouchedFor verdict? authorities

def hasTrustedIssuer (certificate : Certificate) (authorities : List Certificate) :
    Except TrustFault Bool :=
  isVouchedFor certificate.verdictOf? authorities

/-! ## Validity -/

def isComparable (instant : Instant) : Bool :=
  let year := (CivilDate.ofDays (instant.seconds / Instant.secondsPerDay)).year
  0 ≤ year && year ≤ 9999

/-- Only whole seconds count, and both ends of the period belong to it. -/
def checkValidity (certificate : Certificate) (instant : Instant) :
    Except TrustFault CheckResult :=
  if isComparable instant then
    match certificate.notBefore.seconds? with
    | none => .error (.foreign .invalidCertificate)
    | some first =>
        if instant.seconds < first then .ok .notYetValid
        else
          match certificate.notAfter.seconds? with
          | none => .error (.foreign .invalidCertificate)
          | some last => .ok (if last < instant.seconds then .expired else .valid)
  else
    .error (.foreign .invalidCertificate)

def checkIssuance (certificate : Certificate) (authorities : List Certificate)
    (instant : Instant) : Except TrustFault CheckResult := do
  if ← certificate.hasTrustedIssuer authorities then
    certificate.checkValidity instant
  else .ok .untrustedIssuer

/-! ## Serial numbers -/

/-- The hexadecimal digits of the bytes of the serial number, after a sign. -/
def serialText (certificate : Certificate) : String :=
  let magnitude := certificate.serialNumber.natAbs
  if magnitude = 0 then "0"
  else
    (if certificate.serialNumber < 0 then "-" else "") ++
      Bytes.hex (Asn1.numberBytes (magnitude + 1) magnitude)

end Certificate

end EndpointDiscovery
