import EndpointDiscovery.Certificate.Extension
import EndpointDiscovery.Certificate.Signature

/-!
# Issuers

Whether one certificate names another one as its issuer.  The signature
is not looked at.
-/

namespace EndpointDiscovery

namespace AuthorityKey

def issuerName? (authority : AuthorityKey) : Option Name :=
  authority.issuer.findSome? fun
    | .directory name => some name
    | .other => none

/-- Whether a certificate with these facts holds the key; what is left out
does not count. -/
def isHeldBy (authority : AuthorityKey) (issuer : Certificate)
    (facts : IssuingFacts) : Bool :=
  (match authority.keyId, facts.subjectKey with
    | some expected, some actual => expected == actual
    | _, _ => true) &&
  (match authority.serialNumber with
    | some expected => expected == issuer.serialNumber
    | none => true) &&
  (match authority.issuerName? with
    | some expected => expected.sameName issuer.issuer
    | none => true)

end AuthorityKey

namespace IssuingFacts

def mayUseKey (facts : IssuingFacts) (mask : UInt8) : Bool :=
  match facts.keyUsage with
  | some uses => uses.headD 0 &&& mask != 0
  | none => true

def signingData : UInt8 := 0x80

def signingCertificates : UInt8 := 0x04

end IssuingFacts

namespace Certificate

def hasKeyFor (issuer certificate : Certificate) : Bool :=
  match issuer.publicKey?,
    SignatureAlgorithm.ofOid? certificate.signedAlgorithm.oid with
  | some key, some algorithm => key.kind = algorithm.keyKind
  | _, _ => false

def isIssuerOf (issuer certificate : Certificate) : Bool :=
  issuer.subject.sameName certificate.issuer &&
  match issuer.issuingFacts?, certificate.issuingFacts? with
  | some issuerFacts, some facts =>
      facts.authorityKey.all (·.isHeldBy issuer issuerFacts) &&
        issuer.hasKeyFor certificate &&
        issuerFacts.mayUseKey
          (if facts.isProxy then IssuingFacts.signingData
            else IssuingFacts.signingCertificates)
  | _, _ => false

end Certificate

end EndpointDiscovery
