import EndpointDiscovery.Asn1.Time
import EndpointDiscovery.Bytes.Hex
import EndpointDiscovery.Certificate.Name
import EndpointDiscovery.Crypto.Sha2

/-!
# Certificates

The fields of a certificate as they are written.  What a field means (a time, a key,
an extension) may still turn out to be unreadable.
-/

namespace EndpointDiscovery

open Asn1 (BitString Element Oid Tag Time)

structure Algorithm where
  oid : Oid
  parameters : Option Element
deriving Repr

namespace Algorithm

def ofElement? (element : Element) : Option Algorithm := do
  match ← Asn1.sequence? element with
  | [oid] => some ⟨← Asn1.oid? oid, none⟩
  | [oid, parameters] => some ⟨← Asn1.oid? oid, some (← Asn1.any? parameters)⟩
  | _ => none

/-- Algorithms are compared by meaning, not by the form of the lengths in them. -/
def same (left right : Algorithm) : Bool :=
  left.oid == right.oid &&
    left.parameters.map (fun value => (value.tag, value.content)) ==
      right.parameters.map (fun value => (value.tag, value.content))

end Algorithm

structure KeyInfo where
  algorithm : Algorithm
  bits : BitString
deriving Repr

def KeyInfo.ofElement? (element : Element) : Option KeyInfo := do
  match ← Asn1.sequence? element with
  | [algorithm, bits] =>
      some ⟨← Algorithm.ofElement? algorithm, ← Asn1.bitString? (.universal 3) bits⟩
  | _ => none

structure Extension where
  oid : Oid
  value : List UInt8
deriving Repr

def Extension.ofElement? (element : Element) : Option Extension := do
  match ← Asn1.sequence? element with
  | [oid, value] => some ⟨← Asn1.oid? oid, ← Asn1.octetString? value⟩
  | [oid, critical, value] => do
      let _ ← Asn1.boolean? critical
      some ⟨← Asn1.oid? oid, ← Asn1.octetString? value⟩
  | _ => none

structure Certificate where
  serialNumber : Int
  signedAlgorithm : Algorithm
  issuer : Name
  notBefore : Time
  notAfter : Time
  subject : Name
  key : KeyInfo
  extensions : List Extension
  signed : List UInt8
  algorithm : Algorithm
  signature : BitString
  algorithmEncoding : List UInt8
deriving Repr

namespace Certificate

def validity? (element : Element) : Option (Time × Time) := do
  match ← Asn1.sequence? element with
  | [notBefore, notAfter] =>
      some (← Time.ofElement? notBefore, ← Time.ofElement? notAfter)
  | _ => none

/-- The optional fields at the end of the signed part: two identifiers that are
passed over, and the extensions. -/
def extensions? (fields : List Element) : Option (List Extension) := do
  let (_, fields) ←
    Asn1.optional? (.contextual 1) (Asn1.bitString? (.contextual 1)) fields
  let (_, fields) ←
    Asn1.optional? (.contextual 2) (Asn1.bitString? (.contextual 2)) fields
  let (extensions, fields) ←
    Asn1.optional? (.contextual 3)
      (Asn1.explicit? (Asn1.sequenceOf? Extension.ofElement?)) fields
  if fields.isEmpty then some (extensions.getD []) else none

def ofParts? (signed algorithm signature : Element) : Option Certificate := do
  let fields ← Asn1.sequence? signed
  let (_, fields) ←
    Asn1.optional? (.contextual 0) (Asn1.explicit? Asn1.integer?) fields
  match fields with
  | serialNumber :: signedAlgorithm :: issuer :: validity :: subject :: key ::
      rest => do
      let (notBefore, notAfter) ← validity? validity
      some {
        serialNumber := ← Asn1.integer? serialNumber
        signedAlgorithm := ← Algorithm.ofElement? signedAlgorithm
        issuer := ← Name.ofElement? issuer
        notBefore, notAfter
        subject := ← Name.ofElement? subject
        key := ← KeyInfo.ofElement? key
        extensions := ← extensions? rest
        signed := signed.encoding
        algorithm := ← Algorithm.ofElement? algorithm
        signature := ← Asn1.bitString? (.universal 3) signature
        algorithmEncoding := algorithm.encoding }
  | _ => none

def ofDer? (bytes : List UInt8) : Option Certificate := do
  let (element, _) ← Asn1.element? bytes
  match ← Asn1.sequence? element with
  | [signed, algorithm, signature] => ofParts? signed algorithm signature
  | _ => none

def der (certificate : Certificate) : List UInt8 :=
  Asn1.encode 0x30
    (certificate.signed ++ certificate.algorithmEncoding ++
      certificate.signature.encode)

def fingerprint (certificate : Certificate) : String :=
  Bytes.hex (Sha256.digest certificate.der)

end Certificate

end EndpointDiscovery
