import EndpointDiscovery.Certificate.Basic
import EndpointDiscovery.Crypto.Curve
import EndpointDiscovery.Crypto.Md5
import EndpointDiscovery.Crypto.Rsa
import EndpointDiscovery.Crypto.Sha1

/-!
# Keys and signatures

The public key of a certificate, and the verdict of a key on the signature
of a certificate.
-/

namespace EndpointDiscovery

open Asn1 (Oid)

/-! ## Public keys -/

inductive KeyKind where
  | curve
  | rsa
deriving DecidableEq, Repr

inductive PublicKey where
  | curve (point : Curve.Point)
  | rsa (key : Rsa.Key)
deriving Repr

namespace PublicKey

def kind : PublicKey → KeyKind
  | .curve _ => .curve
  | .rsa _ => .rsa

def curveOid : Oid := [1, 2, 840, 10045, 2, 1]

def p256Oid : Oid := [1, 2, 840, 10045, 3, 1, 7]

def rsaOid : Oid := [1, 2, 840, 113549, 1, 1, 1]

def natural? : Asn1.Element → Option Nat :=
  Asn1.primitive? (.universal 2) fun content => some (Bytes.toNat content)

def rsaKey? (bytes : List UInt8) : Option Rsa.Key := do
  let (element, _) ← Asn1.element? bytes
  match ← Asn1.sequence? element with
  | [modulus, exponent] => some ⟨← natural? modulus, ← natural? exponent⟩
  | _ => none

def ofKeyInfo? (info : KeyInfo) : Option PublicKey :=
  if info.algorithm.oid = curveOid then do
    let parameters ← info.algorithm.parameters
    if Asn1.oid? parameters = some p256Oid then
      (Curve.pointOf? info.bits.bytes).map .curve
    else none
  else if info.algorithm.oid = rsaOid then (rsaKey? info.bits.bytes).map .rsa
  else none

end PublicKey

/-! ## Algorithms

Signatures are verified by keys on P-256 and by RSA keys with the padding of PKCS
#1 v1.5, under MD5, SHA-1 and the digests of the SHA-2 family.  Of the others,
RSA-PSS, MD2, MD4 and SHA-3 are known by name only, and a signature that is made
with one of them counts as forged.  Keys of other kinds and on other curves, and
curves that are written out, are not read at all, so that an authority with such a
key issues nothing. -/

inductive Digest where
  | md5
  | sha1
  | sha224
  | sha256
  | sha384
  | sha512
  | sha512Cut224
  | sha512Cut256
  | unsupported
deriving DecidableEq, Repr

namespace Digest

def compute? : Digest → Option (List UInt8 → List UInt8)
  | .md5 => some Md5.digest
  | .sha1 => some Sha1.digest
  | .sha224 => some Sha256.digest224
  | .sha256 => some Sha256.digest
  | .sha384 => some Sha512.digest384
  | .sha512 => some Sha512.digest
  | .sha512Cut224 => some Sha512.digest224
  | .sha512Cut256 => some Sha512.digest256
  | .unsupported => none

def sha2Mark (number size : UInt8) : List UInt8 :=
  [0x30, 0x11 + size, 0x30, 0x0D, 0x06, 0x09, 0x60, 0x86, 0x48, 0x01, 0x65,
    0x03, 0x04, 0x02, number, 0x05, 0x00, 0x04, size]

def mark : Digest → List UInt8
  | .md5 =>
      [0x30, 0x20, 0x30, 0x0C, 0x06, 0x08, 0x2A, 0x86, 0x48, 0x86, 0xF7, 0x0D, 0x02,
        0x05, 0x05, 0x00, 0x04, 0x10]
  | .sha1 =>
      [0x30, 0x21, 0x30, 0x09, 0x06, 0x05, 0x2B, 0x0E, 0x03, 0x02, 0x1A, 0x05, 0x00,
        0x04, 0x14]
  | .sha224 => sha2Mark 4 28
  | .sha256 => sha2Mark 1 32
  | .sha384 => sha2Mark 2 48
  | .sha512 => sha2Mark 3 64
  | .sha512Cut224 => sha2Mark 5 28
  | .sha512Cut256 => sha2Mark 6 32
  | .unsupported => []

end Digest

structure SignatureAlgorithm where
  digest : Digest
  keyKind : KeyKind
deriving DecidableEq, Repr

namespace SignatureAlgorithm

def ofOid? : Oid → Option SignatureAlgorithm
  | [1, 2, 840, 10045, 4, 1] => some ⟨.sha1, .curve⟩
  | [1, 2, 840, 10045, 4, 3, 1] => some ⟨.sha224, .curve⟩
  | [1, 2, 840, 10045, 4, 3, 2] => some ⟨.sha256, .curve⟩
  | [1, 2, 840, 10045, 4, 3, 3] => some ⟨.sha384, .curve⟩
  | [1, 2, 840, 10045, 4, 3, 4] => some ⟨.sha512, .curve⟩
  | [1, 2, 840, 113549, 1, 1, 4] => some ⟨.md5, .rsa⟩
  | [1, 2, 840, 113549, 1, 1, 5] => some ⟨.sha1, .rsa⟩
  | [1, 2, 840, 113549, 1, 1, 11] => some ⟨.sha256, .rsa⟩
  | [1, 2, 840, 113549, 1, 1, 12] => some ⟨.sha384, .rsa⟩
  | [1, 2, 840, 113549, 1, 1, 13] => some ⟨.sha512, .rsa⟩
  | [1, 2, 840, 113549, 1, 1, 14] => some ⟨.sha224, .rsa⟩
  | [1, 2, 840, 113549, 1, 1, 15] => some ⟨.sha512Cut224, .rsa⟩
  | [1, 2, 840, 113549, 1, 1, 16] => some ⟨.sha512Cut256, .rsa⟩
  | [1, 2, 840, 113549, 1, 1, number] =>
      if number ∈ [2, 3, 10] then some ⟨.unsupported, .rsa⟩ else none
  | [2, 16, 840, 1, 101, 3, 4, 3, number] =>
      if number ∈ [9, 10, 11, 12] then some ⟨.unsupported, .curve⟩
      else if number ∈ [13, 14, 15, 16] then some ⟨.unsupported, .rsa⟩
      else none
  | _ => none

end SignatureAlgorithm

/-! ## Verifying -/

inductive Verdict where
  | genuine
  | forged
  /-- The signature has no readable form, or the key gives no answer to it. -/
  | unreadable
deriving DecidableEq, Repr

namespace Verdict

def ofBool : Bool → Verdict
  | true => .genuine
  | false => .forged

end Verdict

def encodeNatural (number : Nat) : List UInt8 :=
  let digits := Asn1.numberBytes (number + 1) number
  Asn1.encode 0x02 (if digits.head?.all (0x80 ≤ ·) then 0 :: digits else digits)

/-- The two numbers of a signature, which must be encoded in the only way. -/
def signatureNumbers? (bytes : List UInt8) : Option (Nat × Nat) := do
  let (element, _) ← Asn1.element? bytes
  match ← (← Asn1.sequence? element).mapM Asn1.integer? with
  | [r, s] =>
      if 0 ≤ r ∧ 0 ≤ s ∧
          Asn1.encode 0x30 (encodeNatural r.toNat ++ encodeNatural s.toNat) =
            bytes then
        some (r.toNat, s.toNat)
      else none
  | _ => none

namespace PublicKey

def verdict (key : PublicKey) (digest : Digest)
    (message signature : List UInt8) : Verdict :=
  match key with
  | .curve point =>
      if signature.isEmpty then .forged
      else
        match signatureNumbers? signature, digest.compute? with
        | none, _ => .unreadable
        | some _, none => .forged
        | some (r, s), some compute =>
            ((Curve.verifies? point (compute message) r s).map .ofBool).getD
              .unreadable
  | .rsa key =>
      match digest.compute? with
      | none => .forged
      | some compute =>
          .ofBool (Rsa.verifies key digest.mark (compute message) signature)

end PublicKey

namespace Certificate

def publicKey? (certificate : Certificate) : Option PublicKey :=
  PublicKey.ofKeyInfo? certificate.key

/-- What a key says of the signature of a certificate.  The two places that name the
algorithm must agree, and the signature must consist of whole bytes. -/
def verdict (certificate : Certificate) (key : PublicKey) : Verdict :=
  if !certificate.algorithm.same certificate.signedAlgorithm then .forged
  else if certificate.signature.unused ≠ 0 then .unreadable
  else
    match SignatureAlgorithm.ofOid? certificate.algorithm.oid with
    | none => .unreadable
    | some algorithm =>
        if algorithm.keyKind = key.kind then
          key.verdict algorithm.digest certificate.signed
            certificate.signature.bytes
        else .unreadable

end Certificate

end EndpointDiscovery
