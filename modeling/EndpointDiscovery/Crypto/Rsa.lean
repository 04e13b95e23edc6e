import EndpointDiscovery.Bytes.Words
import EndpointDiscovery.Crypto.Residue

/-!
# RSA signatures

A signature is a number whose power is the padded digest.  The padding says
which digest it is.
-/

namespace EndpointDiscovery.Rsa

structure Key where
  modulus : Nat
  exponent : Nat
deriving DecidableEq, Repr

namespace Key

def size (key : Key) : Nat :=
  (Residue.bitLength key.modulus + 7) / 8

end Key

/-- The digest after its mark, filled up in front to a size. -/
def padded (size : Nat) (digestMark digest : List UInt8) : List UInt8 :=
  let content := 0 :: digestMark ++ digest
  0 :: 1 :: List.replicate (size - content.length - 2) 0xFF ++ content

def verifies (key : Key) (digestMark digest signature : List UInt8) : Bool :=
  let number := Bytes.toNat signature
  signature.length == key.size &&
  digestMark.length + digest.length + 11 ≤ key.size &&
    number < key.modulus && key.exponent < key.modulus &&
    Bytes.bigEndian key.size (Residue.power key.modulus number key.exponent) ==
      padded key.size digestMark digest

end EndpointDiscovery.Rsa
