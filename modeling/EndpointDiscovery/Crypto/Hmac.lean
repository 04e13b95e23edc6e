import EndpointDiscovery.Bytes.Words

/-!
# Keyed digests

A digest is keyed by the construction HMAC.  Keys are derived from passwords by
repeated keyed digests, or by repeated digests of the repeated password.
-/

namespace EndpointDiscovery

abbrev DigestFunction := List UInt8 → List UInt8

def digestBlock : Nat := 64

def hmac (digest : DigestFunction) (key message : List UInt8) : List UInt8 :=
  let key := if digestBlock < key.length then digest key else key
  let key := key ++ List.replicate (digestBlock - key.length) 0
  digest (key.map (· ^^^ 0x5C) ++ digest (key.map (· ^^^ 0x36) ++ message))

namespace Pbkdf2

def chain (mac : List UInt8 → List UInt8) : Nat → List UInt8 → List UInt8 →
    List UInt8
  | 0, _, sum => sum
  | count + 1, last, sum =>
      let next := mac last
      chain mac count next (List.zipWith (· ^^^ ·) sum next)

def block (digest : DigestFunction) (password salt : List UInt8)
    (iterations index : Nat) :
    List UInt8 :=
  let mac := hmac digest password
  let first := mac (salt ++ Bytes.bigEndian 4 index)
  chain mac (iterations - 1) first first

def derive (digest : DigestFunction) (password salt : List UInt8)
    (iterations length : Nat) :
    List UInt8 :=
  ((List.range length).flatMap fun index =>
    if index * (digest []).length < length then
      block digest password salt iterations (index + 1)
    else []).take length

end Pbkdf2

namespace StoreKey

def fill (bytes : List UInt8) : List UInt8 :=
  let size := (bytes.length + digestBlock - 1) / digestBlock * digestBlock
  (List.replicate size bytes).flatten.take size

def repeatDigest (digest : DigestFunction) : Nat → List UInt8 → List UInt8
  | 0, bytes => bytes
  | count + 1, bytes => repeatDigest digest count (digest bytes)

def derive (digest : DigestFunction) (purpose : UInt8) (password salt : List UInt8)
    (iterations : Nat) : List UInt8 :=
  repeatDigest digest iterations
    (List.replicate digestBlock purpose ++ fill salt ++ fill password)

end StoreKey

end EndpointDiscovery
