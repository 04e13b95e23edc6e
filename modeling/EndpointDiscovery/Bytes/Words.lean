/-!
# Bytes and words

Numbers as byte sequences of either order, rotations, and the padding that hash
functions share.
-/

namespace EndpointDiscovery.Bytes

def littleEndian : Nat → Nat → List UInt8
  | 0, _ => []
  | count + 1, number => UInt8.ofNat number :: littleEndian count (number / 256)

def bigEndian (count number : Nat) : List UInt8 :=
  (littleEndian count number).reverse

def toNat (bytes : List UInt8) : Nat :=
  bytes.foldl (fun sum byte => sum * 256 + byte.toNat) 0

def rotateLeft (word count : UInt32) : UInt32 :=
  (word <<< count) ||| (word >>> (32 - count))

def rotateRight (word count : UInt32) : UInt32 :=
  (word >>> count) ||| (word <<< (32 - count))

def rotateRight64 (word count : UInt64) : UInt64 :=
  (word >>> count) ||| (word <<< (64 - count))

def chunks {α : Type} : Nat → Nat → List α → List (List α)
  | 0, _, _ => []
  | count + 1, size, items => items.take size :: chunks count size (items.drop size)

def bigWords (block : List UInt8) : List UInt32 :=
  (chunks (block.length / 4) 4 block).map fun bytes => UInt32.ofNat (toNat bytes)

def littleWords (block : List UInt8) : List UInt32 :=
  (chunks (block.length / 4) 4 block).map fun bytes =>
    UInt32.ofNat (toNat bytes.reverse)

/-- A message followed by a mark, the fewest zeros and its length, in
whole blocks. -/
def padBlocks (blockSize : Nat) (message lengthField : List UInt8) : List UInt8 :=
  let taken := message.length % blockSize + 1 + lengthField.length
  message ++ 0x80 :: List.replicate ((2 * blockSize - taken) % blockSize) 0 ++
  lengthField

end EndpointDiscovery.Bytes
