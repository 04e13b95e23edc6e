import EndpointDiscovery.Bytes.Words

/-!
# Base32 without padding
-/

namespace EndpointDiscovery.Bytes.Base32

def alphabet : List Char := "ABCDEFGHIJKLMNOPQRSTUVWXYZ234567".toList

def bits (byte : UInt8) : List Bool :=
  (List.range 8).map fun place => byte.toNat.testBit (7 - place)

/-- The digit of up to five bits; missing ones count as zero. -/
def digit (group : List Bool) : Char :=
  let padded := group ++ List.replicate (5 - group.length) false
  alphabet.getD (padded.foldl (fun sum bit => 2 * sum + bit.toNat) 0) 'A'

def encode (bytes : List UInt8) : String :=
  let stream := bytes.flatMap bits
  String.ofList ((chunks ((stream.length + 4) / 5) 5 stream).map digit)

end EndpointDiscovery.Bytes.Base32
