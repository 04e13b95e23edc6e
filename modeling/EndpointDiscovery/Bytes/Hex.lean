/-!
# Hexadecimal text
-/

namespace EndpointDiscovery.Bytes

def lowerHexDigit (number : Nat) : Char :=
  if number < 10 then Char.ofNat (0x30 + number) else Char.ofNat (0x57 + number)

def hex (bytes : List UInt8) : String :=
  String.ofList (bytes.flatMap fun byte =>
    [lowerHexDigit (byte.toNat / 16), lowerHexDigit (byte.toNat % 16)])

end EndpointDiscovery.Bytes
