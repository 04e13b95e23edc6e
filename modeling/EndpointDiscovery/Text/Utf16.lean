/-!
# UTF-16

Two bytes make a unit, and two units of the surrogate ranges make a character.  A
surrogate without its partner and a byte left over are malformed.
-/

namespace EndpointDiscovery.Text.Utf16

inductive ByteOrder where
  | bigEndian
  | littleEndian
deriving DecidableEq, Repr

def unit (order : ByteOrder) (first second : UInt8) : Nat :=
  match order with
  | .bigEndian => first.toNat * 256 + second.toNat
  | .littleEndian => second.toNat * 256 + first.toNat

def isLead (unit : Nat) : Bool := 0xD800 ≤ unit && unit < 0xDC00

def isTrail (unit : Nat) : Bool := 0xDC00 ≤ unit && unit < 0xE000

def pair (lead trail : Nat) : Char :=
  Char.ofNat (0x10000 + (lead - 0xD800) * 0x400 + (trail - 0xDC00))

def single (unit : Nat) : Char :=
  if isTrail unit then '\uFFFD' else Char.ofNat unit

/-- Decodes with `lead?`, a lead that waits for its trail.  Malformed parts become
the replacement character. -/
def decodeAfter (order : ByteOrder) (lead? : Option Nat) : List UInt8 → List Char
  | first :: second :: rest =>
      let next := unit order first second
      match lead? with
      | none =>
          if isLead next then decodeAfter order (some next) rest
          else single next :: decodeAfter order none rest
      | some lead =>
          if isTrail next then pair lead next :: decodeAfter order none rest
          else if isLead next then '\uFFFD' :: decodeAfter order (some next) rest
          else '\uFFFD' :: single next :: decodeAfter order none rest
  | [_] => ['\uFFFD']
  | [] => if lead?.isSome then ['\uFFFD'] else []

def decode (order : ByteOrder) (bytes : List UInt8) : List Char :=
  decodeAfter order none bytes

end EndpointDiscovery.Text.Utf16
