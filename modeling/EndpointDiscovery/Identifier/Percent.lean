import EndpointDiscovery.Text.Utf8

/-!
# Percent encoding

Every byte of the UTF-8 form that is not an unreserved URI character is written as
`%` and two upper-case hexadecimal digits.  Decoding refuses an escape without two
hexadecimal digits and escapes that do not spell UTF-8.
-/

namespace EndpointDiscovery.Percent

def isUnreserved (byte : UInt8) : Bool :=
  (0x30 ≤ byte && byte ≤ 0x39) || (0x41 ≤ byte && byte ≤ 0x5A) ||
    (0x61 ≤ byte && byte ≤ 0x7A) || byte = 0x2D || byte = 0x2E || byte = 0x5F ||
    byte = 0x7E

def hexDigit (number : Nat) : Char :=
  if number < 10 then Char.ofNat (0x30 + number) else Char.ofNat (0x37 + number)

def hexValue? (byte : UInt8) : Option Nat :=
  if 0x30 ≤ byte ∧ byte ≤ 0x39 then some (byte.toNat - 0x30)
  else if 0x41 ≤ byte ∧ byte ≤ 0x46 then some (byte.toNat - 0x37)
  else if 0x61 ≤ byte ∧ byte ≤ 0x66 then some (byte.toNat - 0x57)
  else none

def escapeByte (byte : UInt8) : List Char :=
  ['%', hexDigit (byte.toNat / 16), hexDigit (byte.toNat % 16)]

def encodeByte (byte : UInt8) : List Char :=
  if isUnreserved byte then [Char.ofNat byte.toNat] else escapeByte byte

def encode (text : String) : String :=
  String.ofList ((Text.Utf8.encodeString text).flatMap encodeByte)

/-- The bytes that a text with escapes stands for; the first malformed escape is
reported by its position. -/
def unescape (position : Nat) : List UInt8 → Except Nat (List UInt8)
  | [] => .ok []
  | 0x25 :: high :: low :: rest =>
      match hexValue? high, hexValue? low with
      | some upper, some lower =>
          (unescape (position + 3) rest).map (UInt8.ofNat (upper * 16 + lower) :: ·)
      | _, _ => .error position
  | byte :: rest =>
      if byte = 0x25 then
        .error position
      else
        (unescape (position + 1) rest).map (byte :: ·)

inductive DecodeError where
  | malformedEscape (position : Nat)
  | notUtf8
deriving DecidableEq, Repr

def decode (text : String) : Except DecodeError String :=
  match unescape 0 (Text.Utf8.encodeString text) with
  | .error position => .error (.malformedEscape position)
  | .ok bytes =>
      match Text.Utf8.decode? bytes with
      | some characters => .ok (String.ofList characters)
      | none => .error .notUtf8

end EndpointDiscovery.Percent
