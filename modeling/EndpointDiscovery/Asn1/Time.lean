import EndpointDiscovery.Asn1.Primitive
import EndpointDiscovery.Time.Civil

/-!
# Times

Times are kept as they are written, with a year of two or of four digits, and
need not be readable.  Seconds may be left out; a time ends with `Z` or an
offset from UTC.
-/

namespace EndpointDiscovery.Asn1

structure Time where
  generalized : Bool
  text : List UInt8
deriving DecidableEq, Repr

namespace Time

def ofElement? (element : Element) : Option Time := do
  let text ← stringContent? stringDepth element
  if element.tag = .universal 23 ∧ 13 ≤ text.length then some ⟨false, text⟩
  else if element.tag = .universal 24 ∧ 15 ≤ text.length then some ⟨true, text⟩
  else none

def isDigit (byte : UInt8) : Bool := 0x30 ≤ byte && byte ≤ 0x39

def pair? (most : Nat) : List UInt8 → Option (Nat × List UInt8)
  | tens :: ones :: rest =>
      let number := (tens.toNat - 0x30) * 10 + (ones.toNat - 0x30)
      if isDigit tens ∧ isDigit ones ∧ number ≤ most then
        some (number, rest)
      else
        none
  | _ => none

/-- Years of two digits are those from 1950 to 2049. -/
def year? (generalized : Bool) (input : List UInt8) :
    Option (Nat × List UInt8) := do
  let (first, rest) ← pair? 99 input
  if generalized then do
    let (second, rest) ← pair? 99 rest
    some (first * 100 + second, rest)
  else
    some (if first < 50 then 2000 + first else 1900 + first, rest)

def startsZone (byte : UInt8) : Bool :=
  byte = 0x5A || byte = 0x2B || byte = 0x2D

def second? (input : List UInt8) : Option (Nat × List UInt8) :=
  if input.head?.any startsZone then some (0, input) else pair? 59 input

/-- Decimals of a second are allowed after a year of four digits, and
do not count. -/
def skipFraction? (generalized : Bool) (input : List UInt8) : Option (List UInt8) :=
  match input with
  | 0x2E :: rest =>
      if generalized ∧ rest.head?.any isDigit then
        some (rest.dropWhile isDigit)
      else
        none
  | _ => some input

def zone? : List UInt8 → Option Int
  | [0x5A] => some 0
  | sign :: rest => do
      let (hours, rest) ← pair? 12 rest
      let (minutes, rest) ← pair? 59 rest
      let seconds : Int := hours * 3600 + minutes * 60
      if rest.isEmpty then
        if sign = 0x2B then
          some seconds
        else if sign = 0x2D then
          some (-seconds)
        else
          none
      else
        none
  | [] => none

/-- Seconds since 1970.  A time with an offset must lie in the years 1900
to 9999 of UTC. -/
def seconds? (time : Time) : Option Int := do
  let (year, rest) ← year? time.generalized time.text
  let (month, rest) ← pair? 12 rest
  let (day, rest) ← pair? 31 rest
  let (hour, rest) ← pair? 23 rest
  let (minute, rest) ← pair? 59 rest
  let (second, rest) ← second? rest
  let rest ← skipFraction? time.generalized rest
  let offset ← zone? rest
  let date : CivilDate := ⟨year, month, day⟩
  let seconds := date.toDays * 86400 + hour * 3600 + minute * 60 + second - offset
  let utcYear := (CivilDate.ofDays (seconds / 86400)).year
  if date.isValid ∧ (offset = 0 ∨ (1900 ≤ utcYear ∧ utcYear ≤ 9999)) then
    some seconds
  else
    none

end Time

end EndpointDiscovery.Asn1
