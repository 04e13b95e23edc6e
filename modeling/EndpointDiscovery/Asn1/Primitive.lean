import EndpointDiscovery.Asn1.Element

/-!
# Standard types

Readers for elements of the standard types.  Each takes an element and returns its
value, or nothing if the element is of another type or breaks the rules of the
type.  The `content` readers look at the bytes only, for elements whose tag was
given by the context.
-/

namespace EndpointDiscovery.Asn1

/-! ## Integers and truth values -/

/-- A number in two's complement with the fewest bytes. -/
def integerContent? : List UInt8 → Option Int
  | [] => none
  | [byte] => some (if byte < 0x80 then (byte.toNat : Int) else byte.toNat - 256)
  | first :: second :: rest =>
      if (first = 0 ∧ second < 0x80) ∨ (first = 0xFF ∧ 0x80 ≤ second) then none
      else
        let number : Int := Bytes.toNat (first :: second :: rest)
        some (if first < 0x80 then number
          else number - Nat.pow 256 (rest.length + 2))

def primitive? {α : Type} (tag : Tag) (read : List UInt8 → Option α)
    (element : Element) :
    Option α :=
  if element.tag = tag ∧ !element.constructed then read element.content else none

def integer? : Element → Option Int :=
  primitive? (.universal 2) integerContent?

def booleanContent? : List UInt8 → Option Bool
  | [byte] => some (byte ≠ 0)
  | _ => none

def boolean? : Element → Option Bool :=
  primitive? (.universal 1) booleanContent?

/-! ## Object identifiers -/

abbrev Oid := List Nat

def groupedNumbers? : Option Nat → List UInt8 → Option (List Nat)
  | none, [] => some []
  | some _, [] => none
  | sum, byte :: rest =>
      if sum.isNone ∧ byte = 0x80 then none
      else
        let number := sum.getD 0 * 128 + byte.toNat % 128
        if byte < 0x80 then (groupedNumbers? none rest).map (number :: ·)
        else groupedNumbers? (some number) rest

/-- The first two numbers share one place. -/
def oidContent? (content : List UInt8) : Option Oid := do
  match ← groupedNumbers? none content with
  | [] => none
  | first :: rest =>
      some (min (first / 40) 2 :: (first - 40 * min (first / 40) 2) :: rest)

def oid? : Element → Option Oid :=
  primitive? (.universal 6) oidContent?

/-! ## Strings -/

def stringDepth : Nat := 6

def stringContent? : Nat → Element → Option (List UInt8)
  | 0, element => if element.constructed then none else some element.content
  | depth + 1, element =>
      if element.constructed then do
        let parts ← elements? element.content
        let contents ← parts.mapM (stringContent? depth)
        some contents.flatten
      else
        some element.content

def string? (tag : Tag) (element : Element) : Option (List UInt8) :=
  if element.tag = tag then stringContent? stringDepth element else none

def octetString? : Element → Option (List UInt8) :=
  string? (.universal 4)

/-- Bits in whole bytes; the last `unused` of them are zero and do not count. -/
structure BitString where
  unused : Nat
  bytes : List UInt8
deriving DecidableEq, Repr

def clearUnused (unused : Nat) (bytes : List UInt8) : List UInt8 :=
  match bytes.getLast? with
  | none => []
  | some last => bytes.dropLast ++ [UInt8.ofNat (last.toNat >>> unused <<< unused)]

def bitStringContent? : List UInt8 → Option BitString
  | [] => none
  | unused :: bytes =>
      if unused < 8 then
        some ⟨unused.toNat, clearUnused unused.toNat bytes⟩
      else
        none

def bitString? (tag : Tag) (element : Element) : Option BitString :=
  (string? tag element).bind bitStringContent?

def BitString.encode (bits : BitString) : List UInt8 :=
  Asn1.encode 0x03 (UInt8.ofNat bits.unused :: bits.bytes)

/-! ## Sequences -/

def sequence? (element : Element) : Option (List Element) :=
  if element.tag = .universal 16 ∧ element.constructed then
    elements? element.content
  else
    none

def listOf? {α : Type} (tag : Tag) (read : Element → Option α) (element : Element) :
    Option (List α) :=
  if element.tag = tag then (elements? element.content).bind (·.mapM read) else none

def sequenceOf? {α : Type} (read : Element → Option α) :
    Element → Option (List α) :=
  listOf? (.universal 16) read

def setOf? {α : Type} (read : Element → Option α) : Element → Option (List α) :=
  listOf? (.universal 17) read

def explicit? {α : Type} (read : Element → Option α)
    (element : Element) : Option α :=
  if element.constructed then
    match elements? element.content with
    | some [inner] => read inner
    | _ => none
  else
    none

def optional? {α : Type} (tag : Tag) (read : Element → Option α) :
    List Element → Option (Option α × List Element)
  | [] => some (none, [])
  | element :: elements =>
      if element.tag = tag then (read element).map (some ·, elements)
      else some (none, element :: elements)

/-! ## Values of any type -/

/-- Whether an element of any standard type obeys the rules of its type. -/
def isWellFormed (element : Element) : Bool :=
  if element.tag.tagClass = .universal then
    match element.tag.number with
    | 1 => (boolean? element).isSome
    | 2 | 10 => !element.constructed && (integerContent? element.content).isSome
    | 3 => (bitString? element.tag element).isSome
    | 5 => !element.constructed && element.content.isEmpty
    | 6 => (oid? element).isSome
    | 16 | 17 => element.constructed
    | number =>
        match stringContent? stringDepth element with
        | none => false
        | some content =>
            (number ≠ 30 || content.length % 2 = 0) &&
            (number ≠ 28 || content.length % 4 = 0) &&
              (number ≠ 23 || 13 ≤ content.length) &&
              (number ≠ 24 || 15 ≤ content.length)
  else
    true

def any? (element : Element) : Option Element :=
  if isWellFormed element then some element else none

end EndpointDiscovery.Asn1
