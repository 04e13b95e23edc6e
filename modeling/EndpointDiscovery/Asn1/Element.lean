import EndpointDiscovery.Bytes.Words

/-!
# Tagged elements

An element is a tag, a length and that many bytes of content.  Tags and lengths are
read in every form of the basic encoding rules, and written in the shortest one.
-/

namespace EndpointDiscovery.Asn1

inductive TagClass where
  | universal
  | application
  | contextual
  | privateUse
deriving DecidableEq, Repr

structure Tag where
  tagClass : TagClass
  number : Nat
deriving DecidableEq, Repr

def Tag.universal (number : Nat) : Tag := ⟨.universal, number⟩

def Tag.contextual (number : Nat) : Tag := ⟨.contextual, number⟩

structure Element where
  tag : Tag
  constructed : Bool
  content : List UInt8
  encoding : List UInt8
deriving DecidableEq, Repr

structure Header where
  tag : Tag
  constructed : Bool
  /-- The number of bytes of content; without one an end mark closes the content. -/
  length? : Option Nat

/-! ## Reading -/

def tagClassOf (first : UInt8) : TagClass :=
  if first < 0x40 then .universal
  else if first < 0x80 then .application
  else if first < 0xC0 then .contextual
  else .privateUse

def groupedNumber? (sum : Nat) : List UInt8 → Option (Nat × List UInt8)
  | [] => none
  | byte :: rest =>
      if byte < 0x80 then some (sum * 128 + byte.toNat, rest)
      else
        let sum := sum * 128 + (byte.toNat - 0x80)
        if sum < 0x1000000 then groupedNumber? sum rest else none

def tagNumber? (first : UInt8) (rest : List UInt8) : Option (Nat × List UInt8) :=
  if first.toNat % 32 = 31 then
    groupedNumber? 0 rest
  else
    some (first.toNat % 32, rest)

/-- A length that is written with several bytes must not be the last thing
of the input. -/
def length? : List UInt8 → Option (Option Nat × List UInt8)
  | [] => none
  | first :: rest =>
      if first < 0x80 then some (some first.toNat, rest)
      else if first = 0x80 then some (none, rest)
      else
        let count := first.toNat - 0x80
        let length := Bytes.toNat (rest.take count)
        if count < rest.length ∧ length < 0x8000000000000000 then
          some (some length, rest.drop count)
        else none

def header? : List UInt8 → Option (Header × List UInt8)
  | [] => none
  | first :: rest => do
      let (number, rest) ← tagNumber? first rest
      let (length, rest) ← length? rest
      let constructed := first.toNat / 32 % 2 = 1
      if length.isSome then
        if length.getD 0 ≤ rest.length then
          some (⟨⟨tagClassOf first, number⟩, constructed, length⟩, rest)
        else none
      else if constructed then
        some (⟨⟨tagClassOf first, number⟩, constructed, none⟩, rest)
      else none

/-- What follows the end mark that closes `open` elements. -/
def skipOpen? : Nat → Nat → List UInt8 → Option (List UInt8)
  | 0, _, _ => none
  | _ + 1, 0, rest => some rest
  | fuel + 1, pending + 1, 0 :: 0 :: rest => skipOpen? fuel pending rest
  | fuel + 1, pending + 1, rest =>
      match header? rest with
      | none => none
      | some (⟨_, _, some length⟩, rest) =>
          skipOpen? fuel (pending + 1) (rest.drop length)
      | some (⟨_, _, none⟩, rest) => skipOpen? fuel (pending + 2) rest

def element? (input : List UInt8) : Option (Element × List UInt8) := do
  let (header, start) ← header? input
  match header.length? with
  | some length =>
      let rest := start.drop length
      some (⟨header.tag, header.constructed, start.take length,
        input.take (input.length - rest.length)⟩, rest)
  | none => do
      let rest ← skipOpen? (start.length + 1) 1 start
      some
        (⟨header.tag, header.constructed,
          start.take (start.length - rest.length - 2),
          input.take (input.length - rest.length)⟩, rest)

def elementsWithin? : Nat → List UInt8 → Option (List Element)
  | _, [] => some []
  | 0, _ => none
  | fuel + 1, input => do
      let (element, rest) ← element? input
      let elements ← elementsWithin? fuel rest
      some (element :: elements)

def elements? (input : List UInt8) : Option (List Element) :=
  elementsWithin? input.length input

/-! ## Writing -/

def numberBytes : Nat → Nat → List UInt8
  | 0, _ => []
  | fuel + 1, number =>
      if number = 0 then
        []
      else
        numberBytes fuel (number / 256) ++ [UInt8.ofNat number]

def encodeLength (length : Nat) : List UInt8 :=
  if length < 0x80 then [UInt8.ofNat length]
  else
    let digits := numberBytes 8 length
    UInt8.ofNat (0x80 + digits.length) :: digits

def encode (first : UInt8) (content : List UInt8) : List UInt8 :=
  first :: encodeLength content.length ++ content

end EndpointDiscovery.Asn1
