import EndpointDiscovery.Certificate.AttributeType
import EndpointDiscovery.Text.Utf8

/-!
# Names

The name of a subject or an issuer is a list of sets of attributes.  Names are
compared by their canonical form, in which texts have lost the differences of string
type, case and blanks.
-/

namespace EndpointDiscovery

open Asn1 (Element Oid Tag)

/-! ## Attributes -/

structure NameAttribute where
  type : Oid
  stringType : Nat
  content : List UInt8
deriving DecidableEq, Repr

namespace NameAttribute

def valueTypes : List Nat :=
  [3, 7, 8, 9, 11, 12, 13, 14, 15, 16, 18, 19, 20, 22, 28, 29, 30]

def content? (value : Element) : Option (List UInt8) :=
  if Asn1.isWellFormed value then
    match value.tag.number with
    | 16 => some value.encoding
    | 3 => (Asn1.bitString? value.tag value).map fun bits =>
        UInt8.ofNat bits.unused :: bits.bytes
    | _ => Asn1.stringContent? Asn1.stringDepth value
  else
    none

def ofElement? (element : Element) : Option NameAttribute := do
  match ← Asn1.sequence? element with
  | [type, value] =>
      if value.tag.tagClass = .universal ∧ value.tag.number ∈ valueTypes then
        some ⟨← Asn1.oid? type, value.tag.number, ← content? value⟩
      else none
  | _ => none

def wideText? (size : Nat) (content : List UInt8) : Option (List Char) :=
  (Bytes.chunks (content.length / size) size content).mapM fun unit =>
    let code := Bytes.toNat unit
    if code.isValidChar then some (Char.ofNat code) else none

def characters? (entry : NameAttribute) : Option (List Char) :=
  match entry.stringType with
  | 12 => Text.Utf8.decode? entry.content
  | 18 | 19 | 20 | 22 => some (entry.content.map fun byte => Char.ofNat byte.toNat)
  | 28 => wideText? 4 entry.content
  | 30 => wideText? 2 entry.content
  | _ => none

/-- The value as a text, which ends before the first NUL. -/
def text? (entry : NameAttribute) : Option String :=
  entry.characters?.map fun characters =>
    String.ofList (characters.takeWhile (· ≠ '\x00'))

end NameAttribute

/-! ## Canonical form -/

inductive CanonicalValue where
  | text (characters : List Char)
  | other (stringType : Nat) (content : List UInt8)
deriving DecidableEq, Repr

namespace NameAttribute

def isAsciiBlank (character : Char) : Bool :=
  character = ' ' || ('\t' ≤ character && character ≤ '\r')

def lowerAscii (character : Char) : Char :=
  if 'A' ≤ character ∧ character ≤ 'Z' then
    Char.ofNat (character.toNat + 32)
  else
    character

def collapse (afterBlank : Bool) : List Char → List Char
  | [] => []
  | character :: rest =>
      if isAsciiBlank character then
        if afterBlank then collapse true rest else ' ' :: collapse true rest
      else lowerAscii character :: collapse false rest

def trimBlanks (characters : List Char) : List Char :=
  ((characters.dropWhile isAsciiBlank).reverse.dropWhile isAsciiBlank).reverse

def textTypes : List Nat := [12, 19, 20, 22, 28, 30]

def canonical? (entry : NameAttribute) : Option (Oid × CanonicalValue) :=
  if entry.stringType ∈ textTypes then
    entry.characters?.map fun characters =>
      (entry.type, .text (collapse false (trimBlanks characters)))
  else
    some (entry.type, .other entry.stringType entry.content)

end NameAttribute

/-! ## Names -/

structure Name where
  parts : List (List NameAttribute)
deriving DecidableEq, Repr

namespace Name

def attributes (name : Name) : List NameAttribute := name.parts.flatten

/-- Empty parts do not count. -/
def canonical? (name : Name) : Option (List (List (Oid × CanonicalValue))) :=
  (name.parts.filter (!·.isEmpty)).mapM (·.mapM NameAttribute.canonical?)

def ofElement? (element : Element) : Option Name := do
  let parts ← Asn1.sequenceOf? (Asn1.setOf? NameAttribute.ofElement?) element
  if (canonical? ⟨parts⟩).isSome then some ⟨parts⟩ else none

def sameParts {α : Type} [BEq α] : List (List α) → List (List α) → Bool
  | [], [] => true
  | left :: lefts, right :: rights => left.isPerm right && sameParts lefts rights
  | _, _ => false

def sameName (left right : Name) : Bool :=
  match left.canonical?, right.canonical? with
  | some left, some right => sameParts left right
  | _, _ => false

def values (name : Name) (type : Oid) : List NameAttribute :=
  name.attributes.filter (·.type = type)

end Name

end EndpointDiscovery
