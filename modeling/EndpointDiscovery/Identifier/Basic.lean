import EndpointDiscovery.Identifier.Kind
import EndpointDiscovery.Identifier.Percent

/-!
# Identifiers

An identifier is a kind, a scheme and a value, and the form of the value that
comparison uses.  The value is kept as it was given and is what gets written.
-/

namespace EndpointDiscovery

structure Identifier where
  kind : IdentifierKind
  scheme : String
  value : String
  normalizedValue : String
deriving Repr

def schemeSeparator : String := "::"

namespace Identifier

/-- The written form `scheme::value`, in which nothing is escaped. -/
def uri (identifier : Identifier) : String :=
  identifier.scheme ++ schemeSeparator ++ identifier.value

def percentEncodedUri (identifier : Identifier) : String :=
  Percent.encode identifier.uri

/-- Whether two identifiers name the same thing. -/
def sameContent (left right : Identifier) : Bool :=
  left.kind == right.kind && left.scheme == right.scheme &&
    left.normalizedValue == right.normalizedValue

instance : BEq Identifier := ⟨sameContent⟩

def wordBytes (number : Nat) : List UInt8 :=
  (List.range 8).map fun place => UInt8.ofNat (number >>> (8 * place))

/-- The bytes that a hash of an identifier is computed from.  No text contains the
byte `0xFF`, so it ends a text. -/
def hashInput (identifier : Identifier) : List UInt8 :=
  wordBytes identifier.kind.index ++
    Text.Utf8.encodeString identifier.scheme ++ [0xFF] ++
    Text.Utf8.encodeString identifier.normalizedValue ++ [0xFF]

instance : Hashable Identifier :=
  ⟨fun identifier =>
    identifier.hashInput.foldl (fun sum byte => mixHash sum (hash byte.toNat)) 7⟩

/-- Adds an identifier unless one with the same content is there; also tells whether
it was added. -/
def insertNew (members : List Identifier) (identifier : Identifier) :
    List Identifier × Bool :=
  if members.any (identifier.sameContent ·) then (members, false)
  else (members ++ [identifier], true)

def distinct (identifiers : List Identifier) : List Identifier :=
  identifiers.foldl (fun members identifier => (insertNew members identifier).1) []

end Identifier

end EndpointDiscovery
