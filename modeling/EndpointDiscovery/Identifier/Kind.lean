/-!
# Kinds of identifiers

The network names three kinds of things.  Each kind limits the length and the
character set of its values.
-/

namespace EndpointDiscovery

inductive Charset where
  | usAscii
  | latin1
deriving DecidableEq, Repr

namespace Charset

def name : Charset → String
  | .usAscii => "US-ASCII"
  | .latin1 => "ISO-8859-1"

def contains : Charset → Char → Bool
  | .usAscii, character => character.toNat < 0x80
  | .latin1, character => character.toNat ≤ 0xFF

end Charset

inductive IdentifierKind where
  | participant
  | documentType
  | process
deriving DecidableEq, Repr

namespace IdentifierKind

def all : List IdentifierKind := [.participant, .documentType, .process]

def display : IdentifierKind → String
  | .participant => "participant"
  | .documentType => "document type"
  | .process => "process"

def key : IdentifierKind → String
  | .participant => "participant"
  | .documentType => "document_type"
  | .process => "process"

def maxValueLength : IdentifierKind → Nat
  | .participant => 50
  | .documentType => 500
  | .process => 200

def charset : IdentifierKind → Charset
  | .participant => .usAscii
  | .documentType | .process => .latin1

def index : IdentifierKind → Nat
  | .participant => 0
  | .documentType => 1
  | .process => 2

end IdentifierKind

end EndpointDiscovery
