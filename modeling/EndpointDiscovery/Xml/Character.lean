/-!
# Characters of XML documents
-/

namespace EndpointDiscovery.Xml

def isSpace (character : Char) : Bool :=
  character = ' ' || character = '\t' || character = '\n' || character = '\r'

def isAllowed (character : Char) : Bool :=
  if character.toNat < 0x20 then isSpace character
  else character.toNat ≠ 0xFFFE && character.toNat ≠ 0xFFFF

def nameStartRanges : List (Nat × Nat) :=
  [(0xC0, 0xD6), (0xD8, 0xF6), (0xF8, 0x2FF), (0x370, 0x37D), (0x37F, 0x1FFF),
    (0x200C, 0x200D), (0x2070, 0x218F), (0x2C00, 0x2FEF), (0x3001, 0xD7FF),
    (0xF900, 0xFDCF), (0xFDF0, 0xFFFD), (0x10000, 0xEFFFF)]

def nameRanges : List (Nat × Nat) :=
  [(0xB7, 0xB7), (0x300, 0x36F), (0x203F, 0x2040)]

def inRanges (ranges : List (Nat × Nat)) (character : Char) : Bool :=
  ranges.any fun (first, last) => first ≤ character.toNat && character.toNat ≤ last

def isNameStart (character : Char) : Bool :=
  ('a' ≤ character && character ≤ 'z') || ('A' ≤ character && character ≤ 'Z') ||
    character = '_' || character = ':' || inRanges nameStartRanges character

def isNameChar (character : Char) : Bool :=
  isNameStart character || ('0' ≤ character && character ≤ '9') ||
  character = '-' || character = '.' || inRanges nameRanges character

end EndpointDiscovery.Xml
