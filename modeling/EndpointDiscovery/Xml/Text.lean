import EndpointDiscovery.Xml.Character

/-!
# Character data

References are replaced by what they stand for, and line breaks and blanks are
normalized: in text every kind of line break becomes a line feed, in an attribute
value each becomes a space.
-/

namespace EndpointDiscovery.Xml

def isDigit (character : Char) : Bool :=
  '0' ≤ character && character ≤ '9'

def hexValue? (character : Char) : Option Nat :=
  if isDigit character then some (character.toNat - 0x30)
  else if 'a' ≤ character ∧ character ≤ 'f' then some (character.toNat - 0x57)
  else if 'A' ≤ character ∧ character ≤ 'F' then some (character.toNat - 0x37)
  else none

def charOfNumber? (number : Nat) : Option Char :=
  if UInt32.size ≤ number then none
  else
    let character := if number.isValidChar then Char.ofNat number else '\uFFFD'
    if isAllowed character then some character else none

def numberOf? (base : Nat) (digits : List Char) : Option Nat :=
  if digits.isEmpty then none
  else digits.foldlM (fun sum digit => (hexValue? digit).map (sum * base + ·)) 0

def referenced? : List Char → Option Char
  | '#' :: 'x' :: digits => (numberOf? 16 digits).bind charOfNumber?
  | '#' :: digits =>
      if digits.all isDigit then (numberOf? 10 digits).bind charOfNumber? else none
  | name =>
      if name = "amp".toList then some '&'
      else if name = "lt".toList then some '<'
      else if name = "gt".toList then some '>'
      else if name = "quot".toList then some '"'
      else if name = "apos".toList then some '\''
      else none

inductive Piece where
  | literal (character : Char)
  | reference (character : Char)
deriving DecidableEq, Repr

def piecesFrom? : Option (List Char) → List Char → Option (List Piece)
  | none, [] => some []
  | some _, [] => none
  | none, character :: rest =>
      if character = '&' then piecesFrom? (some []) rest
      else (piecesFrom? none rest).map (.literal character :: ·)
  | some pending, character :: rest =>
      if character = ';' then do
        let character ← referenced? pending.reverse
        (piecesFrom? none rest).map (.reference character :: ·)
      else piecesFrom? (some (character :: pending)) rest

def pieces? (data : List Char) : Option (List Piece) := piecesFrom? none data

/-- Adds a literal character to text that is held backwards.  A carriage return
waits there until the next literal character, or the end, makes it a line feed. -/
def pushLiteral (before : List Char) (character : Char)
    (atEnd : Bool) : List Char :=
  match before with
  | '\r' :: earlier =>
      if atEnd && character = '\r' then '\n' :: '\n' :: earlier
      else if character = '\n' then '\n' :: earlier
      else character :: '\n' :: earlier
  | _ => (if atEnd && character = '\r' then '\n' else character) :: before

def joinPieces (asIs : Bool) (before : List Char) : List Piece → List Char
  | [] => before
  | .reference character :: rest => joinPieces true (character :: before) rest
  | .literal character :: rest =>
      if asIs then joinPieces false (character :: before) rest
      else joinPieces false (pushLiteral before character rest.isEmpty) rest

def textOf? (data : List Char) : Option String :=
  (pieces? data).map fun pieces =>
    String.ofList (joinPieces false [] pieces).reverse

def sectionText (data : List Char) : String :=
  String.ofList (joinPieces false [] (data.map .literal)).reverse

def joinValue : List Piece → List Char
  | [] => []
  | .reference character :: rest => character :: joinValue rest
  | .literal character :: rest =>
      if character = '\r' && rest.head? = some (.literal '\n') then joinValue rest
      else (if isSpace character then ' ' else character) :: joinValue rest

def valueOf? (data : List Char) : Option String :=
  (pieces? data).map fun pieces => String.ofList (joinValue pieces)

end EndpointDiscovery.Xml
