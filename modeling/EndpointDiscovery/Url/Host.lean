import EndpointDiscovery.Bytes.Hex
import EndpointDiscovery.Text.Case
import EndpointDiscovery.Text.PrintTable
import EndpointDiscovery.Text.Split
import EndpointDiscovery.Text.Utf8
import EndpointDiscovery.Url.Escape
import EndpointDiscovery.Url.Punycode

/-!
# Hosts

The host of a URL with a special scheme is a domain name, an IPv4 address in any of
its spellings or a bracketed IPv6 address.  Other schemes take the text as it is.

Domain names are ASCII.  Labels that stand for other characters are checked for
being well formed; a name with such characters in it is refused.  The mapping of UTS
46, which the `url` library applies to these names, is left out.
-/

namespace EndpointDiscovery.Url

inductive Host where
  | domain (name : String)
  | ipv4 (address : Nat)
  | ipv6 (pieces : List Nat)
deriving DecidableEq, Repr

namespace Host

/-! ## IPv4 -/

def digitOf? (base : Nat) (character : Char) : Option Nat :=
  let value :=
    if '0' ≤ character ∧ character ≤ '9' then character.toNat - 0x30
    else if 'a' ≤ character ∧ character ≤ 'f' then character.toNat - 0x57
    else if 'A' ≤ character ∧ character ≤ 'F' then character.toNat - 0x37
    else base
  if value < base then some value else none

def numberOf? (base : Nat) (digits : List Char) : Option Nat :=
  digits.foldlM (fun sum digit => (digitOf? base digit).map (sum * base + ·)) 0

def ipv4Number? : List Char → Option Nat
  | [] => none
  | '0' :: 'x' :: digits => numberOf? 16 digits
  | '0' :: 'X' :: digits => numberOf? 16 digits
  | '0' :: digit :: digits => numberOf? 8 (digit :: digits)
  | digits => numberOf? 10 digits

def labels (name : List Char) : List (List Char) :=
  Text.splitOn '.' name

def withoutLastEmpty (parts : List (List Char)) : List (List Char) :=
  if parts.getLast? = some [] then parts.dropLast else parts

/-- Whether a name is to be read as an IPv4 address. -/
def endsInNumber (name : List Char) : Bool :=
  match (withoutLastEmpty (labels name)).getLast? with
  | none => false
  | some last =>
      (!last.isEmpty && last.all fun digit => (digitOf? 10 digit).isSome) ||
        (ipv4Number? last).isSome

/-- The last number fills all the bytes that the numbers before it leave. -/
def ipv4? (name : List Char) : Option Nat := do
  let numbers ← (withoutLastEmpty (labels name)).mapM ipv4Number?
  let last ← numbers.getLast?
  let leading := numbers.dropLast
  if leading.length ≤ 3 ∧ leading.all (· ≤ 255) ∧
    last < Nat.pow 256 (4 - leading.length) then
    some (leading.foldr (fun number sum => sum / 256 + number * 0x1000000) 0 + last)
  else
    none

def ipv4Bytes (address : Nat) : List Nat :=
  [address / 0x1000000 % 256, address / 0x10000 % 256, address / 256 % 256,
    address % 256]

/-! ## IPv6 -/

def embeddedNumber? (digits : List Char) : Option Nat := do
  let value ← numberOf? 10 digits
  if digits = [] ∨ (digits.head? = some '0' ∧ digits.length ≠ 1) ∨ 255 < value then
    none
  else some value

def ipv6Pieces? (text : List Char) (allowAddress : Bool) : Option (List Nat) :=
  if text.isEmpty then some []
  else
    let parts := Text.splitOn ':' text
    let hexPiece? (part : List Char) : Option Nat :=
      if part.isEmpty || 4 < part.length then none else numberOf? 16 part
    match parts.getLast? with
    | none => none
    | some last =>
        if allowAddress && last.contains '.' then do
          let leading ← parts.dropLast.mapM hexPiece?
          match ← (Text.splitOn '.' last).mapM embeddedNumber? with
          | [a, b, c, d] => some (leading ++ [a * 256 + b, c * 256 + d])
          | _ => none
        else
          parts.mapM hexPiece?

/-- An address is eight pieces, or fewer with a double colon in the place of the
missing zeros. -/
def ipv6? (text : List Char) : Option (List Nat) :=
  match Text.cutFirst [':', ':'] text with
  | none => do
      let pieces ← ipv6Pieces? text true
      if pieces.length = 8 then some pieces else none
  | some (before, after) => do
      let leading ← ipv6Pieces? before false
      let trailing ← ipv6Pieces? after true
      let count := leading.length + trailing.length
      if count ≤ 7 then
        some (leading ++ List.replicate (8 - count) 0 ++ trailing)
      else
        none

def zeroRuns : List Nat → List Nat
  | [] => []
  | piece :: rest =>
      let runs := zeroRuns rest
      (if piece = 0 then runs.headD 0 + 1 else 0) :: runs

def joinPieces (pieces : List Nat) : String :=
  String.intercalate ":"
    (pieces.map fun piece => String.ofList (Nat.toDigits 16 piece))

def ipv6Text (pieces : List Nat) : String :=
  let runs := zeroRuns pieces
  let longest := runs.foldl max 0
  if longest < 2 then joinPieces pieces
  else
    let start := runs.idxOf longest
    joinPieces (pieces.take start) ++ "::" ++
    joinPieces (pieces.drop (start + longest))

/-! ## Domain names -/

def isForbidden (character : Char) : Bool :=
  character.toNat ≤ 0x20 || character.toNat = 0x7F ||
    "%#/:<>?@[\\]^|".toList.contains character

/-- Whether a decoded label holds something beyond ASCII and nothing that has no
place in a label. -/
def isLabelContent (points : List Nat) : Bool :=
  let characters := points.map Char.ofNat
  characters.any (0x80 ≤ ·.toNat) &&
    characters.all (fun character =>
      !Text.unprintable.contains character &&
      Text.lowerChar character = [character]) &&
    !(characters.head?.any Text.graphemeExtending.contains)

def isWellFormedLabel (label : List Char) : Bool :=
  match label with
  | 'x' :: 'n' :: '-' :: '-' :: encoded =>
      (Punycode.decode? encoded).any isLabelContent
  | _ => true

/-- The lower-case form of an ASCII domain name; there is none for other names. -/
def domain? (bytes : List UInt8) : Option (List Char) :=
  if bytes.all (· < 0x80) then
    let name := bytes.flatMap fun byte => Text.lowerChar (Char.ofNat byte.toNat)
    if name.any isForbidden || !(labels name).all isWellFormedLabel then
      none
    else
      some name
  else
    none

def ofSpecial? (text : List Char) : Option Host :=
  match text with
  | '[' :: rest =>
      if rest.getLast? = some ']' then (ipv6? rest.dropLast).map .ipv6 else none
  | _ => do
      let name ← domain? (unescapeBytes (Text.Utf8.encode text))
      if name.isEmpty then none
      else if endsInNumber name then (ipv4? name).map .ipv4
      else some (.domain (String.ofList name))

def isForbiddenPlain (character : Char) : Bool :=
  character.toNat = 0 || "\t\n\r #/:<>?@[\\]^|".toList.contains character

def ofOther? (text : List Char) : Option Host :=
  match text with
  | '[' :: rest =>
      if rest.getLast? = some ']' then (ipv6? rest.dropLast).map .ipv6 else none
  | _ =>
      if text.any isForbiddenPlain then none
      else some (.domain (escape controlSet text))

def toText : Host → String
  | .domain name => name
  | .ipv4 address => String.intercalate "." ((ipv4Bytes address).map toString)
  | .ipv6 pieces => "[" ++ ipv6Text pieces ++ "]"

end Host

end EndpointDiscovery.Url
