import EndpointDiscovery.Bytes.Words

/-!
# Base64

Groups of three bytes are written with four digits of 64 values, and a padding mark
fills an incomplete last group.  There are two readers: one for a single block,
which takes a padding mark for a zero wherever it stands, and one for a stream,
which passes over blanks and allows padding at the end only.
-/

namespace EndpointDiscovery.Base64

def digit (value : Nat) : Char :=
  if value < 26 then Char.ofNat (0x41 + value)
  else if value < 52 then Char.ofNat (0x61 + (value - 26))
  else if value < 62 then Char.ofNat (0x30 + (value - 52))
  else if value = 62 then '+'
  else '/'

def value? (character : Char) : Option Nat :=
  if 'A' ≤ character ∧ character ≤ 'Z' then some (character.toNat - 0x41)
  else if 'a' ≤ character ∧ character ≤ 'z' then some (character.toNat - 0x61 + 26)
  else if '0' ≤ character ∧ character ≤ '9' then some (character.toNat - 0x30 + 52)
  else if character = '+' then some 62
  else if character = '/' then some 63
  else none

def padding : Char := '='

/-! ## Writing -/

def digits (number : Nat) : List Char :=
  [digit (number / 262144), digit (number / 4096 % 64), digit (number / 64 % 64),
    digit (number % 64)]

def encode : List UInt8 → List Char
  | [] => []
  | [first] => (digits (first.toNat * 65536)).take 2 ++ [padding, padding]
  | [first, second] => (digits (first.toNat * 65536 + second.toNat * 256)).take 3 ++
        [padding]
  | first :: second :: third :: rest =>
      digits (first.toNat * 65536 + second.toNat * 256 + third.toNat) ++ encode rest

/-! ## Reading -/

/-- Three bytes for every four digits, where a padding mark counts as zero. -/
def groups? : List Char → Option (List UInt8)
  | [] => some []
  | first :: second :: third :: fourth :: rest => do
      let value (character : Char) : Option Nat :=
        if character = padding then some 0 else value? character
      let number := (← value first) * 262144 + (← value second) * 4096 +
        (← value third) * 64 + (← value fourth)
      let bytes ← groups? rest
      some (Bytes.bigEndian 3 number ++ bytes)
  | _ => none

/-- Drops hyphens from the end, as long as more than three characters are left. -/
def dropHyphens : List Char → List Char
  | '-' :: rest => if 3 ≤ rest.length then dropHyphens rest else '-' :: rest
  | reversed => reversed

def paddingLength (text : List Char) : Nat :=
  ((text.reverse.take 2).takeWhile (· = padding)).length

def block? (text : List Char) : Option (List UInt8) :=
  (groups? (dropHyphens text.reverse).reverse).map fun bytes =>
    bytes.take (bytes.length - paddingLength text)

/-- The bytes of a stream with blanks, which may be closed by a hyphen. -/
def stream? (text : List Char) : Option (List UInt8) :=
  let body := (text.takeWhile (· ≠ '-')).filter (· ∉ ['\t', '\n', '\r', ' '])
  let count := paddingLength body
  let data := body.take (body.length - count)
  if data.all (value? · |>.isSome) then
    (groups? body).map fun bytes => bytes.take (bytes.length - count)
  else
    none

end EndpointDiscovery.Base64
