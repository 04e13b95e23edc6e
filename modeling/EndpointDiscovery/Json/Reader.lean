import EndpointDiscovery.Json.Value

/-!
# Reading JSON text

A recursive-descent reader over characters.  Each function returns what it read
together with the rest of the text.  `fuel` bounds the nesting and is taken from the
length of the text.
-/

namespace EndpointDiscovery.Json.Reader

abbrev Rest := List Char

def isSpace (character : Char) : Bool :=
  character = ' ' || character = '\n' || character = '\t' || character = '\r'

def skipSpace (input : Rest) : Rest :=
  input.dropWhile isSpace

def isDigit (character : Char) : Bool :=
  '0' ≤ character && character ≤ '9'

def hexDigit? (character : Char) : Option Nat :=
  if '0' ≤ character ∧ character ≤ '9' then some (character.toNat - 0x30)
  else if 'a' ≤ character ∧ character ≤ 'f' then some (character.toNat - 0x57)
  else if 'A' ≤ character ∧ character ≤ 'F' then some (character.toNat - 0x37)
  else none

def isHighSurrogate (unit : Nat) : Bool := 0xD800 ≤ unit && unit ≤ 0xDBFF

def isLowSurrogate (unit : Nat) : Bool := 0xDC00 ≤ unit && unit ≤ 0xDFFF

def joinUnits? : List Nat → Option (List Char)
  | [] => some []
  | high :: low :: units =>
      if isHighSurrogate high then
        if isLowSurrogate low then
          (joinUnits? units).map
            (Char.ofNat (0x10000 + (high - 0xD800) * 0x400 + (low - 0xDC00)) :: ·)
        else none
      else if isLowSurrogate high then none
      else (joinUnits? (low :: units)).map (Char.ofNat high :: ·)
  | [unit] =>
      if isHighSurrogate unit || isLowSurrogate unit then
        none
      else
        some [Char.ofNat unit]

/-- A piece of a quoted text: a run of escaped 16-bit units is joined
only at its end. -/
inductive Piece where
  | plain (character : Char)
  | unit (value : Nat)

def joinPieces? : List Piece → List Nat → Option (List Char)
  | .unit value :: pieces, pending => joinPieces? pieces (pending ++ [value])
  | .plain character :: pieces, pending => do
      let before ← joinUnits? pending
      let after ← joinPieces? pieces []
      some (before ++ character :: after)
  | [], pending => joinUnits? pending

def simpleEscape? : Char → Option Char
  | '"' => some '"'
  | '\\' => some '\\'
  | '/' => some '/'
  | 'b' => some '\x08'
  | 'f' => some '\x0C'
  | 'n' => some '\n'
  | 'r' => some '\r'
  | 't' => some '\t'
  | _ => none

def pieces? : Rest → Option (List Piece × Rest)
  | [] => none
  | '"' :: rest => some ([], rest)
  | '\\' :: 'u' :: a :: b :: c :: d :: rest => do
      let a ← hexDigit? a
      let b ← hexDigit? b
      let c ← hexDigit? c
      let d ← hexDigit? d
      let (pieces, rest) ← pieces? rest
      some (.unit (a * 4096 + b * 256 + c * 16 + d) :: pieces, rest)
  | '\\' :: escaped :: rest => do
      let character ← simpleEscape? escaped
      let (pieces, rest) ← pieces? rest
      some (.plain character :: pieces, rest)
  | character :: rest =>
      if character.toNat < 0x20 || character = '\\' then none
      else (pieces? rest).map fun (pieces, rest) =>
        (.plain character :: pieces, rest)

def text? (input : Rest) : Option (Option String × Rest) :=
  (pieces? input).map fun (pieces, rest) =>
    ((joinPieces? pieces []).map String.ofList, rest)

def digitsValue (digits : List Char) : Nat :=
  digits.foldl (fun sum digit => sum * 10 + (digit.toNat - 0x30)) 0

/-- The fraction and the exponent of a number, of which at least one digit each is
required; tells whether there was one of them. -/
def numberTail? (input : Rest) : Option (Bool × Rest) := do
  let (fraction, afterFraction) ←
    match input with
    | '.' :: rest =>
        if (rest.takeWhile isDigit).isEmpty then none
        else some (true, rest.dropWhile isDigit)
    | _ => some (false, input)
  match afterFraction with
  | mark :: rest =>
      if mark = 'e' ∨ mark = 'E' then
        let digits := match rest with
          | '+' :: digits => digits
          | '-' :: digits => digits
          | digits => digits
        if (digits.takeWhile isDigit).isEmpty then none
        else some (true, digits.dropWhile isDigit)
      else
        some (fraction, afterFraction)
  | [] => some (fraction, [])

def number? (input : Rest) : Option (JsonNumber × Rest) := do
  let (negative, input) := match input with
    | '-' :: rest => (true, rest)
    | _ => (false, input)
  let digits := input.takeWhile isDigit
  if digits.isEmpty || (digits.head? = some '0' && digits.length ≠ 1) then
    none
  else
    let (tail, rest) ← numberTail? (input.dropWhile isDigit)
    some (⟨negative, digitsValue digits, !tail⟩, rest)

mutual

def value? (fuel : Nat) (input : Rest) : Option (Json × Rest) :=
  match fuel with
  | 0 => none
  | fuel + 1 =>
      match skipSpace input with
      | 'n' :: 'u' :: 'l' :: 'l' :: rest => some (.null, rest)
      | 't' :: 'r' :: 'u' :: 'e' :: rest => some (.flag true, rest)
      | 'f' :: 'a' :: 'l' :: 's' :: 'e' :: rest => some (.flag false, rest)
      | '"' :: rest => (text? rest).map fun (value, rest) => (.text value, rest)
      | '[' :: rest =>
          match skipSpace rest with
          | ']' :: rest => some (.array [], rest)
          | rest => (items? fuel rest).map fun (items, rest) => (.array items, rest)
      | '\x7b' :: rest =>
          match skipSpace rest with
          | '\x7d' :: rest => some (.object [], rest)
          | rest => (members? fuel rest).map fun (members, rest) =>
              (.object members, rest)
      | input => (number? input).map fun (value, rest) => (.number value, rest)

def items? (fuel : Nat) (input : Rest) : Option (List Json × Rest) :=
  match fuel with
  | 0 => none
  | fuel + 1 => do
      let (item, rest) ← value? fuel input
      match skipSpace rest with
      | ',' :: rest => (items? fuel rest).map fun (items, rest) =>
          (item :: items, rest)
      | ']' :: rest => some ([item], rest)
      | _ => none

def members? (fuel : Nat) (input : Rest) :
    Option (List (Option String × Json) × Rest) :=
  match fuel with
  | 0 => none
  | fuel + 1 => do
      let rest ← match skipSpace input with
        | '"' :: rest => some rest
        | _ => none
      let (name, rest) ← text? rest
      let rest ← match skipSpace rest with
        | ':' :: rest => some rest
        | _ => none
      let (value, rest) ← value? fuel rest
      match skipSpace rest with
      | ',' :: rest =>
          (members? fuel rest).map fun (members, rest) =>
            ((name, value) :: members, rest)
      | '\x7d' :: rest => some ([(name, value)], rest)
      | _ => none

end

end EndpointDiscovery.Json.Reader

namespace EndpointDiscovery.Json

def parse? (text : String) : Option Json := do
  let (value, rest) ← Reader.value? (2 * text.length + 2) text.toList
  if (Reader.skipSpace rest).isEmpty then some value else none

end EndpointDiscovery.Json
