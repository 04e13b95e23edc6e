import EndpointDiscovery.Json.Value

/-!
# Writing JSON text

Values are written without blanks.  Only quotes, backslashes and control
characters are escaped.
-/

namespace EndpointDiscovery.Json

def hexDigits (number : Nat) : List Char :=
  let digits := Nat.toDigits 16 number
  List.replicate (4 - digits.length) '0' ++ digits

def quoteChar (character : Char) : List Char :=
  if character = '"' ∨ character = '\\' then ['\\', character]
  else if character.toNat < 0x20 then '\\' :: 'u' :: hexDigits character.toNat
  else [character]

def quote (text : String) : String :=
  "\"" ++ String.ofList (text.toList.flatMap quoteChar) ++ "\""

def numberText (number : JsonNumber) : String :=
  (if number.negative then "-" else "") ++ toString number.magnitude

mutual

def toText : Json → String
  | .null => "null"
  | .flag value => if value then "true" else "false"
  | .number value => numberText value
  | .text value => quote (value.getD "")
  | .array items => "[" ++ String.intercalate "," (itemTexts items) ++ "]"
  | .object members =>
      "\x7b" ++ String.intercalate "," (memberTexts members) ++ "\x7d"

def itemTexts : List Json → List String
  | [] => []
  | item :: items => toText item :: itemTexts items

def memberTexts : List (Option String × Json) → List String
  | [] => []
  | (name, value) :: members =>
      (quote (name.getD "") ++ ":" ++ toText value) :: memberTexts members

end

end EndpointDiscovery.Json
