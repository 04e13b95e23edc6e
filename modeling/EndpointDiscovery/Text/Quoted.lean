import EndpointDiscovery.Text.PrintTable

/-!
# A character in single quotes

Characters that could be taken for something else, or that cannot be seen, are
written as escapes.
-/

namespace EndpointDiscovery.Text

def hexNumber (number : Nat) : String :=
  String.ofList (Nat.toDigits 16 number)

def escapeChar (character : Char) : String :=
  if character = '\u0000' then "\\0"
  else if character = '\t' then "\\t"
  else if character = '\r' then "\\r"
  else if character = '\n' then "\\n"
  else if character = '\'' then "\\'"
  else if character = '\\' then "\\\\"
  else if graphemeExtending.contains character ||
    unprintable.contains character then
    "\\u\x7b" ++ hexNumber character.toNat ++ "\x7d"
  else
    character.toString

def quoteChar (character : Char) : String :=
  "'" ++ escapeChar character ++ "'"

end EndpointDiscovery.Text
