import EndpointDiscovery.Identifier.Percent

/-!
# Escapes in the components of a URL

Each component of a URL has its own set of ASCII characters that are written as
escapes.  Characters outside ASCII always are.  A `%` is never escaped, so escapes
that are present stay.
-/

namespace EndpointDiscovery.Url

abbrev EscapeSet := Char → Bool

def controlSet : EscapeSet := fun character =>
  character.toNat < 0x20 || 0x7F ≤ character.toNat

def fragmentSet : EscapeSet := fun character =>
  controlSet character || " \"<>`".toList.contains character

def querySet : EscapeSet := fun character =>
  controlSet character || " \"#<>".toList.contains character

def specialQuerySet : EscapeSet := fun character =>
  querySet character || character = '\''

def pathSet : EscapeSet := fun character =>
  fragmentSet character || "#?\x7b\x7d".toList.contains character

def userinfoSet : EscapeSet := fun character =>
  pathSet character || "/:;=@[\\]^|".toList.contains character

def escapeChar (set : EscapeSet) (character : Char) : List Char :=
  if set character then (String.utf8EncodeChar character).flatMap Percent.escapeByte
  else [character]

def escape (set : EscapeSet) (characters : List Char) : String :=
  String.ofList (characters.flatMap (escapeChar set))

/-- Replaces every well-formed escape by its byte and leaves
everything else alone. -/
def unescapeBytes : List UInt8 → List UInt8
  | [] => []
  | 0x25 :: high :: low :: rest =>
      match Percent.hexValue? high, Percent.hexValue? low with
      | some upper, some lower =>
          UInt8.ofNat (upper * 16 + lower) :: unescapeBytes rest
      | _, _ => 0x25 :: unescapeBytes (high :: low :: rest)
  | byte :: rest => byte :: unescapeBytes rest
termination_by bytes => bytes.length

end EndpointDiscovery.Url
