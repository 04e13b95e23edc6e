import EndpointDiscovery.Bytes.Base32
import EndpointDiscovery.Bytes.Hex
import EndpointDiscovery.Crypto.Md5
import EndpointDiscovery.Crypto.Sha2
import EndpointDiscovery.Identifier.Basic
import EndpointDiscovery.Sml.Zone
import EndpointDiscovery.Text.Case

/-!
# Host names of participants

Both schemes name a participant by a digest of its normalized value, its scheme in
lower case and the zone.
-/

namespace EndpointDiscovery

def classicHashPrefix : String := "B-"

/-- The value of registrations that stand for every participant; it is
never hashed. -/
def wildcardValue : String := "*"

def withoutFinalDot (name : String) : String :=
  if name.toList.getLast? = some '.' then
    String.ofList name.toList.dropLast
  else
    name

def assembleHostName (label scheme : String) (zone : SmlZone) : String :=
  withoutFinalDot (label ++ "." ++ Text.lower scheme ++ "." ++ zone.dnsZone)

def classicLabel (value : String) : String :=
  if value = wildcardValue then wildcardValue
  else classicHashPrefix ++ Bytes.hex (Md5.digest (Text.Utf8.encodeString value))

def bdxlLabel (value : String) : String :=
  Bytes.Base32.encode (Sha256.digest (Text.Utf8.encodeString value))

private def ensureParticipant (identifier : Identifier) : Except SmlFault Unit :=
  if identifier.kind = .participant then .ok ()
  else .error (.root (.notAParticipant identifier.kind))

def classicHostName (participant : Identifier) (zone : SmlZone) :
    Except SmlFault String := do
  ensureParticipant participant
  return assembleHostName (classicLabel participant.normalizedValue)
    participant.scheme zone

/-- The name whose `NAPTR` records point to the SMP of a participant. -/
def bdxlHostName (participant : Identifier) (zone : SmlZone) :
    Except SmlFault String := do
  ensureParticipant participant
  return assembleHostName (bdxlLabel participant.normalizedValue)
    participant.scheme zone

end EndpointDiscovery
