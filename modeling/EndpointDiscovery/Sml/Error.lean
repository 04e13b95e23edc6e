import EndpointDiscovery.Fault
import EndpointDiscovery.Identifier.Kind

/-!
# Failures of locating

Why a zone is refused or a participant cannot be located.
-/

namespace EndpointDiscovery

inductive ZoneFlaw where
  | empty
  | missingFinalDot
  | leadingDot
deriving DecidableEq, Repr

def ZoneFlaw.message : ZoneFlaw → String
  | .empty => "DNS zone is empty"
  | .missingFinalDot => "DNS zone must end with a `.`"
  | .leadingDot => "DNS zone must not start with a `.`"

inductive SmlError where
  | invalidZone (dnsZone : String)
  | notAParticipant (kind : IdentifierKind)
  | naptrLookup (domain : String)
  | noSmpRecord (domain : String)
  | invalidSmpUrl (text : String)
deriving DecidableEq, Repr

namespace SmlError

def name : SmlError → String
  | .invalidZone _ => "InvalidZone"
  | .notAParticipant _ => "NotAParticipant"
  | .naptrLookup _ => "NaptrLookup"
  | .noSmpRecord _ => "NoSmpRecord"
  | .invalidSmpUrl _ => "InvalidSmpUrl"

def message : SmlError → String
  | .invalidZone dnsZone => s!"Invalid SML zone: {dnsZone}"
  | .notAParticipant kind =>
      s!"Expected a participant identifier, got a {kind.display} identifier"
  | .naptrLookup domain => s!"NAPTR lookup of {domain} failed"
  | .noSmpRecord domain => s!"No SMP NAPTR record found for {domain}"
  | .invalidSmpUrl text => s!"Invalid SMP URL: {text}"

end SmlError

abbrev SmlFault := Fault SmlError Foreign

end EndpointDiscovery
