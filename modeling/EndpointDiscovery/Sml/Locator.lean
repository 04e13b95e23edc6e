import EndpointDiscovery.Sml.HostName
import EndpointDiscovery.Sml.Naptr
import EndpointDiscovery.Url.Parser

/-!
# Locating an SMP

A locator turns a participant into the base URL of its SMP.  The answers of the DNS
are a function from domains to records, `none` where the lookup fails.
-/

namespace EndpointDiscovery

abbrev NaptrAnswers := String → Option (List NaptrRecord)

inductive SmpLocator where
  | classic
  | naptr (answers : NaptrAnswers)
  | explicit (url : Url)

/-- What was found, and the domains that were looked up on the way. -/
structure Located where
  result : Except SmlFault Url
  queried : List String := []

def parseSmpUrl (text : String) : Except SmlFault Url :=
  match Url.parse? text with
  | some url => .ok url
  | none => .error (.foreign (.invalidSmpUrl text))

def classicSmpUrl (participant : Identifier) (zone : SmlZone) :
    Except SmlFault Url := do
  let hostName ← classicHostName participant zone
  parseSmpUrl ("http://" ++ hostName ++ "/")

def smpUrlOfAnswer (domain : String) (answer : Option (List NaptrRecord)) :
    Except SmlFault Url :=
  match answer with
  | none => .error (.foreign (.naptrLookup domain))
  | some records =>
      match selectSmpUri? records with
      | some uri => parseSmpUrl uri
      | none =>
          .error ((Fault.root (.noSmpRecord domain)).addContext
            s!"{records.length} NAPTR records received")

namespace SmpLocator

def locate (locator : SmpLocator) (participant : Identifier)
    (zone : SmlZone) : Located :=
  match locator with
  | .classic => { result := classicSmpUrl participant zone }
  | .naptr answers =>
      match bdxlHostName participant zone with
      | .error fault => { result := .error fault }
      | .ok domain =>
          { result := smpUrlOfAnswer domain (answers domain), queried := [domain] }
  | .explicit url => { result := .ok url }

end SmpLocator

end EndpointDiscovery
