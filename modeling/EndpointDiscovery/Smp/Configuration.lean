import EndpointDiscovery.Sml.Configuration
import EndpointDiscovery.Time.Duration

/-!
# Configuration of the discovery client
-/

namespace EndpointDiscovery

structure ClientConfig where
  zone : SmlZone := PeppolNetwork.production.zone
  timeout : Duration := .ofSeconds 30
deriving DecidableEq

namespace ClientConfig

def fieldNames : List String := ["zone", "timeout_ms"]

/-- A configuration is written unless its timeout in milliseconds
exceeds 64 bits. -/
def toJson? (config : ClientConfig) : Option Json :=
  if config.timeout.milliseconds < UInt64.size then
    some (.record [("zone", config.zone.toJson),
      ("timeout_ms", .ofNat config.timeout.milliseconds)])
  else
    none

/-- Fields that are left out take the values of the default configuration. -/
def ofJson? (value : Json) : Option ClientConfig := do
  let standard : ClientConfig := {}
  match ← value.fields? fieldNames with
  | [zone, timeout] =>
      some {
        zone := ← optionalField? SmlZone.ofJson? standard.zone zone,
        timeout := ← optionalField? (Json.word? · |>.map Duration.ofMilliseconds)
          standard.timeout timeout }
  | _ => none

end ClientConfig

end EndpointDiscovery
