import EndpointDiscovery.Identifier.Configuration
import EndpointDiscovery.Sml.Zone

/-!
# Zones as configuration data
-/

namespace EndpointDiscovery

def PeppolNetwork.ofJson? (value : Json) : Option PeppolNetwork :=
  memberOfKey? all key value

namespace SmlZone

def fieldNames : List String :=
  ["name", "dns_zone", "management_service_url", "requires_client_certificate"]

def toJson (zone : SmlZone) : Json :=
  .record [("name", .ofString zone.name), ("dns_zone", .ofString zone.dnsZone),
    ("management_service_url", .ofString zone.managementServiceUrl),
    ("requires_client_certificate", .flag zone.requiresClientCertificate)]

/-- All fields are required, and the DNS zone obeys the rules for zones. -/
def ofJson? (value : Json) : Option SmlZone := do
  match ← value.fields? fieldNames with
  | [some name, some dnsZone, some url, some certificate] =>
      let zone :=
        create (← name.string?) (← dnsZone.string?) (← url.string?)
          (← certificate.bool?)
      zone.toOption
  | _ => none

end SmlZone

end EndpointDiscovery
