import EndpointDiscovery.Sml.Error

/-!
# Zones

A zone is the DNS suffix under which one stage of the network registers
its participants.
-/

namespace EndpointDiscovery

/-- The first rule that a DNS zone violates. -/
def zoneFlaw? (dnsZone : String) : Option ZoneFlaw :=
  if dnsZone.isEmpty then some .empty
  else if dnsZone.toList.getLast? ≠ some '.' then some .missingFinalDot
  else if dnsZone.toList.head? = some '.' then some .leadingDot
  else none

structure SmlZone where
  name : String
  dnsZone : String
  managementServiceUrl : String
  requiresClientCertificate : Bool
  valid : zoneFlaw? dnsZone = none
deriving DecidableEq

namespace SmlZone

def create (name dnsZone managementServiceUrl : String)
    (requiresClientCertificate : Bool) :
    Except SmlFault SmlZone :=
  match valid : zoneFlaw? dnsZone with
  | none =>
      .ok { name, dnsZone, managementServiceUrl, requiresClientCertificate, valid }
  | some flaw =>
      .error ((Fault.root (.invalidZone dnsZone)).addContext flaw.message)

end SmlZone

inductive PeppolNetwork where
  | production
  | test
  | legacyProduction
  | legacyTest
  | localDevelopment
deriving DecidableEq, Repr

namespace PeppolNetwork

def all : List PeppolNetwork :=
  [.production, .test, .legacyProduction, .legacyTest, .localDevelopment]

def display : PeppolNetwork → String
  | .production => "Peppol production SML"
  | .test => "Peppol test SML"
  | .legacyProduction => "Peppol legacy production SML"
  | .legacyTest => "Peppol legacy test SML"
  | .localDevelopment => "Local development SML"

def key : PeppolNetwork → String
  | .production => "production"
  | .test => "test"
  | .legacyProduction => "legacy_production"
  | .legacyTest => "legacy_test"
  | .localDevelopment => "local_development"

def zone (network : PeppolNetwork) : SmlZone :=
  match network with
  | .production =>
      ⟨network.display, "edelivery.tech.ec.europa.eu.",
        "https://edelivery.tech.ec.europa.eu/edelivery-sml",
        true, by decide +kernel⟩
  | .test =>
      ⟨network.display, "acc.edelivery.tech.ec.europa.eu.",
        "https://acc.edelivery.tech.ec.europa.eu/edelivery-sml",
        true, by decide +kernel⟩
  | .legacyProduction =>
      ⟨network.display, "sml.peppolcentral.org.",
        "https://sml.peppolcentral.org", true, by decide +kernel⟩
  | .legacyTest =>
      ⟨network.display, "smk.peppolcentral.org.",
        "https://smk.peppolcentral.org", true, by decide +kernel⟩
  | .localDevelopment =>
      ⟨network.display, "smj.peppolcentral.org.", "http://localhost:8080", false,
        by decide +kernel⟩

end PeppolNetwork

end EndpointDiscovery
