import EndpointDiscovery.Proofs.Json.RoundTrip
import EndpointDiscovery.Proofs.Text.Parts
import EndpointDiscovery.Smp.Configuration
import Mathlib.Algebra.Ring.Nat
import Mathlib.Data.List.Nodup

/-!
# Saved configuration

Policies, zones and client configurations are read back from the JSON text that is
written for them.  A timeout loses what is below a millisecond, and nothing that is
read loses anything more.
-/

namespace EndpointDiscovery

/-! ## Records -/

namespace Json

def readText? {α : Type} (read? : Json → Option α) (text : String) : Option α :=
  (parse? text).bind read?

variable {members : List (String × Json)}

theorem isExact_record (h : ∀ member ∈ members, member.2.IsExact) :
    (record members).IsExact := by
  refine .object ?_ ?_ <;> simp only [List.forall_mem_map] <;> intro member hmem
  · rfl
  · exact h member hmem

theorem find?_of_nodup (h : (members.map Prod.fst).Nodup) {member : String × Json}
    (hmem : member ∈ members) : members.find? (·.1 = member.1) = some member := by
  induction members with
  | nil => contradiction
  | cons first members ih =>
      rw [List.map_cons, List.nodup_cons] at h
      rcases List.mem_cons.mp hmem with rfl | hmem
      · simp
      · have hne : first.1 ≠ member.1 :=
          fun heq => h.1 (heq ▸ List.mem_map_of_mem hmem)
        rw [List.find?_cons_of_neg (by simpa using hne), ih h.2 hmem]

theorem length_filter_of_nodup (h : (members.map Prod.fst).Nodup) (name : String) :
    (members.filter (·.1 = name)).length ≤ 1 := by
  have hcount := List.nodup_iff_count_le_one.mp h name
  rwa [List.count, List.countP_map, List.countP_eq_length_filter] at hcount

theorem fields?_record (members : List (String × Json))
    (h : (members.map Prod.fst).Nodup) :
    (record members).fields? (members.map Prod.fst) =
      some (members.map fun member => some member.2) := by
  have hall : ((members.map Prod.fst).all fun name =>
      decide ((members.filter (·.1 = name)).length ≤ 1)) = true := by
    simp [length_filter_of_nodup h]
  have hfound : (members.map Prod.fst).map (fun name =>
      (members.find? (·.1 = name)).map (·.2)) = members.map fun member =>
        some member.2 := by
    rw [List.map_map]
    refine List.map_congr_left fun member hmem => ?_
    rw [Function.comp_apply, find?_of_nodup h hmem, Option.map_some]
  rw [record, fields?, Text.mapM_map_eq_some]
  · simp only [Option.bind_eq_bind, Option.bind_some, hall, if_true, hfound]
  · exact fun member _ => rfl

theorem word?_ofNat {count : Nat} (h : count < UInt64.size) :
    (ofNat count).word? = some count :=
  if_pos h

theorem lt_of_word? {json : Json} {count : Nat} (h : json.word? = some count) :
    count < UInt64.size := by
  unfold word? at h
  split at h
  · rw [Option.ite_none_right_eq_some, Option.some.injEq] at h
    exact h.2 ▸ h.1
  · cases h

end Json

/-! ## Policies -/

theorem insertAscending_concat {texts : List String} {text : String}
    (h : ∀ member ∈ texts, member < text) :
    insertAscending text texts = texts ++ [text] := by
  induction texts with
  | nil => rfl
  | cons first texts ih =>
      rw [List.forall_mem_cons] at h
      have hne : text ≠ first := fun heq => String.lt_irrefl _ (heq ▸ h.1)
      rw [insertAscending, if_neg (String.lt_asymm h.1), if_neg hne, ih h.2,
        List.cons_append]

theorem CaseRules.schemes_foldl_insert {schemes : List String} (rules : CaseRules)
    (h : (rules.schemes ++ schemes).Pairwise (· < ·)) :
    (schemes.foldl insert rules).schemes = rules.schemes ++ schemes := by
  induction schemes generalizing rules with
  | nil => simp
  | cons scheme schemes ih =>
      have hlast : (rules.insert scheme).schemes = rules.schemes ++ [scheme] :=
        insertAscending_concat fun member hmem =>
          (List.pairwise_append.mp h).2.2 member hmem scheme List.mem_cons_self
      rw [List.foldl_cons, ih, hlast, List.append_assoc, List.singleton_append]
      rwa [hlast, List.append_assoc, List.singleton_append]

theorem CaseRules.ofList_schemes (rules : CaseRules) :
    ofList rules.schemes = rules := by
  have hschemes : (ofList rules.schemes).schemes = rules.schemes :=
    schemes_foldl_insert allCaseSensitive rules.sorted
  cases rules
  cases h : ofList _
  simp_all

theorem CaseRules.ofJson?_toJson (rules : CaseRules) :
    ofJson? rules.toJson = some rules := by
  have hfields := Json.fields?_record
    [("case_insensitive_schemes", .array (rules.schemes.map .ofString))] (by simp)
  have hschemes : (rules.schemes.map Json.ofString).mapM Json.string? =
      some rules.schemes :=
    Text.mapM_map_eq_some fun scheme _ => rfl
  simp only [List.map_cons, List.map_nil] at hfields
  simp [ofJson?, toJson, hfields, Json.array?, hschemes, ofList_schemes]

theorem IdentifierPolicy.ofJson?_toJson (policy : IdentifierPolicy) :
    ofJson? policy.toJson = some policy := by
  have hfields := Json.fields?_record
    [("case_rules", policy.caseRules.toJson),
      ("check_charset", .flag policy.checkCharset),
      ("check_scheme_length", .flag policy.checkSchemeLength)] (by simp)
  simp only [List.map_cons, List.map_nil] at hfields
  simp [ofJson?, toJson, fieldNames, hfields, optionalField?, Json.bool?,
    CaseRules.ofJson?_toJson]

/-! ## Zones -/

namespace SmlZone

variable {name dnsZone url : String} {certificate : Bool} {zone : SmlZone}
  {json : Json}

theorem zoneFlaw?_eq_none_iff : zoneFlaw? dnsZone = none ↔
    dnsZone ≠ "" ∧ dnsZone.toList.getLast? = some '.' ∧
    dnsZone.toList.head? ≠ some '.' := by
  simp only [zoneFlaw?]
  split_ifs <;> simp_all

theorem create_eq_ok_iff :
    create name dnsZone url certificate = .ok zone ↔
      zone.name = name ∧ zone.dnsZone = dnsZone ∧
      zone.managementServiceUrl = url ∧
      zone.requiresClientCertificate = certificate := by
  unfold create
  constructor
  · intro h
    split at h
    · cases h
      exact ⟨rfl, rfl, rfl, rfl⟩
    · cases h
  · rintro ⟨rfl, rfl, rfl, rfl⟩
    split
    · rfl
    · rename_i flaw hflaw
      rw [zone.valid] at hflaw
      cases hflaw

theorem exists_create_iff :
    (∃ zone, create name dnsZone url certificate = .ok zone) ↔
      zoneFlaw? dnsZone = none := by
  simp only [create_eq_ok_iff]
  constructor
  · rintro ⟨zone, -, rfl, -⟩
    exact zone.valid
  · intro hvalid
    exact ⟨⟨name, dnsZone, url, certificate, hvalid⟩, rfl, rfl, rfl, rfl⟩

structure IsStated (json : Json) (name dnsZone url : String) (certificate : Bool) :
    Prop where
  exists_fields : ∃ first second third fourth,
    json.fields? fieldNames = some [some first, some second, some third,
      some fourth] ∧
      first.string? = some name ∧ second.string? = some dnsZone ∧
      third.string? = some url ∧ fourth.bool? = some certificate

theorem ofJson?_of_isStated (h : IsStated json name dnsZone url certificate) :
    ofJson? json = (create name dnsZone url certificate).toOption := by
  obtain ⟨first, second, third, fourth, hfields, hname, hzone, hurl,
      hcertificate⟩ := h
  simp [ofJson?, hfields, hname, hzone, hurl, hcertificate]

theorem exists_isStated (h : ofJson? json = some zone) :
    ∃ name dnsZone url certificate, IsStated json name dnsZone url certificate := by
  unfold ofJson? at h
  simp only [Option.bind_eq_bind, Option.bind_eq_some_iff] at h
  obtain ⟨fields, hfields, h⟩ := h
  split at h
  · simp only [Option.bind_eq_some_iff] at h
    obtain ⟨name, hname, dnsZone, hzone, url, hurl, certificate, hcertificate, -⟩ :=
      h
    exact ⟨name, dnsZone, url, certificate,
      ⟨_, _, _, _, hfields, hname, hzone, hurl, hcertificate⟩⟩
  · cases h

theorem toOption_eq_some_iff {outcome : Except SmlFault SmlZone} :
    outcome.toOption = some zone ↔ outcome = .ok zone := by
  cases outcome <;> simp [Except.toOption]

theorem ofJson?_eq_some_iff : ofJson? json = some zone ↔
    ∃ name dnsZone url certificate, IsStated json name dnsZone url certificate ∧
      create name dnsZone url certificate = .ok zone := by
  constructor
  · intro h
    obtain ⟨name, dnsZone, url, certificate, hstated⟩ := exists_isStated h
    rw [ofJson?_of_isStated hstated] at h
    exact ⟨name, dnsZone, url, certificate, hstated, toOption_eq_some_iff.mp h⟩
  · rintro ⟨name, dnsZone, url, certificate, hstated, hcreate⟩
    rw [ofJson?_of_isStated hstated, hcreate]
    rfl

theorem ofJson?_toJson (zone : SmlZone) : ofJson? zone.toJson = some zone := by
  have hfields := Json.fields?_record
    [("name", .ofString zone.name), ("dns_zone", .ofString zone.dnsZone),
      ("management_service_url", .ofString zone.managementServiceUrl),
      ("requires_client_certificate", .flag zone.requiresClientCertificate)]
      (by simp)
  have hcreate : create zone.name zone.dnsZone zone.managementServiceUrl
      zone.requiresClientCertificate = .ok zone :=
        create_eq_ok_iff.mpr ⟨rfl, rfl, rfl, rfl⟩
  exact ofJson?_eq_some_iff.mpr
    ⟨_, _, _, _, ⟨_, _, _, _, hfields, rfl, rfl, rfl, rfl⟩, hcreate⟩

end SmlZone

/-! ## Client configurations -/

namespace ClientConfig

variable {config : ClientConfig} {json : Json}

/-- The configuration without what is below a millisecond of its timeout. -/
def inMilliseconds (config : ClientConfig) : ClientConfig :=
  { config with timeout := .ofMilliseconds config.timeout.milliseconds }

theorem toJson?_eq_none_iff :
    config.toJson? = none ↔ 2 ^ 64 * 1000000 ≤ config.timeout.nanoseconds := by
  rw [toJson?, Duration.milliseconds, UInt64.size]
  split_ifs <;> simp <;> omega

theorem ofJson?_eq_some_iff : ofJson? json = some config ↔ ∃ zone timeout,
    json.fields? fieldNames = some [zone, timeout] ∧
      optionalField? SmlZone.ofJson? PeppolNetwork.production.zone zone =
        some config.zone ∧
      optionalField? (Json.word? · |>.map Duration.ofMilliseconds)
        (.ofSeconds 30) timeout = some config.timeout := by
  unfold ofJson?
  simp only [Option.bind_eq_bind, Option.bind_eq_some_iff]
  constructor
  · rintro ⟨fields, hfields, h⟩
    split at h
    · simp only [Option.bind_eq_some_iff, Option.some.injEq] at h
      obtain ⟨zone, hzone, timeout, htimeout, rfl⟩ := h
      exact ⟨_, _, hfields, hzone, htimeout⟩
    · cases h
  · rintro ⟨zone, timeout, hfields, hzone, htimeout⟩
    refine ⟨_, hfields, ?_⟩
    simp [hzone, htimeout]

theorem ofJson?_of_toJson? (h : config.toJson? = some json) :
    ofJson? json = some config.inMilliseconds := by
  rw [toJson?, Option.ite_none_right_eq_some, Option.some.injEq] at h
  obtain ⟨hlt, rfl⟩ := h
  have hfields := Json.fields?_record [("zone", config.zone.toJson),
    ("timeout_ms", .ofNat config.timeout.milliseconds)] (by simp)
  refine ofJson?_eq_some_iff.mpr
    ⟨_, _, hfields, SmlZone.ofJson?_toJson config.zone, ?_⟩
  rw [optionalField?, Json.word?_ofNat hlt]
  rfl

theorem milliseconds_ofMilliseconds (count : Nat) :
    (Duration.ofMilliseconds count).milliseconds = count :=
  Nat.mul_div_cancel count (by decide)

theorem timeout_of_ofJson? (h : ofJson? json = some config) :
    config.timeout.milliseconds < UInt64.size ∧ config.inMilliseconds = config := by
  obtain ⟨zone, timeout, -, -, htimeout⟩ := ofJson?_eq_some_iff.mp h
  have hcount : ∃ count < UInt64.size, config.timeout = .ofMilliseconds count := by
    cases timeout with
    | none => exact ⟨30000, by decide, (Option.some.inj htimeout).symm⟩
    | some value =>
        obtain ⟨count, hcount, hread⟩ := Option.map_eq_some_iff.mp htimeout
        exact ⟨count, Json.lt_of_word? hcount, hread.symm⟩
  obtain ⟨count, hlt, heq⟩ := hcount
  rw [inMilliseconds, heq, milliseconds_ofMilliseconds]
  exact ⟨hlt, by rw [← heq]⟩

end ClientConfig

/-! ## Saving and loading -/

/-- Whatever is written is read back as far as it is kept, and whatever is read can
be written and is kept whole. -/
structure RoundTrips {α : Type} (write? : α → Option Json) (read? : Json → Option α)
    (kept : α → α) : Prop where
  read_written : ∀ value json, write? value = some json →
    Json.readText? read? json.toText = some (kept value)
  written_read : ∀ text value, Json.readText? read? text = some value → ∃ json,
    write? value = some json ∧ Json.readText? read? json.toText = some value

theorem RoundTrips.of_read {α : Type} {write? : α → Option Json}
    {read? : Json → Option α} {kept : α → α}
    (hexact : ∀ value json, write? value = some json → json.IsExact)
    (hread : ∀ value json, write? value = some json →
      read? json = some (kept value))
    (hwrite : ∀ json value, read? json = some value →
      ∃ written, write? value = some written ∧ kept value = value) :
    RoundTrips write? read? kept := by
  have hback : ∀ value json, write? value = some json →
      Json.readText? read? json.toText = some (kept value) := by
    intro value json hjson
    rw [Json.readText?, Json.parse?_toText (hexact value json hjson)]
    exact hread value json hjson
  refine ⟨hback, fun text value htext => ?_⟩
  obtain ⟨json, -, hvalue⟩ := Option.bind_eq_some_iff.mp htext
  obtain ⟨written, hwritten, hkept⟩ := hwrite json value hvalue
  exact ⟨written, hwritten, by rw [hback value written hwritten, hkept]⟩

theorem CaseRules.isExact_toJson (rules : CaseRules) : rules.toJson.IsExact := by
  have hschemes : (Json.array (rules.schemes.map .ofString)).IsExact := by
    refine .array ?_
    rw [List.forall_mem_map]
    exact fun scheme _ => .text scheme
  exact Json.isExact_record (by simpa using hschemes)

theorem IdentifierPolicy.isExact_toJson (policy : IdentifierPolicy) :
    policy.toJson.IsExact :=
  Json.isExact_record (by simp [CaseRules.isExact_toJson, Json.IsExact.flag])

theorem SmlZone.isExact_toJson (zone : SmlZone) : zone.toJson.IsExact :=
  Json.isExact_record
    (by simp [Json.ofString, Json.IsExact.text, Json.IsExact.flag])

theorem ClientConfig.isExact_of_toJson? {config : ClientConfig} {json : Json}
    (h : config.toJson? = some json) : json.IsExact := by
  rw [toJson?, Option.ite_none_right_eq_some, Option.some.injEq] at h
  obtain ⟨-, rfl⟩ := h
  have hnumber : (Json.ofNat config.timeout.milliseconds).IsExact := .number rfl
  exact Json.isExact_record (by simp [SmlZone.isExact_toJson, hnumber])

/-- What saving and loading keeps of a configuration, and which zones are loaded. -/
structure SavesConfiguration : Prop where
  policies :
    RoundTrips (fun policy => some policy.toJson) IdentifierPolicy.ofJson? id
  zones : RoundTrips (fun zone => some zone.toJson) SmlZone.ofJson? id
  configs : RoundTrips ClientConfig.toJson? ClientConfig.ofJson?
    ClientConfig.inMilliseconds
  unwritten_iff : ∀ config : ClientConfig,
    config.toJson? = none ↔ 2 ^ 64 * 1000000 ≤ config.timeout.nanoseconds
  zone_read_iff : ∀ json, (∃ zone, SmlZone.ofJson? json = some zone) ↔
    ∃ name dnsZone url certificate,
      SmlZone.IsStated json name dnsZone url certificate ∧
      ∃ zone, SmlZone.create name dnsZone url certificate = .ok zone
  configured_iff : ∀ json zoneJson timeout period name dnsZone url certificate,
    json.fields? ClientConfig.fieldNames = some [some zoneJson, timeout] →
    optionalField? (Json.word? · |>.map Duration.ofMilliseconds)
      (.ofSeconds 30) timeout = some period →
    SmlZone.IsStated zoneJson name dnsZone url certificate →
    ((∃ config, ClientConfig.ofJson? json = some config) ↔
      ∃ zone, SmlZone.create name dnsZone url certificate = .ok zone)
  created_iff : ∀ name dnsZone url certificate,
    (∃ zone, SmlZone.create name dnsZone url certificate = .ok zone) ↔
      dnsZone ≠ "" ∧ dnsZone.toList.getLast? = some '.' ∧
      dnsZone.toList.head? ≠ some '.'
  zones_obey : ∀ zone : SmlZone, zone.dnsZone ≠ "" ∧
    zone.dnsZone.toList.getLast? = some '.' ∧ zone.dnsZone.toList.head? ≠ some '.'

theorem saves_configuration : SavesConfiguration where
  policies := by
    refine .of_read ?_ ?_ fun json policy _ => ⟨_, rfl, rfl⟩
    · rintro policy json ⟨⟩
      exact policy.isExact_toJson
    · rintro policy json ⟨⟩
      exact policy.ofJson?_toJson
  zones := by
    refine .of_read ?_ ?_ fun json zone _ => ⟨_, rfl, rfl⟩
    · rintro zone json ⟨⟩
      exact zone.isExact_toJson
    · rintro zone json ⟨⟩
      exact zone.ofJson?_toJson
  configs := by
    refine .of_read (fun _ _ => ClientConfig.isExact_of_toJson?)
      (fun _ _ => ClientConfig.ofJson?_of_toJson?) fun json config hread => ?_
    obtain ⟨hlt, hkept⟩ := ClientConfig.timeout_of_ofJson? hread
    exact ⟨_, if_pos hlt, hkept⟩
  unwritten_iff _ := ClientConfig.toJson?_eq_none_iff
  zone_read_iff json := by
    simp only [SmlZone.ofJson?_eq_some_iff]
    constructor
    · rintro ⟨zone, name, dnsZone, url, certificate, hstated, hcreate⟩
      exact ⟨name, dnsZone, url, certificate, hstated, zone, hcreate⟩
    · rintro ⟨name, dnsZone, url, certificate, hstated, zone, hcreate⟩
      exact ⟨zone, name, dnsZone, url, certificate, hstated, hcreate⟩
  configured_iff json zoneJson timeout period name dnsZone url certificate hfields
    htimeout
      hstated := by
    have hzone := SmlZone.ofJson?_of_isStated hstated
    simp only [ClientConfig.ofJson?_eq_some_iff, hfields]
    constructor
    · rintro ⟨config, _, _, ⟨⟩, hread, -⟩
      rw [optionalField?, hzone] at hread
      exact ⟨config.zone, SmlZone.toOption_eq_some_iff.mp hread⟩
    · rintro ⟨zone, hcreate⟩
      refine ⟨⟨zone, period⟩, _, _, rfl, ?_, htimeout⟩
      rw [optionalField?, hzone, hcreate]
      rfl
  created_iff _ _ _ _ :=
    SmlZone.exists_create_iff.trans SmlZone.zoneFlaw?_eq_none_iff
  zones_obey zone := SmlZone.zoneFlaw?_eq_none_iff.mp zone.valid

end EndpointDiscovery
