import EndpointDiscovery.Proofs.Revocation.Rest
import EndpointDiscovery.Smp.Client

/-!
# Resolving an endpoint

The calls for an endpoint share one discovery, which depends on the answers of the
web alone.  They differ in what they do with the record that it finds.
-/

namespace EndpointDiscovery

namespace Discovery

variable {α β : Type} {first : Discovery α} {next : α → Discovery β}
  {session : Session}

theorem run_bind_eq_ok_iff {value : β} :
    ((first >>= next).run session).2 = .ok value ↔
      ∃ produced, (first.run session).2 = .ok produced ∧
        ((next produced).run (first.run session).1).2 = .ok value := by
  rw [run_bind]
  cases first.run session with
  | mk later result => cases result <;> simp

theorem run_bind_of_error {fault : DiscoveryFault}
    (h : (first.run session).2 = .error fault) :
    ((first >>= next).run session).2 = .error fault := by
  rw [run_bind]
  cases hfirst : first.run session with
  | mk later result =>
      rw [hfirst] at h
      cases h
      rfl

end Discovery

namespace DiscoveryClient

variable {α β : Type} {client : DiscoveryClient}

/-! ## Discoveries that only ask -/

/-- From two sessions on, the web answers every series of requests in
the same way. -/
def AnswersAlike (client : DiscoveryClient) (first second : Session) : Prop :=
  ∀ asked url, client.web (first.requests ++ asked) url =
    client.web (second.requests ++ asked) url

/-- A discovery whose outcome is up to the web, and which has no part in the checks
of certificates. -/
structure OnlyAsks (client : DiscoveryClient) (discovery : Discovery α) : Prop where
  keepsChecks : ∀ session, (discovery.run session).1.checks = session.checks
  alike : ∀ first second, client.AnswersAlike first second →
    (discovery.run first).2 = (discovery.run second).2 ∧
      client.AnswersAlike (discovery.run first).1 (discovery.run second).1

theorem onlyAsks_lift (result : Except DiscoveryFault α) :
    client.OnlyAsks (liftM result : Discovery α) where
  keepsChecks _ := rfl
  alike _ _ halike := ⟨rfl, halike⟩

theorem OnlyAsks.bind {first : Discovery α} {next : α → Discovery β}
    (hfirst : client.OnlyAsks first)
    (hnext : ∀ value, client.OnlyAsks (next value)) :
    client.OnlyAsks (first >>= next) where
  keepsChecks session := by
    rw [Discovery.run_bind, ← hfirst.keepsChecks session]
    cases first.run session with
    | mk later result =>
        cases result with
        | error fault => rfl
        | ok value => exact (hnext value).keepsChecks later
  alike left right halike := by
    obtain ⟨houtcome, hafter⟩ := hfirst.alike left right halike
    rw [Discovery.run_bind, Discovery.run_bind]
    cases hleft : first.run left with
    | mk leftLater result =>
        cases hright : first.run right with
        | mk rightLater other =>
            rw [hleft, hright] at houtcome hafter
            cases houtcome
            cases result with
            | error fault => exact ⟨rfl, hafter⟩
            | ok value => exact (hnext value).alike _ _ hafter

theorem onlyAsks_locate (participant : Identifier) :
    client.OnlyAsks (client.locate participant) where
  keepsChecks _ := rfl
  alike _ _ halike := ⟨rfl, halike⟩

theorem onlyAsks_fetch (url : Url) : client.OnlyAsks (client.fetch url) where
  keepsChecks _ := rfl
  alike first second halike := by
    constructor
    · have hreply := halike [] url.toText
      rw [List.append_nil, List.append_nil] at hreply
      simp only [fetch, hreply]
    · intro asked other
      have hreply := halike ([url.toText] ++ asked) other
      simpa [fetch] using hreply

theorem onlyAsks_readMetadata (url : Url) :
    client.OnlyAsks (client.readMetadata url) :=
  (onlyAsks_fetch url).bind fun _ => onlyAsks_lift _

theorem onlyAsks_serviceMetadata (participant documentType : Identifier) :
    client.OnlyAsks (client.serviceMetadata participant documentType) := by
  have hquery : client.OnlyAsks (client.queryUrl participant (some documentType)) :=
    (onlyAsks_locate participant).bind fun _ => onlyAsks_lift _
  refine hquery.bind fun url => (onlyAsks_readMetadata url).bind fun metadata => ?_
  cases metadata.content with
  | information information => exact onlyAsks_lift (.ok information)
  | redirect redirect =>
      exact (onlyAsks_lift _).bind fun target =>
        (onlyAsks_readMetadata target).bind fun _ => onlyAsks_lift _

theorem onlyAsks_findEndpoint (query : EndpointQuery) :
    client.OnlyAsks (client.findEndpoint query) :=
  (onlyAsks_serviceMetadata _ _).bind fun _ => onlyAsks_lift _

theorem onlyAsks_endpointAddress (query : EndpointQuery) :
    client.OnlyAsks (client.endpointAddress query) :=
  (onlyAsks_findEndpoint query).bind fun _ => onlyAsks_lift _

theorem onlyAsks_endpointCertificate (query : EndpointQuery) :
    client.OnlyAsks (client.endpointCertificate query) :=
  (onlyAsks_findEndpoint query).bind fun _ => onlyAsks_lift _

/-! ## Records of endpoints -/

theorem selectEndpoint_eq_ok_iff {query : EndpointQuery}
    {information : ServiceInformation} {record : EndpointRecord} :
    selectEndpoint query information = .ok record ↔
      information.findEndpoint? query.process query.transportProfile =
        some record := by
  unfold selectEndpoint
  cases information.findEndpoint? query.process query.transportProfile <;> simp

theorem publishedAddress_eq_ok_iff {text : String} {url : Url} :
    publishedAddress text = .ok url ↔ Url.parse? text = some url := by
  unfold publishedAddress
  cases Url.parse? text <;> simp

theorem transportProfile_of_findEndpoint? {information : ServiceInformation}
    {process : Identifier} {transportProfile : String} {record : EndpointRecord}
    (h : information.findEndpoint? process transportProfile = some record) :
    record.transportProfile = transportProfile := by
  simpa using List.find?_some h

theorem acceptCheck_eq_ok_iff {caSet : CaSet}
    {result : Except TrustFault CheckResult} {accepted : Unit} :
    acceptCheck caSet result = .ok accepted ↔ result = .ok .valid := by
  cases result with
  | error fault => simp [acceptCheck]
  | ok status => cases status <;> simp [acceptCheck]

variable {query : EndpointQuery} {session : Session} {checker : Checker}
  {now : Instant}

theorem findEndpoint_eq_ok_iff {record : EndpointRecord} :
    ((client.findEndpoint query).run session).2 = .ok record ↔
      ∃ information,
        ((client.serviceMetadata query.participant query.documentType).run
          session).2 = .ok information ∧
        information.findEndpoint? query.process query.transportProfile =
          some record := by
  simp only [findEndpoint, Discovery.run_bind_eq_ok_iff, Discovery.run_lift,
    selectEndpoint_eq_ok_iff]

theorem resolve_eq_ok_iff {endpoint : ResolvedEndpoint} :
    ((client.resolve checker now query).run session).2 = .ok endpoint ↔
      ∃ record, ((client.findEndpoint query).run session).2 = .ok record ∧
        Url.parse? record.address = some endpoint.address ∧
        publishedCertificate record.certificate = .ok endpoint.certificate ∧
        (checker.check endpoint.certificate now session.checks).2 = .ok .valid ∧
        endpoint.transportProfile = record.transportProfile ∧
        endpoint.details = record.details := by
  have hchecks := (client.onlyAsks_findEndpoint query).keepsChecks session
  simp only [resolve, Discovery.run_bind_eq_ok_iff, Discovery.run_lift,
    Discovery.run_pure, publishedAddress_eq_ok_iff, requireTrust,
    acceptCheck_eq_ok_iff, hchecks]
  constructor
  · rintro ⟨record, hrecord, address, haddress, certificate, hcertificate,
      accepted, hvalid, hendpoint⟩
    cases hendpoint
    exact ⟨record, hrecord, haddress, hcertificate, hvalid, rfl, rfl⟩
  · obtain ⟨address, transportProfile, certificate, details⟩ := endpoint
    rintro ⟨record, hrecord, haddress, hcertificate, hvalid, rfl, rfl⟩
    exact ⟨record, hrecord, address, haddress, certificate, hcertificate, (),
      hvalid, rfl⟩

/-! ## Sessions after a resolution -/

section

variable {α β : Type} {property : Session → Prop} {first : Discovery α}
  {next : α → Discovery β}

def Keeps (property : Session → Prop) (discovery : Discovery α) : Prop :=
  ∀ session, property session → property (discovery.run session).1

theorem keeps_lift (result : Except DiscoveryFault α) :
    Keeps property (liftM result : Discovery α) := fun _ h => h

theorem Keeps.after (property : Session → Prop)
    (hnext : ∀ value, Keeps property (next value))
    (h : property (first.run session).1) :
    property ((first >>= next).run session).1 := by
  rw [Discovery.run_bind]
  cases hfirst : first.run session with
  | mk later result =>
      rw [hfirst] at h
      cases result with
      | error fault => exact h
      | ok value => exact hnext value later h

theorem Keeps.bind (hfirst : Keeps property first)
    (hnext : ∀ value, Keeps property (next value)) :
    Keeps property (first >>= next) := fun session h =>
  Keeps.after property hnext (hfirst session h)

theorem Keeps.resolve (property : Session → Prop)
    (hcheck : ∀ certificate, Keeps property (requireTrust checker now certificate))
    (hfound : property ((client.findEndpoint query).run session).1) :
    property ((client.resolve checker now query).run session).1 := by
  refine Keeps.after property (fun record => ?_) hfound
  refine (keeps_lift _).bind fun address => ?_
  refine (keeps_lift _).bind fun certificate => ?_
  exact (hcheck certificate).bind fun _ _ h => h

end

theorem atRest_resolve (h : session.checks.cache.AtRest) :
    ((client.resolve checker now query).run session).1.checks.cache.AtRest := by
  have hfound :
      ((client.findEndpoint query).run session).1.checks.cache.AtRest := by
    rw [(client.onlyAsks_findEndpoint query).keepsChecks session]
    exact h
  exact Keeps.resolve (·.checks.cache.AtRest)
    (fun _ _ hrest => Checker.atRest_check hrest) hfound

/-! ## The calls for an endpoint -/

/-- What the calls for an endpoint come to, where the same answers of the web are
given again to another session. -/
structure ResolvesWhatIsFound (client : DiscoveryClient) (checker : Checker)
    (now : Instant) (query : EndpointQuery) (session : Session) : Prop where
  resolved : ∀ endpoint,
    ((client.resolve checker now query).run session).2 = .ok endpoint ↔
      ∃ information record address certificate,
        ((client.serviceMetadata query.participant query.documentType).run
          session).2 = .ok information ∧
        information.findEndpoint? query.process query.transportProfile =
          some record ∧ Url.parse? record.address = some address ∧
        publishedCertificate record.certificate = .ok certificate ∧
        (checker.check certificate now session.checks).2 = .ok .valid ∧
        endpoint = ⟨address, query.transportProfile, certificate, record.details⟩
  address : ∀ endpoint other,
    ((client.resolve checker now query).run session).2 = .ok endpoint →
    client.AnswersAlike session other →
    ((client.endpointAddress query).run other).2 = .ok endpoint.address
  certificate : ∀ endpoint other,
    ((client.resolve checker now query).run session).2 = .ok endpoint →
    client.AnswersAlike session other →
    ((client.endpointCertificate query).run other).2 = .ok endpoint.certificate
  unfound : ∀ fault other,
    ((client.findEndpoint query).run session).2 = .error fault →
    client.AnswersAlike session other →
    ((client.resolve checker now query).run other).2 = .error fault ∧
      ((client.endpointAddress query).run other).2 = .error fault ∧
      ((client.endpointCertificate query).run other).2 = .error fault
  /-- While no other check is in progress, the check comes to what is known of the
  serial number, or else to the answer of the source. -/
  checkAtRest : session.checks.cache.AtRest → ∀ certificate,
    (checker.check certificate now session.checks).2 =
      checker.resultAtRest certificate now session.checks
  restKept : session.checks.cache.AtRest →
    ((client.resolve checker now query).run session).1.checks.cache.AtRest

theorem endpointAddress_of_resolve {endpoint : ResolvedEndpoint}
    (h : ((client.resolve checker now query).run session).2 = .ok endpoint) :
    ((client.endpointAddress query).run session).2 = .ok endpoint.address := by
  obtain ⟨record, hrecord, haddress, -⟩ := resolve_eq_ok_iff.mp h
  exact Discovery.run_bind_eq_ok_iff.mpr
    ⟨record, hrecord, publishedAddress_eq_ok_iff.mpr haddress⟩

theorem endpointCertificate_of_resolve {endpoint : ResolvedEndpoint}
    (h : ((client.resolve checker now query).run session).2 = .ok endpoint) :
    ((client.endpointCertificate query).run session).2 =
      .ok endpoint.certificate := by
  obtain ⟨record, hrecord, -, hcertificate, -⟩ := resolve_eq_ok_iff.mp h
  exact Discovery.run_bind_eq_ok_iff.mpr ⟨record, hrecord, hcertificate⟩

/-- An endpoint is resolved exactly if it is found, can be read and is trusted.  Its
address and its certificate are those that the other calls give for the same
answers, without looking at the checker. -/
theorem resolve_resolves_what_is_found (client : DiscoveryClient)
    (checker : Checker) (now : Instant) (query : EndpointQuery)
    (session : Session) :
    client.ResolvesWhatIsFound checker now query session where
  resolved endpoint := by
    rw [resolve_eq_ok_iff]
    constructor
    · rintro ⟨record, hrecord, haddress, hcertificate, hvalid, hprofile, hdetails⟩
      obtain ⟨information, hinformation, hfind⟩ := findEndpoint_eq_ok_iff.mp hrecord
      refine ⟨information, record, endpoint.address, endpoint.certificate,
        hinformation, hfind, haddress, hcertificate, hvalid, ?_⟩
      rw [← transportProfile_of_findEndpoint? hfind, ← hprofile, ← hdetails]
    · rintro ⟨information, record, address, certificate, hinformation, hfind,
        haddress, hcertificate, hvalid, rfl⟩
      exact ⟨record, findEndpoint_eq_ok_iff.mpr ⟨information, hinformation, hfind⟩,
        haddress, hcertificate, hvalid,
        (transportProfile_of_findEndpoint? hfind).symm, rfl⟩
  address endpoint other hresolved halike := by
    rw [← ((onlyAsks_endpointAddress query).alike session other halike).1]
    exact endpointAddress_of_resolve hresolved
  certificate endpoint other hresolved halike := by
    rw [← ((onlyAsks_endpointCertificate query).alike session other halike).1]
    exact endpointCertificate_of_resolve hresolved
  unfound fault other hfault halike := by
    rw [((onlyAsks_findEndpoint query).alike session other halike).1] at hfault
    exact ⟨Discovery.run_bind_of_error hfault, Discovery.run_bind_of_error hfault,
      Discovery.run_bind_of_error hfault⟩
  checkAtRest hrest certificate := Checker.check_atRest hrest
  restKept := atRest_resolve

end DiscoveryClient

end EndpointDiscovery
