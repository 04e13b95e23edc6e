import EndpointDiscovery.Proofs.Discovery.FailureKind
import EndpointDiscovery.Proofs.Discovery.Names
import EndpointDiscovery.Proofs.Trust.Decision

/-!
# Failures of a resolution

A resolution goes through stages: it locates the SMP, gets one or two documents,
selects an endpoint, reads it and has its certificate checked.  The stage that fails
decides the kind of the failure.
-/

namespace EndpointDiscovery

namespace DiscoveryClient

variable {client : DiscoveryClient} {query : EndpointQuery} {session : Session}
  {checker : Checker} {now : Instant} {kind : DiscoveryErrorKind}

/-! ## Locating -/

def Unlocated (client : DiscoveryClient) (query : EndpointQuery) : Prop :=
  (∃ fault,
    (client.locator.locate query.participant client.config.zone).result =
      .error fault) ∨
  ∃ base,
    (client.locator.locate query.participant client.config.zone).result = .ok base ∧
    base.extendPath? (queryPath query.participant (some query.documentType)) = none

def Locates (client : DiscoveryClient) (query : EndpointQuery) (url : Url) : Prop :=
  client.queriedUrl query.participant (some query.documentType) = .ok url

theorem failsWith_extendBase {base : Url} {path : String} :
    FailsWith kind (extendBase base path) ↔
      kind = .smpLocation ∧ base.extendPath? path = none := by
  unfold extendBase
  cases base.extendPath? path <;> simp

theorem failsWith_queriedUrl :
    FailsWith kind (client.queriedUrl query.participant (some query.documentType)) ↔
      kind = .smpLocation ∧ client.Unlocated query := by
  simp only [queriedUrl, queryUrl, failsWith_run_bind, locate, Unlocated,
    Discovery.run_lift, failsWith_extendBase]
  cases (client.locator.locate query.participant client.config.zone).result with
  | error fault => simp [Except.mapError, faultOfLocation]
  | ok base => simp [Except.mapError]

/-! ## Requests -/

/-- A request for metadata: what was requested before it, and the URL
that it is for. -/
inductive Gets (client : DiscoveryClient) (query : EndpointQuery)
    (session : Session) :
    List String → Url → Prop where
  | first {url : Url} (located : client.Locates query url) :
      Gets client query session session.requests url
  | second {url target : Url} {redirect : Redirect}
      (located : client.Locates query url)
      (leads : client.LeadsTo session.requests url redirect target) :
      Gets client query session (session.requests ++ [url.toText]) target

theorem Gets.located {before : List String} {url : Url}
    (h : client.Gets query session before url) :
    ∃ first, client.Locates query first := by
  cases h with
  | first hlocated => exact ⟨url, hlocated⟩
  | @second first _ _ hlocated _ => exact ⟨first, hlocated⟩

def BringsNoMetadata (client : DiscoveryClient) (before : List String)
    (url : Url) : Prop :=
  ∃ response, (client.web before url.toText).Brings client.config.timeout response ∧
    (response.breaksOff = true ∨
      ∃ fault, SmpReader.serviceMetadata client.policy response.text = .error fault)

@[simp]
theorem failsWith_metadataAt {before : List String} {url : Url} :
    FailsWith kind (client.metadataAt before url) ↔
      kind = .transport ∧
        (client.web before url.toText).FailsInTransport client.config.timeout ∨
      kind = .endpointNotFound ∧
        (client.web before url.toText).TellsNotFound client.config.timeout ∨
      kind = .malformedResponse ∧ client.BringsNoMetadata before url := by
  have hreader (text : String) :=
    (SmpReader.blamesResponse_serviceMetadata client.policy text).failsWith_iff kind
  simp only [metadataAt, failsWith_bind, Http.Reply.failsWith_textOfReply,
    Http.Reply.textOfReply_eq_ok_iff, hreader]
  constructor
  · rintro ((htransport | htells | ⟨hkind, response, hbrings, hbreaksOff⟩) |
      ⟨text, ⟨response, hbrings, -, rfl⟩, hkind, hrejected⟩)
    · exact .inl htransport
    · exact .inr (.inl htells)
    · exact .inr (.inr ⟨hkind, response, hbrings, .inl hbreaksOff⟩)
    · exact .inr (.inr ⟨hkind, response, hbrings, .inr hrejected⟩)
  · rintro (htransport | htells | ⟨hkind, response, hbrings, hunread⟩)
    · exact .inl (.inl htransport)
    · exact .inl (.inr (.inl htells))
    · cases hbreaksOff : response.breaksOff with
      | true => exact .inl (.inr (.inr ⟨hkind, response, hbrings, hbreaksOff⟩))
      | false =>
          have hrejected := hunread.resolve_left (by simp [hbreaksOff])
          exact .inr ⟨response.text, ⟨response, hbrings, hbreaksOff, rfl⟩, hkind,
            hrejected⟩

/-! ## Redirects -/

theorem failsWith_redirectTarget {redirect : Redirect} :
    FailsWith kind (redirectTarget redirect) ↔
      kind = .malformedResponse ∧ (¬CertificateUid.Usable redirect.certificateUid ∨
        Url.parse? redirect.href = none) := by
  have hcheck : FailsWith kind (CertificateUid.check redirect.certificateUid) ↔
      kind = .malformedResponse ∧
      ¬CertificateUid.Usable redirect.certificateUid := by
    rw [← CertificateUid.check_eq_ok_iff, CertificateUid.check]
    split
    · simp
    · split <;> simp
  by_cases husable : CertificateUid.Usable redirect.certificateUid
  · rw [redirectTarget, (CertificateUid.check_eq_ok_iff _).mpr husable]
    cases Url.parse? redirect.href <;> simp [husable, bind, Except.bind]
  · rw [redirectTarget, failsWith_bind, hcheck]
    constructor
    · rintro (⟨hkind, -⟩ | ⟨checked, hchecked, -⟩)
      · exact ⟨hkind, .inl husable⟩
      · exact absurd ((CertificateUid.check_eq_ok_iff _).mp hchecked) husable
    · rintro ⟨hkind, -⟩
      exact .inl ⟨hkind, husable⟩

theorem failsWith_acceptRedirected {redirect : Redirect} {target : Url}
    {metadata : ServiceMetadata} :
    FailsWith kind (acceptRedirected redirect target metadata) ↔
      kind = .tooManyRedirects ∧ (∃ second, metadata.content = .redirect second) ∨
      kind = .redirectCertificateMismatch ∧
        (∃ information, metadata.content = .information information) ∧
        ∀ signer, metadata.signer? = some signer →
          CertificateUid.identifies redirect.certificateUid signer = false := by
  obtain ⟨content, signer?⟩ := metadata
  cases content with
  | redirect second => simp [acceptRedirected]
  | information information =>
      cases signer? with
      | none => simp [acceptRedirected]
      | some signer =>
          cases hidentifies :
              CertificateUid.identifies redirect.certificateUid signer <;>
            simp [acceptRedirected, hidentifies]

def FindsRedirect (client : DiscoveryClient) (query : EndpointQuery)
    (session : Session) (redirect : Redirect) : Prop :=
  ∃ url signer?, client.Locates query url ∧
    client.metadataAt session.requests url = .ok ⟨.redirect redirect, signer?⟩

def Follows (client : DiscoveryClient) (query : EndpointQuery) (session : Session)
    (redirect : Redirect) (metadata : ServiceMetadata) : Prop :=
  ∃ url target, client.Locates query url ∧
    client.LeadsTo session.requests url redirect target ∧
    client.metadataAt (session.requests ++ [url.toText]) target = .ok metadata

theorem failsWith_metadataFrom {url : Url} :
    FailsWith kind ((client.metadataFrom url).run session).2 ↔
      FailsWith kind (client.metadataAt session.requests url) ∨
      ∃ redirect signer?,
        client.metadataAt session.requests url = .ok ⟨.redirect redirect, signer?⟩ ∧
        (FailsWith kind (redirectTarget redirect) ∨
          ∃ target, redirectTarget redirect = .ok target ∧
            FailsWith kind
              (client.metadataAt (session.requests ++ [url.toText]) target >>=
              acceptRedirected redirect target)) := by
  rw [metadataFrom, failsWith_run_bind, run_readMetadata]
  apply or_congr_right
  constructor
  · rintro ⟨⟨content, signer?⟩, hreads, hnext⟩
    cases content with
    | information information => exact absurd hnext not_failsWith_ok
    | redirect redirect =>
        refine ⟨redirect, signer?, hreads, ?_⟩
        simpa [failsWith_run_bind, failsWith_bind, run_readMetadata] using hnext
  · rintro ⟨redirect, signer?, hreads, hnext⟩
    refine ⟨⟨.redirect redirect, signer?⟩, hreads, ?_⟩
    simpa [failsWith_run_bind, failsWith_bind, run_readMetadata] using hnext

theorem LeadsTo.failsWith {before : List String} {url target : Url}
    {redirect : Redirect} (h : client.LeadsTo before url redirect target)
    (hfollowed :
      FailsWith kind (client.metadataAt (before ++ [url.toText]) target >>=
      acceptRedirected redirect target)) :
    FailsWith kind (client.metadataAt before url) ∨
      ∃ redirect signer?,
        client.metadataAt before url = .ok ⟨.redirect redirect, signer?⟩ ∧
        (FailsWith kind (redirectTarget redirect) ∨
          ∃ target, redirectTarget redirect = .ok target ∧
            FailsWith kind (client.metadataAt (before ++ [url.toText]) target >>=
              acceptRedirected redirect target)) := by
  obtain ⟨signer?, hreads⟩ := h.reads
  exact .inr ⟨redirect, signer?, hreads, .inr ⟨target,
    (redirectTarget_eq_ok_iff redirect target).mpr ⟨h.usable, h.parsed⟩, hfollowed⟩⟩

@[simp]
theorem failsWith_serviceMetadata :
    FailsWith kind
        ((client.serviceMetadata query.participant query.documentType).run
          session).2 ↔
      kind = .smpLocation ∧ client.Unlocated query ∨
      (∃ before url, client.Gets query session before url ∧
        FailsWith kind (client.metadataAt before url)) ∨
      kind = .malformedResponse ∧
      (∃ redirect, client.FindsRedirect query session redirect ∧
        (¬CertificateUid.Usable redirect.certificateUid ∨
          Url.parse? redirect.href = none)) ∨
      kind = .tooManyRedirects ∧ (∃ redirect second signer?,
        client.Follows query session redirect ⟨.redirect second, signer?⟩) ∨
      kind = .redirectCertificateMismatch ∧ ∃ redirect information signer?,
        client.Follows query session redirect ⟨.information information, signer?⟩ ∧
        ∀ signer, signer? = some signer →
          CertificateUid.identifies redirect.certificateUid signer = false := by
  have hrun :
      (client.serviceMetadata query.participant query.documentType).run session =
      (client.queryUrl query.participant (some query.documentType) >>=
        client.metadataFrom).run session := rfl
  rw [hrun, failsWith_run_bind, run_queryUrl, failsWith_queriedUrl]
  simp only [failsWith_metadataFrom, requests_queryUrl]
  apply or_congr_right
  constructor
  · rintro ⟨url, hlocated, hunread | ⟨redirect, signer?, hreads, htarget |
      ⟨target, hleads, hfollowed⟩⟩⟩
    · exact .inl ⟨_, url, .first hlocated, hunread⟩
    · obtain ⟨hkind, hunusable⟩ := failsWith_redirectTarget.mp htarget
      exact .inr
        (.inl ⟨hkind, redirect, ⟨url, signer?, hlocated, hreads⟩, hunusable⟩)
    · obtain ⟨husable, hparsed⟩ :=
        (redirectTarget_eq_ok_iff redirect target).mp hleads
      have hleads : client.LeadsTo session.requests url redirect target :=
        ⟨⟨signer?, hreads⟩, husable, hparsed⟩
      obtain hunread | ⟨⟨content, signer?⟩, hmetadata, hrefused⟩ :=
        failsWith_bind.mp hfollowed
      · exact .inl ⟨_, target, .second hlocated hleads, hunread⟩
      · obtain ⟨hkind, second, rfl⟩ | ⟨hkind, ⟨information, rfl⟩, hsigner⟩ :=
          failsWith_acceptRedirected.mp hrefused
        · exact .inr (.inr (.inl ⟨hkind, redirect, second, signer?,
            url, target, hlocated, hleads, hmetadata⟩))
        · exact .inr (.inr (.inr ⟨hkind, redirect, information, signer?,
            ⟨url, target, hlocated, hleads, hmetadata⟩, hsigner⟩))
  · rintro (⟨before, asked, hgets, hunread⟩ |
      ⟨hkind, redirect, ⟨url, signer?, hlocated, hreads⟩, hunusable⟩ |
      ⟨hkind, redirect, second, signer?, url, target, hlocated, hleads, hmetadata⟩ |
      ⟨hkind, redirect, information, signer?,
        ⟨url, target, hlocated, hleads, hmetadata⟩, hsigner⟩)
    · cases hgets with
      | first hlocated => exact ⟨asked, hlocated, .inl hunread⟩
      | @second url _ redirect hlocated hleads =>
          exact ⟨url, hlocated,
            hleads.failsWith (failsWith_bind.mpr (.inl hunread))⟩
    · exact ⟨url, hlocated, .inr ⟨redirect, signer?, hreads,
        .inl (failsWith_redirectTarget.mpr ⟨hkind, hunusable⟩)⟩⟩
    · refine ⟨url, hlocated,
        hleads.failsWith (failsWith_bind.mpr (.inr ⟨_, hmetadata, ?_⟩))⟩
      exact failsWith_acceptRedirected.mpr (.inl ⟨hkind, second, rfl⟩)
    · refine ⟨url, hlocated,
        hleads.failsWith (failsWith_bind.mpr (.inr ⟨_, hmetadata, ?_⟩))⟩
      exact failsWith_acceptRedirected.mpr
        (.inr ⟨hkind, ⟨information, rfl⟩, hsigner⟩)

/-! ## Endpoints -/

theorem failsWith_selectEndpoint {information : ServiceInformation} :
    FailsWith kind (selectEndpoint query information) ↔
      kind = .endpointNotFound ∧
        information.findEndpoint? query.process query.transportProfile = none := by
  unfold selectEndpoint
  cases information.findEndpoint? query.process query.transportProfile <;> simp

theorem failsWith_publishedAddress {text : String} :
    FailsWith kind (publishedAddress text) ↔
      kind = .malformedResponse ∧ Url.parse? text = none := by
  unfold publishedAddress
  cases Url.parse? text <;> simp

/-! ## Checks -/

/-- Whether a certificate is revoked has to be asked, and is not answered. -/
def LacksRevocation (checker : Checker) (certificate : Certificate) (now : Instant)
    (state : CheckerState) : Prop :=
  certificate.checkIssuance checker.caSet.certificates now = .ok .valid ∧
    ∃ fault, (checker.revocationStatus certificate state).2 = .error fault

/-- The answer to a check is another one than that the certificate is valid, or that
it is not known whether it is revoked. -/
def Distrusts (checker : Checker) (certificate : Certificate) (now : Instant)
    (state : CheckerState) : Prop :=
  (∃ result, (checker.check certificate now state).2 = .ok result ∧
    result ≠ .valid) ∨
    ∃ fault, (checker.check certificate now state).2 = .error fault ∧
      ∀ serial, fault.cause ≠ .revocationCheckUnavailable serial

theorem lacksRevocation_iff {certificate : Certificate} {state : CheckerState} :
    LacksRevocation checker certificate now state ↔
      ∃ fault, (checker.check certificate now state).2 = .error fault ∧
        ∃ serial, fault.cause = .revocationCheckUnavailable serial := by
  constructor
  · rintro ⟨hvalid, fault, hfault⟩
    exact ⟨fault, Checker.check_eq_error_iff.mpr (.inr ⟨hvalid, hfault⟩), _,
      Checker.revocationStatus_error hfault⟩
  · rintro ⟨fault, hfault, serial, hcause⟩
    obtain hissuance | ⟨hvalid, hstatus⟩ := Checker.check_eq_error_iff.mp hfault
    · obtain hother | hother := Checker.checkIssuance_error hissuance <;>
      · rw [hother] at hcause
        cases hcause
    · exact ⟨hvalid, fault, hstatus⟩

@[simp]
theorem failsWith_acceptCheck {certificate : Certificate} {state : CheckerState} :
    FailsWith kind
      (acceptCheck checker.caSet (checker.check certificate now state).2) ↔
      kind = .revocationCheckUnavailable ∧
      LacksRevocation checker certificate now state ∨
      kind = .untrustedEndpoint ∧ Distrusts checker certificate now state := by
  rw [lacksRevocation_iff, Distrusts]
  cases (checker.check certificate now state).2 with
  | ok result => cases result <;> simp [acceptCheck]
  | error fault => cases hcause : fault.cause <;>
    simp [acceptCheck, faultOfCheck, hcause]

/-! ## Resolutions -/

/-- The certificate of the endpoint that is found, which is read
after the address. -/
def Presents (client : DiscoveryClient) (query : EndpointQuery) (session : Session)
    (certificate : Certificate) : Prop :=
  ∃ record address, ((client.findEndpoint query).run session).2 = .ok record ∧
    Url.parse? record.address = some address ∧
    publishedCertificate record.certificate = .ok certificate

@[simp]
theorem failsWith_findEndpoint :
    FailsWith kind ((client.findEndpoint query).run session).2 ↔
      FailsWith kind
        ((client.serviceMetadata query.participant query.documentType).run
          session).2 ∨
      kind = .endpointNotFound ∧ ∃ information,
        ((client.serviceMetadata query.participant query.documentType).run
          session).2 = .ok information ∧
        information.findEndpoint? query.process query.transportProfile = none := by
  rw [findEndpoint, failsWith_run_bind]
  simp only [Discovery.run_lift, failsWith_selectEndpoint]
  apply or_congr_right
  constructor
  · rintro ⟨information, hinformation, hkind, hnone⟩
    exact ⟨hkind, information, hinformation, hnone⟩
  · rintro ⟨hkind, information, hinformation, hnone⟩
    exact ⟨information, hinformation, hkind, hnone⟩

@[simp]
theorem failsWith_resolve :
    FailsWith kind ((client.resolve checker now query).run session).2 ↔
      FailsWith kind ((client.findEndpoint query).run session).2 ∨
      kind = .malformedResponse ∧ (∃ record,
        ((client.findEndpoint query).run session).2 = .ok record ∧
        (Url.parse? record.address = none ∨
          ∃ fault, publishedCertificate record.certificate = .error fault)) ∨
      ∃ certificate, client.Presents query session certificate ∧
        FailsWith kind
          (acceptCheck checker.caSet
            (checker.check certificate now session.checks).2) := by
  have hchecks := (client.onlyAsks_findEndpoint query).keepsChecks session
  have hcertificate (text : String) :=
    (blamesResponse_publishedCertificate text).failsWith_iff kind
  simp only [resolve, failsWith_run_bind, Discovery.run_lift, Discovery.run_pure,
    not_failsWith_ok, failsWith_publishedAddress, publishedAddress_eq_ok_iff,
    hcertificate, requireTrust, hchecks, and_false, exists_false, or_false]
  apply or_congr_right
  constructor
  · rintro ⟨record, hrecord,
      ⟨hkind, haddress⟩ | ⟨address, haddress, ⟨hkind, hcertificate⟩ |
      ⟨certificate, hcertificate, hcheck⟩⟩⟩
    · exact .inl ⟨hkind, record, hrecord, .inl haddress⟩
    · exact .inl ⟨hkind, record, hrecord, .inr hcertificate⟩
    · exact .inr ⟨certificate,
        ⟨record, address, hrecord, haddress, hcertificate⟩, hcheck⟩
  · rintro (⟨hkind, record, hrecord, hunread⟩ |
      ⟨certificate, ⟨record, address, hrecord, haddress, hcertificate⟩, hcheck⟩)
    · refine ⟨record, hrecord, ?_⟩
      cases haddress : Url.parse? record.address with
      | none => exact .inl ⟨hkind, rfl⟩
      | some address =>
          exact .inr ⟨address, rfl,
            .inl ⟨hkind, hunread.resolve_left (by simp [haddress])⟩⟩
    · exact ⟨record, hrecord,
        .inr ⟨address, haddress, .inr ⟨certificate, hcertificate, hcheck⟩⟩⟩

/-! ## Sessions after a resolution -/

theorem requests_resolve :
    ((client.resolve checker now query).run session).1.requests =
      ((client.serviceMetadata query.participant query.documentType).run
        session).1.requests := by
  let asked :=
    ((client.serviceMetadata query.participant query.documentType).run session).1
  have hfound :
      ((client.findEndpoint query).run session).1.requests = asked.requests :=
    Keeps.after (·.requests = asked.requests) (fun _ => keeps_lift _) rfl
  exact Keeps.resolve (·.requests = asked.requests) (fun _ _ h => h) hfound

def resolveAll (client : DiscoveryClient) (checker : Checker) :
    List (Instant × EndpointQuery) → Session → Session
  | [], session => session
  | (now, query) :: calls, session =>
      resolveAll client checker calls
        ((client.resolve checker now query).run session).1

theorem atRest_resolveAll (calls : List (Instant × EndpointQuery))
    (h : session.checks.cache.AtRest) :
    (client.resolveAll checker calls session).checks.cache.AtRest := by
  induction calls generalizing session with
  | nil => exact h
  | cons call calls ih => exact ih (atRest_resolve h)

/-! ## Requests of a resolution -/

theorem gets_iff_of_course {url : Url} {gets : List String}
    {result : Except DiscoveryFault ServiceInformation}
    (hlocated : client.Locates query url)
    (hcourse : client.Course session.requests url gets result)
    (before : List String) (text : String) :
    (∃ asked, client.Gets query session before asked ∧ asked.toText = text) ↔
      session.requests <+: before ∧
      before ++ [text] <+: session.requests ++ gets := by
  have hsafe := hcourse.redirectSafe
  have hfirst : gets[0]? = some url.toText := (hsafe.first _).mpr ⟨url, rfl, rfl⟩
  obtain ⟨rest, rfl⟩ : ∃ rest, gets = url.toText :: rest := by
    cases gets with
    | nil => cases hfirst
    | cons get rest => exact ⟨rest, by simpa using hfirst⟩
  constructor
  · rintro ⟨asked, hgets, rfl⟩
    cases hgets with
    | first hasked =>
        cases hlocated.symm.trans hasked
        exact ⟨List.prefix_rfl, by simp⟩
    | second hasked hleads =>
        cases hlocated.symm.trans hasked
        have hsecond := (hsafe.second _).mpr ⟨_, _, _, rfl, hleads, rfl⟩
        cases rest with
        | nil => cases hsecond
        | cons get rest =>
            cases hsecond
            exact ⟨List.prefix_append _ _, by simp⟩
  · rintro ⟨⟨asked, rfl⟩, hprefix⟩
    rw [List.append_assoc, List.prefix_append_right_inj] at hprefix
    cases asked with
    | nil =>
        obtain ⟨rfl, -⟩ := List.cons_prefix_cons.mp hprefix
        exact ⟨url, by simpa using .first hlocated, rfl⟩
    | cons get asked =>
        rw [List.cons_append, List.cons_prefix_cons] at hprefix
        obtain ⟨rfl, hrest⟩ := hprefix
        -- Two requests at most leave no room for anything in between.
        have hlength := hrest.length_le
        have hatMostTwo := hsafe.atMostTwo
        simp only [List.length_append, List.length_cons, List.length_nil]
          at hlength hatMostTwo
        obtain rfl : asked = [] := List.length_eq_zero_iff.mp (by omega)
        cases rest with
        | nil => simp at hrest
        | cons get rest =>
            obtain ⟨rfl, -⟩ := List.cons_prefix_cons.mp hrest
            obtain ⟨located, redirect, target, hurl, hleads, htext⟩ :=
              (hsafe.second text).mp rfl
            cases hurl
            exact ⟨target, .second hlocated hleads, htext.symm⟩

structure RequestsWhatItGets (client : DiscoveryClient) (query : EndpointQuery)
    (session : Session) (requests : List String) : Prop where
  grows : session.requests <+: requests
  atMostTwo : requests.length ≤ session.requests.length + 2
  gets : ∀ before text,
    (∃ url, client.Gets query session before url ∧ url.toText = text) ↔
      session.requests <+: before ∧ before ++ [text] <+: requests

theorem requestsWhatItGets_serviceMetadata (client : DiscoveryClient)
    (query : EndpointQuery) (session : Session) :
    client.RequestsWhatItGets query session
      ((client.serviceMetadata query.participant query.documentType).run
        session).1.requests := by
  have hrun :
      (client.serviceMetadata query.participant query.documentType).run session =
      (client.queryUrl query.participant (some query.documentType) >>=
        client.metadataFrom).run session := rfl
  have hlocated :
      ((client.queryUrl query.participant (some query.documentType)).run session).2
        = client.queriedUrl query.participant (some query.documentType) :=
    run_queryUrl _ _ session
  have hrequests :=
    requests_queryUrl client query.participant (some query.documentType) session
  rw [hrun, Discovery.run_bind]
  cases hquery :
      (client.queryUrl query.participant (some query.documentType)).run session with
  | mk later result =>
      rw [hquery] at hlocated hrequests
      dsimp only at hlocated hrequests
      cases result with
      | error fault =>
          dsimp only
          rw [hrequests]
          refine ⟨List.prefix_rfl, by omega, fun before text => ⟨?_, ?_⟩⟩
          · rintro ⟨asked, hgets, -⟩
            cases hgets with
            | first hasked => cases hlocated.trans hasked
            | second hasked => cases hlocated.trans hasked
          · rintro ⟨⟨asked, rfl⟩, hprefix⟩
            have := hprefix.length_le
            simp only [List.length_append, List.length_cons,
              List.length_nil] at this
            omega
      | ok url =>
          obtain ⟨gets, hgets, hcourse⟩ := client.exists_course url later
          rw [hrequests] at hgets hcourse
          dsimp only
          rw [hgets]
          refine ⟨List.prefix_append _ _, ?_,
            gets_iff_of_course hlocated.symm hcourse⟩
          simpa using hcourse.redirectSafe.atMostTwo

theorem requests_of_unlocated (h : client.Unlocated query) :
    ((client.resolve checker now query).run session).1.requests =
      session.requests := by
  have hrequests := requestsWhatItGets_serviceMetadata client query session
  rw [requests_resolve]
  obtain ⟨gets, hgets⟩ := hrequests.grows
  cases gets with
  | nil => simpa using hgets.symm
  | cons get rest =>
      obtain ⟨url, hget, -⟩ :=
        (hrequests.gets session.requests get).mpr
          ⟨List.prefix_rfl, by simp [← hgets]⟩
      obtain ⟨located, hlocated⟩ := hget.located
      have hfails := failsWith_queriedUrl.mpr ⟨rfl, h⟩
      rw [hlocated] at hfails
      exact absurd hfails not_failsWith_ok

/-! ## Classification -/

/-- Which failure of a resolution means what.  Each stage is only reached if the
stages before it have succeeded. -/
structure ClassifiesFailures (client : DiscoveryClient) (checker : Checker)
    (now : Instant) (query : EndpointQuery) (session : Session) : Prop where
  requests : client.RequestsWhatItGets query session
    ((client.resolve checker now query).run session).1.requests
  smpLocation :
    FailsWith .smpLocation ((client.resolve checker now query).run session).2 ↔
    client.Unlocated query
  unlocated : client.Unlocated query →
    ((client.resolve checker now query).run session).1.requests = session.requests
  transport :
    FailsWith .transport ((client.resolve checker now query).run session).2 ↔
    ∃ before url, client.Gets query session before url ∧
      (client.web before url.toText).FailsInTransport client.config.timeout
  endpointNotFound :
    FailsWith .endpointNotFound ((client.resolve checker now query).run session).2 ↔
      (∃ before url, client.Gets query session before url ∧
        (client.web before url.toText).TellsNotFound client.config.timeout) ∨
      ∃ information,
        ((client.serviceMetadata query.participant query.documentType).run
          session).2 = .ok information ∧
        information.findEndpoint? query.process query.transportProfile = none
  malformedResponse :
    FailsWith .malformedResponse
      ((client.resolve checker now query).run session).2 ↔
      (∃ before url, client.Gets query session before url ∧
        client.BringsNoMetadata before url) ∨
      (∃ redirect, client.FindsRedirect query session redirect ∧
        (¬CertificateUid.Usable redirect.certificateUid ∨
          Url.parse? redirect.href = none)) ∨
      ∃ record, ((client.findEndpoint query).run session).2 = .ok record ∧
        (Url.parse? record.address = none ∨
          ∃ fault, publishedCertificate record.certificate = .error fault)
  tooManyRedirects :
    FailsWith .tooManyRedirects ((client.resolve checker now query).run session).2 ↔
      ∃ redirect second signer?,
        client.Follows query session redirect ⟨.redirect second, signer?⟩
  redirectCertificateMismatch :
    FailsWith .redirectCertificateMismatch
      ((client.resolve checker now query).run session).2 ↔
      ∃ redirect information signer?,
        client.Follows query session redirect ⟨.information information, signer?⟩ ∧
        ∀ signer, signer? = some signer →
          CertificateUid.identifies redirect.certificateUid signer = false
  revocationCheckUnavailable :
    FailsWith .revocationCheckUnavailable
      ((client.resolve checker now query).run session).2 ↔
      ∃ certificate, client.Presents query session certificate ∧
        LacksRevocation checker certificate now session.checks
  untrustedEndpoint :
    FailsWith .untrustedEndpoint
      ((client.resolve checker now query).run session).2 ↔
      ∃ certificate, client.Presents query session certificate ∧
        Distrusts checker certificate now session.checks
  /-- Where no other check is in progress, a status is lacking if the question is
  not answered. -/
  unanswered : session.checks.cache.AtRest → ∀ certificate,
    (LacksRevocation checker certificate now session.checks ↔
      certificate.checkIssuance checker.caSet.certificates now = .ok .valid ∧
        session.checks.cache.known? certificate.serialText = none ∧
        ∃ reply, checker.source = .asks reply ∧
          (reply session.checks.asked certificate).revoked? = none)
  atRest : ∀ calls, (client.resolveAll checker calls {}).checks.cache.AtRest

/-- The stage at which a resolution fails decides the kind of its failure. -/
theorem resolve_classifies_failures (client : DiscoveryClient) (checker : Checker)
    (now : Instant) (query : EndpointQuery) (session : Session) :
    client.ClassifiesFailures checker now query session where
  requests :=
    requests_resolve ▸ requestsWhatItGets_serviceMetadata client query session
  smpLocation := by simp
  unlocated := requests_of_unlocated
  transport := by simp
  endpointNotFound := by simp
  malformedResponse := by simp [or_assoc]
  tooManyRedirects := by simp
  redirectCertificateMismatch := by simp
  revocationCheckUnavailable := by simp
  untrustedEndpoint := by simp
  unanswered hrest certificate := by
    rw [LacksRevocation, Checker.revocationStatus_error_iff hrest]
  atRest calls := atRest_resolveAll calls RevocationCache.atRest_empty

end DiscoveryClient

end EndpointDiscovery
