import EndpointDiscovery.Smp.Client
import EndpointDiscovery.Proofs.Text.Trim

/-!
# Redirects

A discovery asks for at most two documents.  The second one is what the first
one redirects to, and it counts only if its signer is the one that the
redirect announced.
-/

namespace EndpointDiscovery

/-! ## Certificate identifiers -/

namespace Text

theorem isEmpty_trim_iff (text : String) :
    (trim text).isEmpty = true ↔ ∀ character ∈ text.toList,
      isBlank character = true := by
  rw [← trimList_eq_nil_iff, trim, String.isEmpty_iff, String.ofList_eq_empty_iff]

end Text

namespace CertificateUid

structure Usable (uid : String) : Prop where
  visible : ∃ character ∈ uid.toList, Text.isBlank character = false
  plain : ∀ character ∈ uid.toList, Text.isControl character = false

theorem check_eq_ok_iff (uid : String) : check uid = .ok () ↔ Usable uid := by
  have hvisible : (Text.trim uid).isEmpty = false ↔
      ∃ character ∈ uid.toList, Text.isBlank character = false := by
    rw [← Bool.not_eq_true, Text.isEmpty_trim_iff]
    simp
  have hplain : uid.toList.any Text.isControl = false ↔
      ∀ character ∈ uid.toList, Text.isControl character = false := by
    simp
  unfold check
  constructor
  · intro h
    split at h
    · cases h
    · rename_i hnotEmpty
      split at h
      · cases h
      · rename_i hnoControls
        exact ⟨hvisible.mp (Bool.eq_false_iff.mpr hnotEmpty),
          hplain.mp (Bool.eq_false_iff.mpr hnoControls)⟩
  · intro h
    rw [if_neg (Bool.eq_false_iff.mp (hvisible.mpr h.visible)),
      if_neg (Bool.eq_false_iff.mp (hplain.mpr h.plain))]

end CertificateUid

namespace DiscoveryClient

variable {client : DiscoveryClient} {participant documentType : Identifier}
  {session : Session}

/-! ## Requests -/

def metadataAt (client : DiscoveryClient) (before : List String) (url : Url) :
    Except DiscoveryFault ServiceMetadata := do
  let text ←
    textOfReply client.config.timeout url.toText (client.web before url.toText)
  SmpReader.serviceMetadata client.policy text

theorem run_readMetadata (client : DiscoveryClient) (url : Url)
    (session : Session) :
    (client.readMetadata url).run session =
      ({ session with requests := session.requests ++ [url.toText] },
        client.metadataAt session.requests url) := by
  simp only [readMetadata, metadataAt, Discovery.run_bind, fetch]
  cases textOfReply client.config.timeout url.toText
    (client.web session.requests url.toText) <;> rfl

theorem requests_queryUrl (client : DiscoveryClient) (participant : Identifier)
    (documentType? : Option Identifier) (session : Session) :
    ((client.queryUrl participant documentType?).run session).1.requests =
      session.requests := by
  simp only [queryUrl, Discovery.run_bind, locate]
  cases (client.locator.locate participant client.config.zone).result <;> rfl

theorem redirectTarget_eq_ok_iff (redirect : Redirect) (target : Url) :
    redirectTarget redirect = .ok target ↔
      CertificateUid.Usable redirect.certificateUid ∧
      Url.parse? redirect.href = some target := by
  rw [← CertificateUid.check_eq_ok_iff, redirectTarget]
  cases CertificateUid.check redirect.certificateUid with
  | error fault => simp [bind, Except.bind]
  | ok checked => cases Url.parse? redirect.href <;> simp [bind, Except.bind]

/-! ## Courses of a discovery -/

/-- A redirect at a URL that may be followed to a target. -/
structure LeadsTo (client : DiscoveryClient) (before : List String) (url : Url)
    (redirect : Redirect) (target : Url) : Prop where
  reads : ∃ signer?, client.metadataAt before url =
    .ok ⟨.redirect redirect, signer?⟩
  usable : CertificateUid.Usable redirect.certificateUid
  parsed : Url.parse? redirect.href = some target

theorem LeadsTo.unique {before : List String} {url : Url} {first second : Redirect}
    {target other : Url} (h : client.LeadsTo before url first target)
    (hother : client.LeadsTo before url second other) :
    first = second ∧ target = other := by
  obtain ⟨⟨signer?, hreads⟩, -, hparsed⟩ := h
  obtain ⟨⟨otherSigner?, hotherReads⟩, -, hotherParsed⟩ := hother
  rw [hreads] at hotherReads
  cases hotherReads
  rw [hparsed] at hotherParsed
  cases hotherParsed
  exact ⟨rfl, rfl⟩

/-- What the answers to the requests for metadata at a URL make of a discovery: the
URLs that it requests and its result. -/
inductive Course (client : DiscoveryClient) (before : List String) (url : Url) :
    List String → Except DiscoveryFault ServiceInformation → Prop where
  | unread (fault : DiscoveryFault)
      (reads : client.metadataAt before url = .error fault) :
      Course client before url [url.toText] (.error fault)
  | direct (information : ServiceInformation) (signer? : Option Certificate)
      (reads : client.metadataAt before url =
        .ok ⟨.information information, signer?⟩) :
      Course client before url [url.toText] (.ok information)
  | refused (redirect : Redirect) (signer? : Option Certificate)
      (fault : DiscoveryFault)
      (reads : client.metadataAt before url = .ok ⟨.redirect redirect, signer?⟩)
      (refused : redirectTarget redirect = .error fault) :
      Course client before url [url.toText] (.error fault)
  | followed (redirect : Redirect) (target : Url)
      (result : Except DiscoveryFault ServiceInformation)
      (leads : client.LeadsTo before url redirect target)
      (result_eq : result = client.metadataAt (before ++ [url.toText]) target >>=
        acceptRedirected redirect target) :
      Course client before url [url.toText, target.toText] result

def metadataFrom (client : DiscoveryClient) (url : Url) :
    Discovery ServiceInformation := do
  let metadata ← client.readMetadata url
  match metadata.content with
  | .information information => return information
  | .redirect redirect =>
      let target ← redirectTarget redirect
      let followed ← client.readMetadata target
      acceptRedirected redirect target followed

theorem exists_course (client : DiscoveryClient) (url : Url) (session : Session) :
    ∃ gets,
      ((client.metadataFrom url).run session).1.requests =
        session.requests ++ gets ∧
      client.Course session.requests url gets
        ((client.metadataFrom url).run session).2 := by
  simp only [metadataFrom, Discovery.run_bind, run_readMetadata]
  cases hreads : client.metadataAt session.requests url with
  | error fault => exact ⟨_, rfl, .unread fault hreads⟩
  | ok metadata =>
      obtain ⟨content, signer?⟩ := metadata
      cases content with
      | information information =>
          exact ⟨_, rfl, .direct information signer? hreads⟩
      | redirect redirect =>
          simp only [Discovery.run_bind, Discovery.run_lift]
          cases htarget : redirectTarget redirect with
          | error fault =>
              exact ⟨_, rfl, .refused redirect signer? fault hreads htarget⟩
          | ok target =>
              obtain ⟨husable, hparsed⟩ :=
                (redirectTarget_eq_ok_iff redirect target).mp htarget
              refine ⟨[url.toText, target.toText], ?_, .followed redirect target _
                ⟨⟨signer?, hreads⟩, husable, hparsed⟩ ?_⟩
              · simp only [run_readMetadata]
                cases client.metadataAt
                  (session.requests ++ [url.toText]) target <;> simp
              · simp only [run_readMetadata]
                cases client.metadataAt
                  (session.requests ++ [url.toText]) target <;> rfl

theorem acceptRedirected_eq_ok_iff (redirect : Redirect) (target : Url)
    (metadata : ServiceMetadata) (information : ServiceInformation) :
    acceptRedirected redirect target metadata = .ok information ↔
      ∃ signer, metadata = ⟨.information information, some signer⟩ ∧
        CertificateUid.identifies redirect.certificateUid signer = true := by
  obtain ⟨content, signer?⟩ := metadata
  cases content with
  | redirect second => simp [acceptRedirected]
  | information found =>
      cases signer? with
      | none => simp [acceptRedirected]
      | some signer =>
          cases hidentifies :
              CertificateUid.identifies redirect.certificateUid signer with
          | false => simp [acceptRedirected, hidentifies]
          | true =>
              simp only [acceptRedirected, Option.any_some, hidentifies, if_true,
                Except.ok.injEq, ServiceMetadata.mk.injEq,
                MetadataContent.information.injEq, Option.some.injEq]
              constructor
              · rintro rfl
                exact ⟨signer, ⟨rfl, rfl⟩, hidentifies⟩
              · rintro ⟨-, ⟨hfound, -⟩, -⟩
                exact hfound

/-! ## Redirect safety -/

/-- What a discovery requests and accepts, where `before` was requested before and
`located` is its query URL. -/
structure RedirectSafe (client : DiscoveryClient) (before : List String)
    (located : Except DiscoveryFault Url) (gets : List String)
    (result : Except DiscoveryFault ServiceInformation) : Prop where
  atMostTwo : gets.length ≤ 2
  first : ∀ get, gets[0]? = some get ↔ ∃ url, located = .ok url ∧ get = url.toText
  second : ∀ get, gets[1]? = some get ↔
    ∃ url redirect target, located = .ok url ∧
      client.LeadsTo before url redirect target ∧ get = target.toText
  accepted : ∀ information, result = .ok information ↔
    ∃ url, located = .ok url ∧
      ((∃ signer?, client.metadataAt before url =
        .ok ⟨.information information, signer?⟩) ∨
        ∃ redirect target signer, client.LeadsTo before url redirect target ∧
          client.metadataAt (before ++ [url.toText]) target =
            .ok ⟨.information information, some signer⟩ ∧
          CertificateUid.identifies redirect.certificateUid signer = true)
  /-- A second redirect is not followed, whoever signed it. -/
  noThird : ∀ url redirect target second signer?, located = .ok url →
    client.LeadsTo before url redirect target →
    client.metadataAt (before ++ [url.toText]) target =
      .ok ⟨.redirect second, signer?⟩ →
    gets = [url.toText, target.toText] ∧
      ∃ fault, result = .error fault ∧ fault.cause = .tooManyRedirects

private theorem bind_eq_ok {α β : Type} {first : Except DiscoveryFault α}
    {next : α → Except DiscoveryFault β} {value : β}
    (h : first >>= next = .ok value) :
    ∃ produced, first = .ok produced ∧ next produced = .ok value := by
  cases first with
  | error fault => cases h
  | ok produced => exact ⟨produced, rfl, h⟩

theorem redirectSafe_of_error (client : DiscoveryClient) (before : List String)
    (fault : DiscoveryFault) :
    client.RedirectSafe before (.error fault) [] (.error fault) := by
  constructor <;> simp

theorem redirectSafe_of_direct {before : List String} {url : Url}
    {result : Except DiscoveryFault ServiceInformation}
    (hnot : ∀ redirect target, ¬client.LeadsTo before url redirect target)
    (hresult : ∀ information, result = .ok information ↔
      ∃ signer?, client.metadataAt before url =
        .ok ⟨.information information, signer?⟩) :
    client.RedirectSafe before (.ok url) [url.toText] result := by
  constructor
  · simp
  · intro get
    simp [eq_comm]
  · intro get
    simp [hnot]
  · intro information
    simp [hresult, hnot]
  · intro found redirect target second signer? hfound hleads
    cases hfound
    exact absurd hleads (hnot redirect target)

theorem redirectSafe_of_followed {before : List String} {url target : Url}
    {redirect : Redirect} (hleads : client.LeadsTo before url redirect target) :
    client.RedirectSafe before (.ok url) [url.toText, target.toText]
      (client.metadataAt (before ++ [url.toText]) target >>=
        acceptRedirected redirect target) := by
  constructor
  · simp
  · intro get
    simp [eq_comm]
  · intro get
    constructor
    · intro hget
      exact ⟨url, redirect, target, rfl, hleads, by simpa [eq_comm] using hget⟩
    · rintro ⟨found, other, otherTarget, hfound, hother, rfl⟩
      cases hfound
      obtain ⟨rfl, rfl⟩ := hleads.unique hother
      rfl
  · intro information
    constructor
    · -- Only a second document that tells its signer gets through.
      intro haccepted
      obtain ⟨metadata, hmetadata, hok⟩ := bind_eq_ok haccepted
      obtain ⟨signer, rfl, hidentifies⟩ :=
        (acceptRedirected_eq_ok_iff redirect target metadata information).mp hok
      exact ⟨url, rfl,
        .inr ⟨redirect, target, signer, hleads, hmetadata, hidentifies⟩⟩
    · rintro ⟨found, hfound, ⟨signer?, hdirect⟩ |
        ⟨other, otherTarget, signer, hother, hmetadata, hidentifies⟩⟩
      · cases hfound
        obtain ⟨firstSigner?, hredirect⟩ := hleads.reads
        rw [hdirect] at hredirect
        cases hredirect
      · cases hfound
        obtain ⟨rfl, rfl⟩ := hleads.unique hother
        rw [hmetadata]
        exact (acceptRedirected_eq_ok_iff redirect target _ information).mpr
          ⟨signer, rfl, hidentifies⟩
  · intro found other otherTarget second signer? hfound hother hmetadata
    cases hfound
    obtain ⟨rfl, rfl⟩ := hleads.unique hother
    rw [hmetadata]
    exact ⟨rfl, _, rfl, rfl⟩

theorem Course.redirectSafe {before : List String} {url : Url} {gets : List String}
    {result : Except DiscoveryFault ServiceInformation}
    (h : client.Course before url gets result) :
    client.RedirectSafe before (.ok url) gets result := by
  cases h with
  | unread fault hreads =>
      refine redirectSafe_of_direct (fun redirect target hleads => ?_)
        fun information => ?_
      · obtain ⟨signer?, hredirect⟩ := hleads.reads
        rw [hreads] at hredirect
        contradiction
      · simp [hreads]
  | direct information signer? hreads =>
      refine redirectSafe_of_direct (fun redirect target hleads => ?_)
        fun found => ?_
      · obtain ⟨otherSigner?, hredirect⟩ := hleads.reads
        rw [hreads] at hredirect
        cases hredirect
      · simp [hreads]
  | refused redirect signer? fault hreads hrefused =>
      refine redirectSafe_of_direct (fun found target hleads => ?_)
        fun information => ?_
      · obtain ⟨otherSigner?, hredirect⟩ := hleads.reads
        rw [hreads] at hredirect
        cases hredirect
        rw [(redirectTarget_eq_ok_iff redirect target).mpr
          ⟨hleads.usable, hleads.parsed⟩] at hrefused
        contradiction
      · simp [hreads]
  | followed redirect target result hleads hresult =>
      rw [hresult]
      exact redirectSafe_of_followed hleads

/-- Whatever the web answers, a discovery of service metadata follows at most one
redirect, and only to a document of the signer that the redirect announced. -/
theorem serviceMetadata_redirect_safe (client : DiscoveryClient)
    (participant documentType : Identifier) (session : Session) :
    ∃ gets,
      ((client.serviceMetadata participant documentType).run session).1.requests =
        session.requests ++ gets ∧
      client.RedirectSafe session.requests
        ((client.queryUrl participant (some documentType)).run session).2 gets
        ((client.serviceMetadata participant documentType).run session).2 := by
  have hrequests := requests_queryUrl client participant (some documentType) session
  have hrun : (client.serviceMetadata participant documentType).run session =
      (client.queryUrl participant (some documentType) >>= client.metadataFrom).run
        session := rfl
  rw [hrun, Discovery.run_bind]
  cases hquery : (client.queryUrl participant (some documentType)).run session with
  | mk located result =>
      rw [hquery] at hrequests
      cases result with
      | error fault =>
          exact ⟨[], by simpa using hrequests, client.redirectSafe_of_error _ fault⟩
      | ok url =>
          obtain ⟨gets, hgets, hcourse⟩ := exists_course client url located
          rw [hrequests] at hgets hcourse
          exact ⟨gets, hgets, hcourse.redirectSafe⟩

end DiscoveryClient

end EndpointDiscovery
