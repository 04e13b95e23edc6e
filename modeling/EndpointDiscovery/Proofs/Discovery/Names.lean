import EndpointDiscovery.Proofs.Discovery.Agreement
import EndpointDiscovery.Proofs.Discovery.Redirect
import EndpointDiscovery.Proofs.Discovery.Resolution
import EndpointDiscovery.Proofs.Text.Utf8RoundTrip

/-!
# Names in documents

A document names what it is about.  A discovery asks for the document about a
participant and a document type, and takes what it gets for that document: it is up
to the SMP whether the names are those that were asked for.
-/

namespace EndpointDiscovery

def ServiceInformation.IsAbout (information : ServiceInformation)
    (participant documentType : Identifier) : Prop :=
  information.participant.sameContent participant = true ∧
    information.documentType.sameContent documentType = true

namespace DiscoveryClient

variable {client other : DiscoveryClient} {participant documentType : Identifier}
  {query : EndpointQuery} {session : Session}

/-! ## What a discovery is supplied with -/

def groupAt (client : DiscoveryClient) (before : List String) (url : Url) :
    Except DiscoveryFault ServiceGroup := do
  let text ←
    textOfReply client.config.timeout url.toText (client.web before url.toText)
  SmpReader.serviceGroup client.policy text

def queriedUrl (client : DiscoveryClient) (participant : Identifier)
    (documentType? : Option Identifier) : Except DiscoveryFault Url :=
  ((client.queryUrl participant documentType?).run {}).2

theorem run_queryUrl (participant : Identifier) (documentType? : Option Identifier)
    (session : Session) :
    ((client.queryUrl participant documentType?).run session).2 =
      client.queriedUrl participant documentType? := by
  simp only [queriedUrl, queryUrl, Discovery.run_bind, locate]
  cases (client.locator.locate participant client.config.zone).result <;> rfl

/-- Service information that is found at a URL, or at the end of a
redirect from there. -/
inductive Supplies (client : DiscoveryClient) (before : List String) (url : Url) :
    ServiceInformation → Prop where
  | direct {information : ServiceInformation} {signer? : Option Certificate}
      (reads : client.metadataAt before url =
        .ok ⟨.information information, signer?⟩) :
      Supplies client before url information
  | followed {information : ServiceInformation} {redirect : Redirect} {target : Url}
      {signer : Certificate} (leads : client.LeadsTo before url redirect target)
      (reads : client.metadataAt (before ++ [url.toText]) target =
        .ok ⟨.information information, some signer⟩)
      (identifies :
        CertificateUid.identifies redirect.certificateUid signer = true) :
      Supplies client before url information

theorem metadataFrom_eq_ok_iff {url : Url} {information : ServiceInformation} :
    ((client.metadataFrom url).run session).2 = .ok information ↔
      client.Supplies session.requests url information := by
  obtain ⟨gets, -, hcourse⟩ := exists_course client url session
  rw [hcourse.redirectSafe.accepted]
  constructor
  · rintro ⟨found, hfound, ⟨signer?, hreads⟩ |
      ⟨redirect, target, signer, hleads, hreads, hidentifies⟩⟩
    · cases hfound
      exact .direct hreads
    · cases hfound
      exact .followed hleads hreads hidentifies
  · rintro (hreads | ⟨hleads, hreads, hidentifies⟩)
    · exact ⟨url, rfl, .inl ⟨_, hreads⟩⟩
    · exact ⟨url, rfl, .inr ⟨_, _, _, hleads, hreads, hidentifies⟩⟩

theorem serviceMetadata_eq_ok_iff {information : ServiceInformation} :
    ((client.serviceMetadata participant documentType).run session).2 =
      .ok information ↔
      ∃ url, client.queriedUrl participant (some documentType) = .ok url ∧
        client.Supplies session.requests url information := by
  have hrun : (client.serviceMetadata participant documentType).run session =
      (client.queryUrl participant (some documentType) >>= client.metadataFrom).run
        session := rfl
  simp only [hrun, Discovery.run_bind_eq_ok_iff, metadataFrom_eq_ok_iff,
    run_queryUrl, requests_queryUrl]

theorem run_readGroup (client : DiscoveryClient) (url : Url) (session : Session) :
    (client.fetch url >>= fun text =>
        liftM (SmpReader.serviceGroup client.policy text)).run session =
      ({ session with requests := session.requests ++ [url.toText] },
        client.groupAt session.requests url) := by
  simp only [groupAt, Discovery.run_bind, fetch]
  cases textOfReply client.config.timeout url.toText
    (client.web session.requests url.toText) <;> rfl

theorem serviceGroup_eq_ok_iff {group : ServiceGroup} :
    ((client.serviceGroup participant).run session).2 = .ok group ↔
      ∃ url, client.queriedUrl participant none = .ok url ∧
        client.groupAt session.requests url = .ok group := by
  rw [serviceGroup, Discovery.run_bind_eq_ok_iff]
  simp only [run_readGroup, run_queryUrl, requests_queryUrl]

/-! ## Answers about what was asked -/

def GetsAnswer (client : DiscoveryClient) (query : EndpointQuery)
    (session : Session) : Prop :=
  ∃ information,
    ((client.serviceMetadata query.participant query.documentType).run session).2 =
      .ok information ∧
    information.IsAbout query.participant query.documentType

/-- Every answer is taken from a document about what was asked. -/
structure AnswersQueries (client : DiscoveryClient) : Prop where
  metadata : ∀ participant documentType session information,
    ((client.serviceMetadata participant documentType).run session).2 =
      .ok information → information.IsAbout participant documentType
  endpoint : ∀ checker now query session endpoint,
    ((client.resolve checker now query).run session).2 = .ok endpoint →
    client.GetsAnswer query session
  address : ∀ query session url,
    ((client.endpointAddress query).run session).2 = .ok url →
      client.GetsAnswer query session
  certificate : ∀ query session certificate,
    ((client.endpointCertificate query).run session).2 = .ok certificate →
    client.GetsAnswer query session
  group : ∀ participant session group,
    ((client.serviceGroup participant).run session).2 = .ok group →
    group.participant.sameContent participant = true

/-- Every document that is found where a query leads is about what was asked. -/
structure DocumentsAnswer (client : DiscoveryClient) : Prop where
  metadata : ∀ participant documentType before url information,
    client.queriedUrl participant (some documentType) = .ok url →
    client.Supplies before url information →
      information.IsAbout participant documentType
  group : ∀ participant before url group,
    client.queriedUrl participant none = .ok url →
      client.groupAt before url = .ok group →
    group.participant.sameContent participant = true

theorem getsAnswer_of_findEndpoint (h : client.DocumentsAnswer)
    {record : EndpointRecord}
    (hrecord : ((client.findEndpoint query).run session).2 = .ok record) :
    client.GetsAnswer query session := by
  obtain ⟨information, hinformation, -⟩ := findEndpoint_eq_ok_iff.mp hrecord
  obtain ⟨url, hurl, hsupplies⟩ := serviceMetadata_eq_ok_iff.mp hinformation
  exact ⟨information, hinformation, h.metadata _ _ _ _ _ hurl hsupplies⟩

theorem answersQueries_iff_documentsAnswer :
    client.AnswersQueries ↔ client.DocumentsAnswer := by
  constructor
  · intro h
    constructor
    · intro participant documentType before url information hurl hsupplies
      refine h.metadata participant documentType
        { requests := before } information ?_
      exact serviceMetadata_eq_ok_iff.mpr ⟨url, hurl, hsupplies⟩
    · intro participant before url group hurl hgroup
      refine h.group participant { requests := before } group ?_
      exact serviceGroup_eq_ok_iff.mpr ⟨url, hurl, hgroup⟩
  · intro h
    constructor
    · intro participant documentType session information hinformation
      obtain ⟨url, hurl, hsupplies⟩ := serviceMetadata_eq_ok_iff.mp hinformation
      exact h.metadata _ _ _ _ _ hurl hsupplies
    · intro checker now query session endpoint hendpoint
      obtain ⟨record, hrecord, -⟩ := resolve_eq_ok_iff.mp hendpoint
      exact getsAnswer_of_findEndpoint h hrecord
    · intro query session url hurl
      obtain ⟨record, hrecord, -⟩ := Discovery.run_bind_eq_ok_iff.mp hurl
      exact getsAnswer_of_findEndpoint h hrecord
    · intro query session certificate hcertificate
      obtain ⟨record, hrecord, -⟩ := Discovery.run_bind_eq_ok_iff.mp hcertificate
      exact getsAnswer_of_findEndpoint h hrecord
    · intro participant session group hgroup
      obtain ⟨url, hurl, hread⟩ := serviceGroup_eq_ok_iff.mp hgroup
      exact h.group _ _ _ _ hurl hread

end DiscoveryClient

/-! ## Documents with other names -/

inductive ServiceMetadata.SameButNames : ServiceMetadata → ServiceMetadata →
    Prop where
  | information (first second : ServiceInformation) (signer? : Option Certificate)
      (processes : first.processes = second.processes) :
      SameButNames ⟨.information first, signer?⟩ ⟨.information second, signer?⟩
  | redirect (redirect : Redirect) (signer? : Option Certificate) :
      SameButNames ⟨.redirect redirect, signer?⟩ ⟨.redirect redirect, signer?⟩

namespace DiscoveryClient

variable {client other : DiscoveryClient} {query : EndpointQuery}

structure SameButNames (client other : DiscoveryClient) : Prop where
  config : client.config = other.config
  locator : client.locator = other.locator
  metadata : ∀ before url,
    Agree ServiceMetadata.SameButNames (client.metadataAt before url)
      (other.metadataAt before url)
  group : ∀ before url,
    Agree (fun first second => first.references = second.references)
      (client.groupAt before url) (other.groupAt before url)

/-- Two clients cannot be told apart but by the names in what they hand over. -/
structure ActsAlike (client other : DiscoveryClient) : Prop where
  metadata : ∀ participant documentType,
    (client.serviceMetadata participant documentType).Agrees
      (fun first second => first.processes = second.processes)
      (other.serviceMetadata participant documentType)
  resolve : ∀ checker now query,
    client.resolve checker now query = other.resolve checker now query
  address : ∀ query, client.endpointAddress query = other.endpointAddress query
  certificate : ∀ query, client.endpointCertificate query =
    other.endpointCertificate query
  group : ∀ participant,
    (client.serviceGroup participant).Agrees
      (fun first second => first.references = second.references)
      (other.serviceGroup participant)

namespace SameButNames

theorem queryUrl (h : client.SameButNames other) (participant : Identifier)
    (documentType? : Option Identifier) :
    client.queryUrl participant documentType? =
      other.queryUrl participant documentType? := by
  unfold DiscoveryClient.queryUrl locate
  rw [h.config, h.locator]

theorem readMetadata (h : client.SameButNames other) (url : Url) :
    (client.readMetadata url).Agrees ServiceMetadata.SameButNames
      (other.readMetadata url) := by
  intro session
  rw [run_readMetadata, run_readMetadata]
  exact ⟨rfl, h.metadata session.requests url⟩

theorem acceptRedirected (redirect : Redirect) (target : Url)
    {first second : ServiceMetadata} (h : first.SameButNames second) :
    Agree (fun first second => first.processes = second.processes)
      (acceptRedirected redirect target first)
      (acceptRedirected redirect target second) := by
  cases h with
  | redirect second signer? => exact .error _
  | information first second signer? hprocesses =>
      unfold DiscoveryClient.acceptRedirected
      dsimp only
      split
      · exact .ok hprocesses
      · exact .error _

theorem serviceMetadata (h : client.SameButNames other)
    (participant documentType : Identifier) :
    (client.serviceMetadata participant documentType).Agrees
      (fun first second => first.processes = second.processes)
      (other.serviceMetadata participant documentType) := by
  unfold DiscoveryClient.serviceMetadata
  rw [h.queryUrl]
  refine (Discovery.Agrees.refl _).bind ?_
  rintro url _ rfl
  refine (h.readMetadata url).bind ?_
  intro first second hdocuments
  cases hdocuments with
  | information first second signer? hprocesses => exact .lift (.ok hprocesses)
  | redirect redirect signer? =>
      refine (Discovery.Agrees.refl _).bind ?_
      rintro target _ rfl
      refine (h.readMetadata target).bind ?_
      exact fun _ _ hfollowed => .lift (acceptRedirected redirect target hfollowed)

theorem findEndpoint (h : client.SameButNames other) (query : EndpointQuery) :
    client.findEndpoint query = other.findEndpoint query := by
  refine ((h.serviceMetadata _ _).bind fun first second hprocesses => ?_).eq
  unfold selectEndpoint ServiceInformation.findEndpoint?
  rw [hprocesses]
  exact Discovery.Agrees.refl _

theorem serviceGroup (h : client.SameButNames other) (participant : Identifier) :
    (client.serviceGroup participant).Agrees
      (fun first second => first.references = second.references)
      (other.serviceGroup participant) := by
  unfold DiscoveryClient.serviceGroup
  rw [h.queryUrl]
  refine (Discovery.Agrees.refl _).bind ?_
  rintro url _ rfl session
  rw [run_readGroup, run_readGroup]
  exact ⟨rfl, h.group session.requests url⟩

theorem actsAlike (h : client.SameButNames other) : client.ActsAlike other where
  metadata := h.serviceMetadata
  resolve checker now query := by
    unfold DiscoveryClient.resolve
    rw [h.findEndpoint]
  address query := by
    unfold DiscoveryClient.endpointAddress
    rw [h.findEndpoint]
  certificate query := by
    unfold DiscoveryClient.endpointCertificate
    rw [h.findEndpoint]
  group := h.serviceGroup

end SameButNames

/-! ## A web with one page -/

def smpUrl : Url :=
  { scheme := "http", host := some (.domain "smp"), path := .segments [""] }

def ofPage (page : List Char) : DiscoveryClient where
  locator := .explicit smpUrl
  web _ _ := { response? := some { body := Text.Utf8.encode ('<' :: page) } }

theorem text_of_page (page : List Char) :
    Http.Response.text { body := Text.Utf8.encode ('<' :: page) } =
      String.ofList ('<' :: page) := by
  have hmark : Text.Encoding.afterMark? (Text.Utf8.encode ('<' :: page)) = none :=
    rfl
  have hutf8 : Http.ContentType.encoding "" = .utf8 := by decide +kernel
  rw [Http.Response.text, Option.getD_none, hutf8, Text.Encoding.decode, hmark]
  exact congrArg String.ofList (Text.Utf8.decodeLenient_encode ('<' :: page))

theorem metadataAt_ofPage (page : List Char) (before : List String) (url : Url) :
    (ofPage page).metadataAt before url =
      SmpReader.serviceMetadata {} (String.ofList ('<' :: page)) := by
  have hfetched : textOfReply (ofPage page).config.timeout url.toText
      ((ofPage page).web before url.toText) =
        .ok (String.ofList ('<' :: page)) := by
    rw [← text_of_page]
    rfl
  rw [metadataAt, hfetched]
  rfl

def pageAboutB : List Char :=
  "ServiceMetadata xmlns='http://busdox.org/serviceMetadata/publishing/1.0/'>".toList ++
    "<ServiceInformation>".toList ++
    "<ParticipantIdentifier scheme='a'>b</ParticipantIdentifier>".toList ++
    "<DocumentIdentifier scheme='a'>d</DocumentIdentifier>".toList ++
    "<ProcessList/></ServiceInformation></ServiceMetadata>".toList

def askedParticipant : Identifier := ⟨.participant, "a", "c", "c"⟩

def askedDocumentType : Identifier := ⟨.documentType, "a", "d", "d"⟩

theorem exists_queriedUrl_ofPage (page : List Char) :
    ∃ url, (ofPage page).queriedUrl askedParticipant (some askedDocumentType) =
      .ok url := by
  have hextends : (Url.extendPath? smpUrl
      (queryPath askedParticipant (some askedDocumentType))).isSome = true := by
    decide +kernel
  obtain ⟨url, hurl⟩ := Option.isSome_iff_exists.mp hextends
  have hextend :
      extendBase smpUrl (queryPath askedParticipant (some askedDocumentType)) =
      .ok url := by
    rw [extendBase, hurl]
  exact ⟨url, hextend⟩

def namesOther (participant : Identifier) (metadata : ServiceMetadata) : Bool :=
  match metadata.content with
  | .information information => !information.participant.sameContent participant
  | .redirect _ => false

theorem serviceMetadata_pageAboutB :
    ∃ information signer?,
      SmpReader.serviceMetadata {} (String.ofList ('<' :: pageAboutB)) =
        .ok ⟨.information information, signer?⟩ ∧
      information.participant.sameContent askedParticipant = false := by
  have hread :
      (SmpReader.serviceMetadata {}
        (String.ofList ('<' :: pageAboutB))).toOption.any
      (namesOther askedParticipant) = true := by
    rw [SmpReader.serviceMetadata, SmpReader.document, Xml.parse?,
      String.toList_ofList]
    decide +kernel
  generalize SmpReader.serviceMetadata {} (String.ofList ('<' :: pageAboutB)) =
    result at hread ⊢
  cases result with
  | error fault => cases hread
  | ok metadata =>
      obtain ⟨content, signer?⟩ := metadata
      cases content with
      | redirect redirect => cases hread
      | information information =>
          have hother : (!information.participant.sameContent askedParticipant) =
              true := hread
          exact ⟨information, signer?, rfl, by simpa using hother⟩

/-- The answers of a client are about what was asked exactly as far as the
documents are that it finds: names in documents make no difference to what it
asks and finds. -/
theorem answers_are_up_to_documents (client : DiscoveryClient) :
    (client.AnswersQueries ↔ client.DocumentsAnswer) ∧
      ∀ other, client.SameButNames other → client.ActsAlike other :=
  ⟨answersQueries_iff_documentsAnswer, fun _ hsame => hsame.actsAlike⟩

/-- Asked for another participant, a client hands over what it is told
about `a::b`. -/
theorem not_answersQueries_pageAboutB : ¬(ofPage pageAboutB).AnswersQueries := by
  intro hanswers
  have hdocuments := (answers_are_up_to_documents (ofPage pageAboutB)).1.mp hanswers
  obtain ⟨url, hurl⟩ := exists_queriedUrl_ofPage pageAboutB
  obtain ⟨information, signer?, hread, hother⟩ := serviceMetadata_pageAboutB
  rw [← metadataAt_ofPage pageAboutB [] url] at hread
  have habout := (hdocuments.metadata _ _ [] url information hurl (.direct hread)).1
  rw [habout] at hother
  cases hother

end DiscoveryClient

end EndpointDiscovery
