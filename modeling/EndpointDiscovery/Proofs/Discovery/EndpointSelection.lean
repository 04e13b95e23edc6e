import EndpointDiscovery.Proofs.Identifier.Content
import EndpointDiscovery.Smp.Document
import Mathlib.Logic.Relation

/-!
# The endpoint that a document offers

A document may list a process in several records, and a record several endpoints of
one transport profile.  The endpoint that comes first in the document is selected,
and which one it is depends on the offers for the process and the profile alone.
-/

namespace EndpointDiscovery

namespace ServiceInformation

/-! ## Offers -/

/-- The endpoint at a place of the record with a number is one for a process and a
transport profile. -/
structure Offers (information : ServiceInformation) (process : Identifier)
    (transportProfile : String) (number place : Nat) (endpoint : EndpointRecord) :
    Prop where
  listed : ∃ record, information.processes[number]? = some record ∧
    record.process.sameContent process = true ∧
    record.endpoints[place]? = some endpoint
  profile : endpoint.transportProfile = transportProfile

/-- No offer comes before it in the document. -/
structure OffersFirst (information : ServiceInformation) (process : Identifier)
    (transportProfile : String) (number place : Nat) (endpoint : EndpointRecord) :
    Prop where
  offers : information.Offers process transportProfile number place endpoint
  first : ∀ other otherPlace rival,
    information.Offers process transportProfile other otherPlace rival →
      number < other ∨ number = other ∧ place ≤ otherPlace

def offered (process : Identifier) (transportProfile : String)
    (processes : List ProcessRecord) :
    List EndpointRecord :=
  ((processes.filter (·.process.sameContent process)).flatMap (·.endpoints)).filter
    (·.transportProfile = transportProfile)

variable {process other : Identifier} {transportProfile : String}
  {number place : Nat} {record : ProcessRecord}
  {processes rest : List ProcessRecord} {endpoint : EndpointRecord}
  {information : ServiceInformation}

theorem findEndpoint?_eq : information.findEndpoint? process transportProfile =
    (offered process transportProfile information.processes).head? :=
  List.head?_filter.symm

theorem offered_append : offered process transportProfile (processes ++ rest) =
    offered process transportProfile processes ++
    offered process transportProfile rest := by
  simp [offered]

theorem offered_cons_of_same (h : record.process.sameContent process = true) :
    offered process transportProfile (record :: rest) =
      record.endpoints.filter (·.transportProfile = transportProfile) ++
        offered process transportProfile rest := by
  simp [offered, h]

theorem offered_cons_of_other (h : record.process.sameContent process = false) :
    offered process transportProfile (record :: rest) =
      offered process transportProfile rest := by
  simp [offered, h]

/-! ## The first offer -/

theorem offers_cons_iff {participant documentType : Identifier} :
    Offers ⟨participant, documentType, record :: rest⟩ process transportProfile
      number place endpoint ↔
      (number = 0 ∧ record.process.sameContent process = true ∧
        record.endpoints[place]? = some endpoint ∧
        endpoint.transportProfile = transportProfile) ∨
      ∃ before, number = before + 1 ∧
        Offers ⟨participant, documentType, rest⟩ process transportProfile
          before place
          endpoint := by
  cases number with
  | zero =>
      constructor
      · rintro ⟨⟨found, hfound, hsame, hplace⟩, hprofile⟩
        cases hfound
        exact .inl ⟨rfl, hsame, hplace, hprofile⟩
      · rintro (⟨-, hsame, hplace, hprofile⟩ | ⟨before, hbefore, -⟩)
        · exact ⟨⟨record, rfl, hsame, hplace⟩, hprofile⟩
        · omega
  | succ before =>
      constructor
      · rintro ⟨hlisted, hprofile⟩
        exact .inr ⟨before, rfl, hlisted, hprofile⟩
      · rintro (⟨hzero, -⟩ | ⟨other, hother, hlisted, hprofile⟩)
        · omega
        · cases hother
          exact ⟨hlisted, hprofile⟩

theorem mem_offered_iff :
    endpoint ∈ offered process transportProfile information.processes ↔
    ∃ number place,
      information.Offers process transportProfile number place endpoint := by
  simp only [offered, List.mem_filter, List.mem_flatMap, decide_eq_true_eq]
  constructor
  · rintro ⟨⟨record, ⟨hrecord, hsame⟩, hendpoint⟩, hprofile⟩
    obtain ⟨number, hnumber⟩ := List.mem_iff_getElem?.mp hrecord
    obtain ⟨place, hplace⟩ := List.mem_iff_getElem?.mp hendpoint
    exact ⟨number, place, ⟨record, hnumber, hsame, hplace⟩, hprofile⟩
  · rintro ⟨number, place, ⟨record, hnumber, hsame, hplace⟩, hprofile⟩
    exact ⟨⟨record, ⟨List.mem_of_getElem? hnumber, hsame⟩,
      List.mem_of_getElem? hplace⟩, hprofile⟩

theorem OffersFirst.unique {otherNumber otherPlace : Nat} {rival : EndpointRecord}
    (h : information.OffersFirst process transportProfile number place endpoint)
    (hrival : information.OffersFirst process transportProfile otherNumber
      otherPlace rival) :
    endpoint = rival := by
  have hbefore := h.first _ _ _ hrival.offers
  have hafter := hrival.first _ _ _ h.offers
  obtain ⟨rfl, rfl⟩ : number = otherNumber ∧ place = otherPlace := by omega
  obtain ⟨record, hrecord, -, hplace⟩ := h.offers.listed
  obtain ⟨found, hfound, -, hfoundPlace⟩ := hrival.offers.listed
  rw [hrecord] at hfound
  cases hfound
  rw [hplace] at hfoundPlace
  exact Option.some.inj hfoundPlace

theorem OffersFirst.cons {participant documentType : Identifier}
    (hnone : record.process.sameContent process = true →
      ∀ rival ∈ record.endpoints, rival.transportProfile ≠ transportProfile)
    (h : OffersFirst ⟨participant, documentType, rest⟩ process transportProfile
      number place endpoint) :
    OffersFirst ⟨participant, documentType, record :: rest⟩ process transportProfile
      (number + 1) place endpoint where
  offers := offers_cons_iff.mpr (.inr ⟨number, rfl, h.offers⟩)
  first other otherPlace rival hrival := by
    rcases offers_cons_iff.mp hrival with
      ⟨-, hsame, hother, hprofile⟩ | ⟨before, rfl, hbefore⟩
    · exact absurd hprofile (hnone hsame rival (List.mem_of_getElem? hother))
    · have := h.first before otherPlace rival hbefore
      omega

theorem offersFirst_of_find? (participant documentType : Identifier)
    (hsame : record.process.sameContent process = true)
    (h : record.endpoints.find? (·.transportProfile = transportProfile) =
      some endpoint) :
    ∃ place,
      OffersFirst ⟨participant, documentType, record :: rest⟩ process
        transportProfile 0
      place endpoint := by
  rw [List.find?_eq_some_iff_getElem] at h
  obtain ⟨hprofile, place, hplace, rfl, hearlier⟩ := h
  refine ⟨place,
    offers_cons_iff.mpr
      (.inl ⟨rfl, hsame, List.getElem?_eq_getElem hplace, by simpa using hprofile⟩),
      fun other otherPlace rival hrival => ?_⟩
  rcases offers_cons_iff.mp hrival with
    ⟨rfl, -, hother, hrivalProfile⟩ | ⟨before, rfl, -⟩
  · refine .inr ⟨rfl, Nat.le_of_not_lt fun hlt => ?_⟩
    obtain ⟨hbound, rfl⟩ := List.getElem?_eq_some_iff.mp hother
    simpa [hrivalProfile] using hearlier otherPlace hlt
  · omega

theorem exists_offersFirst (participant documentType : Identifier)
    (h : (offered process transportProfile processes).head? = some endpoint) :
    ∃ number place,
      OffersFirst ⟨participant, documentType, processes⟩ process transportProfile
      number place endpoint := by
  induction processes with
  | nil => simp [offered] at h
  | cons record rest ih =>
      by_cases hsame : record.process.sameContent process = true
      · rw [offered_cons_of_same hsame, List.head?_append, List.head?_filter] at h
        cases hfind :
            record.endpoints.find? (·.transportProfile = transportProfile) with
        | some found =>
            rw [hfind, Option.some_or] at h
            cases h
            exact ⟨0, offersFirst_of_find? participant documentType hsame hfind⟩
        | none =>
            rw [hfind, Option.none_or] at h
            obtain ⟨number, place, hfirst⟩ := ih h
            exact ⟨number + 1, place, hfirst.cons fun _ => by simpa using hfind⟩
      · rw [offered_cons_of_other (eq_false_of_ne_true hsame)] at h
        obtain ⟨number, place, hfirst⟩ := ih h
        exact ⟨number + 1, place, hfirst.cons fun h => absurd h hsame⟩

theorem findEndpoint?_eq_some_iff :
    information.findEndpoint? process transportProfile = some endpoint ↔
      ∃ number place,
        information.OffersFirst process transportProfile number place endpoint := by
  rw [findEndpoint?_eq]
  constructor
  · exact exists_offersFirst information.participant information.documentType
  · rintro ⟨number, place, hfirst⟩
    have hmem := mem_offered_iff.mpr ⟨number, place, hfirst.offers⟩
    cases hhead :
        (offered process transportProfile information.processes).head? with
    | none => simp [List.head?_eq_none_iff.mp hhead] at hmem
    | some found =>
        obtain ⟨_, _, hfound⟩ :=
          exists_offersFirst information.participant information.documentType hhead
        rw [hfound.unique hfirst]

theorem findEndpoint?_eq_none_iff :
    information.findEndpoint? process transportProfile = none ↔
      ∀ number place endpoint,
        ¬information.Offers process transportProfile number place endpoint := by
  rw [findEndpoint?_eq, List.head?_eq_none_iff, List.eq_nil_iff_forall_not_mem]
  simp only [mem_offered_iff, not_exists]
  exact ⟨fun h number place endpoint => h endpoint number place,
    fun h endpoint number place => h number place endpoint⟩

/-! ## What makes no difference -/

theorem findEndpoint?_congr (h : process.sameContent other = true) :
    information.findEndpoint? process transportProfile =
      information.findEndpoint? other transportProfile := by
  simp only [findEndpoint?, Identifier.sameContent_right h]

/-- One record of another process, or one endpoint of another transport
profile, is put in. -/
inductive AddsUnrelated (process : Identifier) (transportProfile : String) :
    List ProcessRecord → List ProcessRecord → Prop
  | record (before after : List ProcessRecord) {added : ProcessRecord}
      (h : added.process.sameContent process = false) :
      AddsUnrelated process transportProfile (before ++ after)
        (before ++ added :: after)
  | endpoint (before after : List ProcessRecord) (changed : Identifier)
      (front back : List EndpointRecord) {added : EndpointRecord}
      (h : added.transportProfile ≠ transportProfile) :
      AddsUnrelated process transportProfile
        (before ++ ⟨changed, front ++ back⟩ :: after)
        (before ++ ⟨changed, front ++ added :: back⟩ :: after)

theorem AddsUnrelated.offered_eq {more : List ProcessRecord}
    (h : AddsUnrelated process transportProfile processes more) :
    offered process transportProfile processes =
      offered process transportProfile more := by
  cases h with
  | record before after hother =>
      rw [offered_append, offered_append, offered_cons_of_other hother]
  | endpoint before after changed front back hprofile =>
      rw [offered_append, offered_append]
      by_cases hsame : changed.sameContent process = true
      · rw [offered_cons_of_same hsame, offered_cons_of_same hsame]
        simp [hprofile]
      · rw [offered_cons_of_other (eq_false_of_ne_true hsame),
          offered_cons_of_other (eq_false_of_ne_true hsame)]

/-- Both documents come from one by putting in and taking out what is unrelated. -/
def DifferUnrelatedly (process : Identifier) (transportProfile : String)
    (left right : ServiceInformation) : Prop :=
  Relation.EqvGen (AddsUnrelated process transportProfile) left.processes
    right.processes

theorem DifferUnrelatedly.findEndpoint?_eq {left right : ServiceInformation}
    (h : DifferUnrelatedly process transportProfile left right) :
    left.findEndpoint? process transportProfile =
      right.findEndpoint? process transportProfile := by
  have hoffered : ∀ {first second : List ProcessRecord},
      Relation.EqvGen (AddsUnrelated process transportProfile) first second →
        offered process transportProfile first =
          offered process transportProfile second := by
    intro first second hedits
    induction hedits with
    | rel _ _ hstep => exact hstep.offered_eq
    | refl => rfl
    | symm _ _ _ ih => exact ih.symm
    | trans _ _ _ _ _ ihfirst ihsecond => exact ihfirst.trans ihsecond
  rw [ServiceInformation.findEndpoint?_eq, ServiceInformation.findEndpoint?_eq,
    hoffered h]

/-- The endpoint selected for a process and a transport profile is the first one in
the document that is offered for them, under whatever spelling of the process and
whatever else is listed. -/
theorem selects_first_offer :
    (∀ (information : ServiceInformation) process transportProfile endpoint,
      information.findEndpoint? process transportProfile = some endpoint ↔
        ∃ number place,
          information.OffersFirst process transportProfile number place endpoint) ∧
    (∀ (information : ServiceInformation) process transportProfile,
      information.findEndpoint? process transportProfile = none ↔
        ∀ number place endpoint,
          ¬information.Offers process transportProfile number place endpoint) ∧
    (∀ (information : ServiceInformation)
      (process other : Identifier) transportProfile,
      process.sameContent other = true →
        information.findEndpoint? process transportProfile =
          information.findEndpoint? other transportProfile) ∧
    ∀ (left right : ServiceInformation) process transportProfile,
      DifferUnrelatedly process transportProfile left right →
        left.findEndpoint? process transportProfile =
          right.findEndpoint? process transportProfile :=
  ⟨fun _ _ _ _ => findEndpoint?_eq_some_iff, fun _ _ _ => findEndpoint?_eq_none_iff,
    fun _ _ _ _ => findEndpoint?_congr, fun _ _ _ _ =>
      DifferUnrelatedly.findEndpoint?_eq⟩

def publishedAt (transportProfile address : String) : EndpointRecord :=
  ⟨transportProfile, address, "", ⟨false, none, {}, none, none, none⟩⟩

def billingProcess (value : String) : Identifier :=
  ⟨.process, Scheme.process, value, "urn:billing"⟩

def billedInParts : ServiceInformation where
  participant := ⟨.participant, Scheme.participant, "9915:test", "9915:test"⟩
  documentType := ⟨.documentType, Scheme.documentType, "urn:invoice", "urn:invoice"⟩
  processes := [⟨billingProcess "urn:billing", []⟩,
    ⟨billingProcess "urn:Billing",
      [publishedAt "as4" "first", publishedAt "as4" "second"]⟩,
      ⟨billingProcess "urn:billing", [publishedAt "as4" "third"]⟩]

def billedAmongOthers : ServiceInformation where
  participant := billedInParts.participant
  documentType := billedInParts.documentType
  processes :=
    ⟨⟨.process, Scheme.process, "urn:order", "urn:order"⟩,
      [publishedAt "as4" "other"]⟩ ::
    ⟨billingProcess "urn:billing", [publishedAt "AS4" "upper"]⟩ ::
    billedInParts.processes.tail

theorem selects_first_offer_billing :
    (billingProcess "urn:billing").sameContent
      (billingProcess "URN:BILLING") = true ∧
      billedInParts.OffersFirst (billingProcess "urn:billing") "as4" 1 0
        (publishedAt "as4" "first") ∧
      DifferUnrelatedly (billingProcess "urn:billing") "as4" billedInParts
        billedAmongOthers ∧
      billedAmongOthers.findEndpoint? (billingProcess "URN:BILLING") "as4" =
        some (publishedAt "as4" "first") := by
  have hsame :
      (billingProcess "urn:billing").sameContent (billingProcess "URN:BILLING") =
        true :=
    rfl
  have hfirst : billedInParts.OffersFirst (billingProcess "urn:billing") "as4" 1 0
      (publishedAt "as4" "first") := by
    refine ⟨⟨⟨_, rfl, rfl, rfl⟩, rfl⟩, fun number place rival hrival => ?_⟩
    match number with
    | 0 =>
        obtain ⟨⟨record, hrecord, -, hplace⟩, -⟩ := hrival
        cases hrecord
        cases hplace
    | 1 => exact .inr ⟨rfl, Nat.zero_le place⟩
    | number + 2 => exact .inl (by omega)
  have hadded : DifferUnrelatedly (billingProcess "urn:billing") "as4" billedInParts
      billedAmongOthers :=
    .trans _ _ _
      (.rel _ _
        (.endpoint [] billedInParts.processes.tail
          (billingProcess "urn:billing") [] [] (by decide)))
      (.rel _ _ (.record [] _ (by decide)))
  refine ⟨hsame, hfirst, hadded, ?_⟩
  rw [← selects_first_offer.2.2.1 _ _ _ _ hsame,
    ← selects_first_offer.2.2.2 _ _ _ _ hadded]
  exact (selects_first_offer.1 _ _ _ _).mpr ⟨1, 0, hfirst⟩

end ServiceInformation

end EndpointDiscovery
