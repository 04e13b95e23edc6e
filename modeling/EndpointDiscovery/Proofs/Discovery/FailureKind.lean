import EndpointDiscovery.Proofs.Document.Rejection
import EndpointDiscovery.Smp.Client

/-!
# Kinds of failures

Callers tell failures apart by their kind.  A reply that brings no text fails in
transport, or says that nothing is found, or breaks off.
-/

namespace EndpointDiscovery

/-! ## Kinds of failures -/

inductive DiscoveryErrorKind where
  | smpLocation
  | transport
  | malformedResponse
  | tooManyRedirects
  | redirectCertificateMismatch
  | endpointNotFound
  | untrustedEndpoint
  | revocationCheckUnavailable
deriving DecidableEq, Repr

@[simp]
def DiscoveryError.kind : DiscoveryError → DiscoveryErrorKind
  | .smpLocation => .smpLocation
  | .transport _ => .transport
  | .malformedResponse _ => .malformedResponse
  | .tooManyRedirects => .tooManyRedirects
  | .redirectCertificateMismatch _ => .redirectCertificateMismatch
  | .endpointNotFound => .endpointNotFound
  | .untrustedEndpoint => .untrustedEndpoint
  | .revocationCheckUnavailable => .revocationCheckUnavailable

def FailsWith {α : Type} (kind : DiscoveryErrorKind)
    (result : Except DiscoveryFault α) : Prop :=
  ∃ fault, result = .error fault ∧ fault.cause.kind = kind

@[simp]
theorem DiscoveryFault.cause_external (error : DiscoveryError) :
    (external error).cause = error := rfl

@[simp]
theorem DiscoveryFault.cause_malformed (flaw : ResponseFlaw) :
    (malformed flaw).cause = .malformedResponse flaw := rfl

@[simp]
theorem Fault.cause_root {ε σ : Type} (error : ε) :
    (root error : Fault ε σ).cause = error := rfl

@[simp]
theorem Fault.cause_addContext {ε σ : Type} (fault : Fault ε σ) (remark : String) :
    (fault.addContext remark).cause = fault.cause := rfl

section

variable {α β : Type} {kind : DiscoveryErrorKind}

@[simp]
theorem failsWith_error {fault : DiscoveryFault} :
    FailsWith kind (.error fault : Except DiscoveryFault α) ↔
      kind = fault.cause.kind := by
  simp [FailsWith, eq_comm]

theorem FailsWith.unique {result : Except DiscoveryFault α}
    {other : DiscoveryErrorKind} (h : FailsWith kind result)
    (hother : FailsWith other result) : kind = other := by
  obtain ⟨fault, rfl, rfl⟩ := h
  exact (failsWith_error.mp hother).symm

@[simp]
theorem not_failsWith_ok {value : α} : ¬FailsWith kind (.ok value) := by
  simp [FailsWith]

theorem failsWith_bind {first : Except DiscoveryFault α}
    {next : α → Except DiscoveryFault β} :
    FailsWith kind (first >>= next) ↔
      FailsWith kind first ∨ ∃ value,
        first = .ok value ∧ FailsWith kind (next value) := by
  cases first with
  | error fault => simp [FailsWith, bind, Except.bind]
  | ok value => simp [FailsWith, bind, Except.bind]

theorem failsWith_run_bind {first : Discovery α} {next : α → Discovery β}
    {session : Session} :
    FailsWith kind ((first >>= next).run session).2 ↔
      FailsWith kind (first.run session).2 ∨
        ∃ value, (first.run session).2 = .ok value ∧
          FailsWith kind ((next value).run (first.run session).1).2 := by
  rw [Discovery.run_bind]
  cases first.run session with
  | mk later result => cases result <;> simp [FailsWith]

theorem BlamesResponse.failsWith_iff {result : Except DiscoveryFault α}
    (h : BlamesResponse result) (kind : DiscoveryErrorKind) :
    FailsWith kind result ↔ kind = .malformedResponse ∧ ∃ fault,
      result = .error fault := by
  constructor
  · rintro ⟨fault, hfault, rfl⟩
    obtain ⟨flaw, hflaw⟩ := h fault hfault
    exact ⟨by rw [hflaw]; rfl, fault, hfault⟩
  · rintro ⟨rfl, fault, hfault⟩
    obtain ⟨flaw, hflaw⟩ := h fault hfault
    exact ⟨fault, hfault, by rw [hflaw]; rfl⟩

end

/-! ## Replies -/

namespace Http.Reply

open DiscoveryClient (textOfReply)

/-- The status is not there in time, or it announces a body that is not. -/
def IsLate (timeout : Duration) (reply : Reply) : Prop :=
  timeout < reply.delay ∨
    ∃ response, reply.response? = some response ∧ response.status.isSuccess = true ∧
      timeout < reply.delay + response.bodyDelay

inductive FailsInTransport (timeout : Duration) (reply : Reply) : Prop where
  | late (isLate : reply.IsLate timeout)
  | unanswered (fails : reply.response? = none)
  | refused (response : Response) (answered : reply.response? = some response)
      (isSuccess : response.status.isSuccess = false)
      (found : response.status ≠ .notFound)

structure TellsNotFound (timeout : Duration) (reply : Reply) : Prop where
  inTime : ¬timeout < reply.delay
  answered : ∃ response, reply.response? = some response ∧
    response.status = .notFound

structure Brings (timeout : Duration) (reply : Reply) (response : Response) :
    Prop where
  answered : reply.response? = some response
  isSuccess : response.status.isSuccess = true
  inTime : ¬reply.IsLate timeout

variable {timeout : Duration} {reply : Reply} {response : Response}

theorem ne_notFound_of_isSuccess {status : Status} (h : status.isSuccess = true) :
    status ≠ .notFound := by
  rintro rfl
  cases h

theorem exhaustive (timeout : Duration) (reply : Reply) :
    reply.FailsInTransport timeout ∨ reply.TellsNotFound timeout ∨
      ∃ response, reply.Brings timeout response := by
  by_cases hlate : reply.IsLate timeout
  · exact .inl (.late hlate)
  cases hanswered : reply.response? with
  | none => exact .inl (.unanswered hanswered)
  | some response =>
      by_cases hnotFound : response.status = .notFound
      · exact .inr
          (.inl ⟨fun hdelay => hlate (.inl hdelay), response, hanswered, hnotFound⟩)
      cases hisSuccess : response.status.isSuccess with
      | false => exact .inl (.refused response hanswered hisSuccess hnotFound)
      | true => exact .inr (.inr ⟨response, hanswered, hisSuccess, hlate⟩)

theorem FailsInTransport.failsWith (h : reply.FailsInTransport timeout)
    (url : String) :
    FailsWith .transport (textOfReply timeout url reply) := by
  by_cases hdelay : timeout < reply.delay
  · rw [textOfReply, if_pos hdelay]
    exact failsWith_error.mpr rfl
  cases h with
  | late isLate =>
      obtain hlate | ⟨response, hanswered, hisSuccess, hlate⟩ := isLate
      · exact absurd hlate hdelay
      · simp only [textOfReply, if_neg hdelay, hanswered,
          if_neg (ne_notFound_of_isSuccess hisSuccess), hisSuccess, Bool.not_true,
          Bool.false_eq_true, if_false, if_pos hlate]
        exact failsWith_error.mpr rfl
  | unanswered hfails =>
      simp only [textOfReply, if_neg hdelay, hfails]
      exact failsWith_error.mpr rfl
  | refused response hanswered hisSuccess hfound =>
      simp only [textOfReply, if_neg hdelay, hanswered, if_neg hfound, hisSuccess,
        Bool.not_false, if_true]
      exact failsWith_error.mpr rfl

theorem TellsNotFound.failsWith (h : reply.TellsNotFound timeout) (url : String) :
    FailsWith .endpointNotFound (textOfReply timeout url reply) := by
  obtain ⟨response, hanswered, hnotFound⟩ := h.answered
  simp only [textOfReply, if_neg h.inTime, hanswered, if_pos hnotFound]
  exact failsWith_error.mpr rfl

theorem Brings.text (h : reply.Brings timeout response) (url : String) :
    textOfReply timeout url reply =
      if response.breaksOff then
        .error (.external (.malformedResponse .unreadableBody))
      else .ok response.text := by
  have hdelay : ¬timeout < reply.delay := fun hlate => h.inTime (.inl hlate)
  have hbody : ¬timeout < reply.delay + response.bodyDelay := fun hlate =>
    h.inTime (.inr ⟨response, h.answered, h.isSuccess, hlate⟩)
  simp only [textOfReply, if_neg hdelay, h.answered,
    if_neg (ne_notFound_of_isSuccess h.isSuccess), h.isSuccess, Bool.not_true,
    Bool.false_eq_true, if_false, if_neg hbody]

theorem failsWith_textOfReply {url : String} {kind : DiscoveryErrorKind} :
    FailsWith kind (textOfReply timeout url reply) ↔
      kind = .transport ∧ reply.FailsInTransport timeout ∨
      kind = .endpointNotFound ∧ reply.TellsNotFound timeout ∨
      kind = .malformedResponse ∧
        ∃ response, reply.Brings timeout response ∧ response.breaksOff = true := by
  constructor
  · intro h
    obtain htransport | htells | ⟨response, hbrings⟩ := reply.exhaustive timeout
    · exact .inl ⟨h.unique (htransport.failsWith url), htransport⟩
    · exact .inr (.inl ⟨h.unique (htells.failsWith url), htells⟩)
    · rw [hbrings.text] at h
      split at h
      · exact .inr (.inr ⟨failsWith_error.mp h, response, hbrings, ‹_›⟩)
      · exact absurd h not_failsWith_ok
  · rintro (⟨rfl, htransport⟩ | ⟨rfl, htells⟩ | ⟨rfl, response, hbrings,
      hbreaksOff⟩)
    · exact htransport.failsWith url
    · exact htells.failsWith url
    · rw [hbrings.text, if_pos hbreaksOff]
      exact failsWith_error.mpr rfl

theorem textOfReply_eq_ok_iff {url text : String} :
    textOfReply timeout url reply = .ok text ↔
      ∃ response, reply.Brings timeout response ∧ response.breaksOff = false ∧
        response.text = text := by
  constructor
  · intro h
    obtain htransport | htells | ⟨response, hbrings⟩ := reply.exhaustive timeout
    · obtain ⟨fault, hfault, -⟩ := htransport.failsWith url
      rw [hfault] at h
      cases h
    · obtain ⟨fault, hfault, -⟩ := htells.failsWith url
      rw [hfault] at h
      cases h
    · rw [hbrings.text] at h
      split at h
      · cases h
      · cases h
        exact ⟨response, hbrings, Bool.eq_false_iff.mpr ‹_›, rfl⟩
  · rintro ⟨response, hbrings, hwhole, rfl⟩
    rw [hbrings.text, hwhole]
    rfl

end Http.Reply

end EndpointDiscovery
