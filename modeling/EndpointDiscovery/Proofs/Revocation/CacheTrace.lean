import EndpointDiscovery.Proofs.Revocation.Preservation

/-!
# Traces of a cache

What checks do to a cache makes up a run of it.  Each operation of the cache
is the next event.
-/

namespace EndpointDiscovery

namespace CacheRun

/-- The checks stay as they are, except one that may be in progress. -/
structure Keeps (trace later : CacheRun) (held? : Option Nat) : Prop where
  length_le : trace.checks.length ≤ later.checks.length
  record : ∀ {number : Nat} {record : CheckRecord},
    trace.checks[number]? = some record →
    held? ≠ some number ∨ record.phase.isLive = false →
      later.checks[number]? = some record

theorem Keeps.refl (trace : CacheRun) (held? : Option Nat) :
    trace.Keeps trace held? :=
  ⟨Nat.le_refl _, fun hrecord _ => hrecord⟩

theorem Keeps.trans {trace middle later : CacheRun} {held? next? : Option Nat}
    (h : trace.Keeps middle held?) (hnext : middle.Keeps later next?)
    (hheld : ∀ {number}, next? = some number →
      held? = some number ∨ trace.checks.length ≤ number) :
    trace.Keeps later held? := by
  refine ⟨Nat.le_trans h.length_le hnext.length_le,
    fun {number record} hrecord hcond => ?_⟩
  have hlt := (List.getElem?_eq_some_iff.mp hrecord).1
  refine hnext.record (h.record hrecord hcond) ?_
  rcases hcond with hne | hended
  · left
    intro hnumber
    rcases hheld hnumber with hsame | hlength
    · exact hne hsame
    · omega
  · exact .inr hended

def Has (trace : CacheRun) (number : Nat) (certificate : Certificate)
    (phase : CheckPhase) : Prop :=
  ∃ record, trace.checks[number]? = some record ∧ record.certificate = certificate ∧
    record.phase = phase

end CacheRun

/-- The run of a cache that checks of known certificates have brought about, with
the replies of the source. -/
structure Traces (known : Certificate → Prop)
    (replies : Certificate → Option Bool → Prop) (cache : RevocationCache)
    (trace : CacheRun) : Prop where
  reached : ∃ events, CacheRun.ofEvents? events = some trace
  cache : trace.cache = cache
  known : ∀ {check : Nat} {record : CheckRecord},
    trace.checks[check]? = some record →
    known record.certificate
  replied : ∀ {check : Nat} {record : CheckRecord} {revoked : Bool},
    trace.checks[check]? = some record → record.query? = some (.answered revoked) →
    replies record.certificate (some revoked)

namespace Traces

variable {known : Certificate → Prop} {replies : Certificate → Option Bool → Prop}
  {cache : RevocationCache} {trace : CacheRun}

theorem initial : Traces known replies {} {} where
  reached := ⟨[], rfl⟩
  cache := rfl
  known := by simp
  replied := by simp

theorem reached_of_step (h : Traces known replies cache trace) (event : CacheEvent)
    {next : CacheRun} (hstep : trace.step? event = some next) :
    ∃ events, CacheRun.ofEvents? events = some next := by
  obtain ⟨events, hevents⟩ := h.reached
  refine ⟨events ++ [event], ?_⟩
  rw [CacheRun.ofEvents?, CacheRun.continue?_append]
  rw [CacheRun.ofEvents?] at hevents
  rw [hevents]
  simp [CacheRun.continue?, hstep]

theorem started (h : Traces known replies cache trace) :
    cache.started = trace.checks.length := by
  obtain ⟨events, hevents⟩ := h.reached
  obtain ⟨keys, hconsistent⟩ := CacheRun.exists_consistent hevents
  rw [← h.cache, hconsistent.started]

theorem new (h : Traces known replies cache trace) {number : Nat}
    (hnumber : some cache.started = some number) :
    none = some number ∨ trace.checks.length ≤ number := by
  cases hnumber
  exact .inr (Nat.le_of_eq h.started.symm)

theorem start (h : Traces known replies cache trace) {certificate : Certificate}
    (hknown : known certificate) :
    ∃ later, Traces known replies (cache.start certificate.serialText).1 later ∧
      trace.Keeps later none ∧ later.Has cache.started certificate
        (.ofProgress (cache.start certificate.serialText).2) := by
  have hstarted := h.started
  refine ⟨trace.start certificate, ⟨?_, ?_, ?_, ?_⟩, ⟨?_, ?_⟩, ?_⟩
  · exact h.reached_of_step (.start certificate) rfl
  · rw [← h.cache]
    rfl
  · intro check record hrecord
    rcases getElem?_concat_eq_some.mp hrecord with hrecord | ⟨-, rfl⟩
    · exact h.known hrecord
    · exact hknown
  · intro check record revoked hrecord hquery
    rcases getElem?_concat_eq_some.mp hrecord with hrecord | ⟨-, rfl⟩
    · exact h.replied hrecord hquery
    · exact absurd hquery (QueryState.ofProgress?_ne_answered _ revoked)
  · simp [CacheRun.start]
  · intro number record hrecord _
    exact (List.getElem?_append_left (List.getElem?_eq_some_iff.mp hrecord).1).trans
      hrecord
  · rw [hstarted, ← h.cache]
    exact ⟨_, List.getElem?_concat_length, rfl, rfl⟩

theorem advance (h : Traces known replies cache trace) {number : Nat}
    {certificate : Certificate} {before phase : CheckPhase} {next : RevocationCache}
    (hhas : trace.Has number certificate before) (hlive : before.isLive = true)
    (event : CacheEvent) (query? : CheckRecord → Option QueryState)
    (hstep : ∀ record, trace.checks[number]? = some record →
      record.certificate = certificate →
      record.phase = before → trace.step? event = some { trace with
        cache := next
        checks :=
          trace.checks.set number { record with phase, query? := query? record } })
    (hquery : ∀ record revoked, query? record = some (.answered revoked) →
      replies certificate (some revoked)) :
    ∃ later, Traces known replies next later ∧ trace.Keeps later (some number) ∧
      later.Has number certificate phase := by
  obtain ⟨record, hrecord, hcertificate, hphase⟩ := hhas
  have hlt := (List.getElem?_eq_some_iff.mp hrecord).1
  have hnext := hstep record hrecord hcertificate hphase
  refine ⟨_, ⟨h.reached_of_step event hnext, rfl, ?_, ?_⟩, ⟨by simp, ?_⟩, ?_⟩
  · intro check found hfound
    rw [List.getElem?_set] at hfound
    split at hfound
    · cases hfound
      exact (h.known hrecord : known record.certificate)
    · exact h.known hfound
  · intro check found revoked hfound hfoundQuery
    rw [List.getElem?_set] at hfound
    split at hfound
    · cases hfound
      exact hcertificate ▸ hquery record revoked hfoundQuery
    · exact h.replied hfound hfoundQuery
  · intro other found hfound hkeeps
    have hne : number ≠ other := by
      -- The check that changes is in progress, which those that are kept are not.
      rintro rfl
      rw [hrecord] at hfound
      cases hfound
      rw [hphase, hlive] at hkeeps
      simp at hkeeps
    simpa [List.getElem?_set, hne] using hfound
  · exact ⟨_, List.getElem?_set_self hlt, hcertificate, rfl⟩

theorem answer (h : Traces known replies cache trace) {number : Nat}
    {certificate : Certificate} (hhas : trace.Has number certificate .asking)
    {reply : Option Bool} (hreply : replies certificate reply) :
    ∃ later,
      Traces known replies
        (cache.answer number certificate.serialText reply).1 later ∧
      trace.Keeps later (some number) ∧ later.Has number certificate
        (.returned (cache.answer number certificate.serialText reply).2) := by
  rw [← h.cache]
  refine h.advance hhas rfl (.answer number reply)
    (fun _ => some (.ofReply reply)) ?_ ?_
  · intro record hrecord hcertificate hphase
    simp [CacheRun.step?, CacheRun.advance?, CacheRun.answered, CheckRecord.serial,
      hrecord, hcertificate, hphase]
  · intro record revoked hquery
    cases reply with
    | none => simp at hquery
    | some found =>
        cases hquery
        exact hreply

theorem resume (h : Traces known replies cache trace) {number : Nat}
    {certificate : Certificate} (hhas : trace.Has number certificate .waiting) :
    ∃ later, Traces known replies (cache.resume number).1 later ∧
      trace.Keeps later (some number) ∧
      later.Has number certificate (.ofProgress (cache.resume number).2) := by
  rw [← h.cache]
  refine h.advance hhas rfl (.resume number)
    (fun _ => QueryState.ofProgress? (trace.cache.resume number).2) ?_ ?_
  · intro record hrecord _ hphase
    simp [CacheRun.step?, CacheRun.advance?, CacheRun.resumed, hrecord, hphase]
  · intro record revoked hquery
    exact absurd hquery (QueryState.ofProgress?_ne_answered _ revoked)

theorem drop (h : Traces known replies cache trace) {number : Nat}
    {certificate : Certificate} {phase : CheckPhase}
    (hhas : trace.Has number certificate phase) (hlive : phase.isLive = true) :
    ∃ later, Traces known replies (cache.drop number) later ∧
      trace.Keeps later (some number) ∧ later.Has number certificate .dropped := by
  rw [← h.cache]
  refine h.advance hhas hlive (.drop number)
    (fun record => record.query?.map fun _ => .dropped) ?_ ?_
  · intro record hrecord _ hphase
    simp only [CacheRun.step?, CacheRun.advance?, CacheRun.dropped, hrecord,
      hphase, hlive, if_true]
  · intro record revoked hquery
    obtain ⟨query, -, hdropped⟩ := Option.map_eq_some_iff.mp hquery
    contradiction

theorem clear (h : Traces known replies cache trace) :
    ∃ later, Traces known replies cache.clear later ∧ trace.Keeps later none := by
  refine ⟨{ trace with cache := trace.cache.clear, clears := trace.clears + 1 },
    ⟨?_, ?_, h.known, h.replied⟩, Nat.le_refl _, fun hrecord _ => hrecord⟩
  · exact h.reached_of_step .clear rfl
  · rw [← h.cache]

end Traces

end EndpointDiscovery
