import EndpointDiscovery.Proofs.Revocation.Query

/-!
# One question at a time

Among the checks of one serial number and epoch at most one has a question on its
way, and once one of them has heard back no other asks again.
-/

namespace EndpointDiscovery

namespace Consistent

variable {keys later : List (String × Nat)} {run next : CacheRun}
  {event : CacheEvent} {check other epoch : Nat} {serial : String} {revoked : Bool}
  {state : QueryState}

theorem answered_step (h : Consistent keys run)
    (hstep : run.step? event = some next)
    (hanswered : run.Asked check serial epoch (.answered revoked)) :
    next.Asked check serial epoch (.answered revoked) := by
  obtain ⟨record, hrecord, hserial, hepoch, hquery⟩ := hanswered
  cases h.checkStep hstep check with
  | kept hkept => exact ⟨record, hkept.trans hrecord, hserial, hepoch, hquery⟩
  | advanced found phase query? hfound hlive =>
      rw [hrecord] at hfound
      cases hfound
      rw [h.phase_of_answered hrecord hquery] at hlive
      contradiction
  | started found hlength =>
      have := (List.getElem?_eq_some_iff.mp hrecord).1
      omega

theorem asked_step (h : Consistent keys run) (hnext : Consistent later next)
    (hstep : run.step? event = some next)
    (hanswered : run.Asked check serial epoch (.answered revoked)) :
    next.Asked other serial epoch state ↔ run.Asked other serial epoch state := by
  have hanswered' := h.answered_step hstep hanswered
  -- A question on its way would have to be the one that was answered.
  have hnot : ∀ {record : CheckRecord}, run.checks[other]? = some record →
      record.phase.isLive = true → other ≠ check := by
    rintro record hrecord hlive rfl
    obtain ⟨found, hfound, -, -, hquery⟩ := hanswered
    rw [hrecord] at hfound
    cases hfound
    rw [h.phase_of_answered hrecord hquery] at hlive
    contradiction
  cases h.checkStep hstep other with
  | kept hkept => simp only [CacheRun.Asked, hkept]
  | advanced record phase query? hrecord hlive hafter hquery =>
      have hne := hnot hrecord hlive
      constructor
      · rintro ⟨found, hfound, hserial, hepoch, hfoundQuery⟩
        rw [hafter] at hfound
        cases hfound
        rcases hquery with hquery | ⟨-, hquery | hquery⟩
        · exact absurd (h.eq_of_answered hanswered
            (.inl ⟨record, hrecord, hserial, hepoch, hquery⟩)) hne
        · rw [hquery] at hfoundQuery
          contradiction
        · exact absurd (hnext.eq_of_answered hanswered'
            (.inl ⟨_, hafter, hserial, hepoch, hquery⟩)) hne
      · rintro ⟨found, hfound, hserial, hepoch, hfoundQuery⟩
        rw [hrecord] at hfound
        cases hfound
        rcases hquery with hquery | ⟨hquery, -⟩
        · exact absurd (h.eq_of_answered hanswered
            (.inl ⟨record, hrecord, hserial, hepoch, hquery⟩)) hne
        · rw [hquery] at hfoundQuery
          contradiction
  | started record hlength hafter hepoch hquery =>
      have hnone : run.checks[other]? = none := by simp [hlength]
      refine iff_of_false ?_ ?_
      · rintro ⟨found, hfound, hserial, hfoundEpoch, hfoundQuery⟩
        rw [hafter] at hfound
        cases hfound
        rcases hquery with hquery | hquery
        · rw [hquery] at hfoundQuery
          contradiction
        · have heq := hnext.eq_of_answered hanswered'
            (.inl ⟨record, hafter, hserial, hfoundEpoch, hquery⟩)
          obtain ⟨answered, hfound, -⟩ := hanswered
          rw [← heq, hnone] at hfound
          contradiction
      · rintro ⟨found, hfound, -⟩
        rw [hnone] at hfound
        contradiction

end Consistent

/-- Checks of one serial number and epoch ask one after the other, and never again
once one of them has been answered. -/
theorem CacheRun.single_flight {events : List CacheEvent} {run : CacheRun}
    (reached : CacheRun.ofEvents? events = some run) (serial : String)
    (epoch : Nat) :
    (∀ first second, run.Asked first serial epoch .inFlight →
      run.Asked second serial epoch .inFlight → first = second) ∧
    ∀ check revoked, run.Asked check serial epoch (.answered revoked) →
      ∀ later next, run.continue? later = some next →
        ∀ other state,
          next.Asked other serial epoch state ↔
            run.Asked other serial epoch state := by
  obtain ⟨keys, h⟩ := exists_consistent reached
  constructor
  · rintro first second ⟨record, hrecord, hserial, hepoch, hquery⟩
      ⟨found, hfound, hfoundSerial, hfoundEpoch, hfoundQuery⟩
    exact h.query_unique hrecord hfound (hserial.trans hfoundSerial.symm)
      (hepoch.trans hfoundEpoch.symm) (.inl hquery) (.inl hfoundQuery)
  · intro check revoked hanswered later next hlater other state
    refine (continue?_induction
      (motive := fun current => (∃ keys, Consistent keys current) ∧
        current.Asked check serial epoch (.answered revoked) ∧
        (current.Asked other serial epoch state ↔
          run.Asked other serial epoch state))
      hlater ⟨⟨keys, h⟩, hanswered, Iff.rfl⟩ ?_).2.2
    rintro current next event
      ⟨⟨currentKeys, hcurrent⟩, hcurrentAnswered, hiff⟩ hstep
    obtain ⟨nextKeys, hnext⟩ := hcurrent.step hstep
    exact ⟨⟨nextKeys, hnext⟩, hcurrent.answered_step hstep hcurrentAnswered,
      (hcurrent.asked_step hnext hstep hcurrentAnswered).trans hiff⟩

def CacheRun.handedOver : List CacheEvent :=
  [.start (.numbered 42), .start (.numbered 42), .answer 0 none, .resume 1, .clear,
    .start (.numbered 42), .answer 1 (some true)]

theorem CacheRun.single_flight_handedOver :
    ∃ run, CacheRun.ofEvents? handedOver = some run ∧
      run.Asked 1 "2a" 0 (.answered true) ∧ run.Asked 2 "2a" 1 .inFlight ∧
      ∀ later next, run.continue? later = some next →
        ∀ other state, next.Asked other "2a" 0 state ↔
          run.Asked other "2a" 0 state := by
  obtain ⟨run, hrun⟩ : ∃ run, CacheRun.ofEvents? handedOver = some run := ⟨_, rfl⟩
  have hasked : run.Asked 1 "2a" 0 (.answered true) ∧
      run.Asked 2 "2a" 1 .inFlight := by
    cases hrun
    exact ⟨⟨_, rfl, by decide, rfl, rfl⟩, ⟨_, rfl, by decide, rfl, rfl⟩⟩
  exact ⟨run, hrun, hasked.1, hasked.2,
    (CacheRun.single_flight hrun "2a" 0).2 1 true hasked.1⟩

end EndpointDiscovery
