import EndpointDiscovery.Proofs.Revocation.Preservation

/-!
# Questions

A question belongs to the serial number and the epoch of the check that asked
it.  Of the questions of one serial number and epoch at most one is on its
way or answered.
-/

namespace EndpointDiscovery

namespace CacheRun

/-- A check of a serial number and epoch has asked a question, which has
come to `state`. -/
def Asked (run : CacheRun) (check : Nat) (serial : String) (epoch : Nat)
    (state : QueryState) :
    Prop :=
  ∃ record, run.checks[check]? = some record ∧ record.serial = serial ∧
    record.epoch = epoch ∧ record.query? = some state

/-- What one event makes of one check. -/
inductive CheckStep (run next : CacheRun) (check : Nat) : Prop where
  | kept (h : next.checks[check]? = run.checks[check]?)
  | advanced (record : CheckRecord) (phase : CheckPhase)
      (query? : Option QueryState)
      (before : run.checks[check]? = some record)
      (live : record.phase.isLive = true)
      (after : next.checks[check]? = some { record with phase, query? })
      (query : record.query? = some .inFlight ∨
        record.query? = none ∧ (query? = none ∨ query? = some .inFlight))
  | started (record : CheckRecord) (before : run.checks.length = check)
      (after : next.checks[check]? = some record)
      (epoch : record.epoch = run.clears)
      (query : record.query? = none ∨ record.query? = some .inFlight)

private theorem checkStep_of_set {run : CacheRun} {place check : Nat}
    {record : CheckRecord} {cache : RevocationCache} {phase : CheckPhase}
    {query? : Option QueryState} (hrecord : run.checks[place]? = some record)
    (hlive : record.phase.isLive = true) (hquery : record.query? = some .inFlight ∨
      record.query? = none ∧ (query? = none ∨ query? = some .inFlight)) :
    CheckStep run
      { run with
        cache
        checks := run.checks.set place { record with phase, query? } } check := by
  have hlt : place < run.checks.length := (List.getElem?_eq_some_iff.mp hrecord).1
  by_cases heq : check = place
  · subst heq
    exact .advanced record phase query? hrecord hlive (by simp [hlt]) hquery
  · exact .kept (by simp [Ne.symm heq])

end CacheRun

namespace Consistent

variable {keys : List (String × Nat)} {run next : CacheRun} {event : CacheEvent}

theorem checkStep (h : Consistent keys run) (hstep : run.step? event = some next)
    (check : Nat) :
    CacheRun.CheckStep run next check := by
  have hfits : ∀ {place : Nat} {record : CheckRecord},
      run.checks[place]? = some record →
      ∃ revoked?, record.Fits revoked? := by
    intro place record hrecord
    obtain ⟨cell, hcell⟩ := h.exists_cell hrecord
    exact ⟨_, h.fits hrecord hcell⟩
  cases event with
  | start certificate =>
      cases hstep
      rcases Nat.lt_trichotomy check run.checks.length with hlt | heq | hgt
      · exact .kept (List.getElem?_append_left hlt)
      · subst heq
        refine .started _ rfl List.getElem?_concat_length rfl ?_
        exact QueryState.ofProgress?_eq _
      · refine .kept ?_
        rw [List.getElem?_eq_none (Nat.le_of_lt hgt), List.getElem?_eq_none]
        simpa [CacheRun.start] using Nat.succ_le_of_lt hgt
  | answer place reply =>
      simp only [CacheRun.step?] at hstep
      obtain ⟨record, hrecord, hready, rfl⟩ := CacheRun.advance?_eq_some hstep
      have hphase := (CheckPhase.isAsking_iff _).mp hready
      obtain ⟨revoked?, hrecordFits⟩ := hfits hrecord
      simp only [CheckRecord.Fits, hphase] at hrecordFits
      exact CacheRun.checkStep_of_set hrecord
        ((CheckPhase.isLive_iff _).mpr (.inl hphase)) (.inl hrecordFits)
  | resume place =>
      simp only [CacheRun.step?] at hstep
      obtain ⟨record, hrecord, hready, rfl⟩ := CacheRun.advance?_eq_some hstep
      have hphase := (CheckPhase.isWaiting_iff _).mp hready
      obtain ⟨revoked?, hrecordFits⟩ := hfits hrecord
      simp only [CheckRecord.Fits, hphase] at hrecordFits
      exact CacheRun.checkStep_of_set hrecord
        ((CheckPhase.isLive_iff _).mpr (.inr hphase))
        (.inr ⟨hrecordFits, QueryState.ofProgress?_eq _⟩)
  | drop place =>
      simp only [CacheRun.step?] at hstep
      obtain ⟨record, hrecord, hlive, rfl⟩ := CacheRun.advance?_eq_some hstep
      obtain ⟨revoked?, hrecordFits⟩ := hfits hrecord
      refine CacheRun.checkStep_of_set hrecord hlive ?_
      rcases (CheckPhase.isLive_iff _).mp hlive with hphase | hphase <;>
        simp only [CheckRecord.Fits, hphase] at hrecordFits <;> simp [hrecordFits]
  | clear =>
      cases hstep
      exact .kept rfl

/-! ## Questions of one key -/

theorem phase_of_inFlight (h : Consistent keys run) {check : Nat}
    {record : CheckRecord} (hrecord : run.checks[check]? = some record)
    (hquery : record.query? = some .inFlight) :
    record.phase = .asking := by
  obtain ⟨cell, hcell⟩ := h.exists_cell hrecord
  have hfits := h.fits hrecord hcell
  unfold CheckRecord.Fits at hfits
  rw [hquery] at hfits
  split at hfits
  · assumption
  all_goals simp at hfits

theorem phase_of_answered (h : Consistent keys run) {check : Nat}
    {record : CheckRecord} {revoked : Bool}
    (hrecord : run.checks[check]? = some record)
    (hquery : record.query? = some (.answered revoked)) :
    record.phase = .returned (.ok (.fresh revoked)) := by
  obtain ⟨cell, hcell⟩ := h.exists_cell hrecord
  have hfits := h.fits hrecord hcell
  unfold CheckRecord.Fits at hfits
  rw [hquery] at hfits
  split at hfits
  case h_3 status hphase =>
    obtain ⟨answer, -, ⟨hanswer, hstatus⟩ | ⟨hnone, -⟩⟩ := hfits
    · cases hanswer
      rw [hphase, hstatus]
    · contradiction
  all_goals simp at hfits

theorem isUnused_of_query (h : Consistent keys run) {check : Nat}
    {record : CheckRecord} {cell : RevocationCell}
    (hrecord : run.checks[check]? = some record)
    (hcell : run.cache.cells[record.cell]? = some cell)
    (hquery : record.query? = some .inFlight ∨ record.answer?.isSome) :
    cell.isUnused = false := by
  rcases hquery with hquery | hquery
  · refine RevocationCell.isUnused_eq_false_of_isHeldBy
      ((h.isHeldBy_iff hcell).mpr ⟨record, hrecord, rfl, ?_⟩)
    exact (CheckPhase.isLive_iff _).mpr (.inl (h.phase_of_inFlight hrecord hquery))
  · obtain ⟨revoked, hanswer⟩ := Option.isSome_iff_exists.mp hquery
    exact RevocationCell.isUnused_eq_false_of_revoked?
      (h.answer hrecord hcell hanswer)

theorem query_unique (h : Consistent keys run) {first second : Nat}
    {record other : CheckRecord} (hrecord : run.checks[first]? = some record)
    (hother : run.checks[second]? = some other)
    (hserial : record.serial = other.serial) (hepoch : record.epoch = other.epoch)
    (hquery : record.query? = some .inFlight ∨ record.answer?.isSome)
    (hotherQuery : other.query? = some .inFlight ∨ other.answer?.isSome) :
    first = second := by
  obtain ⟨cell, hcell⟩ := h.exists_cell hrecord
  obtain ⟨otherCell, hotherCell⟩ := h.exists_cell hother
  have hsame : record.cell = other.cell := by
    refine h.unique hcell hotherCell (h.isUnused_of_query hrecord hcell hquery)
      (h.isUnused_of_query hother hotherCell hotherQuery) ?_
    rw [h.key hrecord, h.key hother, hserial, hepoch]
  rw [← hsame, hcell] at hotherCell
  cases hotherCell
  -- The one cell knows who is asking and whether the answer is there.
  have hasking : ∀ {check : Nat} {found : CheckRecord},
      run.checks[check]? = some found →
      found.cell = record.cell → found.query? = some .inFlight →
      cell.asking? = some check := by
    intro check found hfound hfoundCell hfoundQuery
    exact (h.asking check hcell).mpr
      ⟨found, hfound, hfoundCell, h.phase_of_inFlight hfound hfoundQuery⟩
  have hquiet : ∀ {check : Nat} {found : CheckRecord},
      run.checks[check]? = some found →
      found.cell = record.cell → found.answer?.isSome → cell.asking? = none := by
    intro check found hfound hfoundCell hfoundAnswer
    obtain ⟨revoked, hrevoked⟩ := Option.isSome_iff_exists.mp hfoundAnswer
    exact h.quiet hcell (h.answer hfound (hfoundCell ▸ hcell) hrevoked)
  rcases hquery with hquery | hquery <;>
    rcases hotherQuery with hotherQuery | hotherQuery
  · have := hasking hrecord rfl hquery
    rw [hasking hother hsame.symm hotherQuery] at this
    exact (Option.some.inj this).symm
  · have := hasking hrecord rfl hquery
    rw [hquiet hother hsame.symm hotherQuery] at this
    contradiction
  · have := hasking hother hsame.symm hotherQuery
    rw [hquiet hrecord rfl hquery] at this
    contradiction
  · exact h.answer_unique hrecord hother hsame hquery hotherQuery

theorem eq_of_answered (h : Consistent keys run) {check other epoch : Nat}
    {serial : String} {revoked : Bool}
    (hanswered : run.Asked check serial epoch (.answered revoked))
    (hother : run.Asked other serial epoch .inFlight ∨
      ∃ answer, run.Asked other serial epoch (.answered answer)) :
        other = check := by
  obtain ⟨record, hrecord, hserial, hepoch, hquery⟩ := hanswered
  have hanswer : record.answer?.isSome := by
    simp [(record.answer?_eq_some_iff revoked).mpr hquery]
  rcases hother with ⟨found, hfound, hfoundSerial, hfoundEpoch, hfoundQuery⟩ |
    ⟨answer, found, hfound, hfoundSerial, hfoundEpoch, hfoundQuery⟩
  · exact h.query_unique hfound hrecord (hfoundSerial.trans hserial.symm)
      (hfoundEpoch.trans hepoch.symm) (.inl hfoundQuery) (.inr hanswer)
  · exact h.query_unique hfound hrecord (hfoundSerial.trans hserial.symm)
      (hfoundEpoch.trans hepoch.symm)
      (.inr (by simp [(found.answer?_eq_some_iff answer).mpr hfoundQuery]))
      (.inr hanswer)

end Consistent

end EndpointDiscovery
