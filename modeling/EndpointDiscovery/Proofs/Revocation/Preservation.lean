import EndpointDiscovery.Proofs.Revocation.Change

/-!
# Consistency of all runs

Every event keeps a run consistent, so that all runs are.
-/

namespace EndpointDiscovery

/-! ## What the operations do to a cell -/

namespace RevocationCache

variable {cache : RevocationCache} {cell : RevocationCell} {check number : Nat}
  (record : CheckRecord)

theorem modifyCell_id (cache : RevocationCache) (number : Nat) :
    cache.modifyCell number id = cache := by
  simp [modifyCell]

theorem takeCell_started (cache : RevocationCache) (started : Nat)
    (serial : String) :
    takeCell { cache with started } serial =
      ({ (cache.takeCell serial).1 with started }, (cache.takeCell serial).2) := by
  unfold takeCell
  cases cache.entries.lookup serial <;> rfl

theorem start_cellChange {serial : String}
    (hcell : (cache.takeCell serial).1.cells[(cache.takeCell serial).2]? =
      some cell)
    (hasking : cell.asking? ≠ some cache.started)
    (hwaiting : cache.started ∉ cell.waiting)
    (hquiet : ∀ {revoked}, cell.revoked? = some revoked → cell.asking? = none) :
    ∃ change, (cache.start serial).1 =
        modifyCell { (cache.takeCell serial).1 with started := cache.started + 1 }
          (cache.takeCell serial).2 change ∧
      CellChange cache.started { record with
        phase := .ofProgress (cache.start serial).2
        query? := QueryState.ofProgress? (cache.start serial).2 }
          cell (change cell) := by
  unfold start
  simp only [takeCell_started, hcell]
  cases hrevoked : cell.revoked? with
  | some revoked =>
      refine ⟨id, (modifyCell_id _ _).symm, ?_⟩
      constructor <;>
        simp [CheckRecord.answer?, CheckRecord.Fits, hrevoked] <;> grind
  | none =>
      by_cases hfree : (cell.asking?.isNone && cell.waiting.isEmpty) = true
      · simp only [if_pos hfree]
        refine ⟨_, rfl, ?_⟩
        constructor <;>
          simp [CheckRecord.answer?, CheckRecord.Fits, hrevoked] <;> grind
      · simp only [if_neg hfree]
        refine ⟨_, rfl, ?_⟩
        constructor <;>
          simp [CheckRecord.answer?, CheckRecord.Fits, hrevoked] <;> grind

theorem answer_some_cellChange (serial : String) (revoked : Bool)
    (hnumber : cache.cellOf? check = some number)
    (hasking : cell.asking? = some check) (hwaiting : check ∉ cell.waiting)
    (hrevoked : cell.revoked? = none) :
    ∃ change,
      (cache.answer check serial (some revoked)).1 =
        cache.modifyCell number change ∧
      CellChange check { record with
        phase := .returned (cache.answer check serial (some revoked)).2
        query? := some (.answered revoked) } cell (change cell) := by
  simp only [answer, hnumber]
  refine ⟨_, rfl, ?_⟩
  constructor <;> simp [CheckRecord.answer?, CheckRecord.Fits, hrevoked] <;> grind

theorem answer_none_cellChange (hnumber : cache.cellOf? check = some number)
    (hasking : cell.asking? = some check) (hwaiting : check ∉ cell.waiting)
    (hrevoked : cell.revoked? = none) :
    ∃ change, (cache.answer check record.serial none).1 =
        (cache.modifyCell number change).discardUnused record.serial number ∧
      CellChange check { record with
        phase := .returned (cache.answer check record.serial none).2
        query? := some .failed } cell (change cell) := by
  simp only [answer, hnumber]
  refine ⟨_, rfl, ?_⟩
  constructor <;>
    simp [CheckRecord.answer?, CheckRecord.Fits, CheckRecord.serial, hrevoked] <;>
    grind

theorem resume_cellChange (hnumber : cache.cellOf? check = some number)
    (hcell : cache.cells[number]? = some cell) (hasking : cell.asking? ≠ some check)
    (hwaiting : check ∈ cell.waiting)
    (hquiet : ∀ {revoked}, cell.revoked? = some revoked → cell.asking? = none) :
    ∃ change, (cache.resume check).1 = cache.modifyCell number change ∧
      CellChange check { record with
        phase := .ofProgress (cache.resume check).2
        query? := QueryState.ofProgress? (cache.resume check).2 }
          cell (change cell) := by
  simp only [resume, hnumber, hcell]
  cases hrevoked : cell.revoked? with
  | some revoked =>
      refine ⟨_, rfl, ?_⟩
      constructor <;>
        simp [CheckRecord.answer?, CheckRecord.Fits, hrevoked] <;> grind
  | none =>
      by_cases hturn :
        (cell.asking?.isNone && cell.waiting.head? = some check) = true
      · simp only [if_pos hturn]
        refine ⟨_, rfl, ?_⟩
        constructor <;>
          simp [CheckRecord.answer?, CheckRecord.Fits, hrevoked] <;> grind
      · simp only [if_neg hturn]
        refine ⟨id, (modifyCell_id _ _).symm, ?_⟩
        constructor <;>
          simp [CheckRecord.answer?, CheckRecord.Fits, hrevoked] <;> grind

theorem drop_cellChange (hnumber : cache.cellOf? check = some number)
    (hquiet : ∀ {revoked}, cell.revoked? = some revoked → cell.asking? = none)
    (hquery : record.query? = none ∨ record.query? = some .inFlight) :
    ∃ change, cache.drop check = cache.modifyCell number change ∧
      CellChange check { record with
        phase := .dropped
        query? := record.query?.map fun _ => .dropped } cell (change cell) := by
  simp only [drop, hnumber]
  refine ⟨_, rfl, ?_⟩
  constructor <;> simp [CheckRecord.answer?, CheckRecord.Fits] <;> grind

end RevocationCache

/-! ## Events -/

namespace Consistent

variable {keys : List (String × Nat)} {run : CacheRun} {check : Nat}
  {record : CheckRecord} {before : RevocationCell}

theorem answer?_of_isLive (h : Consistent keys run)
    (hrecord : run.checks[check]? = some record)
    (hlive : record.phase.isLive = true) : record.answer? = none := by
  obtain ⟨cell, hcell⟩ := h.exists_cell hrecord
  have hfits := h.fits hrecord hcell
  rcases (CheckPhase.isLive_iff _).mp hlive with hphase | hphase <;>
    simp only [CheckRecord.Fits, hphase] at hfits <;>
      simp [CheckRecord.answer?, hfits]

theorem update (h : Consistent keys run)
    (hrecord : run.checks[check]? = some record)
    (hlive : record.phase.isLive = true)
    (hcell : run.cache.cells[record.cell]? = some before)
    {change : RevocationCell → RevocationCell} {phase : CheckPhase}
    {query? : Option QueryState}
    (hchange : CellChange check { record with phase, query? } before
      (change before)) :
    Consistent keys { run with
      cache := run.cache.modifyCell record.cell change
      checks := run.checks.set check { record with phase, query? } } := by
  have hlt : check < run.checks.length := (List.getElem?_eq_some_iff.mp hrecord).1
  have hkey := h.key hrecord
  have hstep : LocalStep run { run with
      cache := run.cache.modifyCell record.cell change
      checks := run.checks.set check { record with phase, query? } } check
      { record with phase, query? } (change before) := by
    constructor
    case clears => rfl
    case entries => rfl
    case started => exact h.started.trans (List.length_set ..).symm
    case cells_length => exact RevocationCache.cells_length_modifyCell _ _ _
    case cells =>
      intro number
      rw [RevocationCache.cells_modifyCell]
      by_cases heq : number = record.cell
      · simp [heq, hcell]
      · simp [heq]
    case checks =>
      intro other
      rw [List.getElem?_set]
      grind
  refine h.change hstep hchange hcell hkey (fun old hold => ?_)
    (.inl (RevocationCell.isUnused_eq_false_of_isHeldBy
      ((h.isHeldBy_iff hcell).mpr ⟨record, hrecord, rfl, hlive⟩)))
  rw [hrecord] at hold
  cases hold
  exact ⟨rfl, h.answer?_of_isLive hrecord hlive⟩

theorem start (h : Consistent keys run) (certificate : Certificate) :
    ∃ later, Consistent later (run.start certificate) := by
  obtain ⟨later, htaken, hkey, hlookup⟩ := h.takeCell certificate.serialText
  refine ⟨later, ?_⟩
  have hlt := (List.getElem?_eq_some_iff.mp hkey).1
  rw [htaken.keys_length] at hlt
  obtain ⟨before, hcell⟩ : ∃ before,
      (run.cache.takeCell certificate.serialText).1.cells[
      (run.cache.takeCell certificate.serialText).2]? = some before :=
    ⟨_, List.getElem?_eq_getElem hlt⟩
  -- The number of the new check does not occur in the cell yet.
  have hasking : before.asking? ≠ some run.cache.started := by
    rw [ne_eq, h.started, htaken.asking _ hcell]
    simp
  have hwaiting : run.cache.started ∉ before.waiting := by
    rw [h.started, htaken.waiting _ hcell]
    simp
  obtain ⟨change, hcache, hchange⟩ := RevocationCache.start_cellChange
    ⟨certificate, run.clears, (run.cache.takeCell certificate.serialText).2,
      .waiting, none⟩ hcell hasking hwaiting (htaken.quiet hcell)
  rw [h.started] at hchange
  unfold CacheRun.start
  refine htaken.change ?_ hchange hcell hkey (fun old hold => ?_)
    (.inr ⟨hlookup, rfl⟩)
  · constructor
    case clears => rfl
    case entries => simp [hcache, RevocationCache.modifyCell]
    case started => simp [hcache, RevocationCache.modifyCell, h.started]
    case cells_length => simp [hcache, RevocationCache.modifyCell]
    case cells =>
      intro number
      simp only [hcache, RevocationCache.cells_modifyCell]
      by_cases heq : number = (run.cache.takeCell certificate.serialText).2
      · simp [heq, hcell]
      · simp [heq]
    case checks => grind
  · simp at hold

theorem answered (h : Consistent keys run)
    (hrecord : run.checks[check]? = some record) (hphase : record.phase = .asking)
    (reply : Option Bool) :
    Consistent keys { run with
      cache := (run.answered check reply record).1
      checks := run.checks.set check (run.answered check reply record).2 } := by
  have hlive : record.phase.isLive = true :=
    (CheckPhase.isLive_iff _).mpr (.inl hphase)
  have hnumber := h.cellOf?_of_isLive hrecord hlive
  obtain ⟨cell, hcell⟩ := h.exists_cell hrecord
  have hasking : cell.asking? = some check :=
    (h.asking check hcell).mpr ⟨record, hrecord, rfl, hphase⟩
  have hwaiting : check ∉ cell.waiting := by
    rw [h.waiting check hcell]
    rintro ⟨found, hfound, -, hfoundPhase⟩
    rw [hrecord] at hfound
    cases hfound
    rw [hphase] at hfoundPhase
    contradiction
  have hrevoked : cell.revoked? = none := by
    cases hsome : cell.revoked? with
    | none => rfl
    | some revoked =>
        have := h.quiet hcell hsome
        rw [hasking] at this
        contradiction
  cases reply with
  | some revoked =>
      obtain ⟨change, hcache, hchange⟩ :=
        RevocationCache.answer_some_cellChange record
          record.serial revoked hnumber hasking hwaiting hrevoked
      simp only [CacheRun.answered, hcache]
      exact h.update hrecord hlive hcell hchange
  | none =>
      obtain ⟨change, hcache, hchange⟩ :=
        RevocationCache.answer_none_cellChange record
          hnumber hasking hwaiting hrevoked
      simp only [CacheRun.answered, hcache]
      exact (h.update hrecord hlive hcell hchange).discardUnused record.serial
        record.cell

theorem resumed (h : Consistent keys run)
    (hrecord : run.checks[check]? = some record)
    (hphase : record.phase = .waiting) :
    Consistent keys { run with
      cache := (run.resumed check record).1
      checks := run.checks.set check (run.resumed check record).2 } := by
  have hlive : record.phase.isLive = true :=
    (CheckPhase.isLive_iff _).mpr (.inr hphase)
  have hnumber := h.cellOf?_of_isLive hrecord hlive
  obtain ⟨cell, hcell⟩ := h.exists_cell hrecord
  have hwaiting : check ∈ cell.waiting :=
    (h.waiting check hcell).mpr ⟨record, hrecord, rfl, hphase⟩
  have hasking : cell.asking? ≠ some check := by
    rw [ne_eq, h.asking check hcell]
    rintro ⟨found, hfound, -, hfoundPhase⟩
    rw [hrecord] at hfound
    cases hfound
    rw [hphase] at hfoundPhase
    contradiction
  obtain ⟨change, hcache, hchange⟩ :=
    RevocationCache.resume_cellChange record hnumber hcell
      hasking hwaiting (h.quiet hcell)
  simp only [CacheRun.resumed, hcache]
  exact h.update hrecord hlive hcell hchange

theorem dropped (h : Consistent keys run)
    (hrecord : run.checks[check]? = some record)
    (hlive : record.phase.isLive = true) :
    Consistent keys { run with
      cache := (run.dropped check record).1
      checks := run.checks.set check (run.dropped check record).2 } := by
  have hnumber := h.cellOf?_of_isLive hrecord hlive
  obtain ⟨cell, hcell⟩ := h.exists_cell hrecord
  have hfits := h.fits hrecord hcell
  have hquery : record.query? = none ∨ record.query? = some .inFlight := by
    rcases (CheckPhase.isLive_iff _).mp hlive with hphase | hphase <;>
      simp only [CheckRecord.Fits, hphase] at hfits <;> simp [hfits]
  obtain ⟨change, hcache, hchange⟩ := RevocationCache.drop_cellChange record hnumber
    (h.quiet hcell) hquery
  simp only [CacheRun.dropped, hcache]
  exact h.update hrecord hlive hcell hchange

theorem step (h : Consistent keys run) {event : CacheEvent} {next : CacheRun}
    (hstep : run.step? event = some next) : ∃ later, Consistent later next := by
  cases event with
  | start certificate =>
      cases hstep
      exact h.start certificate
  | answer check reply =>
      simp only [CacheRun.step?] at hstep
      obtain ⟨record, hrecord, hphase, rfl⟩ := CacheRun.advance?_eq_some hstep
      exact ⟨keys, h.answered hrecord ((CheckPhase.isAsking_iff _).mp hphase) reply⟩
  | resume check =>
      simp only [CacheRun.step?] at hstep
      obtain ⟨record, hrecord, hphase, rfl⟩ := CacheRun.advance?_eq_some hstep
      exact ⟨keys, h.resumed hrecord ((CheckPhase.isWaiting_iff _).mp hphase)⟩
  | drop check =>
      simp only [CacheRun.step?] at hstep
      obtain ⟨record, hrecord, hlive, rfl⟩ := CacheRun.advance?_eq_some hstep
      exact ⟨keys, h.dropped hrecord hlive⟩
  | clear =>
      cases hstep
      exact ⟨keys, h.clear⟩

end Consistent

theorem CacheRun.exists_consistent {events : List CacheEvent} {run : CacheRun}
    (h : CacheRun.ofEvents? events = some run) : ∃ keys, Consistent keys run :=
  CacheRun.continue?_induction (motive := fun run => ∃ keys, Consistent keys run) h
    ⟨[], .initial⟩ fun ⟨_, hcurrent⟩ hstep => hcurrent.step hstep

end EndpointDiscovery
