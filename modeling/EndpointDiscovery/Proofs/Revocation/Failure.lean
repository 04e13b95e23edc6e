import EndpointDiscovery.Proofs.Revocation.Effect
import EndpointDiscovery.Proofs.Revocation.WriteOnce

/-!
# Failed questions

A question that fails ends the check that asked it, and no other.  Its entry is
forgotten only if nobody else needs the cell.
-/

namespace EndpointDiscovery

namespace CacheRun

def IsShared (run : CacheRun) (check : Nat) (record : CheckRecord) : Prop :=
  ∃ other found, other ≠ check ∧ run.checks[other]? = some found ∧
    found.cell = record.cell ∧ found.phase.isLive = true

/-- Every check that has returned answers for its own question, or brings the answer
to one about its cell. -/
structure OwnFailures (run : CacheRun) : Prop where
  failed : ∀ {check : Nat} {record : CheckRecord} {fault : TrustFault},
    run.checks[check]? = some record →
    (record.phase = .returned (.error fault) ↔
      record.query? = some .failed ∧
        fault = .foreign (.revocationCheckUnavailable record.serial))
  succeeded : ∀ {check : Nat} {record : CheckRecord} {status : RevocationStatus},
    run.checks[check]? = some record → record.phase = .returned (.ok status) →
    ∃ (asker : Nat) (found : CheckRecord) (revoked : Bool),
      run.checks[asker]? = some found ∧ found.cell = record.cell ∧
      found.query? = some (.answered revoked) ∧
      status = if asker = check then .fresh revoked else .cached revoked

/-- What the failure of the question of a check comes to. -/
structure FailureStep (run next : CacheRun) (check : Nat) (record : CheckRecord) :
    Prop where
  fails : next.checks[check]? = some { record with
    phase :=
      .returned (.error (.foreign (.revocationCheckUnavailable record.serial)))
    query? := some .failed }
  others : ∀ other, other ≠ check → next.checks[other]? = run.checks[other]?
  entries : ∀ {serial : String} {number : Nat},
    next.cache.entries.lookup serial = some number ↔
    run.cache.entries.lookup serial = some number ∧
      (number = record.cell → run.IsShared check record)
  kept : ∀ {serial : String} {number : Nat} {cell : RevocationCell},
    run.cache.entries.lookup serial = some number →
      run.cache.cells[number]? = some cell →
    cell.revoked?.isSome ∨ (∃ other, other ≠ check ∧ cell.isHeldBy other = true) ∨
      record.epoch < run.clears →
    next.cache.entries.lookup serial = some number
  answers : ∀ number : Nat,
    (next.cache.cells[number]?).map RevocationCell.revoked? =
    (run.cache.cells[number]?).map RevocationCell.revoked?
  count : next.cache.count = run.cache.count

structure LosesUnused (before after : RevocationCache) : Prop where
  cells : after.cells = before.cells
  used : ∀ {serial : String} {number : Nat} {cell : RevocationCell},
    before.entries.lookup serial = some number → before.cells[number]? = some cell →
    cell.isUnused = false →
    after.entries.lookup serial = some number
  count : after.count = before.count

end CacheRun

namespace Consistent

variable {keys later : List (String × Nat)} {run next : CacheRun} {check : Nat}
  {record : CheckRecord} {cell : RevocationCell}

/-! ## Results -/

theorem ownFailures (h : Consistent keys run) : run.OwnFailures where
  failed := by
    intro check record fault hrecord
    obtain ⟨cell, hcell⟩ := h.exists_cell hrecord
    have hfits := h.fits hrecord hcell
    unfold CheckRecord.Fits at hfits
    split at hfits <;> rename_i hphase <;> rw [hphase]
    · simp [hfits]
    · simp [hfits]
    · obtain ⟨revoked, -, ⟨hquery, -⟩ | ⟨hquery, -⟩⟩ := hfits <;> simp [hquery]
    · simp [hfits, eq_comm]
    · rcases hfits with hquery | hquery <;> simp [hquery]
  succeeded := by
    intro check record status hrecord hphase
    exact h.exists_cell_asker hrecord hphase

/-! ## Entries -/

theorem waiting_eq_nil_iff (h : Consistent keys run)
    (hrecord : run.checks[check]? = some record) (hphase : record.phase = .asking)
    (hcell : run.cache.cells[record.cell]? = some cell) :
    cell.waiting = [] ↔ ¬run.IsShared check record := by
  have hasking : cell.asking? = some check :=
    (h.asking check hcell).mpr ⟨record, hrecord, rfl, hphase⟩
  rw [List.eq_nil_iff_forall_not_mem]
  constructor
  · rintro hnone ⟨other, found, hne, hfound, hsame, hlive⟩
    rcases (RevocationCell.isHeldBy_iff cell other).mp
      ((h.isHeldBy_iff hcell).mpr ⟨found, hfound, hsame, hlive⟩) with
      hother | hother
    · rw [hasking] at hother
      exact hne (Option.some.inj hother).symm
    · exact hnone other hother
  · intro hnot other hmem
    obtain ⟨found, hfound, hsame, hwaiting⟩ := (h.waiting other hcell).mp hmem
    refine hnot ⟨other, found, ?_, hfound, hsame,
      (CheckPhase.isLive_iff _).mpr (.inr hwaiting)⟩
    rintro rfl
    rw [hrecord] at hfound
    cases hfound
    rw [hphase] at hwaiting
    contradiction

theorem count_congr (h : Consistent keys run) (hnext : Consistent later next)
    (hknown : ∀ serial,
      (∃ number cell, next.cache.entries.lookup serial = some number ∧
        next.cache.cells[number]? = some cell ∧ cell.revoked?.isSome) ↔
      ∃ number cell, run.cache.entries.lookup serial = some number ∧
        run.cache.cells[number]? = some cell ∧ cell.revoked?.isSome) :
    next.cache.count = run.cache.count := by
  rw [hnext.count_eq, h.count_eq]
  refine ((List.perm_ext_iff_of_nodup (List.nodup_dedup _) (List.nodup_dedup _)).mpr
    fun serial => ?_).length_eq
  have hserial := hknown serial
  simp only [lookup_eq_some_iff_mem h.entries_nodup,
    lookup_eq_some_iff_mem hnext.entries_nodup] at hserial
  exact (hnext.mem_answeredSerials serial).trans
    (hserial.trans (h.mem_answeredSerials serial).symm)

theorem losesUnused_discardUnused (h : Consistent keys run) (serial : String)
    (number : Nat) :
    CacheRun.LosesUnused run.cache (run.cache.discardUnused serial number) := by
  have hlookup := run.cache.lookup_discardUnused serial number
  have hcells := run.cache.cells_discardUnused serial number
  have hused : ∀ {other : String} {place : Nat} {cell : RevocationCell},
      run.cache.entries.lookup other = some place →
        run.cache.cells[place]? = some cell →
      cell.isUnused = false →
      (run.cache.discardUnused serial number).entries.lookup other =
        some place := by
    intro other place cell hother hcell hinUse
    rw [hlookup, if_neg, hother]
    rintro ⟨rfl, hsame, hunused⟩
    rw [hother] at hsame
    cases hsame
    rw [hcell, Option.any_some, hinUse] at hunused
    contradiction
  refine ⟨hcells, hused,
    h.count_congr (h.discardUnused serial number) fun other => ?_⟩
  constructor
  · rintro ⟨place, cell, hother, hcell, hknown⟩
    rw [hlookup] at hother
    split at hother
    · contradiction
    · exact ⟨place, cell, hother, hcells ▸ hcell, hknown⟩
  · rintro ⟨place, cell, hother, hcell, hknown⟩
    obtain ⟨revoked, hrevoked⟩ := Option.isSome_iff_exists.mp hknown
    exact ⟨place, cell,
      hused hother hcell (RevocationCell.isUnused_eq_false_of_revoked? hrevoked),
      hcells ▸ hcell, hknown⟩

/-! ## Failures -/

theorem revoked?_of_asking (h : Consistent keys run)
    (hrecord : run.checks[check]? = some record) (hphase : record.phase = .asking)
    (hcell : run.cache.cells[record.cell]? = some cell) :
    cell.revoked? = none := by
  have hasking := (h.asking check hcell).mpr ⟨record, hrecord, rfl, hphase⟩
  cases hsome : cell.revoked? with
  | none => rfl
  | some revoked =>
      rw [h.quiet hcell hsome] at hasking
      contradiction

theorem lookup_of_failure (h : Consistent keys run)
    (hrecord : run.checks[check]? = some record) (hphase : record.phase = .asking)
    (hcell : run.cache.cells[record.cell]? = some cell) {after : CheckRecord}
    {released : RevocationCell} (heffect : Effect run next check after released
      (if run.cache.entries.lookup record.serial = some record.cell ∧
        cell.waiting = [] then none
        else run.cache.entries.lookup record.serial))
    (hserial : after.serial = record.serial) {serial : String} {number : Nat} :
    next.cache.entries.lookup serial = some number ↔
      run.cache.entries.lookup serial = some number ∧
        (number = record.cell → run.IsShared check record) := by
  have hlookup := heffect.lookup serial
  rw [hserial] at hlookup
  have hunshared := h.waiting_eq_nil_iff hrecord hphase hcell
  have hown : ∀ other, run.cache.entries.lookup other = some record.cell →
      other = record.serial := by
    intro other hother
    have hentry := h.entry hother
    rw [h.key hrecord, Option.some.injEq, Prod.mk.injEq] at hentry
    exact hentry.1.symm
  rw [hlookup]
  grind

theorem failureStep (h : Consistent keys run)
    (hrecord : run.checks[check]? = some record)
    (hquery : record.query? = some .inFlight) :
    ∃ next, run.step? (.answer check none) = some next ∧
      run.FailureStep next check record := by
  have hphase := h.phase_of_inFlight hrecord hquery
  obtain ⟨cell, hcell⟩ := h.exists_cell hrecord
  have hrevoked := h.revoked?_of_asking hrecord hphase hcell
  obtain ⟨next, hstep, heffect⟩ := h.effect_answer hrecord hphase hcell none
  obtain ⟨later, hnext⟩ := h.step hstep
  simp only [true_and] at heffect
  have hentries :=
    @lookup_of_failure _ _ next _ _ _ h hrecord hphase hcell _ _ heffect rfl
  have hanswers : ∀ number : Nat,
      (next.cache.cells[number]?).map RevocationCell.revoked? =
      (run.cache.cells[number]?).map RevocationCell.revoked? := by
    intro number
    rw [heffect.cells]
    split
    · rename_i heq
      cases heq
      simp [hcell, hrevoked, RevocationCell.release]
    · rfl
  refine ⟨next, hstep, ?_⟩
  constructor
  case fails =>
    rw [heffect.checks, if_pos rfl]
    rfl
  case others =>
    intro other hne
    rw [heffect.checks, if_neg hne]
  case entries => exact hentries
  case kept =>
    intro serial number found hlookup hfound hneeded
    refine hentries.mpr ⟨hlookup, ?_⟩
    rintro rfl
    rw [hcell] at hfound
    cases hfound
    rcases hneeded with hanswered | ⟨other, hne, hheld⟩ | hcleared
    · rw [hrevoked] at hanswered
      contradiction
    · obtain ⟨holder, hholder, hsame, hlive⟩ := (h.isHeldBy_iff hcell).mp hheld
      exact ⟨other, holder, hne, hholder, hsame, hlive⟩
    · -- The entries of the epoch are younger than the cell.
      have hentry := h.entry hlookup
      rw [h.key hrecord, Option.some.injEq, Prod.mk.injEq] at hentry
      omega
  case answers => exact hanswers
  case count =>
    refine h.count_congr hnext fun serial => ?_
    constructor
    · rintro ⟨number, found, hlookup, hfound, hknown⟩
      have hanswer := hanswers number
      rw [hfound, Option.map_some, eq_comm, Option.map_eq_some_iff] at hanswer
      obtain ⟨before, hbefore, hsame⟩ := hanswer
      exact ⟨number, before, (hentries.mp hlookup).1, hbefore, hsame ▸ hknown⟩
    · rintro ⟨number, found, hlookup, hfound, hknown⟩
      have hanswer := hanswers number
      rw [hfound, Option.map_some, Option.map_eq_some_iff] at hanswer
      obtain ⟨after, hafter, hsame⟩ := hanswer
      refine ⟨number, after, hentries.mpr ⟨hlookup, ?_⟩, hafter, hsame ▸ hknown⟩
      rintro rfl
      rw [hcell] at hfound
      cases hfound
      rw [hrevoked] at hknown
      contradiction

end Consistent

/-- A failed question ends the check that asked it and no other, and takes nothing
from the cache that is needed; nor does forgetting an entry at any other moment. -/
theorem CacheRun.isolates_failures {events : List CacheEvent} {run : CacheRun}
    (reached : CacheRun.ofEvents? events = some run) :
    run.OwnFailures ∧
      (∀ check record, run.checks[check]? = some record →
        record.query? = some .inFlight →
        ∃ next, run.step? (.answer check none) = some next ∧
          run.FailureStep next check record) ∧
      ∀ serial number,
        LosesUnused run.cache (run.cache.discardUnused serial number) := by
  obtain ⟨keys, h⟩ := exists_consistent reached
  exact ⟨h.ownFailures, fun check record => h.failureStep,
    h.losesUnused_discardUnused⟩

def CacheRun.askedTwice : List CacheEvent :=
  twoStarts ++ [.clear, .start (.numbered 42)]

theorem CacheRun.isolates_failures_askedTwice :
    ∃ run record next, CacheRun.ofEvents? askedTwice = some run ∧ run.OwnFailures ∧
      run.checks[0]? = some record ∧ run.IsShared 0 record ∧
      record.epoch < run.clears ∧
      run.step? (.answer 0 none) = some next ∧ run.FailureStep next 0 record ∧
      next.cache.entries.lookup "2a" = some 1 ∧
      LosesUnused run.cache (run.cache.discardUnused "2a" 1) := by
  obtain ⟨run, hrun⟩ : ∃ run, CacheRun.ofEvents? askedTwice = some run := ⟨_, rfl⟩
  have h := CacheRun.isolates_failures hrun
  have hlookup : run.cache.entries.lookup "2a" = some 1 := by
    cases hrun
    decide
  obtain ⟨record, hrecord, hquery, hshared, hepoch, hcell⟩ : ∃ record,
      run.checks[0]? = some record ∧ record.query? = some .inFlight ∧
      run.IsShared 0 record ∧ record.epoch < run.clears ∧ 1 ≠ record.cell := by
    cases hrun
    exact ⟨_, rfl, rfl, ⟨1, _, by decide, rfl, rfl, rfl⟩, by decide, by decide⟩
  obtain ⟨next, hstep, hfailure⟩ := h.2.1 0 record hrecord hquery
  exact ⟨run, record, next, hrun, h.1, hrecord, hshared, hepoch, hstep, hfailure,
    hfailure.entries.mpr ⟨hlookup, fun heq => absurd heq hcell⟩, h.2.2 "2a" 1⟩

end EndpointDiscovery
