import EndpointDiscovery.Proofs.Revocation.Query
import Mathlib.Data.List.Dedup

/-!
# Answers are written once

All checks of one serial number and epoch that succeed report the one answer of that
key, and the one that asked for it reports it as fresh.  A clear parts the checks
before it from those after it.
-/

namespace EndpointDiscovery

namespace CacheRun

def Reported (run : CacheRun) (check : Nat) (serial : String) (epoch : Nat)
    (status : RevocationStatus) : Prop :=
  ∃ record, run.checks[check]? = some record ∧ record.serial = serial ∧
    record.epoch = epoch ∧ record.phase = .returned (.ok status)

def answeredSerials (run : CacheRun) : List String :=
  ((run.checks.filter fun record => record.epoch = run.clears ∧
    record.answer?.isSome).map CheckRecord.serial).dedup

/-- What successful checks report is the answer to the one question of their key. -/
structure WriteOnce (run : CacheRun) : Prop where
  reported : ∀ {check serial epoch status}, run.Reported check serial epoch status →
    ∃ asker revoked, run.Asked asker serial epoch (.answered revoked) ∧
      status = if asker = check then .fresh revoked else .cached revoked
  unique : ∀ {first second serial epoch revoked answer},
    run.Asked first serial epoch (.answered revoked) →
    run.Asked second serial epoch (.answered answer) →
      first = second ∧ revoked = answer
  fresh : ∀ {asker serial epoch revoked},
    run.Asked asker serial epoch (.answered revoked) →
    ∀ check flag, run.Reported check serial epoch (.fresh flag) ↔
      check = asker ∧ flag = revoked
  count : run.cache.count = run.answeredSerials.length

end CacheRun

/-! ## Counting -/

theorem lookup_eq_some_iff_mem {entries : List (String × Nat)}
    (h : (entries.map Prod.fst).Nodup) (serial : String) (number : Nat) :
    entries.lookup serial = some number ↔ (serial, number) ∈ entries := by
  induction entries with
  | nil => simp
  | cons entry entries ih =>
      obtain ⟨key, place⟩ := entry
      rw [List.map_cons, List.nodup_cons] at h
      have hkey : (key, number) ∉ entries := fun hmem =>
        h.1 (List.mem_map.mpr ⟨_, hmem, rfl⟩)
      have hrest := ih h.2
      rw [List.lookup_cons]
      by_cases heq : serial = key
      · subst heq
        simp [hkey, eq_comm]
      · simp [beq_false_of_ne heq, hrest, heq]

namespace Consistent

variable {keys : List (String × Nat)} {run next : CacheRun} {event : CacheEvent}

theorem mem_answeredSerials (h : Consistent keys run) (serial : String) :
    serial ∈ run.answeredSerials ↔ ∃ number cell,
      (serial, number) ∈ run.cache.entries ∧
      run.cache.cells[number]? = some cell ∧ cell.revoked?.isSome := by
  simp only [CacheRun.answeredSerials, List.mem_dedup, List.mem_map,
    List.mem_filter, decide_eq_true_eq]
  constructor
  · rintro ⟨record, ⟨hmem, hepoch, hanswer⟩, rfl⟩
    obtain ⟨check, hrecord⟩ := List.mem_iff_getElem?.mp hmem
    obtain ⟨cell, hcell⟩ := h.exists_cell hrecord
    obtain ⟨revoked, hrevoked⟩ := Option.isSome_iff_exists.mp hanswer
    have hcellAnswer := h.answer hrecord hcell hrevoked
    refine ⟨record.cell, cell, ?_, hcell, by simp [hcellAnswer]⟩
    rw [← lookup_eq_some_iff_mem h.entries_nodup]
    refine h.current hcell
      (RevocationCell.isUnused_eq_false_of_revoked? hcellAnswer) ?_
    rw [← hepoch]
    exact h.key hrecord
  · rintro ⟨number, cell, hmem, hcell, hanswer⟩
    obtain ⟨revoked, hrevoked⟩ := Option.isSome_iff_exists.mp hanswer
    -- The check that brought the answer has the key of the cell.
    obtain ⟨check, record, hrecord, hnumber, hrecordAnswer⟩ :=
      h.answerer hcell hrevoked
    rw [← lookup_eq_some_iff_mem h.entries_nodup] at hmem
    have hkey := h.key hrecord
    rw [hnumber, h.entry hmem] at hkey
    obtain ⟨hserial, hepoch⟩ := Prod.mk.inj (Option.some.inj hkey)
    exact ⟨record, ⟨List.mem_iff_getElem?.mpr ⟨check, hrecord⟩, hepoch.symm,
      by simp [hrecordAnswer]⟩, hserial.symm⟩

theorem count_eq (h : Consistent keys run) :
    run.cache.count = run.answeredSerials.length := by
  let known := run.cache.entries.filter fun entry =>
    (run.cache.cells[entry.2]?).any (·.revoked?.isSome)
  have hnodup : (known.map Prod.fst).Nodup :=
    h.entries_nodup.sublist (List.filter_sublist.map Prod.fst)
  have hserials : run.answeredSerials.Nodup := List.nodup_dedup _
  have hperm : (known.map Prod.fst).Perm run.answeredSerials := by
    refine (List.perm_ext_iff_of_nodup hnodup hserials).mpr fun serial => ?_
    rw [h.mem_answeredSerials serial]
    simp only [known, List.mem_map, List.mem_filter, Option.any_eq_true,
      Prod.exists]
    constructor
    · rintro ⟨_, number, ⟨hmem, cell, hcell, hanswer⟩, rfl⟩
      exact ⟨number, cell, hmem, hcell, hanswer⟩
    · rintro ⟨number, cell, hmem, hcell, hanswer⟩
      exact ⟨serial, number, ⟨hmem, cell, hcell, hanswer⟩, rfl⟩
  calc run.cache.count = (known.map Prod.fst).length := (List.length_map _).symm
    _ = run.answeredSerials.length := hperm.length_eq

/-! ## Reports -/

theorem exists_cell_asker (h : Consistent keys run) {check : Nat}
    {record : CheckRecord} {status : RevocationStatus}
    (hrecord : run.checks[check]? = some record)
    (hphase : record.phase = .returned (.ok status)) :
    ∃ asker found revoked, run.checks[asker]? = some found ∧
      found.cell = record.cell ∧ found.query? = some (.answered revoked) ∧
      status = if asker = check then .fresh revoked else .cached revoked := by
  obtain ⟨cell, hcell⟩ := h.exists_cell hrecord
  have hfits := h.fits hrecord hcell
  simp only [CheckRecord.Fits, hphase] at hfits
  obtain ⟨revoked, hrevoked, ⟨hquery, hstatus⟩ | ⟨hquery, hstatus⟩⟩ := hfits
  · exact ⟨check, record, revoked, hrecord, rfl, hquery, by simp [hstatus]⟩
  · -- The answer of the cell was brought by another check.
    obtain ⟨asker, found, hfound, hsame, hanswer⟩ := h.answerer hcell hrevoked
    rw [CheckRecord.answer?_eq_some_iff] at hanswer
    refine ⟨asker, found, revoked, hfound, hsame, hanswer, ?_⟩
    rw [if_neg, hstatus]
    rintro rfl
    rw [hrecord] at hfound
    cases hfound
    rw [hquery] at hanswer
    contradiction

theorem exists_asker (h : Consistent keys run) {check epoch : Nat} {serial : String}
    {status : RevocationStatus}
    (hreported : run.Reported check serial epoch status) :
    ∃ asker revoked, run.Asked asker serial epoch (.answered revoked) ∧
      status = if asker = check then .fresh revoked else .cached revoked := by
  obtain ⟨record, hrecord, hserial, hepoch, hphase⟩ := hreported
  obtain ⟨asker, found, revoked, hfound, hsame, hquery, hstatus⟩ :=
    h.exists_cell_asker hrecord hphase
  -- A cell belongs to one key.
  have hkey := h.key hfound
  rw [hsame, h.key hrecord] at hkey
  obtain ⟨hfoundSerial, hfoundEpoch⟩ := Prod.mk.inj (Option.some.inj hkey)
  exact ⟨asker, revoked, ⟨found, hfound, hfoundSerial.symm.trans hserial,
    hfoundEpoch.symm.trans hepoch, hquery⟩, hstatus⟩

theorem answered_unique (h : Consistent keys run) {first second epoch : Nat}
    {serial : String} {revoked answer : Bool}
    (hfirst : run.Asked first serial epoch (.answered revoked))
    (hsecond : run.Asked second serial epoch (.answered answer)) :
    first = second ∧ revoked = answer := by
  have heq := h.eq_of_answered hsecond (.inr ⟨revoked, hfirst⟩)
  subst heq
  obtain ⟨record, hrecord, -, -, hquery⟩ := hfirst
  obtain ⟨found, hfound, -, -, hfoundQuery⟩ := hsecond
  rw [hrecord] at hfound
  cases hfound
  rw [hquery] at hfoundQuery
  cases hfoundQuery
  exact ⟨rfl, rfl⟩

theorem reported_fresh_iff (h : Consistent keys run) {asker epoch : Nat}
    {serial : String} {revoked : Bool}
    (hasked : run.Asked asker serial epoch (.answered revoked)) (check : Nat)
    (flag : Bool) :
    run.Reported check serial epoch (.fresh flag) ↔
      check = asker ∧ flag = revoked := by
  constructor
  · intro hreported
    obtain ⟨found, answer, hfound, hstatus⟩ := h.exists_asker hreported
    obtain ⟨rfl, rfl⟩ := h.answered_unique hfound hasked
    split at hstatus
    · rename_i heq
      cases hstatus
      exact ⟨heq.symm, rfl⟩
    · cases answer <;> simp [RevocationStatus.cached] at hstatus
  · rintro ⟨rfl, rfl⟩
    obtain ⟨record, hrecord, hserial, hepoch, hquery⟩ := hasked
    exact ⟨record, hrecord, hserial, hepoch, h.phase_of_answered hrecord hquery⟩

theorem writeOnce (h : Consistent keys run) : run.WriteOnce where
  reported := h.exists_asker
  unique := h.answered_unique
  fresh := h.reported_fresh_iff
  count := h.count_eq

/-! ## Epochs -/

theorem epoch_le_clears (h : Consistent keys run) {check : Nat}
    {record : CheckRecord} (hrecord : run.checks[check]? = some record) :
    record.epoch ≤ run.clears :=
  h.epoch_le (h.key hrecord)

theorem epoch_lt_iff_step (h : Consistent keys run) {clears length check : Nat}
    (hclears : clears ≤ run.clears) (hlength : length ≤ run.checks.length)
    (hparted : ∀ record, run.checks[check]? = some record →
      (record.epoch < clears ↔ check < length))
    (hstep : run.step? event = some next) (record : CheckRecord)
    (hrecord : next.checks[check]? = some record) :
    record.epoch < clears ↔ check < length := by
  cases h.checkStep hstep check with
  | kept hkept => exact hparted record (hkept ▸ hrecord)
  | advanced found phase query? hfound _ hafter =>
      rw [hafter] at hrecord
      cases hrecord
      exact hparted found hfound
  | started found hnumber hafter hepoch =>
      rw [hafter] at hrecord
      cases hrecord
      omega

theorem epoch_le_iff_of_clear (h : Consistent keys run) {last : CacheRun}
    {events : List CacheEvent}
    (hlast : run.continue? (.clear :: events) = some last) {check : Nat}
    {record : CheckRecord} (hrecord : last.checks[check]? = some record) :
    record.epoch ≤ run.clears ↔ check < run.checks.length := by
  obtain ⟨cleared, hcleared, hrest⟩ := Option.bind_eq_some_iff.mp hlast
  obtain ⟨clearedKeys, hconsistent⟩ := h.step hcleared
  have hinv := CacheRun.continue?_induction (motive := fun current =>
    (∃ keys, Consistent keys current) ∧ run.clears + 1 ≤ current.clears ∧
      run.checks.length ≤ current.checks.length ∧
      ∀ found, current.checks[check]? = some found →
        (found.epoch < run.clears + 1 ↔ check < run.checks.length)) hrest
    (by
      cases hcleared
      refine ⟨⟨_, hconsistent⟩, Nat.le_refl _, Nat.le_refl _,
        fun found hfound => ?_⟩
      have hlt := (List.getElem?_eq_some_iff.mp hfound).1
      exact iff_of_true (Nat.lt_succ_of_le (h.epoch_le_clears hfound)) hlt)
    (by
      rintro current next event
        ⟨⟨currentKeys, hcurrent⟩, hclears, hlength, hparted⟩ hstep
      have hgrows := CacheRun.step?_grows hstep
      exact ⟨hcurrent.step hstep, by omega, by omega,
        hcurrent.epoch_lt_iff_step hclears hlength hparted hstep⟩)
  have := hinv.2.2.2 record hrecord
  omega

end Consistent

/-- Every success reports the one answer of its key, fresh to the check that asked
and cached to all others, and no answer outlives a clear. -/
theorem CacheRun.write_once {events : List CacheEvent} {run : CacheRun}
    (reached : CacheRun.ofEvents? events = some run) :
    run.WriteOnce ∧
    ∀ before later earlier, events = before ++ .clear :: later →
      CacheRun.ofEvents? before = some earlier →
      ∀ check asker serial epoch status revoked, earlier.checks.length ≤ check →
        run.Reported check serial epoch status →
        run.Asked asker serial epoch (.answered revoked) →
        earlier.checks.length ≤ asker := by
  obtain ⟨keys, h⟩ := exists_consistent reached
  refine ⟨h.writeOnce, ?_⟩
  rintro before later earlier rfl hearlier check asker serial epoch status
    revoked hcheck
    ⟨record, hrecord, -, hepoch, -⟩ ⟨found, hfound, -, hfoundEpoch, -⟩
  obtain ⟨earlierKeys, hconsistent⟩ := exists_consistent hearlier
  have hlast : earlier.continue? (.clear :: later) = some run := by
    rw [← reached, ofEvents?, continue?_append]
    rw [ofEvents?] at hearlier
    rw [hearlier]
    rfl
  have hrecordIff := hconsistent.epoch_le_iff_of_clear hlast hrecord
  have hfoundIff := hconsistent.epoch_le_iff_of_clear hlast hfound
  omega

def CacheRun.twoStarts : List CacheEvent :=
  [.start (.numbered 42), .start (.numbered 42)]

def CacheRun.straddled : List CacheEvent :=
  twoStarts ++ .clear ::
    [.start (.numbered 42), .answer 0 (some false), .answer 2 (some true),
      .resume 1]

theorem CacheRun.write_once_straddled :
    ∃ earlier run, CacheRun.ofEvents? twoStarts = some earlier ∧
      CacheRun.ofEvents? straddled = some run ∧ run.WriteOnce ∧
      run.Reported 0 "2a" 0 (.fresh false) ∧ run.Reported 1 "2a" 0 .cachedValid ∧
      run.Reported 2 "2a" 1 (.fresh true) ∧ earlier.checks.length ≤ 2 ∧
      ∀ asker revoked, run.Asked asker "2a" 1 (.answered revoked) →
        earlier.checks.length ≤ asker := by
  obtain ⟨earlier, hearlier⟩ : ∃ earlier,
      CacheRun.ofEvents? twoStarts = some earlier :=
    ⟨_, rfl⟩
  obtain ⟨run, hrun⟩ : ∃ run, CacheRun.ofEvents? straddled = some run := ⟨_, rfl⟩
  have hreported : run.Reported 0 "2a" 0 (.fresh false) ∧
      run.Reported 1 "2a" 0 .cachedValid ∧
      run.Reported 2 "2a" 1 (.fresh true) := by
    cases hrun
    exact ⟨⟨_, rfl, by decide, rfl, rfl⟩, ⟨_, rfl, by decide, rfl, rfl⟩,
      ⟨_, rfl, by decide, rfl, rfl⟩⟩
  have hlength : earlier.checks.length ≤ 2 := by
    cases hearlier
    decide
  have h := CacheRun.write_once hrun
  exact ⟨earlier, run, hearlier, hrun, h.1, hreported.1, hreported.2.1,
    hreported.2.2, hlength, fun asker revoked =>
      h.2 _ _ earlier rfl hearlier 2 asker "2a" 1 _ revoked hlength hreported.2.2⟩

end EndpointDiscovery
