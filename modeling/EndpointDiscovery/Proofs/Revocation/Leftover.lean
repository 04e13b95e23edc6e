import EndpointDiscovery.Proofs.Revocation.Effect
import EndpointDiscovery.Proofs.Revocation.WriteOnce
import Mathlib.Data.List.Induction

/-!
# Empty entries

A failed question forgets the entry of its serial number unless somebody else needs
it.  A check that is given up forgets nothing: if it was the last one in progress
and there is no answer yet, the entry stays behind with an empty cell, until its
serial number is checked again or the cache is cleared.
-/

namespace EndpointDiscovery

/-! ## Cells -/

namespace RevocationCell

theorem isUnused_enter (cell : RevocationCell) (check : Nat) :
    (cell.enter check).1.isUnused = false := by
  rw [Bool.eq_false_iff, ne_eq, isUnused_iff]
  unfold enter
  split
  · simp_all
  · split <;> simp

theorem isUnused_lookAgain {cell : RevocationCell} {check : Nat}
    (h : cell.isHeldBy check = true) :
    (cell.lookAgain check).1.isUnused = false := by
  unfold lookAgain
  split
  · rename_i revoked hrevoked
    exact isUnused_eq_false_of_revoked? hrevoked
  · split
    · exact isUnused_eq_false_of_isHeldBy ((isHeldBy_iff _ check).mpr (.inl rfl))
    · exact isUnused_eq_false_of_isHeldBy h

theorem isUnused_leave_iff (cell : RevocationCell) (check : Nat) :
    (cell.leave check).isUnused = true ↔
      cell.revoked? = none ∧ ∀ other,
        cell.isHeldBy other = true → other = check := by
  have hasking : (if cell.asking? = some check then none else cell.asking?) = none ↔
      ∀ other, cell.asking? = some other → other = check := by
    cases cell.asking? <;> simp
  simp only [isUnused_iff, leave, isHeldBy_iff, List.filter_eq_nil_iff,
    decide_eq_true_eq, not_not, hasking, or_imp, forall_and]

end RevocationCell

/-! ## Leftovers -/

namespace CacheRun

def InProgress (run : CacheRun) (check : Nat) (serial : String)
    (epoch : Nat) : Prop :=
  ∃ record, run.checks[check]? = some record ∧ record.serial = serial ∧
    record.epoch = epoch ∧ record.phase.isLive = true

/-- A check is the only one of its serial number that is in progress since the last
clear, and there is no answer yet. -/
structure IsLast (run : CacheRun) (check : Nat) (serial : String) : Prop where
  inProgress : run.InProgress check serial run.clears
  only : ∀ other, run.InProgress other serial run.clears → other = check
  unanswered : ∀ asker revoked,
    ¬run.Asked asker serial run.clears (.answered revoked)

/-- The cache has an entry for a serial number, with a cell that is without an
answer and that no check is after. -/
def HasEmptyEntry (run : CacheRun) (serial : String) : Prop :=
  ∃ cell, run.cache.stored? serial = some cell ∧ cell.isUnused = true

end CacheRun

def CacheEvent.Renews (serial : String) : CacheEvent → Prop
  | .start certificate => certificate.serialText = serial
  | .clear => True
  | .answer .. | .resume _ | .drop _ => False

/-- The last check of a serial number was given up, and since then the serial number
has not been checked nor the cache been cleared. -/
def LeftBehind (events : List CacheEvent) (serial : String) : Prop :=
  ∃ before check after earlier, events = before ++ .drop check :: after ∧
    CacheRun.ofEvents? before = some earlier ∧ earlier.IsLast check serial ∧
    ∀ event ∈ after, ¬event.Renews serial

/-- The entries that are empty after some events, and what they do to the count
of the cache. -/
structure CacheRun.AccountsForLeftovers (run : CacheRun)
    (events : List CacheEvent) : Prop where
  empty : ∀ serial, run.HasEmptyEntry serial ↔ LeftBehind events serial
  /-- While no check of its serial number is in progress, an entry without an answer
  was left behind. -/
  atRest : ∀ {serial cell}, (∀ check, ¬run.InProgress check serial run.clears) →
    run.cache.stored? serial = some cell →
    (cell.revoked?.isSome ↔ ¬LeftBehind events serial)
  count : (∀ check serial, ¬run.InProgress check serial run.clears) →
    (run.cache.count = run.cache.entries.length ↔ ∀ serial,
      ¬LeftBehind events serial)
  undropped : (∀ check, .drop check ∉ events) → ∀ serial, ¬run.HasEmptyEntry serial

theorem RevocationCache.stored?_eq_some_iff (cache : RevocationCache)
    (serial : String) (cell : RevocationCell) : cache.stored? serial = some cell ↔
      ∃ number, cache.entries.lookup serial = some number ∧
        cache.cells[number]? = some cell := by
  simp [stored?, Option.bind_eq_some_iff]

namespace Consistent

variable {keys : List (String × Nat)} {run next : CacheRun} {event : CacheEvent}
  {check : Nat} {record : CheckRecord} {cell : RevocationCell} {serial : String}

/-! ## Checks in progress -/

theorem serial_eq_of_lookup (h : Consistent keys run)
    (hrecord : run.checks[check]? = some record)
    (hlookup : run.cache.entries.lookup serial = some record.cell) :
    record.serial = serial ∧ record.epoch = run.clears := by
  have hentry := h.entry hlookup
  rw [h.key hrecord] at hentry
  exact Prod.mk.inj (Option.some.inj hentry)

theorem lookup_of_isUnused_eq_false (h : Consistent keys run)
    (hrecord : run.checks[check]? = some record) (hserial : record.serial = serial)
    (hepoch : record.epoch = run.clears)
    (hcell : run.cache.cells[record.cell]? = some cell)
    (hinUse : cell.isUnused = false) :
    run.cache.entries.lookup serial = some record.cell := by
  refine h.current hcell hinUse ?_
  rw [h.key hrecord, hserial, hepoch]

theorem exists_held_of_inProgress (h : Consistent keys run)
    (hprogress : run.InProgress check serial run.clears) :
    ∃ cell, run.cache.stored? serial = some cell ∧ cell.isHeldBy check = true := by
  obtain ⟨record, hrecord, hserial, hepoch, hlive⟩ := hprogress
  obtain ⟨cell, hcell⟩ := h.exists_cell hrecord
  have hheld := (h.isHeldBy_iff hcell).mpr ⟨record, hrecord, rfl, hlive⟩
  have hlookup := h.lookup_of_isUnused_eq_false hrecord hserial hepoch hcell
    (RevocationCell.isUnused_eq_false_of_isHeldBy hheld)
  exact ⟨cell, (RevocationCache.stored?_eq_some_iff ..).mpr ⟨_, hlookup, hcell⟩,
    hheld⟩

theorem inProgress_iff (h : Consistent keys run)
    (hstored : run.cache.stored? serial = some cell) :
    run.InProgress check serial run.clears ↔ cell.isHeldBy check = true := by
  constructor
  · intro hprogress
    obtain ⟨found, hfound, hheld⟩ := h.exists_held_of_inProgress hprogress
    rw [hstored] at hfound
    cases hfound
    exact hheld
  · intro hheld
    obtain ⟨number, hlookup, hcell⟩ :=
      (RevocationCache.stored?_eq_some_iff ..).mp hstored
    obtain ⟨record, hrecord, rfl, hlive⟩ := (h.isHeldBy_iff hcell).mp hheld
    obtain ⟨hserial, hepoch⟩ := h.serial_eq_of_lookup hrecord hlookup
    exact ⟨record, hrecord, hserial, hepoch, hlive⟩

theorem exists_answered_iff (h : Consistent keys run)
    (hstored : run.cache.stored? serial = some cell) (revoked : Bool) :
    (∃ asker, run.Asked asker serial run.clears (.answered revoked)) ↔
      cell.revoked? = some revoked := by
  obtain ⟨number, hlookup, hcell⟩ :=
    (RevocationCache.stored?_eq_some_iff ..).mp hstored
  constructor
  · rintro ⟨asker, record, hrecord, hserial, hepoch, hquery⟩
    obtain ⟨found, hfound⟩ := h.exists_cell hrecord
    have hanswer :=
      h.answer hrecord hfound ((record.answer?_eq_some_iff revoked).mpr hquery)
    have hown := h.lookup_of_isUnused_eq_false hrecord hserial hepoch hfound
      (RevocationCell.isUnused_eq_false_of_revoked? hanswer)
    rw [hlookup] at hown
    cases hown
    rw [hcell] at hfound
    cases hfound
    exact hanswer
  · intro hrevoked
    obtain ⟨asker, record, hrecord, rfl, hanswer⟩ := h.answerer hcell hrevoked
    obtain ⟨hserial, hepoch⟩ := h.serial_eq_of_lookup hrecord hlookup
    exact ⟨asker, record, hrecord, hserial, hepoch,
      (record.answer?_eq_some_iff revoked).mp hanswer⟩

theorem isLast_iff (h : Consistent keys run)
    (hrecord : run.checks[check]? = some record)
    (hlive : record.phase.isLive = true)
    (hcell : run.cache.cells[record.cell]? = some cell) :
    run.IsLast check serial ↔
      run.cache.entries.lookup serial = some record.cell ∧
      (cell.leave check).isUnused = true := by
  have hstored := fun hlookup :
    run.cache.entries.lookup serial = some record.cell =>
    (RevocationCache.stored?_eq_some_iff run.cache serial cell).mpr
      ⟨_, hlookup, hcell⟩
  have hheld := (h.isHeldBy_iff hcell).mpr ⟨record, hrecord, rfl, hlive⟩
  rw [RevocationCell.isUnused_leave_iff]
  constructor
  · rintro ⟨⟨found, hfound, hserial, hepoch, -⟩, honly, hunanswered⟩
    rw [hrecord] at hfound
    cases hfound
    have hlookup := h.lookup_of_isUnused_eq_false hrecord hserial hepoch hcell
      (RevocationCell.isUnused_eq_false_of_isHeldBy hheld)
    refine ⟨hlookup,
      Option.eq_none_iff_forall_ne_some.mpr fun revoked hrevoked => ?_,
      fun other hother =>
        honly other ((h.inProgress_iff (hstored hlookup)).mpr hother)⟩
    obtain ⟨asker, hasked⟩ :=
      (h.exists_answered_iff (hstored hlookup) revoked).mpr hrevoked
    exact hunanswered asker revoked hasked
  · rintro ⟨hlookup, hrevoked, honly⟩
    refine ⟨(h.inProgress_iff (hstored hlookup)).mpr hheld,
      fun other hother =>
        honly other ((h.inProgress_iff (hstored hlookup)).mp hother),
        fun asker revoked hasked => ?_⟩
    have hanswer :=
      (h.exists_answered_iff (hstored hlookup) revoked).mp ⟨asker, hasked⟩
    rw [hrevoked] at hanswer
    contradiction

/-! ## One event -/

theorem hasEmptyEntry_of_effect (h : Consistent keys run)
    (hrecord : run.checks[check]? = some record)
    (hlive : record.phase.isLive = true)
    (hcell : run.cache.cells[record.cell]? = some cell) {phase : CheckPhase}
    {query? : Option QueryState} {after : RevocationCell} {number? : Option Nat}
    (heffect : Effect run next check { record with phase, query? } after number?)
    (hnumber : number? = run.cache.entries.lookup record.serial ∨
      number? = none ∧ run.cache.entries.lookup record.serial = some record.cell) :
    next.HasEmptyEntry serial ↔ run.HasEmptyEntry serial ∨
      run.cache.entries.lookup serial = some record.cell ∧
      number? = some record.cell ∧
        after.isUnused = true := by
  have hlookup : next.cache.entries.lookup serial =
      if serial = record.serial then number? else run.cache.entries.lookup serial :=
    heffect.lookup serial
  have hcells : ∀ number, next.cache.cells[number]? =
      if number = record.cell then
        some after
      else
        run.cache.cells[number]? := heffect.cells
  simp only [CacheRun.HasEmptyEntry, RevocationCache.stored?_eq_some_iff,
    hlookup, hcells]
  by_cases hown : run.cache.entries.lookup serial = some record.cell
  · -- The check itself uses its cell.
    have hinUse := RevocationCell.isUnused_eq_false_of_isHeldBy
      ((h.isHeldBy_iff hcell).mpr ⟨record, hrecord, rfl, hlive⟩)
    have hserial := (h.serial_eq_of_lookup hrecord hown).1
    grind
  · grind

theorem hasEmptyEntry_start (h : Consistent keys run) (certificate : Certificate) :
    (run.start certificate).HasEmptyEntry serial ↔
      run.HasEmptyEntry serial ∧ certificate.serialText ≠ serial := by
  have heffect := h.effect_start certificate
  obtain ⟨later, hnext⟩ := h.start certificate
  simp only [CacheRun.HasEmptyEntry, RevocationCache.stored?_eq_some_iff]
  have hlookup : (run.start certificate).cache.entries.lookup serial =
      if serial = certificate.serialText then
        some (run.cache.takeCell certificate.serialText).2
      else run.cache.entries.lookup serial := heffect.lookup serial
  by_cases heq : serial = certificate.serialText
  · have hinUse :=
      RevocationCell.isUnused_enter (run.cache.current certificate.serialText)
        run.checks.length
    rw [if_pos heq] at hlookup
    simp only [hlookup, heffect.cells]
    grind
  · rw [if_neg heq] at hlookup
    -- Entries of different serial numbers have different cells.
    have hother : ∀ number, run.cache.entries.lookup serial = some number →
        number ≠ (run.cache.takeCell certificate.serialText).2 := by
      rintro _ hnumber rfl
      have hentry := hnext.entry (hlookup.trans hnumber)
      rw [hnext.entry
        ((heffect.lookup certificate.serialText).trans (if_pos rfl))] at hentry
      exact heq (Prod.mk.inj (Option.some.inj hentry)).1.symm
    simp only [hlookup, heffect.cells]
    grind

theorem hasEmptyEntry_answer (h : Consistent keys run) {reply : Option Bool}
    (hstep : run.step? (.answer check reply) = some next) :
    next.HasEmptyEntry serial ↔ run.HasEmptyEntry serial := by
  have hadvance :
      run.advance? check CheckPhase.isAsking (run.answered check reply) =
        some next :=
    hstep
  obtain ⟨record, hrecord, hready, -⟩ := CacheRun.advance?_eq_some hadvance
  have hphase := (CheckPhase.isAsking_iff _).mp hready
  have hlive := (CheckPhase.isLive_iff _).mpr (.inl hphase)
  obtain ⟨cell, hcell⟩ := h.exists_cell hrecord
  obtain ⟨found, hfound, heffect⟩ := h.effect_answer hrecord hphase hcell reply
  rw [hstep] at hfound
  cases hfound
  rw [h.hasEmptyEntry_of_effect hrecord hlive hcell heffect (by grind)]
  -- The entry is kept only with an answer or for a check that waits.
  have hunused : (cell.release reply).isUnused = true →
      reply = none ∧ cell.waiting = [] := by
    simp +contextual [RevocationCell.isUnused_iff, RevocationCell.release]
  grind

theorem hasEmptyEntry_resume (h : Consistent keys run)
    (hstep : run.step? (.resume check) = some next) :
    next.HasEmptyEntry serial ↔ run.HasEmptyEntry serial := by
  have hadvance : run.advance? check CheckPhase.isWaiting (run.resumed check) =
      some next := hstep
  obtain ⟨record, hrecord, hready, -⟩ := CacheRun.advance?_eq_some hadvance
  have hphase := (CheckPhase.isWaiting_iff _).mp hready
  have hlive := (CheckPhase.isLive_iff _).mpr (.inr hphase)
  obtain ⟨cell, hcell⟩ := h.exists_cell hrecord
  obtain ⟨found, hfound, heffect⟩ := h.effect_resume hrecord hphase hcell
  rw [hstep] at hfound
  cases hfound
  have hinUse := RevocationCell.isUnused_lookAgain
    ((h.isHeldBy_iff hcell).mpr ⟨record, hrecord, rfl, hlive⟩)
  rw [h.hasEmptyEntry_of_effect hrecord hlive hcell heffect (.inl rfl), hinUse]
  simp

theorem hasEmptyEntry_drop (h : Consistent keys run)
    (hstep : run.step? (.drop check) = some next) :
    next.HasEmptyEntry serial ↔ run.HasEmptyEntry serial ∨
      run.IsLast check serial := by
  have hadvance : run.advance? check CheckPhase.isLive (run.dropped check) =
      some next := hstep
  obtain ⟨record, hrecord, hlive, -⟩ := CacheRun.advance?_eq_some hadvance
  obtain ⟨cell, hcell⟩ := h.exists_cell hrecord
  obtain ⟨found, hfound, heffect⟩ := h.effect_drop hrecord hlive hcell
  rw [hstep] at hfound
  cases hfound
  rw [h.hasEmptyEntry_of_effect hrecord hlive hcell heffect (.inl rfl),
    h.isLast_iff hrecord hlive hcell]
  refine or_congr_right (and_congr_right fun hlookup => ?_)
  rw [(h.serial_eq_of_lookup hrecord hlookup).1, hlookup]
  simp

theorem hasEmptyEntry_step (h : Consistent keys run)
    (hstep : run.step? event = some next) :
    next.HasEmptyEntry serial ↔ run.HasEmptyEntry serial ∧ ¬event.Renews serial ∨
      ∃ check, event = .drop check ∧ run.IsLast check serial := by
  cases event with
  | start certificate =>
      cases hstep
      simpa [CacheEvent.Renews] using h.hasEmptyEntry_start certificate
  | answer check reply =>
      simpa [CacheEvent.Renews] using h.hasEmptyEntry_answer hstep
  | resume check => simpa [CacheEvent.Renews] using h.hasEmptyEntry_resume hstep
  | drop check => simpa [CacheEvent.Renews] using h.hasEmptyEntry_drop hstep
  | clear =>
      cases hstep
      simp [CacheEvent.Renews, CacheRun.HasEmptyEntry, RevocationCache.stored?,
        RevocationCache.clear]

end Consistent

/-! ## Runs -/

theorem not_leftBehind_nil (serial : String) : ¬LeftBehind [] serial := by
  rintro ⟨before, check, after, earlier, hevents, -⟩
  simp at hevents

theorem leftBehind_concat_iff {events : List CacheEvent} {run : CacheRun}
    (reached : CacheRun.ofEvents? events = some run) (event : CacheEvent)
    (serial : String) :
    LeftBehind (events ++ [event]) serial ↔
      LeftBehind events serial ∧ ¬event.Renews serial ∨
      ∃ check, event = .drop check ∧ run.IsLast check serial := by
  constructor
  · rintro ⟨before, check, after, earlier, hevents, hearlier, hlast, hafter⟩
    rcases List.eq_nil_or_concat after with rfl | ⟨rest, last, rfl⟩
    · obtain ⟨rfl, hevent⟩ := List.append_inj' hevents rfl
      rw [reached] at hearlier
      cases hearlier
      exact .inr ⟨check, List.singleton_inj.mp hevent, hlast⟩
    · rw [List.concat_eq_append] at hevents hafter
      rw [← List.cons_append, ← List.append_assoc] at hevents
      obtain ⟨rfl, hevent⟩ := List.append_inj' hevents rfl
      rw [List.singleton_inj.mp hevent]
      exact .inl ⟨⟨before, check, rest, earlier, rfl, hearlier, hlast,
        fun other hother => hafter other (by simp [hother])⟩, hafter last (by simp)⟩
  · rintro (⟨⟨before, check, after, earlier, rfl, hearlier, hlast, hafter⟩, hkept⟩ |
      ⟨check, rfl, hlast⟩)
    · refine ⟨before, check, after ++ [event], earlier, by simp, hearlier,
        hlast, ?_⟩
      intro other hother
      rcases List.mem_append.mp hother with hother | hother
      · exact hafter other hother
      · rwa [List.mem_singleton.mp hother]
    · exact ⟨events, check, [], run, rfl, reached, hlast, by simp⟩

theorem CacheRun.hasEmptyEntry_iff {events : List CacheEvent} {run : CacheRun}
    (reached : CacheRun.ofEvents? events = some run) (serial : String) :
    run.HasEmptyEntry serial ↔ LeftBehind events serial := by
  induction events using List.reverseRecOn generalizing run with
  | nil =>
      cases reached
      refine iff_of_false ?_ (not_leftBehind_nil serial)
      rintro ⟨cell, hcell, -⟩
      contradiction
  | append_singleton events event ih =>
      rw [ofEvents?, continue?_append] at reached
      obtain ⟨earlier, hearlier, hlast⟩ := Option.bind_eq_some_iff.mp reached
      obtain ⟨next, hstep, hnext⟩ := Option.bind_eq_some_iff.mp hlast
      cases hnext
      obtain ⟨keys, h⟩ := exists_consistent hearlier
      rw [h.hasEmptyEntry_step hstep, ih hearlier, leftBehind_concat_iff hearlier]

namespace Consistent

variable {keys : List (String × Nat)} {run : CacheRun} {cell : RevocationCell}
  {serial : String}

theorem revoked?_isSome_iff (h : Consistent keys run)
    (hidle : ∀ check, ¬run.InProgress check serial run.clears)
    (hstored : run.cache.stored? serial = some cell) :
    cell.revoked?.isSome ↔ ¬run.HasEmptyEntry serial := by
  have hfree : ∀ check, ¬(cell.asking? = some check ∨ check ∈ cell.waiting) := by
    intro check
    rw [← RevocationCell.isHeldBy_iff, ← h.inProgress_iff hstored]
    exact hidle check
  have hasking : cell.asking? = none :=
    Option.eq_none_iff_forall_ne_some.mpr fun check hcheck =>
      hfree check (.inl hcheck)
  have hwaiting : cell.waiting = [] :=
    List.eq_nil_iff_forall_not_mem.mpr fun check hcheck => hfree check (.inr hcheck)
  simp [CacheRun.HasEmptyEntry, hstored, RevocationCell.isUnused_iff, hasking,
    hwaiting, Option.isSome_iff_ne_none]

theorem count_eq_length_iff (h : Consistent keys run) :
    run.cache.count = run.cache.entries.length ↔
      ∀ serial cell, run.cache.stored? serial = some cell →
        cell.revoked?.isSome := by
  rw [RevocationCache.count, List.length_filter_eq_length_iff]
  simp only [RevocationCache.stored?_eq_some_iff,
    lookup_eq_some_iff_mem h.entries_nodup, Prod.forall, Option.any_eq_true]
  constructor
  · rintro hall serial cell ⟨number, hmem, hcell⟩
    obtain ⟨found, hfound, hanswer⟩ := hall serial number hmem
    rw [hcell] at hfound
    cases hfound
    exact hanswer
  · intro hall serial number hmem
    have hlt :=
      h.lookup_lt ((lookup_eq_some_iff_mem h.entries_nodup serial number).mpr hmem)
    exact ⟨_, List.getElem?_eq_getElem hlt,
      hall serial _ ⟨number, hmem, List.getElem?_eq_getElem hlt⟩⟩

end Consistent

/-- An entry is left without an answer exactly by giving up the last check of its
serial number, until the serial number is checked again or the cache is cleared.  A
cache without checks in progress counts fewer answers than entries exactly if it has
such an entry. -/
theorem CacheRun.accounts_for_leftovers {events : List CacheEvent} {run : CacheRun}
    (reached : CacheRun.ofEvents? events = some run) :
    run.AccountsForLeftovers events := by
  obtain ⟨keys, h⟩ := exists_consistent reached
  have hempty := hasEmptyEntry_iff reached
  have hatRest : ∀ {serial cell},
      (∀ check, ¬run.InProgress check serial run.clears) →
      run.cache.stored? serial = some cell →
      (cell.revoked?.isSome ↔ ¬LeftBehind events serial) := by
    intro serial cell hidle hstored
    rw [h.revoked?_isSome_iff hidle hstored, hempty]
  constructor
  case empty => exact hempty
  case atRest => exact hatRest
  case count =>
    intro hidle
    rw [h.count_eq_length_iff]
    constructor
    · intro hall serial hleft
      obtain ⟨cell, hstored, -⟩ := (hempty serial).mpr hleft
      exact (hatRest (hidle · serial) hstored).mp (hall serial cell hstored) hleft
    · intro hnone serial cell hstored
      exact (hatRest (hidle · serial) hstored).mpr (hnone serial)
  case undropped =>
    intro hundropped serial hleft
    obtain ⟨before, check, after, -, rfl, -⟩ := (hempty serial).mp hleft
    exact hundropped check (by simp)

def CacheRun.givenUp : List CacheEvent :=
  [.start (.numbered 42), .drop 0]

theorem CacheRun.accounts_for_leftovers_givenUp :
    ∃ run, CacheRun.ofEvents? givenUp = some run ∧
      (∀ check serial, ¬run.InProgress check serial run.clears) ∧
      LeftBehind givenUp "2a" ∧
      run.HasEmptyEntry "2a" ∧ run.cache.entries.length = 1 ∧ run.cache.count = 0 ∧
      run.cache.count ≠ run.cache.entries.length := by
  obtain ⟨run, hrun⟩ : ∃ run, CacheRun.ofEvents? givenUp = some run := ⟨_, rfl⟩
  have h := CacheRun.accounts_for_leftovers hrun
  obtain ⟨hended, hlength, hcount⟩ :
      (∀ record ∈ run.checks, record.phase.isLive = false) ∧
      run.cache.entries.length = 1 ∧ run.cache.count = 0 := by
    cases hrun
    decide
  have hidle : ∀ check serial, ¬run.InProgress check serial run.clears := by
    rintro check serial ⟨record, hrecord, -, -, hlive⟩
    rw [hended record (List.mem_of_getElem? hrecord)] at hlive
    contradiction
  have hempty : run.HasEmptyEntry "2a" := by
    cases hrun
    exact ⟨_, rfl, by decide⟩
  have hleft : LeftBehind givenUp "2a" := (h.empty "2a").mp hempty
  exact ⟨run, hrun, hidle, hleft, hempty, hlength, hcount,
    fun heq => (h.count hidle).mp heq "2a" hleft⟩

end EndpointDiscovery
