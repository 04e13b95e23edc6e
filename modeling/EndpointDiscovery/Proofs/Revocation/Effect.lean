import EndpointDiscovery.Proofs.Revocation.Query

/-!
# Effects of events

An event of a check changes that check, the cell that it holds and the entry of its
serial number, and leaves everything else as it is.  What the cell becomes depends
on the cell alone.
-/

namespace EndpointDiscovery

/-! ## Cells -/

namespace RevocationCell

def enter (cell : RevocationCell) (check : Nat) : RevocationCell × CheckProgress :=
  match cell.revoked? with
  | some revoked => (cell, .done (.cached revoked))
  | none =>
      if cell.asking?.isNone && cell.waiting.isEmpty then
        ({ cell with asking? := some check }, .asks)
      else
        ({ cell with waiting := cell.waiting ++ [check] }, .waits)

def release (cell : RevocationCell) (reply : Option Bool) : RevocationCell :=
  { cell with revoked? := reply, asking? := none }

theorem isUnused_release_iff (cell : RevocationCell) :
    (cell.release none).isUnused = true ↔ cell.waiting = [] := by
  simp [isUnused_iff, release]

def lookAgain (cell : RevocationCell) (check : Nat) :
    RevocationCell × CheckProgress :=
  let others := cell.waiting.filter (· ≠ check)
  match cell.revoked? with
  | some revoked => ({ cell with waiting := others }, .done (.cached revoked))
  | none =>
      if cell.asking?.isNone && cell.waiting.head? = some check then
        ({ cell with asking? := some check, waiting := others }, .asks)
      else
        (cell, .waits)

def leave (cell : RevocationCell) (check : Nat) : RevocationCell :=
  { cell with
    asking? := if cell.asking? = some check then none else cell.asking?
    waiting := cell.waiting.filter (· ≠ check) }

end RevocationCell

/-! ## Operations of a cache -/

namespace RevocationCache

variable {cache taken : RevocationCache} {check number : Nat} {serial : String}
  {cell : RevocationCell}

def setCell (cache : RevocationCache) (number : Nat)
    (cell : RevocationCell) : RevocationCache :=
  { cache with cells := cache.cells.set number cell }

theorem modifyCell_eq_setCell (hcell : cache.cells[number]? = some cell)
    (change : RevocationCell → RevocationCell) :
    cache.modifyCell number change = cache.setCell number (change cell) := by
  simp only [modifyCell, setCell, mk.injEq, and_true]
  refine List.ext_getElem? fun place => ?_
  rw [List.getElem?_modify, List.getElem?_set]
  grind

theorem setCell_self (hcell : cache.cells[number]? = some cell) :
    cache.setCell number cell = cache := by
  have hset := modifyCell_eq_setCell hcell id
  rw [modifyCell_id] at hset
  exact hset.symm

theorem cells_setCell (hcell : cache.cells[number]? = some cell)
    (after : RevocationCell) (place : Nat) :
    (cache.setCell number after).cells[place]? =
      if place = number then some after else cache.cells[place]? := by
  have hlt := (List.getElem?_eq_some_iff.mp hcell).1
  rw [setCell, List.getElem?_set]
  grind

theorem start_eq_enter
    (htaken : takeCell { cache with started := cache.started + 1 } serial =
      (taken, number)) (hcell : taken.cells[number]? = some cell) :
    cache.start serial =
      (taken.setCell number (cell.enter cache.started).1,
        (cell.enter cache.started).2) := by
  simp only [start, htaken, hcell, RevocationCell.enter]
  cases hrevoked : cell.revoked? with
  | some revoked => simp [setCell_self hcell]
  | none =>
      simp only [modifyCell_eq_setCell hcell]
      split
      · rw [hrevoked]
      · rw [hrevoked]

theorem resume_eq_lookAgain (hnumber : cache.cellOf? check = some number)
    (hcell : cache.cells[number]? = some cell) :
    cache.resume check =
      (cache.setCell number (cell.lookAgain check).1,
        (cell.lookAgain check).2) := by
  simp only [resume, hnumber, hcell, RevocationCell.lookAgain]
  cases hrevoked : cell.revoked? with
  | some revoked => simp [modifyCell_eq_setCell hcell, hrevoked]
  | none =>
      simp only [modifyCell_eq_setCell hcell]
      split
      · rw [hrevoked]
      · rw [setCell_self hcell]

theorem drop_eq_leave (hnumber : cache.cellOf? check = some number)
    (hcell : cache.cells[number]? = some cell) :
    cache.drop check = cache.setCell number (cell.leave check) := by
  simp only [drop, hnumber, modifyCell_eq_setCell hcell, RevocationCell.leave]

theorem answer_some_eq_release (hnumber : cache.cellOf? check = some number)
    (hcell : cache.cells[number]? = some cell) (serial : String) (revoked : Bool) :
    (cache.answer check serial (some revoked)).1 =
      cache.setCell number (cell.release (some revoked)) := by
  simp only [answer, hnumber, modifyCell_eq_setCell hcell, RevocationCell.release]

theorem answer_none_eq_release (hnumber : cache.cellOf? check = some number)
    (hcell : cache.cells[number]? = some cell) (serial : String) :
    (cache.answer check serial none).1 =
      (cache.setCell number (cell.release none)).discardUnused serial number := by
  simp only [answer, hnumber, modifyCell_eq_setCell hcell, RevocationCell.release]

theorem answer_result (cache other : RevocationCache) (check number : Nat)
    (serial : String) (reply : Option Bool) :
    (cache.answer check serial reply).2 = (other.answer number serial reply).2 := by
  cases reply <;> rfl

def stored? (cache : RevocationCache) (serial : String) : Option RevocationCell :=
  (cache.entries.lookup serial).bind (cache.cells[·]?)

def current (cache : RevocationCache) (serial : String) : RevocationCell :=
  (cache.stored? serial).getD {}

theorem cells_takeCell (serial : String)
    (hplaced : ∀ place, cache.entries.lookup serial = some place →
      place < cache.cells.length)
    (place : Nat) : (cache.takeCell serial).1.cells[place]? =
      if place = (cache.takeCell serial).2 then some (cache.current serial)
      else cache.cells[place]? := by
  cases hlookup : cache.entries.lookup serial with
  | some number =>
      have hlt := hplaced number hlookup
      rw [takeCell_of_lookup hlookup]
      by_cases heq : place = number
      · simp [current, stored?, hlookup, heq, hlt]
      · simp [heq]
  | none =>
      have hcurrent : cache.current serial = {} := by
        simp [current, stored?, hlookup]
      rw [takeCell_of_lookup_none hlookup, hcurrent]
      grind

theorem lookup_takeCell (cache : RevocationCache) (serial other : String) :
    (cache.takeCell serial).1.entries.lookup other =
      if other = serial then some (cache.takeCell serial).2
        else cache.entries.lookup other := by
  cases hlookup : cache.entries.lookup serial with
  | some number =>
      rw [takeCell_of_lookup hlookup]
      by_cases heq : other = serial
      · simp [heq, hlookup]
      · simp [heq]
  | none =>
      rw [takeCell_of_lookup_none hlookup]
      by_cases heq : other = serial
      · simp [heq]
      · simp [heq, List.lookup_cons, beq_false_of_ne heq]

theorem cells_discardUnused (cache : RevocationCache) (serial : String)
    (number : Nat) :
    (cache.discardUnused serial number).cells = cache.cells := by
  unfold discardUnused
  split <;> rfl

theorem lookup_discardUnused (cache : RevocationCache) (serial : String)
    (number : Nat) (other : String) :
    (cache.discardUnused serial number).entries.lookup other =
      if other = serial ∧ cache.entries.lookup serial = some number ∧
          (cache.cells[number]?).any RevocationCell.isUnused = true then none
      else cache.entries.lookup other := by
  unfold discardUnused
  split
  · rename_i hunused
    rw [lookup_filter_ne]
    simp only [hunused, and_true]
  · rename_i hkept
    rw [if_neg fun hdiscarded => hkept hdiscarded.2]

end RevocationCache

/-! ## Events -/

/-- What an event of a check leaves behind: the check, its cell, and the entry of
its serial number. -/
structure Effect (run later : CacheRun) (check : Nat) (record : CheckRecord)
    (cell : RevocationCell) (number? : Option Nat) : Prop where
  clears : later.clears = run.clears
  checks : ∀ other, later.checks[other]? =
    if other = check then some record else run.checks[other]?
  cells : ∀ number, later.cache.cells[number]? =
    if number = record.cell then some cell else run.cache.cells[number]?
  lookup : ∀ serial, later.cache.entries.lookup serial =
    if serial = record.serial then number? else run.cache.entries.lookup serial

theorem Effect.discardUnused {run later : CacheRun} {check : Nat}
    {record : CheckRecord} {cell : RevocationCell} {number? : Option Nat}
    (h : Effect run later check record cell number?) :
    Effect run
      { later with cache := later.cache.discardUnused record.serial record.cell }
      check record cell
      (if number? = some record.cell ∧ cell.isUnused = true then none
        else number?) := by
  have hentry := h.lookup record.serial
  have hcell := h.cells record.cell
  rw [if_pos rfl] at hentry hcell
  refine ⟨h.clears, h.checks, fun number => ?_, fun serial => ?_⟩
  · rw [RevocationCache.cells_discardUnused]
    exact h.cells number
  · rw [RevocationCache.lookup_discardUnused, hentry, hcell, Option.any_some,
      h.lookup]
    grind

namespace Consistent

open RevocationCache

variable {keys : List (String × Nat)} {run : CacheRun} {check : Nat}
  {record : CheckRecord} {cell : RevocationCell}

theorem lookup_lt (h : Consistent keys run) {serial : String} {number : Nat}
    (hlookup : run.cache.entries.lookup serial = some number) :
    number < run.cache.cells.length := by
  rw [← h.keys_length]
  exact (List.getElem?_eq_some_iff.mp (h.entry hlookup)).1

theorem effect_start (h : Consistent keys run) (certificate : Certificate) :
    Effect run (run.start certificate) run.checks.length
      { certificate
        epoch := run.clears
        cell := (run.cache.takeCell certificate.serialText).2
        phase := .ofProgress
          ((run.cache.current certificate.serialText).enter run.checks.length).2
        query? := QueryState.ofProgress?
          ((run.cache.current certificate.serialText).enter run.checks.length).2 }
      ((run.cache.current certificate.serialText).enter run.checks.length).1
      (some (run.cache.takeCell certificate.serialText).2) := by
  have hcells := cells_takeCell certificate.serialText fun _ => h.lookup_lt
  have hcell := hcells (run.cache.takeCell certificate.serialText).2
  rw [if_pos rfl] at hcell
  have hstart := start_eq_enter
    (takeCell_started run.cache (run.cache.started + 1) certificate.serialText)
    hcell
  rw [h.started] at hstart
  constructor
  case clears => rfl
  case checks =>
    intro other
    simp only [CacheRun.start, hstart]
    grind
  case cells =>
    intro number
    simp only [CacheRun.start, hstart]
    refine (cells_setCell hcell _ number).trans ?_
    rw [hcells]
    split <;> rfl
  case lookup =>
    intro other
    simp only [CacheRun.start, hstart, setCell]
    exact lookup_takeCell run.cache certificate.serialText other

theorem effect_set (hrecord : run.checks[check]? = some record)
    (hcell : run.cache.cells[record.cell]? = some cell) (after : RevocationCell)
    (phase : CheckPhase) (query? : Option QueryState) :
    Effect run { run with
        cache := run.cache.setCell record.cell after
        checks := run.checks.set check { record with phase, query? } }
      check { record with phase, query? } after
        (run.cache.entries.lookup record.serial) where
  clears := rfl
  checks := by
    intro other
    rw [List.getElem?_set]
    grind
  cells := cells_setCell hcell after
  lookup := by
    intro serial
    split
    · rename_i heq
      rw [heq]
      rfl
    · rfl

theorem effect_resume (h : Consistent keys run)
    (hrecord : run.checks[check]? = some record) (hphase : record.phase = .waiting)
    (hcell : run.cache.cells[record.cell]? = some cell) :
    ∃ next, run.step? (.resume check) = some next ∧
      Effect run next check { record with
          phase := .ofProgress (cell.lookAgain check).2
          query? := QueryState.ofProgress? (cell.lookAgain check).2 }
        (cell.lookAgain check).1 (run.cache.entries.lookup record.serial) := by
  have hlive : record.phase.isLive = true :=
    (CheckPhase.isLive_iff _).mpr (.inr hphase)
  have hresume := resume_eq_lookAgain (h.cellOf?_of_isLive hrecord hlive) hcell
  refine ⟨_, ?_, effect_set hrecord hcell _ _ _⟩
  simp [CacheRun.step?, CacheRun.advance?, CacheRun.resumed, hrecord, hphase,
    hresume]

theorem effect_drop (h : Consistent keys run)
    (hrecord : run.checks[check]? = some record)
    (hlive : record.phase.isLive = true)
    (hcell : run.cache.cells[record.cell]? = some cell) :
    ∃ next, run.step? (.drop check) = some next ∧
      Effect run next check { record with
          phase := .dropped
          query? := record.query?.map fun _ => .dropped }
        (cell.leave check) (run.cache.entries.lookup record.serial) := by
  have hdrop := drop_eq_leave (h.cellOf?_of_isLive hrecord hlive) hcell
  refine ⟨_, ?_, effect_set hrecord hcell _ _ _⟩
  simp [CacheRun.step?, CacheRun.advance?, CacheRun.dropped, hrecord, hlive, hdrop]

theorem effect_answer (h : Consistent keys run)
    (hrecord : run.checks[check]? = some record) (hphase : record.phase = .asking)
    (hcell : run.cache.cells[record.cell]? = some cell) (reply : Option Bool) :
    ∃ next, run.step? (.answer check reply) = some next ∧
      Effect run next check { record with
          phase := .returned (run.cache.answer check record.serial reply).2
          query? := some (.ofReply reply) }
        (cell.release reply)
        (if reply = none ∧
          run.cache.entries.lookup record.serial = some record.cell ∧
            cell.waiting = [] then none
          else run.cache.entries.lookup record.serial) := by
  have hlive : record.phase.isLive = true :=
    (CheckPhase.isLive_iff _).mpr (.inl hphase)
  have hnumber := h.cellOf?_of_isLive hrecord hlive
  refine ⟨_, by simp [CacheRun.step?, CacheRun.advance?, hrecord, hphase]; rfl, ?_⟩
  cases reply with
  | some revoked =>
      have hanswer := answer_some_eq_release hnumber hcell record.serial revoked
      simpa [CacheRun.answered, hanswer] using effect_set hrecord hcell _ _ _
  | none =>
      have hanswer := answer_none_eq_release hnumber hcell record.serial
      have hset := effect_set hrecord hcell (cell.release none)
        (.returned (run.cache.answer check record.serial none).2) (some .failed)
      have hdiscarded := hset.discardUnused
      simp only [RevocationCell.isUnused_release_iff] at hdiscarded
      simp only [CacheRun.answered, hanswer, true_and]
      exact hdiscarded

end Consistent

end EndpointDiscovery
