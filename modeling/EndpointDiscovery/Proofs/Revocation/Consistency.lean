import EndpointDiscovery.Proofs.Revocation.Run
import Mathlib.Data.List.Basic
import Mathlib.Data.List.Nodup

/-!
# The invariant of revocation caches

Every cell is made for a key, a serial number in an epoch.  Of all cells of one key
at most one is in use, and while the epoch lasts it is the one that new checks take.
-/

namespace EndpointDiscovery

/-! ## Cells -/

namespace RevocationCell

theorem isHeldBy_iff (cell : RevocationCell) (check : Nat) :
    cell.isHeldBy check = true ↔ cell.asking? = some check ∨
      check ∈ cell.waiting := by
  simp [isHeldBy]

theorem isUnused_iff (cell : RevocationCell) :
    cell.isUnused = true ↔ cell.revoked? = none ∧ cell.asking? = none ∧
      cell.waiting = [] := by
  simp [isUnused, and_assoc]

theorem isUnused_eq_false_of_isHeldBy {cell : RevocationCell} {check : Nat}
    (h : cell.isHeldBy check = true) : cell.isUnused = false := by
  rw [Bool.eq_false_iff, ne_eq, isUnused_iff]
  rintro ⟨-, hasking, hwaiting⟩
  rw [isHeldBy_iff, hasking, hwaiting] at h
  simp at h

theorem isUnused_eq_false_of_revoked? {cell : RevocationCell} {revoked : Bool}
    (h : cell.revoked? = some revoked) : cell.isUnused = false := by
  rw [Bool.eq_false_iff, ne_eq, isUnused_iff, h]
  simp

end RevocationCell

/-! ## Parts of the operations -/

namespace RevocationCache

variable (cache : RevocationCache)

theorem cells_modifyCell (number place : Nat)
    (change : RevocationCell → RevocationCell) :
    (cache.modifyCell number change).cells[place]? =
      if place = number then cache.cells[place]?.map change
        else cache.cells[place]? := by
  rw [modifyCell, List.getElem?_modify]
  by_cases h : place = number
  · simp [h]
  · simp [h, Ne.symm h]

theorem cells_length_modifyCell (number : Nat)
    (change : RevocationCell → RevocationCell) :
    (cache.modifyCell number change).cells.length = cache.cells.length := by
  simp [modifyCell]

variable {cache}

theorem cellOf?_eq_some {check number : Nat} {cell : RevocationCell}
    (hcell : cache.cells[number]? = some cell) (hheld : cell.isHeldBy check = true)
    (honly : ∀ place other, cache.cells[place]? = some other →
      other.isHeldBy check = true →
      place = number) :
    cache.cellOf? check = some number := by
  obtain ⟨hlt, rfl⟩ := List.getElem?_eq_some_iff.mp hcell
  refine List.findIdx?_eq_some_iff_getElem.mpr
    ⟨hlt, hheld, fun place hplace hother => ?_⟩
  have := honly place _ (List.getElem?_eq_getElem (by omega)) hother
  omega

theorem takeCell_of_lookup {serial : String} {number : Nat}
    (h : cache.entries.lookup serial = some number) :
    cache.takeCell serial = (cache, number) := by
  simp [takeCell, h]

theorem takeCell_of_lookup_none {serial : String}
    (h : cache.entries.lookup serial = none) :
    cache.takeCell serial =
      ({ cache with
          cells := cache.cells ++ [{}]
          entries := (serial, cache.cells.length) :: cache.entries },
        cache.cells.length) := by
  simp [takeCell, h]

end RevocationCache

/-! ## Consistent runs -/

namespace CheckRecord

def Fits (record : CheckRecord) (revoked? : Option Bool) : Prop :=
  match record.phase with
  | .asking => record.query? = some .inFlight
  | .waiting => record.query? = none
  | .returned (.ok status) =>
      ∃ revoked, revoked? = some revoked ∧
        ((record.query? = some (.answered revoked) ∧ status = .fresh revoked) ∨
          (record.query? = none ∧ status = .cached revoked))
  | .returned (.error fault) =>
      record.query? = some .failed ∧
        fault = .foreign (.revocationCheckUnavailable record.serial)
  | .dropped => record.query? = none ∨ record.query? = some .dropped

end CheckRecord

/-- Every cell has a key, which is a serial number and an epoch, and so have the
checks that took it. -/
structure Keyed (keys : List (String × Nat)) (run : CacheRun) : Prop where
  started : run.cache.started = run.checks.length
  keys_length : keys.length = run.cache.cells.length
  key : ∀ {check : Nat} {record : CheckRecord}, run.checks[check]? = some record →
    keys[record.cell]? = some (record.serial, record.epoch)
  epoch_le : ∀ {number epoch : Nat} {serial : String},
    keys[number]? = some (serial, epoch) → epoch ≤ run.clears
  entries_nodup : (run.cache.entries.map Prod.fst).Nodup
  entry : ∀ {serial : String} {number : Nat},
    run.cache.entries.lookup serial = some number →
    keys[number]? = some (serial, run.clears)
  current : ∀ {number : Nat} {cell : RevocationCell} {serial : String},
    run.cache.cells[number]? = some cell → cell.isUnused = false →
    keys[number]? = some (serial, run.clears) →
    run.cache.entries.lookup serial = some number
  unique : ∀ {first second : Nat} {cell other : RevocationCell},
    run.cache.cells[first]? = some cell → run.cache.cells[second]? = some other →
    cell.isUnused = false → other.isUnused = false → keys[first]? = keys[second]? →
    first = second

/-- The cells know which checks ask and wait, and nothing is asked once the
answer is known. -/
structure Held (run : CacheRun) : Prop where
  asking : ∀ {number : Nat} {cell : RevocationCell} (check : Nat),
    run.cache.cells[number]? = some cell →
    (cell.asking? = some check ↔
      ∃ record, run.checks[check]? = some record ∧ record.cell = number ∧
        record.phase = .asking)
  waiting : ∀ {number : Nat} {cell : RevocationCell} (check : Nat),
    run.cache.cells[number]? = some cell →
    (check ∈ cell.waiting ↔
      ∃ record, run.checks[check]? = some record ∧ record.cell = number ∧
        record.phase = .waiting)
  quiet : ∀ {number : Nat} {cell : RevocationCell} {revoked : Bool},
    run.cache.cells[number]? = some cell → cell.revoked? = some revoked →
      cell.asking? = none

/-- The answer of a cell is the one that a single check of it got. -/
structure Answered (run : CacheRun) : Prop where
  answer : ∀ {check : Nat} {record : CheckRecord} {cell : RevocationCell}
    {revoked : Bool}, run.checks[check]? = some record →
      run.cache.cells[record.cell]? = some cell →
    record.answer? = some revoked → cell.revoked? = some revoked
  answerer : ∀ {number : Nat} {cell : RevocationCell} {revoked : Bool},
    run.cache.cells[number]? = some cell → cell.revoked? = some revoked →
    ∃ (check : Nat) (record : CheckRecord), run.checks[check]? = some record ∧
      record.cell = number ∧ record.answer? = some revoked
  answer_unique : ∀ {first second : Nat} {record other : CheckRecord},
    run.checks[first]? = some record → run.checks[second]? = some other →
    record.cell = other.cell → record.answer?.isSome → other.answer?.isSome →
      first = second
  fits : ∀ {check : Nat} {record : CheckRecord} {cell : RevocationCell},
    run.checks[check]? = some record → run.cache.cells[record.cell]? = some cell →
    record.Fits cell.revoked?

structure Consistent (keys : List (String × Nat)) (run : CacheRun) : Prop
    extends Keyed keys run, Held run, Answered run

namespace Consistent

variable {keys : List (String × Nat)} {run : CacheRun}

theorem initial : Consistent [] {} where
  toKeyed := by constructor <;> simp
  toHeld := by constructor <;> simp
  toAnswered := by constructor <;> simp

/-! ## Cells of checks -/

theorem exists_cell (h : Consistent keys run) {check : Nat} {record : CheckRecord}
    (hrecord : run.checks[check]? = some record) :
    ∃ cell, run.cache.cells[record.cell]? = some cell := by
  have hlt : record.cell < keys.length :=
    (List.getElem?_eq_some_iff.mp (h.key hrecord)).1
  rw [h.keys_length] at hlt
  exact ⟨_, List.getElem?_eq_getElem hlt⟩

theorem isHeldBy_iff (h : Consistent keys run) {number check : Nat}
    {cell : RevocationCell} (hcell : run.cache.cells[number]? = some cell) :
    cell.isHeldBy check = true ↔
      ∃ record, run.checks[check]? = some record ∧ record.cell = number ∧
        record.phase.isLive = true := by
  rw [RevocationCell.isHeldBy_iff, h.asking check hcell, h.waiting check hcell]
  simp only [CheckPhase.isLive_iff]
  grind

theorem cellOf?_of_isLive (h : Consistent keys run) {check : Nat}
    {record : CheckRecord} (hrecord : run.checks[check]? = some record)
    (hlive : record.phase.isLive = true) :
    run.cache.cellOf? check = some record.cell := by
  obtain ⟨cell, hcell⟩ := h.exists_cell hrecord
  refine RevocationCache.cellOf?_eq_some hcell
    ((h.isHeldBy_iff hcell).mpr ⟨record, hrecord, rfl, hlive⟩)
    fun place other hother hheld => ?_
  obtain ⟨found, hfound, rfl, -⟩ := (h.isHeldBy_iff hother).mp hheld
  rw [hrecord] at hfound
  cases hfound
  rfl

end Consistent

end EndpointDiscovery
