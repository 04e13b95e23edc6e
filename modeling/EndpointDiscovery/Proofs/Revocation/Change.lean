import EndpointDiscovery.Proofs.Revocation.Consistency

/-!
# Changes of a run

Every event changes at most one check together with the cell that it holds, besides
making a cell or forgetting one.  Each of these changes keeps a run consistent.
-/

namespace EndpointDiscovery

theorem lookup_filter_ne (entries : List (String × Nat)) (serial other : String) :
    (entries.filter (·.1 ≠ serial)).lookup other =
      if other = serial then none else entries.lookup other := by
  induction entries with
  | nil => simp
  | cons entry entries ih => grind

/-! ## One check and its cell -/

/-- A cell changes as one check that holds it does. -/
structure CellChange (check : Nat) (record : CheckRecord)
    (before after : RevocationCell) :
    Prop where
  asking : ∀ other, after.asking? = some other ↔
    if other = check then record.phase = .asking else before.asking? = some other
  waiting : ∀ other, other ∈ after.waiting ↔
    if other = check then record.phase = .waiting else other ∈ before.waiting
  revoked? : after.revoked? = record.answer?.or before.revoked?
  fresh : record.answer?.isSome → before.revoked? = none
  quiet : ∀ {revoked}, after.revoked? = some revoked → after.asking? = none
  fits : record.Fits after.revoked?

/-- Nothing but one check and its cell has changed. -/
structure LocalStep (run later : CacheRun) (check : Nat) (record : CheckRecord)
    (after : RevocationCell) : Prop where
  clears : later.clears = run.clears
  entries : later.cache.entries = run.cache.entries
  started : later.cache.started = later.checks.length
  cells_length : later.cache.cells.length = run.cache.cells.length
  cells : ∀ number, later.cache.cells[number]? =
    if number = record.cell then some after else run.cache.cells[number]?
  checks : ∀ other, later.checks[other]? =
    if other = check then some record else run.checks[other]?

theorem CheckRecord.Fits.mono {record : CheckRecord} {before after : Option Bool}
    (h : record.Fits before)
    (hkept : ∀ revoked, before = some revoked → after = some revoked) :
    record.Fits after := by
  unfold CheckRecord.Fits at h ⊢
  split at h
  · exact h
  · exact h
  · obtain ⟨revoked, hbefore, hstatus⟩ := h
    exact ⟨revoked, hkept revoked hbefore, hstatus⟩
  · exact h
  · exact h

theorem CellChange.revoked?_kept {check : Nat} {record : CheckRecord}
    {before after : RevocationCell} (h : CellChange check record before after)
    (revoked : Bool) (hbefore : before.revoked? = some revoked) :
    after.revoked? = some revoked := by
  cases hanswer : record.answer? with
  | none => rw [h.revoked?, hanswer, hbefore, Option.none_or]
  | some other =>
      have := h.fresh (by simp [hanswer])
      rw [hbefore] at this
      contradiction

variable {keys : List (String × Nat)} {run later : CacheRun} {check : Nat}
  {record : CheckRecord} {before after : RevocationCell}

theorem Keyed.eq_of_used (h : Keyed keys run)
    (hcell : run.cache.cells[record.cell]? = some before)
    (hkey : keys[record.cell]? = some (record.serial, record.epoch))
    (hused : before.isUnused = false ∨
      run.cache.entries.lookup record.serial = some record.cell ∧
      record.epoch = run.clears)
    {number : Nat} {cell : RevocationCell}
    (hnumber : run.cache.cells[number]? = some cell)
    (hinUse : cell.isUnused = false) (heq : keys[number]? = keys[record.cell]?) :
    number = record.cell := by
  rcases hused with hused | ⟨hlookup, hepoch⟩
  · exact h.unique hnumber hcell hinUse hused heq
  · rw [hkey, hepoch] at heq
    have := h.current hnumber hinUse heq
    rw [hlookup] at this
    exact (Option.some.inj this).symm

theorem Keyed.change (h : Keyed keys run)
    (hstep : LocalStep run later check record after)
    (hcell : run.cache.cells[record.cell]? = some before)
    (hkey : keys[record.cell]? = some (record.serial, record.epoch))
    (hused : before.isUnused = false ∨
      run.cache.entries.lookup record.serial = some record.cell ∧
      record.epoch = run.clears) :
    Keyed keys later := by
  have hcells := hstep.cells
  constructor
  case started => exact hstep.started
  case keys_length => rw [hstep.cells_length, h.keys_length]
  case key =>
    intro other found hfound
    rw [hstep.checks] at hfound
    split at hfound
    · cases hfound
      exact hkey
    · exact h.key hfound
  case epoch_le =>
    intro number epoch serial hnumber
    rw [hstep.clears]
    exact h.epoch_le hnumber
  case entries_nodup => rw [hstep.entries]; exact h.entries_nodup
  case entry =>
    intro serial number hlookup
    rw [hstep.entries] at hlookup
    rw [hstep.clears]
    exact h.entry hlookup
  case current =>
    intro number cell serial hnumber hinUse hnumberKey
    rw [hcells] at hnumber
    rw [hstep.clears] at hnumberKey
    rw [hstep.entries]
    split at hnumber
    · rename_i heq
      subst heq
      rcases hused with hused | ⟨hlookup, -⟩
      · exact h.current hcell hused hnumberKey
      · rw [hkey] at hnumberKey
        rw [← (Prod.mk.inj (Option.some.inj hnumberKey)).1]
        exact hlookup
    · exact h.current hnumber hinUse hnumberKey
  case unique =>
    intro first second cell other hfirst hsecond hcellUse hotherUse heq
    rw [hcells] at hfirst hsecond
    split at hfirst <;> split at hsecond
    · rename_i hfirstEq hsecondEq
      exact hfirstEq.trans hsecondEq.symm
    · rename_i hfirstEq hsecondNe
      exact absurd
        (h.eq_of_used hcell hkey hused hsecond hotherUse (by rw [← heq, hfirstEq]))
        hsecondNe
    · rename_i hfirstNe hsecondEq
      exact absurd
        (h.eq_of_used hcell hkey hused hfirst hcellUse (by rw [heq, hsecondEq]))
        hfirstNe
    · exact h.unique hfirst hsecond hcellUse hotherUse heq

theorem Held.change (h : Held run) (hstep : LocalStep run later check record after)
    (hchange : CellChange check record before after)
    (hcell : run.cache.cells[record.cell]? = some before)
    (hold : ∀ old, run.checks[check]? = some old → old.cell = record.cell) :
    Held later := by
  have hcells := hstep.cells
  have hchecks := hstep.checks
  constructor
  case asking =>
    intro number cell other hnumber
    rw [hcells] at hnumber
    simp only [hchecks]
    split at hnumber
    · cases hnumber
      have hbefore := h.asking other hcell
      have hafter := hchange.asking other
      grind
    · rw [h.asking other hnumber]
      grind
  case waiting =>
    intro number cell other hnumber
    rw [hcells] at hnumber
    simp only [hchecks]
    split at hnumber
    · cases hnumber
      have hbefore := h.waiting other hcell
      have hafter := hchange.waiting other
      grind
    · rw [h.waiting other hnumber]
      grind
  case quiet =>
    intro number cell revoked hnumber hrevoked
    rw [hcells] at hnumber
    split at hnumber
    · cases hnumber
      exact hchange.quiet hrevoked
    · exact h.quiet hnumber hrevoked

theorem Answered.answer?_none_of_change (h : Answered run)
    (hchange : CellChange check record before after)
    (hcell : run.cache.cells[record.cell]? = some before)
    (hanswer : record.answer?.isSome) {other : Nat} {found : CheckRecord}
    (hfound : run.checks[other]? = some found) (heq : record.cell = found.cell) :
    found.answer? = none := by
  cases hfoundAnswer : found.answer? with
  | none => rfl
  | some revoked =>
      have := h.answer hfound (heq ▸ hcell) hfoundAnswer
      rw [hchange.fresh hanswer] at this
      contradiction

theorem Answered.change (h : Answered run)
    (hstep : LocalStep run later check record after)
    (hchange : CellChange check record before after)
    (hcell : run.cache.cells[record.cell]? = some before)
    (hold : ∀ old, run.checks[check]? = some old →
      old.cell = record.cell ∧ old.answer? = none) : Answered later := by
  have hcells := hstep.cells
  have hchecks := hstep.checks
  constructor
  case answer =>
    intro other found cell revoked hfound hnumber hanswer
    rw [hchecks] at hfound
    rw [hcells] at hnumber
    split at hfound
    · cases hfound
      rw [if_pos rfl] at hnumber
      cases hnumber
      rw [hchange.revoked?, hanswer, Option.some_or]
    · split at hnumber
      · rename_i heq
        cases hnumber
        exact hchange.revoked?_kept revoked (h.answer hfound (heq ▸ hcell) hanswer)
      · exact h.answer hfound hnumber hanswer
  case answerer =>
    intro number cell revoked hnumber hrevoked
    rw [hcells] at hnumber
    simp only [hchecks]
    split at hnumber
    · rename_i heq
      cases hnumber
      rw [hchange.revoked?] at hrevoked
      rcases Option.or_eq_some_iff.mp hrevoked with hanswer | ⟨-, hbefore⟩
      · exact ⟨check, record, by simp, heq.symm, hanswer⟩
      · -- The answer was there before, so the check that got it is not the one
        -- that changes.
        obtain ⟨other, found, hfound, hfoundCell, hanswer⟩ :=
          h.answerer hcell hbefore
        refine ⟨other, found, ?_, hfoundCell.trans heq.symm, hanswer⟩
        rw [if_neg, hfound]
        rintro rfl
        rw [(hold found hfound).2] at hanswer
        contradiction
    · rename_i hne
      obtain ⟨other, found, hfound, hfoundCell, hanswer⟩ :=
        h.answerer hnumber hrevoked
      refine ⟨other, found, ?_, hfoundCell, hanswer⟩
      rw [if_neg, hfound]
      rintro rfl
      exact hne (hfoundCell.symm.trans (hold found hfound).1)
  case answer_unique =>
    intro first second found other hfirst hsecond heq hfoundAnswer hotherAnswer
    rw [hchecks] at hfirst hsecond
    split at hfirst <;> split at hsecond
    · rename_i hfirstEq hsecondEq
      exact hfirstEq.trans hsecondEq.symm
    · cases hfirst
      rw [h.answer?_none_of_change hchange hcell hfoundAnswer hsecond
        heq] at hotherAnswer
      contradiction
    · cases hsecond
      rw [h.answer?_none_of_change hchange hcell hotherAnswer hfirst
        heq.symm] at hfoundAnswer
      contradiction
    · exact h.answer_unique hfirst hsecond heq hfoundAnswer hotherAnswer
  case fits =>
    intro other found cell hfound hnumber
    rw [hchecks] at hfound
    rw [hcells] at hnumber
    split at hfound
    · cases hfound
      rw [if_pos rfl] at hnumber
      cases hnumber
      exact hchange.fits
    · split at hnumber
      · rename_i heq
        cases hnumber
        exact (h.fits hfound (heq ▸ hcell)).mono hchange.revoked?_kept
      · exact h.fits hfound hnumber

namespace Consistent

theorem change (h : Consistent keys run)
    (hstep : LocalStep run later check record after)
    (hchange : CellChange check record before after)
    (hcell : run.cache.cells[record.cell]? = some before)
    (hkey : keys[record.cell]? = some (record.serial, record.epoch))
    (hold : ∀ old, run.checks[check]? = some old →
      old.cell = record.cell ∧ old.answer? = none)
    (hused : before.isUnused = false ∨
      run.cache.entries.lookup record.serial = some record.cell ∧
      record.epoch = run.clears) :
    Consistent keys later where
  toKeyed := h.toKeyed.change hstep hcell hkey hused
  toHeld := h.toHeld.change hstep hchange hcell fun old hfound =>
    (hold old hfound).1
  toAnswered := h.toAnswered.change hstep hchange hcell hold

end Consistent

/-! ## Making and forgetting cells -/

def CacheRun.addCell (run : CacheRun) (serial : String) : CacheRun :=
  { run with
    cache := { run.cache with
      cells := run.cache.cells ++ [{}]
      entries := (serial, run.cache.cells.length) :: run.cache.entries } }

theorem Keyed.cell_lt (h : Keyed keys run)
    (hrecord : run.checks[check]? = some record) :
    record.cell < run.cache.cells.length := by
  rw [← h.keys_length]
  exact (List.getElem?_eq_some_iff.mp (h.key hrecord)).1

theorem Keyed.addCell (h : Keyed keys run) {serial : String}
    (hlookup : run.cache.entries.lookup serial = none) :
    Keyed (keys ++ [(serial, run.clears)]) (run.addCell serial) := by
  have hkeys : ∀ {number : Nat}, number < run.cache.cells.length →
      (keys ++ [(serial, run.clears)])[number]? = keys[number]? := by
    intro number hlt
    rw [List.getElem?_append_left (by rw [h.keys_length]; exact hlt)]
  have hlast : (keys ++ [(serial, run.clears)])[run.cache.cells.length]? =
      some (serial, run.clears) := by
    rw [← h.keys_length]
    simp
  constructor
  case started => exact h.started
  case keys_length => simp [CacheRun.addCell, h.keys_length]
  case key =>
    intro check found hfound
    rw [hkeys (h.cell_lt hfound)]
    exact h.key hfound
  case epoch_le =>
    intro number epoch other hnumber
    rcases getElem?_concat_eq_some.mp hnumber with hnumber | ⟨-, heq⟩
    · exact h.epoch_le hnumber
    · cases heq
      exact Nat.le_refl _
  case entries_nodup =>
    refine List.nodup_cons.mpr ⟨fun hmem => ?_, h.entries_nodup⟩
    obtain ⟨entry, hentry, heq⟩ := List.mem_map.mp hmem
    have := List.lookup_eq_none_iff.mp hlookup entry hentry
    simp [heq] at this
  case entry =>
    intro other number hother
    simp only [CacheRun.addCell, List.lookup_cons] at hother
    split at hother
    · rename_i heq
      cases hother
      rw [hlast, eq_of_beq heq]
      rfl
    · have hkey := h.entry hother
      rw [hkeys (h.keys_length ▸ (List.getElem?_eq_some_iff.mp hkey).1)]
      exact hkey
  case current =>
    intro number cell other hcell hinUse hkey
    rcases getElem?_concat_eq_some.mp hcell with hcell | ⟨-, rfl⟩
    · rw [hkeys (List.getElem?_eq_some_iff.mp hcell).1] at hkey
      have hother := h.current hcell hinUse hkey
      have hne : other ≠ serial := by
        rintro rfl
        rw [hlookup] at hother
        contradiction
      simp only [CacheRun.addCell, List.lookup_cons, beq_false_of_ne hne]
      exact hother
    · contradiction
  case unique =>
    intro first second cell other hfirst hsecond hcellUse hotherUse heq
    rcases getElem?_concat_eq_some.mp hfirst with hfirst | ⟨-, rfl⟩
    · rcases getElem?_concat_eq_some.mp hsecond with hsecond | ⟨-, rfl⟩
      · rw [hkeys (List.getElem?_eq_some_iff.mp hfirst).1,
          hkeys (List.getElem?_eq_some_iff.mp hsecond).1] at heq
        exact h.unique hfirst hsecond hcellUse hotherUse heq
      · contradiction
    · contradiction

theorem Held.addCell (h : Held run) (hkeyed : Keyed keys run) (serial : String) :
    Held (run.addCell serial) := by
  constructor
  case asking =>
    intro number cell check hcell
    rcases getElem?_concat_eq_some.mp hcell with hcell | ⟨rfl, rfl⟩
    · exact h.asking check hcell
    · simp only [reduceCtorEq, false_iff]
      rintro ⟨found, hfound, heq, -⟩
      exact absurd (hkeyed.cell_lt hfound) (by omega)
  case waiting =>
    intro number cell check hcell
    rcases getElem?_concat_eq_some.mp hcell with hcell | ⟨rfl, rfl⟩
    · exact h.waiting check hcell
    · simp only [List.not_mem_nil, false_iff]
      rintro ⟨found, hfound, heq, -⟩
      exact absurd (hkeyed.cell_lt hfound) (by omega)
  case quiet =>
    intro number cell revoked hcell hrevoked
    rcases getElem?_concat_eq_some.mp hcell with hcell | ⟨-, rfl⟩
    · exact h.quiet hcell hrevoked
    · contradiction

theorem Answered.addCell (h : Answered run) (hkeyed : Keyed keys run)
    (serial : String) :
    Answered (run.addCell serial) := by
  -- The cell of a check is an old one.
  have hold : ∀ {check : Nat} {found : CheckRecord} {cell : RevocationCell},
      run.checks[check]? = some found →
      (run.addCell serial).cache.cells[found.cell]? = some cell →
      run.cache.cells[found.cell]? = some cell := by
    intro check found cell hfound hcell
    exact (List.getElem?_append_left (hkeyed.cell_lt hfound)).symm.trans hcell
  constructor
  case answer =>
    intro check found cell revoked hfound hcell hanswer
    exact h.answer hfound (hold hfound hcell) hanswer
  case answerer =>
    intro number cell revoked hcell hrevoked
    rcases getElem?_concat_eq_some.mp hcell with hcell | ⟨-, rfl⟩
    · exact h.answerer hcell hrevoked
    · contradiction
  case answer_unique => exact h.answer_unique
  case fits =>
    intro check found cell hfound hcell
    exact h.fits hfound (hold hfound hcell)

namespace Consistent

theorem takeCell (h : Consistent keys run) (serial : String) :
    ∃ later, Consistent later { run with cache := (run.cache.takeCell serial).1 } ∧
      later[(run.cache.takeCell serial).2]? = some (serial, run.clears) ∧
      (run.cache.takeCell serial).1.entries.lookup serial =
        some (run.cache.takeCell serial).2 := by
  cases hlookup : run.cache.entries.lookup serial with
  | some number =>
      rw [RevocationCache.takeCell_of_lookup hlookup]
      exact ⟨keys, h, h.entry hlookup, hlookup⟩
  | none =>
      rw [RevocationCache.takeCell_of_lookup_none hlookup]
      refine ⟨keys ++ [(serial, run.clears)],
        ?_, by simp [← h.keys_length], by simp⟩
      exact ⟨h.toKeyed.addCell hlookup, h.toHeld.addCell h.toKeyed serial,
        h.toAnswered.addCell h.toKeyed serial⟩

theorem discardUnused (h : Consistent keys run) (serial : String) (number : Nat) :
    Consistent keys
      { run with cache := run.cache.discardUnused serial number } := by
  unfold RevocationCache.discardUnused
  split
  case isFalse => exact h
  case isTrue hunused =>
    obtain ⟨hlookup, hunused⟩ := hunused
    obtain ⟨cell, hcell, hcellUnused⟩ := (Option.any_eq_true _ _).mp hunused
    exact { h with
      entries_nodup :=
        (h.entries_nodup).sublist (List.Sublist.map _ List.filter_sublist)
      entry := fun {other found} hother => by
        rw [lookup_filter_ne] at hother
        split at hother
        · contradiction
        · exact h.entry hother
      current := fun {other found otherSerial} hother hinUse hkey => by
        have hfound := h.current hother hinUse hkey
        rw [lookup_filter_ne, if_neg]
        · exact hfound
        · -- The cell that is forgotten is not in use.
          rintro rfl
          rw [hlookup] at hfound
          cases hfound
          rw [hcell] at hother
          cases hother
          rw [hcellUnused] at hinUse
          contradiction }

theorem clear (h : Consistent keys run) :
    Consistent keys
      { run with cache := run.cache.clear, clears := run.clears + 1 } :=
  { h with
    epoch_le := fun hnumber => Nat.le_succ_of_le (h.epoch_le hnumber)
    entries_nodup := List.nodup_nil
    entry := fun hlookup => by simp [RevocationCache.clear] at hlookup
    current := fun hcell hinUse hkey => by
      -- No cell has a key of the new epoch yet.
      have : run.clears + 1 ≤ run.clears := h.epoch_le hkey
      omega }

end Consistent

end EndpointDiscovery
