import EndpointDiscovery.Proofs.Certificate.SerialText
import EndpointDiscovery.Proofs.Revocation.Restriction

/-!
# Serial numbers do not interfere

The checks about one serial number run as if there were no others.  Their cells and
those of the run without the others correspond to each other, step by step.
-/

namespace EndpointDiscovery

namespace CacheRun

def certificates (run : CacheRun) : List Certificate :=
  run.checks.map (·.certificate)

/-- A run without other serial numbers mirrors the run, whose cell `places[place]`
has become the cell `place`. -/
structure Mirrors (serialNumber : Int) (serial : String) (places : List Nat)
    (run part : CacheRun) : Prop where
  clears : part.clears = run.clears
  checks_length :
    part.checks.length =
      numberWithin serialNumber run.certificates run.checks.length
  check : ∀ {check : Nat} {record : CheckRecord}, run.checks[check]? = some record →
    record.certificate.serialNumber = serialNumber →
    ∃ place, places[place]? = some record.cell ∧
      part.checks[numberWithin serialNumber run.certificates check]? =
        some { record with cell := place }
  cells_length : part.cache.cells.length = places.length
  cell : ∀ {place number : Nat} {cell : RevocationCell},
    places[place]? = some number →
    run.cache.cells[number]? = some cell →
    part.cache.cells[place]? =
      some (cell.renumber (numberWithin serialNumber run.certificates))
  taken : ∀ {place number : Nat}, places[place]? = some number →
    ∃ (check : Nat) (record : CheckRecord), run.checks[check]? = some record ∧
      record.certificate.serialNumber = serialNumber ∧ record.cell = number
  places_nodup : places.Nodup
  entry : run.cache.entries.lookup serial =
    (part.cache.entries.lookup serial).bind (places[·]?)
  entries : ∀ other, other ≠ serial → part.cache.entries.lookup other = none

end CacheRun

section

variable {keys partKeys : List (String × Nat)} {run part next partNext : CacheRun}
  {serialNumber : Int} {serial : String} {places : List Nat} {check : Nat}
  {record : CheckRecord} {cell : RevocationCell} {number? partNumber? : Option Nat}

/-! ## Certificates -/

theorem getElem?_certificates (hrecord : run.checks[check]? = some record) :
    run.certificates[check]? = some record.certificate := by
  simp [CacheRun.certificates, hrecord]

theorem length_certificates (run : CacheRun) :
    run.certificates.length = run.checks.length :=
  List.length_map _

theorem Effect.certificates (h : Effect run next check record cell number?)
    {before : CheckRecord} (hbefore : run.checks[check]? = some before)
    (hsame : record.certificate = before.certificate) :
    next.certificates = run.certificates := by
  refine List.ext_getElem? fun other => ?_
  simp only [CacheRun.certificates, List.getElem?_map, h.checks]
  split
  · rename_i heq
    rw [heq, hbefore, Option.map_some, Option.map_some, hsame]
  · rfl

/-! ## Lengths -/

private theorem length_of_getElem? {α : Type} {items later : List α} {place : Nat}
    {item : α} (hplace : place ≤ items.length) (h : ∀ number : Nat, later[number]? =
      if number = place then some item else items[number]?) :
    later.length = max items.length (place + 1) := by
  have hlt : ∀ number, number < later.length ↔
      number = place ∨ number < items.length := by
    intro number
    have hsome : (later[number]?).isSome = true ↔ number < later.length := by simp
    rw [← hsome, h]
    split
    · rename_i heq
      simp [heq]
    · rename_i hne
      simp [hne]
  have hitems := hlt items.length
  have hnext := hlt (items.length + 1)
  have hlater := hlt later.length
  omega

theorem Effect.checks_length (h : Effect run next check record cell number?)
    (hcheck : check ≤ run.checks.length) :
    next.checks.length = max run.checks.length (check + 1) :=
  length_of_getElem? hcheck h.checks

theorem Effect.cells_length (h : Effect run next check record cell number?)
    (hcell : record.cell ≤ run.cache.cells.length) :
    next.cache.cells.length = max run.cache.cells.length (record.cell + 1) :=
  length_of_getElem? hcell h.cells

end

namespace CacheRun.Mirrors

variable {keys partKeys : List (String × Nat)} {run part next partNext : CacheRun}
  {serialNumber : Int} {serial : String} {places : List Nat} {check : Nat}
  {record : CheckRecord} {cell : RevocationCell} {number? partNumber? : Option Nat}

theorem initial (serialNumber : Int) (serial : String) :
    Mirrors serialNumber serial [] {} {} := by
  constructor <;> simp [numberWithin]

/-! ## Numbers -/

theorem number_eq {more : List Certificate}
    (hcertificates : next.certificates = run.certificates ++ more) {number : Nat}
    (hlt : number ≤ run.checks.length) :
    numberWithin serialNumber next.certificates number =
      numberWithin serialNumber run.certificates number := by
  rw [hcertificates, numberWithin_append]
  rwa [length_certificates]

theorem renumber_eq (hrun : Consistent keys run) {more : List Certificate}
    (hcertificates : next.certificates = run.certificates ++ more) {number : Nat}
    (hcell : run.cache.cells[number]? = some cell) :
    cell.renumber (numberWithin serialNumber next.certificates) =
      cell.renumber (numberWithin serialNumber run.certificates) := by
  refine RevocationCell.renumber_congr fun check hheld => ?_
  obtain ⟨record, hrecord, -, -⟩ := (hrun.isHeldBy_iff hcell).mp hheld
  exact number_eq hcertificates
    (Nat.le_of_lt (List.getElem?_eq_some_iff.mp hrecord).1)

/-! ## Events of other serial numbers -/

theorem not_mem_places (h : Mirrors serialNumber serial places run part)
    (hrun : Consistent keys run) {number epoch : Nat} {certificate : Certificate}
    (hkey : keys[number]? = some (certificate.serialText, epoch))
    (hother : certificate.serialNumber ≠ serialNumber) : number ∉ places := by
  intro hmem
  obtain ⟨place, hplace⟩ := List.mem_iff_getElem?.mp hmem
  obtain ⟨check, record, hrecord, hserial, rfl⟩ := h.taken hplace
  rw [hrun.key hrecord, Option.some.injEq, Prod.mk.injEq] at hkey
  exact hother (((Certificate.serialText_eq_iff _ _).mp hkey.1).symm.trans hserial)

theorem placed_lt (h : Mirrors serialNumber serial places run part)
    (hrun : Consistent keys run) {number : Nat} (hmem : number ∈ places) :
    number < run.cache.cells.length := by
  obtain ⟨place, hplace⟩ := List.mem_iff_getElem?.mp hmem
  obtain ⟨check, record, hrecord, -, rfl⟩ := h.taken hplace
  exact hrun.cell_lt hrecord

theorem of_other (h : Mirrors serialNumber serial places run part)
    (hrun : Consistent keys run)
    (heffect : Effect run next check record cell number?)
    (hother : record.serial ≠ serial) (hunplaced : record.cell ∉ places)
    {more : List Certificate}
    (hcertificates : next.certificates = run.certificates ++ more)
    (hlength : numberWithin serialNumber next.certificates next.checks.length =
      numberWithin serialNumber run.certificates run.checks.length)
    (hserial : record.certificate.serialNumber ≠ serialNumber)
    (hbefore : ∀ before, run.checks[check]? = some before →
      before.certificate.serialNumber ≠ serialNumber) :
    Mirrors serialNumber serial places next part := by
  constructor
  case clears => rw [h.clears, heffect.clears]
  case checks_length => rw [h.checks_length, hlength]
  case check =>
    intro other found hfound hfoundSerial
    rw [heffect.checks] at hfound
    split at hfound
    · cases hfound
      exact absurd hfoundSerial hserial
    · obtain ⟨place, hplace, hpart⟩ := h.check hfound hfoundSerial
      refine ⟨place, hplace, ?_⟩
      rw [number_eq hcertificates
        (Nat.le_of_lt (List.getElem?_eq_some_iff.mp hfound).1), hpart]
  case cells_length => exact h.cells_length
  case cell =>
    intro place number found hplace hfound
    have hne : number ≠ record.cell := by
      rintro rfl
      exact hunplaced (List.mem_of_getElem? hplace)
    rw [heffect.cells, if_neg hne] at hfound
    rw [h.cell hplace hfound, renumber_eq hrun hcertificates hfound]
  case taken =>
    intro place number hplace
    obtain ⟨other, found, hfound, hfoundSerial, hcell⟩ := h.taken hplace
    refine ⟨other, found, ?_, hfoundSerial, hcell⟩
    rw [heffect.checks, if_neg, hfound]
    rintro rfl
    exact hbefore found hfound hfoundSerial
  case places_nodup => exact h.places_nodup
  case entry => rw [heffect.lookup, if_neg (Ne.symm hother), h.entry]
  case entries => exact h.entries

/-! ## Events of the serial number -/

theorem of_same (h : Mirrors serialNumber serial places run part)
    (hrun : Consistent keys run)
    (heffect : Effect run next check record cell number?)
    (hserial : record.certificate.serialNumber = serialNumber)
    (htext : record.serial = serial) {place : Nat}
    (hpart :
      Effect part partNext (numberWithin serialNumber next.certificates check)
      { record with cell := place }
      (cell.renumber (numberWithin serialNumber next.certificates)) partNumber?)
    {later : List Nat} (hgrows : places <+: later)
    (hplace : later[place]? = some record.cell) (hnodup : later.Nodup)
    (hcells : partNext.cache.cells.length = later.length)
    (hmem : ∀ number ∈ later, number ∈ places ∨ number = record.cell)
    (hnumber : number? = partNumber?.bind (later[·]?)) {more : List Certificate}
    (hcertificates : next.certificates = run.certificates ++ more)
    (hlength : partNext.checks.length =
      numberWithin serialNumber next.certificates next.checks.length)
    (hbefore : ∀ before, run.checks[check]? = some before →
      before.cell = record.cell) :
    Mirrors serialNumber serial later next partNext := by
  have hkept : ∀ {place number : Nat}, places[place]? = some number →
      later[place]? = some number := by
    intro place number hold
    obtain ⟨new, rfl⟩ := hgrows
    rw [List.getElem?_append_left (List.getElem?_eq_some_iff.mp hold).1, hold]
  have hunique : ∀ {first second number : Nat}, later[first]? = some number →
      later[second]? = some number → first = second := by
    intro first second number hfirst hsecond
    exact (List.getElem?_inj (List.getElem?_eq_some_iff.mp hfirst).1 hnodup).mp
      (hfirst.trans hsecond.symm)
  have hself : next.certificates[check]? = some record.certificate :=
    getElem?_certificates (by rw [heffect.checks, if_pos rfl])
  constructor
  case clears => rw [hpart.clears, heffect.clears, h.clears]
  case checks_length => exact hlength
  case check =>
    intro other found hfound hfoundSerial
    have hfoundCertificate := getElem?_certificates hfound
    rw [heffect.checks] at hfound
    split at hfound
    · rename_i heq
      cases hfound
      cases heq
      exact ⟨place, hplace, by rw [hpart.checks, if_pos rfl]⟩
    · rename_i hne
      obtain ⟨old, hold, hfoundPart⟩ := h.check hfound hfoundSerial
      refine ⟨old, hkept hold, ?_⟩
      rw [hpart.checks, if_neg, number_eq hcertificates, hfoundPart]
      · exact Nat.le_of_lt (List.getElem?_eq_some_iff.mp hfound).1
      · intro heq
        exact hne
          (numberWithin_injective hself hserial hfoundCertificate hfoundSerial heq)
  case cells_length => exact hcells
  case cell =>
    intro spot number found hwhere hfound
    rw [heffect.cells] at hfound
    rw [hpart.cells]
    split at hfound
    · rename_i heq
      cases hfound
      cases heq
      rw [if_pos (hunique hwhere hplace)]
    · rename_i hne
      have hold : places[spot]? = some number := by
        rcases hmem number (List.mem_of_getElem? hwhere) with hold | heq
        · obtain ⟨old, hold⟩ := List.mem_iff_getElem?.mp hold
          rw [hunique hwhere (hkept hold), hold]
        · exact absurd heq hne
      rw [if_neg, h.cell hold hfound, renumber_eq hrun hcertificates hfound]
      rintro rfl
      rw [hplace] at hwhere
      exact hne (Option.some.inj hwhere).symm
  case taken =>
    intro spot number hwhere
    rcases hmem number (List.mem_of_getElem? hwhere) with hold | rfl
    · obtain ⟨old, hold⟩ := List.mem_iff_getElem?.mp hold
      obtain ⟨other, found, hfound, hfoundSerial, hcell⟩ := h.taken hold
      by_cases heq : other = check
      · exact ⟨check, record, by rw [heffect.checks, if_pos rfl], hserial,
          (hbefore found (heq ▸ hfound)).symm.trans hcell⟩
      · exact ⟨other, found, by rw [heffect.checks, if_neg heq, hfound],
          hfoundSerial, hcell⟩
    · exact ⟨check, record, by rw [heffect.checks, if_pos rfl], hserial, rfl⟩
  case places_nodup => exact hnodup
  case entry =>
    have hpartLookup : partNext.cache.entries.lookup serial = partNumber? :=
      (hpart.lookup serial).trans (if_pos htext.symm)
    rw [heffect.lookup, if_pos htext.symm, hpartLookup, hnumber]
  case entries =>
    intro other hother
    have hpartLookup : partNext.cache.entries.lookup other =
        part.cache.entries.lookup other :=
      (hpart.lookup other).trans (if_neg fun heq => hother (heq.trans htext))
    rw [hpartLookup, h.entries other hother]

/-! ## Cells of the serial number -/

theorem number_injective (hrun : Consistent keys run)
    (hrecord : run.checks[check]? = some record)
    (hserial : record.certificate.serialNumber = serialNumber)
    (hcell : run.cache.cells[record.cell]? = some cell) (other : Nat)
    (hheld : cell.isHeldBy other = true)
    (heq : numberWithin serialNumber run.certificates other =
      numberWithin serialNumber run.certificates check) : other = check := by
  obtain ⟨found, hfound, hsame, -⟩ := (hrun.isHeldBy_iff hcell).mp hheld
  have hkey := hrun.key hfound
  rw [hsame, hrun.key hrecord, Option.some.injEq, Prod.mk.injEq] at hkey
  have hfoundSerial := (Certificate.serialText_eq_iff _ _).mp hkey.1
  exact numberWithin_injective (getElem?_certificates hrecord) hserial
    (getElem?_certificates hfound) (hfoundSerial.symm.trans hserial) heq

theorem lookup_eq_some_iff (h : Mirrors serialNumber serial places run part)
    {place number : Nat} (hplace : places[place]? = some number) :
    run.cache.entries.lookup serial = some number ↔
      part.cache.entries.lookup serial = some place := by
  rw [h.entry, Option.bind_eq_some_iff]
  constructor
  · rintro ⟨other, hother, hsame⟩
    have hlt := (List.getElem?_eq_some_iff.mp hsame).1
    rw [hother, (List.getElem?_inj hlt h.places_nodup).mp (hsame.trans hplace.symm)]
  · exact fun hlookup => ⟨place, hlookup, hplace⟩

theorem renumber_current (hrun : Consistent keys run) {more : List Certificate}
    (hcertificates : next.certificates = run.certificates ++ more)
    (serial : String) :
    (run.cache.current serial).renumber
      (numberWithin serialNumber next.certificates) =
      (run.cache.current serial).renumber
        (numberWithin serialNumber run.certificates) := by
  cases hstored : run.cache.stored? serial with
  | none =>
      rw [RevocationCache.current, hstored]
      rfl
  | some cell =>
      obtain ⟨number, -, hcell⟩ := Option.bind_eq_some_iff.mp hstored
      rw [RevocationCache.current, hstored]
      exact renumber_eq hrun hcertificates hcell

theorem exists_takeCell (h : Mirrors serialNumber serial places run part)
    (hrun : Consistent keys run) (hpart : Consistent partKeys part) :
    ∃ later, places <+: later ∧ later.Nodup ∧
      later[(part.cache.takeCell serial).2]? = some (run.cache.takeCell serial).2 ∧
      (∀ number ∈ later, number ∈ places ∨ number = (run.cache.takeCell serial).2) ∧
      (part.cache.takeCell serial).2 ≤ part.cache.cells.length ∧
      max part.cache.cells.length ((part.cache.takeCell serial).2 + 1) =
        later.length ∧
      part.cache.current serial = (run.cache.current serial).renumber
        (numberWithin serialNumber run.certificates) := by
  have hentry := h.entry
  have hlength := h.cells_length
  cases hpartLookup : part.cache.entries.lookup serial with
  | some place =>
      have hpartLt := hpart.lookup_lt hpartLookup
      rw [hlength] at hpartLt
      have hplace := List.getElem?_eq_getElem hpartLt
      rw [hpartLookup, Option.bind_some, hplace] at hentry
      rw [RevocationCache.takeCell_of_lookup hentry,
        RevocationCache.takeCell_of_lookup hpartLookup]
      have hcell := List.getElem?_eq_getElem (hrun.lookup_lt hentry)
      refine ⟨places, List.prefix_refl places, h.places_nodup, hplace,
        fun number hmem => .inl hmem, by omega, by omega, ?_⟩
      rw [RevocationCache.current, RevocationCache.stored?, hpartLookup,
        Option.bind_some, h.cell hplace hcell, RevocationCache.current,
        RevocationCache.stored?, hentry, Option.bind_some, hcell]
      rfl
  | none =>
      rw [hpartLookup, Option.bind_none] at hentry
      rw [RevocationCache.takeCell_of_lookup_none hentry,
        RevocationCache.takeCell_of_lookup_none hpartLookup]
      have hfresh : run.cache.cells.length ∉ places := by
        intro hmem
        have := h.placed_lt hrun hmem
        omega
      refine ⟨places ++ [run.cache.cells.length], List.prefix_append _ _,
        ?_, ?_, ?_, Nat.le_refl _, by simp [hlength], ?_⟩
      · rw [← List.concat_eq_append]
        exact h.places_nodup.concat hfresh
      · simp [hlength]
      · simp
      · rw [RevocationCache.current, RevocationCache.stored?, hpartLookup,
          RevocationCache.current, RevocationCache.stored?, hentry]
        rfl

/-! ## Steps -/

theorem step_clear (h : Mirrors serialNumber serial places run part)
    (hstep : run.step? .clear = some next) :
    ∃ partNext, part.step? .clear = some partNext ∧
      Mirrors serialNumber serial places next partNext ∧
      next.certificates = run.certificates := by
  cases hstep
  refine ⟨_, rfl, ?_, rfl⟩
  exact { h with
    clears := congrArg (· + 1) h.clears
    entry := rfl
    entries := fun other hother => rfl }

theorem entry_of_serial (h : Mirrors serialNumber serial places run part)
    (place : Nat) (hkey : record.serial = serial) :
    run.cache.entries.lookup record.serial =
      (part.cache.entries.lookup { record with cell := place }.serial).bind
        (places[·]?) := by
  have hpartKey : { record with cell := place }.serial = serial := hkey
  rw [hpartKey, hkey]
  exact h.entry

variable (htext : ∀ certificate : Certificate,
  certificate.serialNumber = serialNumber ↔ certificate.serialText = serial)

include htext

theorem step_check (h : Mirrors serialNumber serial places run part)
    (hrun : Consistent keys run) (hrecord : run.checks[check]? = some record)
    (hcell : run.cache.cells[record.cell]? = some cell) (event : Nat → CacheEvent)
    {phase : CheckPhase} {query? : Option QueryState} {after : RevocationCell}
    (heffect : Effect run next check { record with phase, query? } after number?)
    (hmirrored : ∀ place, places[place]? = some record.cell →
      record.certificate.serialNumber = serialNumber →
      part.checks[numberWithin serialNumber run.certificates check]? =
        some { record with cell := place } →
      part.cache.cells[place]? =
        some (cell.renumber (numberWithin serialNumber run.certificates)) →
      ∃ partNext partNumber?,
        part.step? (event (numberWithin serialNumber run.certificates check)) =
          some partNext ∧
        Effect part partNext (numberWithin serialNumber run.certificates check)
          { record with cell := place, phase, query? }
          (after.renumber (numberWithin serialNumber run.certificates))
          partNumber? ∧ number? = partNumber?.bind (places[·]?)) :
    ∃ partNext,
      part.continue? ((CacheEvent.restrict?.number? serialNumber run.certificates
          check).map event).toList = some partNext ∧
      Mirrors serialNumber serial places next partNext ∧
      next.certificates = run.certificates := by
  have hcertificates : next.certificates = run.certificates :=
    heffect.certificates hrecord rfl
  have hlt := (List.getElem?_eq_some_iff.mp hrecord).1
  have hlength := heffect.checks_length (Nat.le_of_lt hlt)
  have hsame : next.checks.length = run.checks.length := by omega
  by_cases hserial : record.certificate.serialNumber = serialNumber
  · obtain ⟨place, hplace, hpartRecord⟩ := h.check hrecord hserial
    have hpartCell := h.cell hplace hcell
    obtain ⟨partNext, partNumber?, hstep, hpartEffect, hnumber⟩ :=
      hmirrored place hplace hserial hpartRecord hpartCell
    have hpartLt := (List.getElem?_eq_some_iff.mp hpartRecord).1
    have hplaceLt := (List.getElem?_eq_some_iff.mp hpartCell).1
    have hpartLength := hpartEffect.checks_length (Nat.le_of_lt hpartLt)
    have hcellsLength := hpartEffect.cells_length (Nat.le_of_lt hplaceLt)
    refine ⟨partNext, ?_, ?_, hcertificates⟩
    · simp [CacheEvent.restrict?.number?, getElem?_certificates hrecord, hserial,
        continue?, hstep]
    · refine h.of_same hrun heffect hserial
        ((htext record.certificate).mp hserial) ?_
        (List.prefix_refl places) hplace h.places_nodup ?_
        (fun number hmem => .inl hmem)
        hnumber (hcertificates.trans (List.append_nil _).symm) ?_ ?_
      · rw [hcertificates]
        exact hpartEffect
      · have := h.cells_length
        simp only at hcellsLength
        omega
      · have := h.checks_length
        rw [hcertificates, hsame]
        omega
      · intro before hbefore
        rw [hrecord] at hbefore
        cases hbefore
        rfl
  · have hunplaced : record.cell ∉ places :=
      h.not_mem_places hrun (hrun.key hrecord) hserial
    refine ⟨part, ?_, ?_, hcertificates⟩
    · simp [CacheEvent.restrict?.number?, getElem?_certificates hrecord, hserial,
        continue?]
    · have hall := hcertificates.trans (List.append_nil _).symm
      refine h.of_other hrun heffect ?_ hunplaced hall ?_ hserial ?_
      · exact fun heq => hserial ((htext record.certificate).mpr heq)
      · rw [hcertificates, hsame]
      · intro before hbefore
        rw [hrecord] at hbefore
        cases hbefore
        exact hserial

theorem step_answer (h : Mirrors serialNumber serial places run part)
    (hrun : Consistent keys run) (hpart : Consistent partKeys part)
    (hrecord : run.checks[check]? = some record) (hphase : record.phase = .asking)
    {reply : Option Bool} (hstep : run.step? (.answer check reply) = some next) :
    ∃ partNext,
      part.continue? ((CacheEvent.answer check reply).restrict? serialNumber
          run.certificates).toList = some partNext ∧
      Mirrors serialNumber serial places next partNext ∧
      next.certificates = run.certificates := by
  obtain ⟨cell, hcell⟩ := hrun.exists_cell hrecord
  obtain ⟨_, hnext, heffect⟩ := hrun.effect_answer hrecord hphase hcell reply
  cases hstep.symm.trans hnext
  refine h.step_check htext hrun hrecord hcell (.answer · reply) heffect
    fun place hplace hserial hpartRecord hpartCell => ?_
  obtain ⟨partNext, hpartStep, hpartEffect⟩ :=
    hpart.effect_answer hpartRecord hphase hpartCell reply
  have hkey : record.serial = serial := (htext record.certificate).mp hserial
  have hlookup := h.lookup_eq_some_iff hplace
  have hwaiting :
      (cell.renumber (numberWithin serialNumber run.certificates)).waiting = [] ↔
      cell.waiting = [] := List.map_eq_nil_iff
  rw [RevocationCache.answer_result part.cache run.cache _ check] at hpartEffect
  refine ⟨partNext, _, hpartStep, hpartEffect, ?_⟩
  have hpartKey : { record with cell := place }.serial = serial := hkey
  rw [hpartKey, hkey]
  simp only [hlookup, hwaiting]
  split
  · rfl
  · exact h.entry

theorem step_resume (h : Mirrors serialNumber serial places run part)
    (hrun : Consistent keys run) (hpart : Consistent partKeys part)
    (hrecord : run.checks[check]? = some record) (hphase : record.phase = .waiting)
    (hstep : run.step? (.resume check) = some next) :
    ∃ partNext, part.continue? ((CacheEvent.resume check).restrict? serialNumber
          run.certificates).toList = some partNext ∧
      Mirrors serialNumber serial places next partNext ∧
      next.certificates = run.certificates := by
  obtain ⟨cell, hcell⟩ := hrun.exists_cell hrecord
  obtain ⟨_, hnext, heffect⟩ := hrun.effect_resume hrecord hphase hcell
  cases hstep.symm.trans hnext
  refine h.step_check htext hrun hrecord hcell .resume heffect
    fun place hplace hserial hpartRecord hpartCell => ?_
  obtain ⟨partNext, hpartStep, hpartEffect⟩ :=
    hpart.effect_resume hpartRecord hphase hpartCell
  rw [RevocationCell.renumber_lookAgain
    (number_injective hrun hrecord hserial hcell)] at hpartEffect
  exact ⟨partNext, _, hpartStep, hpartEffect,
    h.entry_of_serial place ((htext record.certificate).mp hserial)⟩

theorem step_drop (h : Mirrors serialNumber serial places run part)
    (hrun : Consistent keys run) (hpart : Consistent partKeys part)
    (hrecord : run.checks[check]? = some record)
    (hlive : record.phase.isLive = true)
    (hstep : run.step? (.drop check) = some next) :
    ∃ partNext, part.continue? ((CacheEvent.drop check).restrict? serialNumber
          run.certificates).toList = some partNext ∧
      Mirrors serialNumber serial places next partNext ∧
      next.certificates = run.certificates := by
  obtain ⟨cell, hcell⟩ := hrun.exists_cell hrecord
  obtain ⟨_, hnext, heffect⟩ := hrun.effect_drop hrecord hlive hcell
  cases hstep.symm.trans hnext
  refine h.step_check htext hrun hrecord hcell .drop heffect
    fun place hplace hserial hpartRecord hpartCell => ?_
  obtain ⟨partNext, hpartStep, hpartEffect⟩ :=
    hpart.effect_drop hpartRecord hlive hpartCell
  rw [RevocationCell.renumber_leave
    (number_injective hrun hrecord hserial hcell)] at hpartEffect
  exact ⟨partNext, _, hpartStep, hpartEffect,
    h.entry_of_serial place ((htext record.certificate).mp hserial)⟩

theorem step_start (h : Mirrors serialNumber serial places run part)
    (hrun : Consistent keys run) (hpart : Consistent partKeys part)
    (certificate : Certificate) :
    ∃ later partNext,
      part.continue? ((CacheEvent.start certificate).restrict? serialNumber
          run.certificates).toList = some partNext ∧
      Mirrors serialNumber serial later (run.start certificate) partNext ∧
      (run.start certificate).certificates = run.certificates ++ [certificate] := by
  have hcertificates : (run.start certificate).certificates =
      run.certificates ++ [certificate] :=
    List.map_append
  have heffect := hrun.effect_start certificate
  have hlast : (run.start certificate).certificates[run.checks.length]? =
      some certificate := by
    rw [hcertificates, ← length_certificates, List.getElem?_concat_length]
  have hlength : (run.start certificate).checks.length = run.checks.length + 1 := by
    simp [start]
  have hnumber := numberWithin_succ serialNumber hlast
  rw [number_eq hcertificates (Nat.le_refl _)] at hnumber
  have hfirst : run.checks[run.checks.length]? = none := by simp
  by_cases hserial : certificate.serialNumber = serialNumber
  · have hkey := (htext certificate).mp hserial
    obtain ⟨later, hgrows, hnodup, hplace, hmem, hle, hcells, hcurrent⟩ :=
      h.exists_takeCell hrun hpart
    have hpartEffect := hpart.effect_start certificate
    have hpartLength := hpartEffect.checks_length (Nat.le_refl _)
    rw [← hkey] at hplace hmem hle hcells hcurrent
    have hcellsLength := hpartEffect.cells_length hle
    have hsame := h.checks_length
    rw [← number_eq hcertificates (Nat.le_refl _)] at hsame
    rw [hcurrent, ← renumber_current hrun hcertificates, hsame,
      RevocationCell.renumber_enter, h.clears] at hpartEffect
    refine ⟨later, part.start certificate, ?_, ?_, hcertificates⟩
    · simp [CacheEvent.restrict?, hserial, continue?, step?]
    · refine h.of_same hrun heffect hserial hkey hpartEffect hgrows hplace hnodup
        (hcellsLength.trans hcells) hmem ?_ hcertificates ?_
        fun before hbefore => ?_
      · rw [Option.bind_some, hplace]
      · rw [hlength, hnumber, if_pos hserial, ← h.checks_length]
        omega
      · rw [hfirst] at hbefore
        contradiction
  · have hother : certificate.serialText ≠ serial :=
      fun heq => hserial ((htext _).mpr heq)
    have hunplaced : (run.cache.takeCell certificate.serialText).2 ∉ places := by
      cases hlookup : run.cache.entries.lookup certificate.serialText with
      | some number =>
          rw [RevocationCache.takeCell_of_lookup hlookup]
          exact h.not_mem_places hrun (hrun.entry hlookup) hserial
      | none =>
          rw [RevocationCache.takeCell_of_lookup_none hlookup]
          intro hmem
          have := h.placed_lt hrun hmem
          omega
    refine ⟨places, part, ?_, ?_, hcertificates⟩
    · simp [CacheEvent.restrict?, hserial, continue?]
    · refine h.of_other hrun heffect hother hunplaced hcertificates ?_ hserial
        fun before hbefore => ?_
      · rw [hlength, hnumber, if_neg hserial, Nat.add_zero]
      · rw [hfirst] at hbefore
        contradiction

theorem step (h : Mirrors serialNumber serial places run part)
    (hrun : Consistent keys run) (hpart : Consistent partKeys part)
    {event : CacheEvent} (hstep : run.step? event = some next) :
    ∃ later partNext,
      part.continue? (event.restrict? serialNumber run.certificates).toList =
        some partNext ∧ Mirrors serialNumber serial later next partNext ∧
      next.certificates = run.certificates ++ event.started := by
  cases event with
  | start certificate =>
      cases hstep
      exact h.step_start htext hrun hpart certificate
  | answer check reply =>
      have hadvance := hstep
      unfold step? at hadvance
      obtain ⟨record, hrecord, hphase, -⟩ := advance?_eq_some hadvance
      obtain ⟨partNext, hnext, hlater, hsame⟩ :=
        h.step_answer htext hrun hpart hrecord
          ((CheckPhase.isAsking_iff _).mp hphase) hstep
      exact ⟨places, partNext, hnext, hlater, hsame.trans (List.append_nil _).symm⟩
  | resume check =>
      have hadvance := hstep
      unfold step? at hadvance
      obtain ⟨record, hrecord, hphase, -⟩ := advance?_eq_some hadvance
      obtain ⟨partNext, hnext, hlater, hsame⟩ :=
        h.step_resume htext hrun hpart hrecord
          ((CheckPhase.isWaiting_iff _).mp hphase) hstep
      exact ⟨places, partNext, hnext, hlater, hsame.trans (List.append_nil _).symm⟩
  | drop check =>
      have hadvance := hstep
      unfold step? at hadvance
      obtain ⟨record, hrecord, hlive, -⟩ := advance?_eq_some hadvance
      obtain ⟨partNext, hnext, hlater, hsame⟩ :=
        h.step_drop htext hrun hpart hrecord hlive hstep
      exact ⟨places, partNext, hnext, hlater, hsame.trans (List.append_nil _).symm⟩
  | clear =>
      obtain ⟨partNext, hnext, hlater, hsame⟩ := h.step_clear hstep
      refine ⟨places, partNext, ?_, hlater, hsame.trans (List.append_nil _).symm⟩
      simpa [CacheEvent.restrict?, continue?] using hnext

theorem continue? (h : Mirrors serialNumber serial places run part)
    (hrun : Consistent keys run) (hpart : Consistent partKeys part)
    {events : List CacheEvent} {last : CacheRun}
    (hlast : run.continue? events = some last) :
    ∃ later partLast,
      part.continue? (CacheEvent.restrict serialNumber run.certificates events) =
        some partLast ∧
      Mirrors serialNumber serial later last partLast := by
  induction events generalizing run part places keys partKeys with
  | nil =>
      cases hlast
      exact ⟨places, part, rfl, h⟩
  | cons event events ih =>
      obtain ⟨next, hnext, hrest⟩ := Option.bind_eq_some_iff.mp hlast
      obtain ⟨between, partNext, hpartNext, hbetween, hcertificates⟩ :=
        h.step htext hrun hpart hnext
      obtain ⟨nextKeys, hnextRun⟩ := hrun.step hnext
      obtain ⟨partNextKeys, hnextPart⟩ : ∃ keys, Consistent keys partNext :=
        continue?_induction
          (motive := fun current => ∃ keys, Consistent keys current)
          hpartNext ⟨partKeys, hpart⟩ fun ⟨_, hcurrent⟩ hcurrentStep =>
            hcurrent.step hcurrentStep
      obtain ⟨later, partLast, hpartLast, hlater⟩ :=
        ih hbetween hnextRun hnextPart hrest
      refine ⟨later, partLast, ?_, hlater⟩
      rw [CacheEvent.restrict, continue?_append, hpartNext, Option.bind_some,
        ← hcertificates, hpartLast]

end CacheRun.Mirrors

/-! ## Restricted runs -/

structure CheckRecord.SameOutcome (record other : CheckRecord) : Prop where
  certificate : record.certificate = other.certificate
  epoch : record.epoch = other.epoch
  phase : record.phase = other.phase
  query : record.query? = other.query?

namespace CacheRun

/-- A run is what remains of another one without the checks about other
serial numbers. -/
structure Restricts (serialNumber : Int) (run part : CacheRun) : Prop where
  clears : part.clears = run.clears
  checks : List.Forall₂ CheckRecord.SameOutcome part.checks
    (run.checks.filter (·.certificate.serialNumber = serialNumber))
  entry : ∀ certificate : Certificate, certificate.serialNumber = serialNumber →
    part.cache.stored? certificate.serialText =
      (run.cache.stored? certificate.serialText).map
        (RevocationCell.renumber (numberWithin serialNumber run.certificates))
  entries : ∀ certificate : Certificate, certificate.serialNumber ≠ serialNumber →
    part.cache.stored? certificate.serialText = none

theorem Mirrors.restricts {run part : CacheRun} {serialNumber : Int}
    {serial : String} {places : List Nat} {keys : List (String × Nat)}
    (h : Mirrors serialNumber serial places run part) (hrun : Consistent keys run)
    (htext : ∀ certificate : Certificate,
      certificate.serialNumber = serialNumber ↔ certificate.serialText = serial) :
    Restricts serialNumber run part where
  clears := h.clears
  checks := by
    have hlength : part.checks.length =
        (run.checks.filter (·.certificate.serialNumber = serialNumber)).length := by
      rw [h.checks_length, numberWithin, ← length_certificates, List.take_length,
        certificates,
        List.countP_map, ← List.countP_eq_length_filter]
      rfl
    refine List.forall₂_iff_get.mpr ⟨hlength, fun place hpart hfiltered => ?_⟩
    obtain ⟨check, hrecord, hserial, hplace⟩ :=
      exists_of_getElem?_filter (List.getElem?_eq_getElem hfiltered)
    have hnumber : numberWithin serialNumber run.certificates check = place := by
      rw [numberWithin, certificates, ← List.map_take, List.countP_map, ← hplace]
      rfl
    obtain ⟨number, -, hmirrored⟩ := h.check hrecord (of_decide_eq_true hserial)
    rw [hnumber, List.getElem?_eq_getElem hpart, Option.some.injEq] at hmirrored
    rw [List.get_eq_getElem, hmirrored]
    exact ⟨rfl, rfl, rfl, rfl⟩
  entry := by
    intro certificate hserial
    rw [(htext certificate).mp hserial, RevocationCache.stored?,
      RevocationCache.stored?]
    have hentry := h.entry
    cases hlookup : part.cache.entries.lookup serial with
    | none =>
        rw [hlookup, Option.bind_none] at hentry
        rw [hentry]
        rfl
    | some place =>
        rw [hlookup, Option.bind_some] at hentry
        rw [hentry, Option.bind_some]
        cases hplace : places[place]? with
        | none =>
            have hlength := h.cells_length
            have hle := List.getElem?_eq_none_iff.mp hplace
            exact List.getElem?_eq_none_iff.mpr (hlength ▸ hle)
        | some number =>
            have hcell :=
              List.getElem?_eq_getElem (hrun.lookup_lt (hentry.trans hplace))
            rw [h.cell hplace hcell, Option.bind_some, hcell, Option.map_some]
  entries := by
    intro certificate hserial
    rw [RevocationCache.stored?, h.entries _ fun heq =>
      hserial ((htext certificate).mpr heq)]
    rfl

/-- Without the checks about other serial numbers a run goes on as it
does with them. -/
theorem serials_separate {events : List CacheEvent} {run : CacheRun}
    (reached : CacheRun.ofEvents? events = some run) (serialNumber : Int) :
    (∃ part,
      CacheRun.ofEvents? (CacheEvent.restrict serialNumber [] events) = some part ∧
      Restricts serialNumber run part) ∧
      ∀ first second : Certificate,
        first.serialText = second.serialText ↔
          first.serialNumber = second.serialNumber := by
  obtain ⟨keys, hrun⟩ := exists_consistent reached
  have htext : ∀ certificate : Certificate,
      certificate.serialNumber = serialNumber ↔
      certificate.serialText = (Certificate.numbered serialNumber).serialText :=
    fun certificate =>
      (Certificate.serialText_eq_iff certificate (.numbered serialNumber)).symm
  obtain ⟨places, part, hpart, hmirrors⟩ :=
    (Mirrors.initial serialNumber _).continue? htext .initial .initial reached
  exact ⟨⟨part, hpart, hmirrors.restricts hrun htext⟩,
    Certificate.serialText_eq_iff⟩

def interleaved : List CacheEvent :=
  [.start (.numbered (-42)), .start (.numbered 42), .start (.numbered (-42)),
    .start (.numbered 42), .answer 1 none, .drop 0, .resume 2, .resume 3,
    .answer 3 (some true), .start (.numbered 42)]

theorem serials_separate_interleaved :
    ∃ run part, CacheRun.ofEvents? interleaved = some run ∧
      CacheEvent.restrict 42 [] interleaved =
        [.start (.numbered 42), .start (.numbered 42), .answer 0 none, .resume 1,
          .answer 1 (some true), .start (.numbered 42)] ∧
      CacheRun.ofEvents? (CacheEvent.restrict 42 [] interleaved) = some part ∧
      Restricts 42 run part ∧
      run.checks.map (·.query?) = [some .dropped, some .failed, some .inFlight,
        some (.answered true), none] ∧
      part.checks.map (·.query?) = [some .failed, some (.answered true), none] ∧
      run.cache.entries = [("2a", 1), ("-2a", 0)] ∧
      part.cache.entries = [("2a", 0)] := by
  obtain ⟨run, hrun⟩ : ∃ run, CacheRun.ofEvents? interleaved = some run := ⟨_, rfl⟩
  obtain ⟨part, hpart, hrestricts⟩ := (serials_separate hrun 42).1
  refine ⟨run, part, hrun, rfl, hpart, hrestricts, ?_⟩
  cases hrun
  cases hpart
  decide

end CacheRun

end EndpointDiscovery
