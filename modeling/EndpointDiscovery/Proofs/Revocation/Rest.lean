import EndpointDiscovery.Proofs.Revocation.Consistency
import EndpointDiscovery.Trust.Checker

/-!
# Caches at rest

Where checks do not overlap, nothing is in progress between them.  Then a check can
only fail because its own question is not answered.
-/

namespace EndpointDiscovery

namespace RevocationCache

/-- No check is in progress. -/
structure AtRest (cache : RevocationCache) : Prop where
  placed : ∀ entry ∈ cache.entries, entry.2 < cache.cells.length
  free : ∀ cell ∈ cache.cells, cell.asking? = none ∧ cell.waiting = []

def known? (cache : RevocationCache) (serial : String) : Option Bool := do
  let number ← cache.entries.lookup serial
  let cell ← cache.cells[number]?
  cell.revoked?

variable {cache : RevocationCache} {serial : String} {number check : Nat}

theorem atRest_empty : AtRest {} where
  placed := by simp
  free := by simp

theorem AtRest.lookup_lt (h : cache.AtRest)
    (hlookup : cache.entries.lookup serial = some number) :
    number < cache.cells.length := by
  obtain ⟨before, after, hentries, -⟩ := List.lookup_eq_some_iff.mp hlookup
  exact h.placed (serial, number) (by simp [hentries])

theorem AtRest.addCell (h : cache.AtRest) (serial : String) :
    AtRest { cache with
      cells := cache.cells ++ [{}]
      entries := (serial, cache.cells.length) :: cache.entries } where
  placed entry hentry := by
    obtain rfl | hentry := List.mem_cons.mp hentry
    · simp
    · have := h.placed entry hentry
      simp only [List.length_append]
      omega
  free cell hcell := by
    obtain hcell | hcell := List.mem_append.mp hcell
    · exact h.free cell hcell
    · rw [List.mem_singleton.mp hcell]
      exact ⟨rfl, rfl⟩

theorem start_of_known {revoked : Bool}
    (hknown : cache.known? serial = some revoked) :
    cache.start serial =
      ({ cache with started := cache.started + 1 }, .done (.cached revoked)) := by
  simp only [known?, Option.bind_eq_bind, Option.bind_eq_some_iff] at hknown
  obtain ⟨number, hlookup, cell, hcell, hrevoked⟩ := hknown
  have htaken :
      ({ cache with started := cache.started + 1 } :
        RevocationCache).takeCell serial =
      ({ cache with started := cache.started + 1 }, number) :=
    takeCell_of_lookup hlookup
  simp only [start, htaken, hcell, hrevoked]

theorem AtRest.start_of_unknown (h : cache.AtRest)
    (hunknown : cache.known? serial = none) :
    ∃ (taken : RevocationCache) (number : Nat),
      taken.AtRest ∧ number < taken.cells.length ∧
      cache.start serial =
        (taken.modifyCell number ({ · with asking? := some cache.started }),
          .asks) := by
  let counted : RevocationCache := { cache with started := cache.started + 1 }
  have hcounted : counted.AtRest := ⟨h.placed, h.free⟩
  cases hlookup : cache.entries.lookup serial with
  | none =>
      have hcountedLookup : counted.entries.lookup serial = none := hlookup
      have htaken := takeCell_of_lookup_none hcountedLookup
      refine ⟨_, cache.cells.length, hcounted.addCell serial, by simp [counted], ?_⟩
      simp [start, htaken, counted]
  | some number =>
      have hlt := h.lookup_lt hlookup
      have htaken : counted.takeCell serial = (counted, number) :=
        takeCell_of_lookup hlookup
      have hcell := List.getElem?_eq_getElem hlt
      obtain ⟨hasking, hwaiting⟩ := h.free _ (List.getElem_mem hlt)
      have hrevoked : cache.cells[number].revoked? = none := by
        simpa [known?, hlookup, hcell] using hunknown
      refine ⟨counted, number, hcounted, hlt, ?_⟩
      simp [start, htaken, counted, hcell, hrevoked, hasking, hwaiting]

theorem AtRest.cellOf?_asking (h : cache.AtRest)
    (hnumber : number < cache.cells.length) (check : Nat) :
    (cache.modifyCell number ({ · with asking? := some check })).cellOf? check =
      some number := by
  have hcell :
      (cache.modifyCell number ({ · with asking? := some check })).cells[number]? =
      some { cache.cells[number] with asking? := some check } := by
    rw [cells_modifyCell, if_pos rfl, List.getElem?_eq_getElem hnumber]
    rfl
  apply cellOf?_eq_some hcell
  · simp [RevocationCell.isHeldBy]
  · intro place other hother hheld
    by_contra hne
    rw [cells_modifyCell, if_neg hne] at hother
    obtain ⟨hasking, hwaiting⟩ := h.free other (List.mem_of_getElem? hother)
    rw [RevocationCell.isHeldBy_iff, hasking, hwaiting] at hheld
    simp at hheld

theorem AtRest.release (h : cache.AtRest) (revoked? : Option Bool) :
    AtRest
      ((cache.modifyCell number ({ · with asking? := some check })).modifyCell
        number ({ · with revoked?, asking? := none })) where
  placed entry hentry := by
    rw [cells_length_modifyCell, cells_length_modifyCell]
    exact h.placed entry hentry
  free cell hcell := by
    obtain ⟨place, hplace⟩ := List.mem_iff_getElem?.mp hcell
    rw [cells_modifyCell, cells_modifyCell] at hplace
    split at hplace
    · simp only [Option.map_map, Option.map_eq_some_iff] at hplace
      obtain ⟨held, hheld, rfl⟩ := hplace
      exact ⟨rfl, (h.free held (List.mem_of_getElem? hheld)).2⟩
    · exact h.free cell (List.mem_of_getElem? hplace)

theorem AtRest.discardUnused (h : cache.AtRest) (serial : String) (number : Nat) :
    (cache.discardUnused serial number).AtRest := by
  unfold RevocationCache.discardUnused
  split
  · exact ⟨fun entry hentry =>
      h.placed entry (List.mem_of_mem_filter hentry), h.free⟩
  · exact h

theorem AtRest.answer (h : cache.AtRest) (hnumber : number < cache.cells.length)
    (reply : Option Bool) :
    ((cache.modifyCell number ({ · with asking? := some check })).answer
      check serial reply).1.AtRest := by
  have hcell := h.cellOf?_asking hnumber check
  cases reply with
  | some revoked =>
      simp only [RevocationCache.answer, hcell]
      exact h.release (some revoked)
  | none =>
      simp only [RevocationCache.answer, hcell]
      exact (h.release none).discardUnused serial number

end RevocationCache

namespace Checker

variable {checker : Checker} {certificate : Certificate} {state : CheckerState}
  {instant : Instant}

/-- What is known of the serial number, or else the answer of the source. -/
def statusAtRest (checker : Checker) (certificate : Certificate)
    (state : CheckerState) :
    Except TrustFault RevocationStatus :=
  match state.cache.known? certificate.serialText with
  | some revoked => .ok (.cached revoked)
  | none =>
      match (checker.source.ask certificate state).2.revoked? with
      | some revoked => .ok (.fresh revoked)
      | none =>
          .error (.foreign (.revocationCheckUnavailable certificate.serialText))

def resultAtRest (checker : Checker) (certificate : Certificate) (instant : Instant)
    (state : CheckerState) : Except TrustFault CheckResult :=
  match certificate.checkIssuance checker.caSet.certificates instant with
  | .ok .valid => (checker.statusAtRest certificate state).map resultOfStatus
  | result => result

theorem revocationStatus_of_known {revoked : Bool}
    (h : state.cache.known? certificate.serialText = some revoked) :
    checker.revocationStatus certificate state =
      ({ state with
        cache := { state.cache with started := state.cache.started + 1 } },
        .ok (.cached revoked)) := by
  simp only [revocationStatus, RevocationCache.start_of_known h]

theorem answer_snd (cache : RevocationCache) (check : Nat) (serial : String)
    (reply : Option Bool) :
    (cache.answer check serial reply).2 =
      match reply with
      | some revoked => .ok (.fresh revoked)
      | none => .error (.foreign (.revocationCheckUnavailable serial)) := by
  cases reply <;> rfl

theorem reply_ask (source : RevocationSource) (cache : RevocationCache) :
    (source.ask certificate { state with cache }).2 =
      (source.ask certificate state).2 := by
  cases source <;> rfl

theorem revocationStatus_atRest (h : state.cache.AtRest) :
    (checker.revocationStatus certificate state).2 =
      checker.statusAtRest certificate state := by
  cases hknown : state.cache.known? certificate.serialText with
  | some revoked => rw [revocationStatus_of_known hknown, statusAtRest, hknown]
  | none =>
      obtain ⟨taken, number, -, -, hstart⟩ := h.start_of_unknown hknown
      simp only [revocationStatus, hstart, answer_snd, statusAtRest, hknown,
        reply_ask]

theorem check_atRest (h : state.cache.AtRest) :
    (checker.check certificate instant state).2 =
      checker.resultAtRest certificate instant state := by
  unfold check resultAtRest
  cases certificate.checkIssuance checker.caSet.certificates instant with
  | error fault => rfl
  | ok result => cases result <;> simp only [revocationStatus_atRest h]

theorem revocationStatus_error_iff (h : state.cache.AtRest) :
    (∃ fault, (checker.revocationStatus certificate state).2 = .error fault) ↔
      state.cache.known? certificate.serialText = none ∧
        ∃ reply, checker.source = .asks reply ∧
          (reply state.asked certificate).revoked? = none := by
  rw [revocationStatus_atRest h, statusAtRest]
  cases state.cache.known? certificate.serialText with
  | some revoked => simp
  | none =>
      cases checker.source with
      | unchecked => simp [RevocationSource.ask]
      | asks reply =>
          cases hreply : (reply state.asked certificate).revoked? <;>
            simp [RevocationSource.ask, hreply]

theorem atRest_revocationStatus (h : state.cache.AtRest) :
    (checker.revocationStatus certificate state).1.cache.AtRest := by
  cases hknown : state.cache.known? certificate.serialText with
  | some revoked =>
      rw [revocationStatus_of_known hknown]
      exact ⟨h.placed, h.free⟩
  | none =>
      obtain ⟨taken, number, htaken, hnumber, hstart⟩ := h.start_of_unknown hknown
      simp only [revocationStatus, hstart]
      cases checker.source with
      | unchecked => exact htaken.answer hnumber _
      | asks reply => exact htaken.answer hnumber _

theorem atRest_check (h : state.cache.AtRest) :
    (checker.check certificate instant state).1.cache.AtRest := by
  unfold check
  split
  · exact atRest_revocationStatus h
  · exact h

end Checker

end EndpointDiscovery
