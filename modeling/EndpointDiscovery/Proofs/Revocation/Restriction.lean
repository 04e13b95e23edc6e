import EndpointDiscovery.Proofs.Revocation.Effect

/-!
# Runs restricted to a serial number

Without the checks about other serial numbers a run has fewer checks, which get
other numbers.  A restricted run treats the checks that are left, and the cell that
is kept for them, as the whole run does.
-/

namespace EndpointDiscovery

/-! ## Numbers of checks -/

/-- The number that a check has if only checks about a serial number are counted. -/
def numberWithin (serialNumber : Int) (certificates : List Certificate)
    (check : Nat) : Nat :=
  (certificates.take check).countP (·.serialNumber = serialNumber)

section

variable {serialNumber : Int} {certificates : List Certificate} {check other : Nat}
  {certificate otherCertificate : Certificate}

theorem numberWithin_append (serialNumber : Int) (more : List Certificate)
    (h : check ≤ certificates.length) :
    numberWithin serialNumber (certificates ++ more) check =
      numberWithin serialNumber certificates check := by
  rw [numberWithin, List.take_append_of_le_length h, numberWithin]

theorem numberWithin_succ (serialNumber : Int)
    (h : certificates[check]? = some certificate) :
    numberWithin serialNumber certificates (check + 1) =
      numberWithin serialNumber certificates check +
        if certificate.serialNumber = serialNumber then 1 else 0 := by
  simp [numberWithin, List.take_add_one, h, List.countP_append,
    List.countP_singleton]

theorem numberWithin_mono (serialNumber : Int) (certificates : List Certificate)
    (h : check ≤ other) :
    numberWithin serialNumber certificates check ≤
      numberWithin serialNumber certificates other :=
  ((List.take_prefix_take_left h).sublist).countP_le

theorem numberWithin_lt (hcheck : certificates[check]? = some certificate)
    (hserial : certificate.serialNumber = serialNumber) (hlt : check < other) :
    numberWithin serialNumber certificates check <
      numberWithin serialNumber certificates other := by
  have hsucc := numberWithin_succ serialNumber hcheck
  rw [if_pos hserial] at hsucc
  have hmono : numberWithin serialNumber certificates (check + 1) ≤
      numberWithin serialNumber certificates other := numberWithin_mono _ _ hlt
  omega

theorem numberWithin_injective (hcheck : certificates[check]? = some certificate)
    (hserial : certificate.serialNumber = serialNumber)
    (hother : certificates[other]? = some otherCertificate)
    (hotherSerial : otherCertificate.serialNumber = serialNumber)
    (heq : numberWithin serialNumber certificates other =
      numberWithin serialNumber certificates check) : other = check := by
  rcases Nat.lt_trichotomy check other with hlt | rfl | hgt
  · have := numberWithin_lt hcheck hserial hlt
    omega
  · rfl
  · have := numberWithin_lt hother hotherSerial hgt
    omega

theorem exists_of_getElem?_filter {α : Type} {p : α → Bool} {items : List α}
    {place : Nat} {item : α} (h : (items.filter p)[place]? = some item) :
    ∃ number, items[number]? = some item ∧ p item = true ∧
      (items.take number).countP p = place := by
  induction items generalizing place with
  | nil => simp at h
  | cons first items ih =>
      rw [List.filter_cons] at h
      split at h
      · rename_i hfirst
        cases place with
        | zero =>
            cases h
            exact ⟨0, rfl, hfirst, rfl⟩
        | succ place =>
            obtain ⟨number, hnumber, hitem, hcount⟩ := ih h
            exact ⟨number + 1, hnumber, hitem, by simp [hfirst, hcount]⟩
      · rename_i hfirst
        obtain ⟨number, hnumber, hitem, hcount⟩ := ih h
        exact ⟨number + 1, hnumber, hitem, by simp [hfirst, hcount]⟩

end

/-! ## Events -/

namespace CacheEvent

def started : CacheEvent → List Certificate
  | .start certificate => [certificate]
  | .answer .. | .resume _ | .drop _ | .clear => []

/-- The event as it happens without the checks about other serial numbers, unless it
belongs to one of them. -/
def restrict? (serialNumber : Int) (certificates : List Certificate) :
    CacheEvent → Option CacheEvent
  | .start certificate =>
      if certificate.serialNumber = serialNumber then
        some (.start certificate)
      else
        none
  | .answer check reply => (number? check).map (.answer · reply)
  | .resume check => (number? check).map .resume
  | .drop check => (number? check).map .drop
  | .clear => some .clear
where
  number? (check : Nat) : Option Nat :=
    if (certificates[check]?).any (·.serialNumber = serialNumber) then
      some (numberWithin serialNumber certificates check)
    else
      none

def restrict (serialNumber : Int) (certificates : List Certificate) :
    List CacheEvent → List CacheEvent
  | [] => []
  | event :: events =>
      (event.restrict? serialNumber certificates).toList ++
        restrict serialNumber (certificates ++ event.started) events

end CacheEvent

/-! ## Cells -/

namespace RevocationCell

def renumber (number : Nat → Nat) (cell : RevocationCell) : RevocationCell :=
  { cell with asking? := cell.asking?.map number,
              waiting := cell.waiting.map number }

variable {cell : RevocationCell} {number : Nat → Nat} {check : Nat}

theorem renumber_congr {other : Nat → Nat}
    (h : ∀ check, cell.isHeldBy check = true → number check = other check) :
    cell.renumber number = cell.renumber other := by
  simp only [isHeldBy_iff] at h
  rw [renumber, renumber, mk.injEq]
  refine ⟨rfl, Option.map_congr fun check hcheck => h check (.inl ?_),
    List.map_congr_left fun check hcheck => h check (.inr hcheck)⟩
  simpa using hcheck

theorem renumber_enter (cell : RevocationCell) (number : Nat → Nat) (check : Nat) :
    (cell.renumber number).enter (number check) =
      ((cell.enter check).1.renumber number, (cell.enter check).2) := by
  unfold enter
  cases hrevoked : cell.revoked? with
  | some revoked => simp [renumber, hrevoked]
  | none =>
      by_cases hfree : (cell.asking?.isNone && cell.waiting.isEmpty) = true
      · have hrenumbered : ((cell.renumber number).asking?.isNone &&
            (cell.renumber number).waiting.isEmpty) = true := by
          simpa [renumber] using hfree
        simp only [hfree, hrenumbered]
        simp [renumber, hrevoked]
      · have hrenumbered : ¬((cell.renumber number).asking?.isNone &&
            (cell.renumber number).waiting.isEmpty) = true := by
          simpa [renumber] using hfree
        simp only [hfree, hrenumbered]
        simp [renumber, hrevoked]

theorem filter_renumber
    (h : ∀ other ∈ cell.waiting, number other = number check → other = check) :
    (cell.waiting.map number).filter (· ≠ number check) =
      (cell.waiting.filter (· ≠ check)).map number := by
  rw [List.filter_map]
  congr 1
  refine List.filter_congr fun other hother => ?_
  have := h other hother
  simp only [Function.comp_apply, decide_eq_decide]
  grind

theorem renumber_leave
    (h : ∀ other, cell.isHeldBy other = true → number other = number check →
      other = check) :
    (cell.renumber number).leave (number check) =
      (cell.leave check).renumber number := by
  simp only [isHeldBy_iff] at h
  have hwaiting := filter_renumber fun other hother => h other (.inr hother)
  simp only [leave, renumber, hwaiting, mk.injEq, and_true, true_and]
  rcases Option.eq_none_or_eq_some cell.asking? with hasking | ⟨other, hasking⟩
  · simp [hasking]
  · have := h other (.inl hasking)
    simp only [hasking, Option.map_some, Option.some.injEq]
    grind

theorem renumber_lookAgain (h : ∀ other, cell.isHeldBy other = true →
      number other = number check → other = check) :
    (cell.renumber number).lookAgain (number check) =
      ((cell.lookAgain check).1.renumber number, (cell.lookAgain check).2) := by
  simp only [isHeldBy_iff] at h
  have hwaiting := filter_renumber fun other hother => h other (.inr hother)
  have hturn : (cell.waiting.map number).head? = some (number check) ↔
      cell.waiting.head? = some check := by
    rw [List.head?_map]
    cases hhead : cell.waiting.head? with
    | none => simp
    | some other =>
        have := h other (.inr (List.mem_of_head? hhead))
        grind
  unfold lookAgain
  cases hrevoked : cell.revoked? with
  | some revoked => simp only [renumber, hrevoked, hwaiting]
  | none =>
      simp only [renumber, hrevoked, hturn, hwaiting, Option.isNone_map]
      split
      · rfl
      · simp only [hrevoked]

end RevocationCell

end EndpointDiscovery
