import EndpointDiscovery.Proofs.Time.WrittenTime
import EndpointDiscovery.Proofs.Trust.Decision
import Mathlib.Logic.Relation

/-!
# The period of validity

The two ends of a period are written as dates of a calendar, and an instant is a
number of seconds.  The seconds that the ends denote decide, if the second of the
instant can be written as a date too.
-/

namespace EndpointDiscovery

inductive CheckResult.Passes : CheckResult → CheckResult → Prop where
  | begun : Passes .notYetValid .valid
  | over : Passes .valid .expired

namespace Certificate

variable {certificate : Certificate} {instant : Instant} {first last : Int}

/-- Some time denotes the whole second of an instant. -/
def IsExpressible (instant : Instant) : Prop :=
  ∃ time : Asn1.Time, time.Denotes instant.seconds

theorem isComparable_iff : isComparable instant = true ↔ IsExpressible instant := by
  have hleast := CivilDate.le_year_of_seconds_iff 0 instant.seconds
  have hmost := CivilDate.le_year_of_seconds_iff 10000 instant.seconds
  rw [IsExpressible, Asn1.Time.exists_denotes_iff]
  unfold isComparable Instant.secondsPerDay
  rw [Bool.and_eq_true, decide_eq_true_iff, decide_eq_true_iff]
  omega

theorem checkValidity_of_not_expressible (certificate : Certificate)
    (h : ¬IsExpressible instant) :
    certificate.checkValidity instant = .error (.foreign .invalidCertificate) := by
  rw [← isComparable_iff] at h
  rw [checkValidity, if_neg h]

theorem checkValidity_of_expressible (hfirst : certificate.notBefore.Denotes first)
    (hlast : certificate.notAfter.Denotes last) (hinstant : IsExpressible instant) :
    certificate.checkValidity instant =
      .ok (if instant.seconds < first then .notYetValid
        else if last < instant.seconds then .expired else .valid) := by
  rw [← Asn1.Time.seconds?_eq_some_iff] at hfirst hlast
  have hreadable : certificate.IsReadable [] instant first last :=
    ⟨by simp, isComparable_iff.mpr hinstant, hfirst, hlast⟩
  exact hreadable.checkValidity

theorem isExpressible_of_checkValidity {result : CheckResult}
    (h : certificate.checkValidity instant = .ok result) :
    IsExpressible instant := by
  by_contra hinstant
  simp [checkValidity_of_not_expressible certificate hinstant] at h

/-- What is found about a period that begins with the second `first` and ends with
the second `last`. -/
structure JudgesPeriod (certificate : Certificate) (first last : Int) : Prop where
  notYetValid_iff : ∀ instant, IsExpressible instant →
    (certificate.checkValidity instant = .ok .notYetValid ↔ instant.seconds < first)
  expired_iff : ∀ instant, IsExpressible instant →
    (certificate.checkValidity instant = .ok .expired ↔
      first ≤ instant.seconds ∧ last < instant.seconds)
  valid_iff : ∀ instant, IsExpressible instant →
    (certificate.checkValidity instant = .ok .valid ↔
      first ≤ instant.seconds ∧ instant.seconds ≤ last)
  bounds_valid : first ≤ last → ∀ nanoseconds,
    certificate.checkValidity ⟨first, nanoseconds⟩ = .ok .valid ∧
      certificate.checkValidity ⟨last, nanoseconds⟩ = .ok .valid
  whole_seconds : ∀ seconds nanoseconds others,
    certificate.checkValidity ⟨seconds, nanoseconds⟩ =
      certificate.checkValidity ⟨seconds, others⟩
  never_valid : last < first → ∀ instant,
    certificate.checkValidity instant ≠ .ok .valid
  advances : first ≤ last → ∀ earlier later : Instant, earlier ≤ later →
    IsExpressible earlier → IsExpressible later → ∃ before after,
      certificate.checkValidity earlier = .ok before ∧
        certificate.checkValidity later = .ok after ∧
        Relation.ReflTransGen CheckResult.Passes before after
  valid_between : first ≤ last → ∀ earlier later : Instant,
    certificate.checkValidity earlier = .ok .notYetValid →
    certificate.checkValidity later = .ok .expired → ∃ between : Instant,
      earlier ≤ between ∧ between ≤ later ∧
      certificate.checkValidity between = .ok .valid
  /-- An instant without a date is taken for a flaw of the certificate. -/
  inexpressible : ∀ instant, ¬IsExpressible instant →
    certificate.checkValidity instant = .error (.foreign .invalidCertificate)

theorem judges_period (hfirst : certificate.notBefore.Denotes first)
    (hlast : certificate.notAfter.Denotes last) :
    certificate.JudgesPeriod first last := by
  have hresult : ∀ {instant : Instant},
      IsExpressible instant → certificate.checkValidity instant =
      .ok (if instant.seconds < first then .notYetValid
        else if last < instant.seconds then .expired else .valid) :=
    checkValidity_of_expressible hfirst hlast
  have hvalid : ∀ instant, IsExpressible instant →
      (certificate.checkValidity instant = .ok .valid ↔
        first ≤ instant.seconds ∧ instant.seconds ≤ last) := by
    intro instant hinstant
    rw [hresult hinstant]
    split_ifs <;> simp <;> omega
  have hnotYetValid : ∀ instant, IsExpressible instant →
      (certificate.checkValidity instant = .ok .notYetValid ↔
        instant.seconds < first) := by
    intro instant hinstant
    rw [hresult hinstant]
    split_ifs <;> simp <;> omega
  have hexpired : ∀ instant, IsExpressible instant →
      (certificate.checkValidity instant = .ok .expired ↔
        first ≤ instant.seconds ∧ last < instant.seconds) := by
    intro instant hinstant
    rw [hresult hinstant]
    split_ifs <;> simp <;> omega
  refine ⟨hnotYetValid, hexpired, hvalid, ?_, fun _ _ _ => rfl, ?_, ?_, ?_,
    fun _ => checkValidity_of_not_expressible certificate⟩
  · intro hle nanoseconds
    exact ⟨(hvalid _ ⟨_, hfirst⟩).mpr ⟨Int.le_refl _, hle⟩,
      (hvalid _ ⟨_, hlast⟩).mpr ⟨hle, Int.le_refl _⟩⟩
  · intro hlt instant h
    have := (hvalid instant (isExpressible_of_checkValidity h)).mp h
    omega
  · intro hle earlier later horder hearlier hlater
    refine ⟨_, _, hresult hearlier, hresult hlater, ?_⟩
    -- Instants in one second get the same answer, whatever their fractions.
    have hseconds : earlier.seconds ≤ later.seconds := by
      rcases horder with hlt | ⟨heq, -⟩ <;> omega
    have hbegun := Relation.ReflTransGen.single CheckResult.Passes.begun
    have hover := Relation.ReflTransGen.single CheckResult.Passes.over
    split_ifs <;>
      first
      | omega
      | exact .refl
      | exact hbegun
      | exact hover
      | exact hbegun.trans hover
  · intro hle earlier later hearlier hlater
    have hbefore :=
      (hnotYetValid earlier (isExpressible_of_checkValidity hearlier)).mp hearlier
    have hafter :=
      (hexpired later (isExpressible_of_checkValidity hlater)).mp hlater
    exact ⟨⟨first, 0⟩, .inl hbefore, .inl (lt_of_le_of_lt hle hafter.2),
      (hvalid _ ⟨_, hfirst⟩).mpr ⟨Int.le_refl _, hle⟩⟩

theorem not_reportsRange_yearTenThousand :
    Certificate.postbox.notBefore.Denotes 1735689600 ∧
      Certificate.postbox.notAfter.Denotes 1798761599 ∧
      ¬IsExpressible ⟨253402300800, 0⟩ ∧
      Certificate.postbox.checkValidity ⟨253402300800, 0⟩ =
        .error (.foreign .invalidCertificate) ∧
      Certificate.postbox.checkValidity ⟨253402300800, 0⟩ ≠
        .error
          ((Fault.foreign .signatureFailure).addContext
            "instant out of range") := by
  have hfirst : Certificate.postbox.notBefore.Denotes 1735689600 :=
    Asn1.Time.denotes_of_seconds? (by decide +kernel)
  have hlast : Certificate.postbox.notAfter.Denotes 1798761599 :=
    Asn1.Time.denotes_of_seconds? (by decide +kernel)
  have hinstant : ¬IsExpressible ⟨253402300800, 0⟩ := by
    rw [← isComparable_iff]
    decide
  have hresult := (judges_period hfirst hlast).inexpressible _ hinstant
  refine ⟨hfirst, hlast, hinstant, hresult, ?_⟩
  rw [hresult]
  simp [Fault.foreign, Fault.addContext]

end Certificate

end EndpointDiscovery
