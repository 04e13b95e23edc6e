import EndpointDiscovery.Proofs.Revocation.CheckerPart
import EndpointDiscovery.Proofs.Revocation.Rest

/-!
# The decision about a certificate

A check asks for the issuer first, then for the period of validity, then for
revocation.  What comes later has no say in what was decided before.
-/

namespace EndpointDiscovery

/-! ## Issuers -/

namespace Certificate

variable {certificate : Certificate} {authorities : List Certificate}
  {instant : Instant} {first last : Int}

/-- One of some authorities is named as the issuer, and its key verifies
the signature. -/
def IsIssuedByOneOf (certificate : Certificate)
    (authorities : List Certificate) : Prop :=
  ∃ authority ∈ authorities, authority.isIssuerOf certificate = true ∧
    ∃ key, authority.publicKey? = some key ∧ certificate.verdict key = .genuine

theorem verdictOf?_eq_genuine_iff {authority : Certificate} :
    certificate.verdictOf? authority = some .genuine ↔
      authority.isIssuerOf certificate = true ∧
        ∃ key, authority.publicKey? = some key ∧
          certificate.verdict key = .genuine := by
  unfold verdictOf?
  cases authority.isIssuerOf certificate with
  | false => simp
  | true => cases authority.publicKey? <;> simp

theorem isVouchedFor_eq_ok {α : Type} {verdict? : α → Option Verdict}
    {authorities : List α}
    (h : ∀ authority ∈ authorities, verdict? authority ≠ some .unreadable) :
    ∃ vouched, isVouchedFor verdict? authorities = .ok vouched ∧
      (vouched = true ↔ ∃ authority ∈ authorities,
        verdict? authority = some .genuine) := by
  induction authorities with
  | nil => exact ⟨false, rfl, by simp⟩
  | cons authority authorities ih =>
      obtain ⟨vouched, hvouched, hiff⟩ :=
        ih fun other hother => h other (List.mem_cons_of_mem authority hother)
      cases hverdict : verdict? authority with
      | none =>
          exact ⟨vouched, by rw [isVouchedFor, hverdict, hvouched],
            by simp [hverdict, hiff]⟩
      | some verdict =>
          cases verdict with
          | genuine =>
              exact ⟨true, by rw [isVouchedFor, hverdict], by simp [hverdict]⟩
          | forged =>
              exact ⟨vouched, by rw [isVouchedFor, hverdict, hvouched],
                by simp [hverdict, hiff]⟩
          | unreadable => exact absurd hverdict (h authority List.mem_cons_self)

/-- Nothing that the decision needs is unreadable: the signature under every key
that it is held against, the instant, and the two ends of the period. -/
structure IsReadable (certificate : Certificate) (authorities : List Certificate)
    (instant : Instant) (first last : Int) : Prop where
  verdicts : ∀ authority ∈ authorities,
    certificate.verdictOf? authority ≠ some .unreadable
  instant : isComparable instant = true
  notBefore : certificate.notBefore.seconds? = some first
  notAfter : certificate.notAfter.seconds? = some last

theorem hasTrustedIssuer_eq_ok
    (h : ∀ authority ∈ authorities,
      certificate.verdictOf? authority ≠ some .unreadable) :
    ∃ issued, certificate.hasTrustedIssuer authorities = .ok issued ∧
      (issued = true ↔ certificate.IsIssuedByOneOf authorities) := by
  obtain ⟨vouched, hvouched, hiff⟩ := isVouchedFor_eq_ok h
  refine ⟨vouched, hvouched, hiff.trans ?_⟩
  simp only [verdictOf?_eq_genuine_iff]
  rfl

/-! ## Validity -/

theorem IsReadable.checkValidity
    (h : certificate.IsReadable authorities instant first last) :
    certificate.checkValidity instant =
      .ok (if instant.seconds < first then .notYetValid
        else if last < instant.seconds then .expired else .valid) := by
  simp only [Certificate.checkValidity, if_pos h.instant, h.notBefore, h.notAfter]
  split <;> rfl

theorem IsReadable.checkIssuance_of_not_issued
    (h : certificate.IsReadable authorities instant first last)
    (hissued : ¬certificate.IsIssuedByOneOf authorities) :
    certificate.checkIssuance authorities instant = .ok .untrustedIssuer := by
  obtain ⟨issued, hresult, hiff⟩ := hasTrustedIssuer_eq_ok h.verdicts
  have hfalse : issued = false := Bool.eq_false_iff.mpr fun htrue =>
    hissued (hiff.mp htrue)
  rw [checkIssuance, hresult, hfalse]
  rfl

theorem IsReadable.checkIssuance_of_issued
    (h : certificate.IsReadable authorities instant first last)
    (hissued : certificate.IsIssuedByOneOf authorities) :
    certificate.checkIssuance authorities instant =
      certificate.checkValidity instant := by
  obtain ⟨issued, hresult, hiff⟩ := hasTrustedIssuer_eq_ok h.verdicts
  rw [checkIssuance, hresult, hiff.mpr hissued]
  rfl

structure Passes (certificate : Certificate) (authorities : List Certificate)
    (instant : Instant) (first last : Int) : Prop where
  issued : certificate.IsIssuedByOneOf authorities
  begun : first ≤ instant.seconds
  lasting : instant.seconds ≤ last

theorem IsReadable.checkIssuance_ne_error
    (h : certificate.IsReadable authorities instant first last)
    (fault : TrustFault) :
    certificate.checkIssuance authorities instant ≠ .error fault := by
  by_cases hissued : certificate.IsIssuedByOneOf authorities
  · rw [h.checkIssuance_of_issued hissued, h.checkValidity]
    simp
  · rw [h.checkIssuance_of_not_issued hissued]
    simp

theorem IsReadable.checkIssuance_eq_untrustedIssuer_iff
    (h : certificate.IsReadable authorities instant first last) :
    certificate.checkIssuance authorities instant = .ok .untrustedIssuer ↔
      ¬certificate.IsIssuedByOneOf authorities := by
  by_cases hissued : certificate.IsIssuedByOneOf authorities
  · rw [h.checkIssuance_of_issued hissued, h.checkValidity]
    split_ifs <;> simp [hissued]
  · simp [h.checkIssuance_of_not_issued hissued, hissued]

theorem IsReadable.checkIssuance_eq_notYetValid_iff
    (h : certificate.IsReadable authorities instant first last) :
    certificate.checkIssuance authorities instant = .ok .notYetValid ↔
      certificate.IsIssuedByOneOf authorities ∧ instant.seconds < first := by
  by_cases hissued : certificate.IsIssuedByOneOf authorities
  · rw [h.checkIssuance_of_issued hissued, h.checkValidity]
    split_ifs <;> simp [*]
  · simp [h.checkIssuance_of_not_issued hissued, hissued]

theorem IsReadable.checkIssuance_eq_expired_iff
    (h : certificate.IsReadable authorities instant first last) :
    certificate.checkIssuance authorities instant = .ok .expired ↔
      certificate.IsIssuedByOneOf authorities ∧ first ≤ instant.seconds ∧
        last < instant.seconds := by
  by_cases hissued : certificate.IsIssuedByOneOf authorities
  · rw [h.checkIssuance_of_issued hissued, h.checkValidity]
    split_ifs with hearly hlate
    · simp [Int.not_le.mpr hearly]
    · simp [hissued, Int.not_lt.mp hearly, hlate]
    · simp [hlate]
  · simp [h.checkIssuance_of_not_issued hissued, hissued]

theorem IsReadable.checkIssuance_eq_valid_iff
    (h : certificate.IsReadable authorities instant first last) :
    certificate.checkIssuance authorities instant = .ok .valid ↔
      certificate.Passes authorities instant first last := by
  have hpasses : certificate.Passes authorities instant first last ↔
      certificate.IsIssuedByOneOf authorities ∧ first ≤ instant.seconds ∧
        instant.seconds ≤ last :=
    ⟨fun h => ⟨h.issued, h.begun, h.lasting⟩, fun h => ⟨h.1, h.2.1, h.2.2⟩⟩
  rw [hpasses]
  by_cases hissued : certificate.IsIssuedByOneOf authorities
  · rw [h.checkIssuance_of_issued hissued, h.checkValidity]
    split_ifs with hearly hlate
    · simp [Int.not_le.mpr hearly]
    · simp [Int.not_le.mpr hlate]
    · simp [hissued, Int.not_lt.mp hearly, Int.not_lt.mp hlate]
  · simp [h.checkIssuance_of_not_issued hissued, hissued]

theorem IsReadable.checkIssuance_congr
    (h : certificate.IsReadable authorities instant first last)
    {others : List Certificate}
    (hmem : ∀ authority, authority ∈ others ↔ authority ∈ authorities) :
    certificate.checkIssuance others instant =
      certificate.checkIssuance authorities instant := by
  have hothers : certificate.IsReadable others instant first last :=
    ⟨fun authority hother => h.verdicts authority ((hmem authority).mp hother),
      h.instant, h.notBefore, h.notAfter⟩
  have hissued : certificate.IsIssuedByOneOf others ↔
      certificate.IsIssuedByOneOf authorities := by
    simp only [IsIssuedByOneOf, hmem]
  by_cases hauthorities : certificate.IsIssuedByOneOf authorities
  · rw [hothers.checkIssuance_of_issued (hissued.mpr hauthorities),
      h.checkIssuance_of_issued hauthorities]
  · rw [hothers.checkIssuance_of_not_issued (mt hissued.mp hauthorities),
      h.checkIssuance_of_not_issued hauthorities]

end Certificate

/-! ## Checks -/

namespace Checker

variable {checker : Checker} {certificate : Certificate} {instant : Instant}
  {state : CheckerState} {first last : Int}

theorem check_of_valid
    (h : certificate.checkIssuance checker.caSet.certificates instant = .ok .valid)
    (state : CheckerState) :
    checker.check certificate instant state =
      ((checker.revocationStatus certificate state).1,
        (checker.revocationStatus certificate state).2.map resultOfStatus) := by
  rw [check, h]

theorem check_of_ne_valid (checker : Checker)
    (h : certificate.checkIssuance checker.caSet.certificates instant ≠ .ok .valid)
    (state : CheckerState) :
    checker.check certificate instant state =
      (state, certificate.checkIssuance checker.caSet.certificates instant) := by
  unfold check
  split
  · exact absurd ‹_› h
  · rfl

theorem check_eq_iff {outcome : Except TrustFault CheckResult} :
    (checker.check certificate instant state).2 = outcome ↔
      certificate.checkIssuance checker.caSet.certificates instant = .ok .valid ∧
        (checker.revocationStatus certificate state).2.map resultOfStatus =
          outcome ∨
      certificate.checkIssuance checker.caSet.certificates instant ≠ .ok .valid ∧
        certificate.checkIssuance checker.caSet.certificates instant = outcome := by
  by_cases h :
      certificate.checkIssuance checker.caSet.certificates instant = .ok .valid
  · rw [check_of_valid h]
    simp [h]
  · rw [check_of_ne_valid checker h]
    simp [h]

theorem map_resultOfStatus_eq_ok_iff {status? : Except TrustFault RevocationStatus}
    {result : CheckResult} :
    status?.map resultOfStatus = .ok result ↔
      ∃ status, status? = .ok status ∧ resultOfStatus status = result := by
  cases status? <;> simp [Except.map]

theorem map_resultOfStatus_eq_error_iff
    {status? : Except TrustFault RevocationStatus} {fault : TrustFault} :
    status?.map resultOfStatus = .error fault ↔ status? = .error fault := by
  cases status? <;> simp [Except.map]

theorem check_eq_ok_iff {result : CheckResult} (hvalid : result ≠ .valid)
    (hrevoked : result ≠ .revoked) :
    (checker.check certificate instant state).2 = .ok result ↔
      certificate.checkIssuance checker.caSet.certificates instant =
        .ok result := by
  have hstatus : ∀ status, resultOfStatus status ≠ result := by
    intro status
    cases hflag : status.isRevoked <;>
      simp [resultOfStatus, hflag, hvalid.symm, hrevoked.symm]
  rw [check_eq_iff, map_resultOfStatus_eq_ok_iff]
  constructor
  · rintro (⟨-, status, -, hresult⟩ | ⟨-, hissuance⟩)
    · exact absurd hresult (hstatus status)
    · exact hissuance
  · intro hissuance
    exact .inr ⟨by simp [hissuance, hvalid], hissuance⟩

theorem check_eq_revoked_iff :
    (checker.check certificate instant state).2 = .ok .revoked ↔
      certificate.checkIssuance checker.caSet.certificates instant = .ok .valid ∧
        ∃ status, (checker.revocationStatus certificate state).2 = .ok status ∧
          status.isRevoked = true := by
  rw [check_eq_iff, map_resultOfStatus_eq_ok_iff]
  simp [resultOfStatus, checkIssuance_ne_revoked]

theorem check_eq_valid_iff :
    (checker.check certificate instant state).2 = .ok .valid ↔
      certificate.checkIssuance checker.caSet.certificates instant = .ok .valid ∧
        ∃ status, (checker.revocationStatus certificate state).2 = .ok status ∧
          status.isRevoked = false := by
  rw [check_eq_iff, map_resultOfStatus_eq_ok_iff]
  simp [resultOfStatus]

theorem check_eq_error_iff {fault : TrustFault} :
    (checker.check certificate instant state).2 = .error fault ↔
      certificate.checkIssuance checker.caSet.certificates instant = .error fault ∨
        certificate.checkIssuance checker.caSet.certificates instant = .ok .valid ∧
          (checker.revocationStatus certificate state).2 = .error fault := by
  rw [check_eq_iff, map_resultOfStatus_eq_error_iff, or_comm]
  refine or_congr_left (and_iff_right_of_imp fun hissuance => ?_)
  simp [hissuance]

theorem isTrusted_eq_true_iff {now : Instant} :
    (checker.isTrusted certificate now state).2 = .ok true ↔
      (checker.check certificate now state).2 = .ok .valid := by
  have hmap : (checker.isTrusted certificate now state).2 =
      (checker.check certificate now state).2.map CheckResult.isValid := rfl
  rw [hmap]
  cases (checker.check certificate now state).2 with
  | error fault => simp [Except.map]
  | ok result => simp [Except.map, CheckResult.isValid]

/-! ## Failures -/

theorem isVouchedFor_error {α : Type} {verdict? : α → Option Verdict}
    {authorities : List α} {fault : TrustFault}
    (h : Certificate.isVouchedFor verdict? authorities = .error fault) :
    fault.cause = .signatureFailure := by
  induction authorities with
  | nil => cases h
  | cons authority authorities ih =>
      rw [Certificate.isVouchedFor] at h
      split at h
      · cases h
      · cases h
        rfl
      · exact ih h
      · exact ih h

theorem checkValidity_error {fault : TrustFault}
    (h : certificate.checkValidity instant = .error fault) :
    fault.cause = .invalidCertificate := by
  unfold Certificate.checkValidity at h
  repeat' split at h
  all_goals cases h
  all_goals rfl

theorem checkIssuance_error {authorities : List Certificate} {fault : TrustFault}
    (h : certificate.checkIssuance authorities instant = .error fault) :
    fault.cause = .signatureFailure ∨ fault.cause = .invalidCertificate := by
  unfold Certificate.checkIssuance at h
  cases hissuer : certificate.hasTrustedIssuer authorities with
  | error found =>
      rw [hissuer] at h
      cases h
      exact .inl (isVouchedFor_error hissuer)
  | ok issued =>
      rw [hissuer] at h
      cases issued with
      | false => cases h
      | true => exact .inr (checkValidity_error h)

theorem answer_error {cache : RevocationCache} {number : Nat} {serial : String}
    {reply : Option Bool} {fault : TrustFault}
    (h : (cache.answer number serial reply).2 = .error fault) :
    reply = none ∧ fault.cause = .revocationCheckUnavailable serial := by
  cases reply with
  | some revoked => cases h
  | none =>
      cases h
      exact ⟨rfl, rfl⟩

theorem revocationStatus_error {fault : TrustFault}
    (h : (checker.revocationStatus certificate state).2 = .error fault) :
    fault.cause = .revocationCheckUnavailable certificate.serialText := by
  unfold revocationStatus at h
  dsimp only at h
  split at h
  · cases h
  · exact (answer_error h).2
  · cases h
    rfl

/-! ## The decision -/

/-- What a check comes to where the period of validity reaches from
`first` to `last`. -/
structure Decides (checker : Checker) (certificate : Certificate)
    (instant : Instant) (state : CheckerState) (first last : Int) : Prop where
  untrustedIssuer :
    (checker.check certificate instant state).2 = .ok .untrustedIssuer ↔
    ¬certificate.IsIssuedByOneOf checker.caSet.certificates
  notYetValid : (checker.check certificate instant state).2 = .ok .notYetValid ↔
    certificate.IsIssuedByOneOf checker.caSet.certificates ∧ instant.seconds < first
  expired : (checker.check certificate instant state).2 = .ok .expired ↔
    certificate.IsIssuedByOneOf checker.caSet.certificates ∧
    first ≤ instant.seconds ∧ last < instant.seconds
  revoked : (checker.check certificate instant state).2 = .ok .revoked ↔
    certificate.Passes checker.caSet.certificates instant first last ∧
      ∃ status, (checker.revocationStatus certificate state).2 = .ok status ∧
        status.isRevoked = true
  valid : (checker.check certificate instant state).2 = .ok .valid ↔
    certificate.Passes checker.caSet.certificates instant first last ∧
      ∃ status, (checker.revocationStatus certificate state).2 = .ok status ∧
        status.isRevoked = false
  failed : ∀ fault, (checker.check certificate instant state).2 = .error fault ↔
    certificate.Passes checker.caSet.certificates instant first last ∧
      (checker.revocationStatus certificate state).2 = .error fault
  /-- Otherwise neither the source nor what is known by then plays a part. -/
  undisturbed : ¬certificate.Passes checker.caSet.certificates instant first last →
    ∀ source other,
      Checker.check ⟨checker.caSet, source⟩ certificate instant other =
      (other, (checker.check certificate instant state).2)
  /-- Nor do they while other checks are in progress. -/
  undisturbedStart :
    ¬certificate.Passes checker.caSet.certificates instant first last →
    ∀ source other now wrap,
      Checker.startCheck ⟨checker.caSet, source⟩ now certificate instant wrap
          other =
        (other,
          .finished (.ofExcept wrap (checker.check certificate instant state).2))
  reordered : ∀ caSet : CaSet,
    (∀ authority, authority ∈ caSet.certificates ↔
      authority ∈ checker.caSet.certificates) →
    Checker.check ⟨caSet, checker.source⟩ certificate instant state =
      checker.check certificate instant state
  trusted : (checker.isTrusted certificate instant state).2 = .ok true ↔
    (checker.check certificate instant state).2 = .ok .valid
  /-- While no other check is in progress, the revocation status is what is known of
  the serial number, or else the answer of the source. -/
  statusAtRest : state.cache.AtRest →
    (checker.revocationStatus certificate state).2 =
      checker.statusAtRest certificate state
  restKept : state.cache.AtRest →
    (checker.check certificate instant state).1.cache.AtRest

theorem startCheck_of_ne_valid (checker : Checker)
    (h : certificate.checkIssuance checker.caSet.certificates instant ≠ .ok .valid)
    (now : Nat) (wrap : CheckResult → ActionResult) (state : CheckerState) :
    checker.startCheck now certificate instant wrap state =
      (state, .finished
        (.ofExcept wrap
          (certificate.checkIssuance checker.caSet.certificates instant))) := by
  unfold startCheck
  split
  · exact absurd ‹_› h
  · rfl

/-- The issuer is decided before the period, the period before revocation. -/
theorem check_decides
    (h : certificate.IsReadable checker.caSet.certificates instant first last)
    (state : CheckerState) :
    checker.Decides certificate instant state first last where
  untrustedIssuer :=
    (check_eq_ok_iff (by simp) (by simp)).trans
      h.checkIssuance_eq_untrustedIssuer_iff
  notYetValid :=
    (check_eq_ok_iff (by simp) (by simp)).trans h.checkIssuance_eq_notYetValid_iff
  expired :=
    (check_eq_ok_iff (by simp) (by simp)).trans h.checkIssuance_eq_expired_iff
  revoked := by rw [check_eq_revoked_iff, h.checkIssuance_eq_valid_iff]
  valid := by rw [check_eq_valid_iff, h.checkIssuance_eq_valid_iff]
  failed fault := by
    rw [check_eq_error_iff, h.checkIssuance_eq_valid_iff]
    simp [h.checkIssuance_ne_error]
  undisturbed hpasses source other := by
    have hvalid := mt h.checkIssuance_eq_valid_iff.mp hpasses
    rw [check_of_ne_valid checker hvalid state]
    exact check_of_ne_valid ⟨checker.caSet, source⟩ hvalid other
  undisturbedStart hpasses source other now wrap := by
    have hvalid := mt h.checkIssuance_eq_valid_iff.mp hpasses
    rw [check_of_ne_valid checker hvalid state]
    exact startCheck_of_ne_valid ⟨checker.caSet, source⟩ hvalid now wrap other
  reordered caSet hmem := by
    unfold check
    rw [h.checkIssuance_congr hmem]
    rfl
  trusted := isTrusted_eq_true_iff
  statusAtRest := revocationStatus_atRest
  restKept := atRest_check

end Checker

/-! ## An authority with a new key

The authority `currentAuthority` has the name of `formerAuthority`, but another key,
with which it has signed `postbox`. -/

namespace Certificate

def otherAuthorityDer : List UInt8 := [
  0x308201353081dca003020102020101300a06082a8648ce3d04030230123110300e060355,
  0x04030c0754657374204341301e170d3230303130313030303030305a170d343931323331,
  0x3233353935395a30123110300e06035504030c07546573742043413059301306072a8648,
  0xce3d020106082a8648ce3d0301070342000476ae1474a54621219c55ed8945f45f5ec344,
  0x33537d2d2ecdbb62f4142747b10395bb4c348cc5b7fce0e917cf86205e660b3b68d79c1a,
  0xfad36a5da77ad0b6974ca3233021300f0603551d130101ff040530030101ff300e060355,
  0x1d0f0101ff040403020106300a06082a8648ce3d04030203480030450221009bd288131f,
  0xa15b197f2179bca93b492dcc0558721b13ca8867778ec4df43dd0502205868c9ecc6638b,
  0xfcfaf8d5041640f1945e5f7106c863645a51d587c03e94c8420000000000000000000000
].flatMap (Bytes.bigEndian 36)

def formerAuthorityDer : List UInt8 := [
  0x308201343081daa003020102020102300a06082a8648ce3d0403023011310f300d060355,
  0x04030c06534d50204341301e170d3230303130313030303030305a170d32393132333132,
  0x33353935395a3011310f300d06035504030c06534d502043413059301306072a8648ce3d,
  0x020106082a8648ce3d030107034200044dea67d9f4e147e1b9dd8502e870fbd844a88711,
  0x3154f6d99c574e90ee2c3d9040e026536272c713ae47c2094dba25428ea5f4caa0bd21de,
  0x84ea94dd62e9a8c6a3233021300f0603551d130101ff040530030101ff300e0603551d0f,
  0x0101ff040403020106300a06082a8648ce3d0403020349003046022100e418f209a6b65b,
  0x9db03c71d67869ffcaff54c3531b69f4c51b7c9782ea4e189d022100d01911fb700441b2,
  0x32a3c3c7a8f0c59a99bc1ad300b65d53a5af2ec599137c82000000000000000000000000
].flatMap (Bytes.bigEndian 36)

def currentAuthorityDer : List UInt8 := [
  0x308201343081daa003020102020103300a06082a8648ce3d0403023011310f300d060355,
  0x04030c06534d50204341301e170d3234303130313030303030305a170d33393132333132,
  0x33353935395a3011310f300d06035504030c06534d502043413059301306072a8648ce3d,
  0x020106082a8648ce3d03010703420004f3275f2c229d91f4182e480b62dd7cad5f99e2b6,
  0xe92ed76feec3abd10982453c3c98993e2715f9d75ec777aaae29c6d7ec243fd61174c805,
  0x3e55d8a6a06fce47a3233021300f0603551d130101ff040530030101ff300e0603551d0f,
  0x0101ff040403020106300a06082a8648ce3d040302034900304602210090f436d2adc5d1,
  0x0ed915b77846805d38362de214d3799093cfacfffed61fc137022100fe98c7326a6d1729,
  0x7709de770d69b6d99ed54b287476b939796d55cf982df9e0000000000000000000000000
].flatMap (Bytes.bigEndian 36)

def postboxDer : List UInt8 := [
  0x308201253081cca00302010202012b300a06082a8648ce3d0403023011310f300d060355,
  0x04030c06534d50204341301e170d3235303130313030303030305a170d32363132333132,
  0x33353935395a30143112301006035504030c09504f503030303034323059301306072a86,
  0x48ce3d020106082a8648ce3d03010703420004cff8c92ba9ab72b2bde08af32ec67131dc,
  0x5a33813ec0450704d286cbc5e5c45fe9b83a49db78cd2b62d5b39804e21e3a5782bae864,
  0x3c0dac1fee8ac199050b13a3123010300e0603551d0f0101ff040403020780300a06082a,
  0x8648ce3d0403020348003045022100c098719da9581861730937eb2561f65e0a4dfc8c35,
  0x2bbfab0240115f90aa15d6022065e85ac1a50bf8a4251fb410fc36c04fe5a652b57e30f3,
  0x17e06fd8b200bccff9000000000000000000000000000000000000000000000000000000
].flatMap (Bytes.bigEndian 36)

def otherAuthority : Certificate :=
  (ofDer? otherAuthorityDer).get (by decide +kernel)

def formerAuthority : Certificate :=
  (ofDer? formerAuthorityDer).get (by decide +kernel)

def currentAuthority : Certificate :=
  (ofDer? currentAuthorityDer).get (by decide +kernel)

def postbox : Certificate :=
  (ofDer? postboxDer).get (by decide +kernel)

theorem verdictOf?_otherAuthority : postbox.verdictOf? otherAuthority = none := by
  decide +kernel

theorem verdictOf?_formerAuthority :
    postbox.verdictOf? formerAuthority = some .forged := by
  decide +kernel

theorem verdictOf?_currentAuthority :
    postbox.verdictOf? currentAuthority = some .genuine := by
  decide +kernel

end Certificate

def Checker.afterRollOver : Checker where
  caSet := ⟨"", [.otherAuthority, .formerAuthority, .currentAuthority], by simp⟩
  source := .asks fun _ _ => ⟨some true, 50⟩

def CheckerState.knowing (serial : String) : CheckerState where
  cache :=
    { cells := [{ revoked? := some false }], entries := [(serial, 0)],
      started := 1 }

theorem CheckerState.atRest_knowing (serial : String) :
    (knowing serial).cache.AtRest where
  placed := by simp [knowing]
  free := by simp [knowing]

theorem Certificate.serialText_postbox : postbox.serialText = "2b" := by
  decide +kernel

theorem Checker.check_decides_postbox :
    Certificate.postbox.IsReadable afterRollOver.caSet.certificates
      ⟨1767268800, 0⟩ 1735689600 1798761599 ∧
      (afterRollOver.check .postbox ⟨1767268800, 0⟩ (.knowing "2a")).2 =
        .ok .revoked ∧
      (afterRollOver.check .postbox ⟨1767268800, 0⟩ (.knowing "2b")).2 =
        .ok .valid := by
  have hreadable : Certificate.postbox.IsReadable afterRollOver.caSet.certificates
      ⟨1767268800, 0⟩ 1735689600 1798761599 := by
    refine ⟨?_, by decide +kernel, by decide +kernel, by decide +kernel⟩
    simp [afterRollOver, Certificate.verdictOf?_otherAuthority,
      Certificate.verdictOf?_formerAuthority,
      Certificate.verdictOf?_currentAuthority]
  have hissued :
      Certificate.postbox.IsIssuedByOneOf afterRollOver.caSet.certificates :=
    ⟨.currentAuthority, by simp [afterRollOver],
      Certificate.verdictOf?_eq_genuine_iff.mp
        Certificate.verdictOf?_currentAuthority⟩
  have hpasses : Certificate.postbox.Passes afterRollOver.caSet.certificates
      ⟨1767268800, 0⟩ 1735689600 1798761599 := ⟨hissued, by decide, by decide⟩
  have hstatus (serial : String) :=
    (check_decides hreadable (.knowing serial)).statusAtRest
      (CheckerState.atRest_knowing serial)
  simp only [statusAtRest, Certificate.serialText_postbox] at hstatus
  refine ⟨hreadable, ?_, ?_⟩
  · exact (check_decides hreadable _).revoked.mpr
      ⟨hpasses, .fresh true, hstatus "2a", rfl⟩
  · exact (check_decides hreadable _).valid.mpr
      ⟨hpasses, .cachedValid, hstatus "2b", rfl⟩

end EndpointDiscovery
