import EndpointDiscovery.Proofs.Trust.Decision

/-!
# The search for an issuer

Authorities are asked in turn, and one that cannot judge the signature ends the
search.  It masks an authority that vouches for the certificate if it is asked
before it, so both the result and its dependence on the order come down to whether
there are authorities of both kinds.  Beside an authority that vouches, the only
ones that cannot judge are those whose key leads to the point at infinity.
-/

namespace EndpointDiscovery

/-! ## Searching -/

namespace Certificate

variable {α : Type} {verdict? : α → Option Verdict} {authority : α}
  {authorities : List α}

def searchFault : TrustFault :=
  (Fault.foreign .signatureFailure).addContext
    "signature verification failed unexpectedly"

/-- An authority that vouches is found in every order. -/
def NeverMasks (verdict? : α → Option Verdict) (authorities : List α) : Prop :=
  (∃ authority ∈ authorities, verdict? authority = some .genuine) →
    ∀ order, order.Perm authorities → isVouchedFor verdict? order = .ok true

def IgnoresOrder (verdict? : α → Option Verdict) (authorities : List α) : Prop :=
  ∀ order, order.Perm authorities →
    isVouchedFor verdict? order = isVouchedFor verdict? authorities

structure CanMask (verdict? : α → Option Verdict) (authorities : List α) :
    Prop where
  genuine : ∃ authority ∈ authorities, verdict? authority = some .genuine
  unreadable : ∃ authority ∈ authorities, verdict? authority = some .unreadable

theorem canMask_congr {other? : α → Option Verdict}
    (h : ∀ authority ∈ authorities, verdict? authority = other? authority) :
    CanMask verdict? authorities ↔ CanMask other? authorities := by
  have hexists (verdict : Verdict) :
      (∃ authority ∈ authorities, verdict? authority = some verdict) ↔
        ∃ authority ∈ authorities, other? authority = some verdict :=
    exists_congr fun authority => and_congr_right fun hmem => by
      rw [h authority hmem]
  exact ⟨fun ⟨hgenuine, hunreadable⟩ =>
    ⟨(hexists _).mp hgenuine, (hexists _).mp hunreadable⟩,
    fun ⟨hgenuine, hunreadable⟩ =>
      ⟨(hexists _).mpr hgenuine, (hexists _).mpr hunreadable⟩⟩

theorem isVouchedFor_of_genuine (h : verdict? authority = some .genuine) :
    isVouchedFor verdict? (authority :: authorities) = .ok true := by
  rw [isVouchedFor, h]

theorem isVouchedFor_of_unreadable (h : verdict? authority = some .unreadable) :
    isVouchedFor verdict? (authority :: authorities) = .error searchFault := by
  rw [isVouchedFor, h]
  rfl

theorem isVouchedFor_eq_error
    (hgenuine : ∀ authority ∈ authorities, verdict? authority ≠ some .genuine)
    (hunreadable : ∃ authority ∈ authorities,
      verdict? authority = some .unreadable) :
    isVouchedFor verdict? authorities = .error searchFault := by
  induction authorities with
  | nil =>
      obtain ⟨authority, hmem, -⟩ := hunreadable
      cases hmem
  | cons authority authorities ih =>
      have hrest := ih fun other hother =>
        hgenuine other (List.mem_cons_of_mem authority hother)
      cases hverdict : verdict? authority with
      | none =>
          rw [isVouchedFor, hverdict]
          refine hrest ?_
          simpa [hverdict] using hunreadable
      | some verdict =>
          cases verdict with
          | genuine => exact absurd hverdict (hgenuine authority List.mem_cons_self)
          | forged =>
              rw [isVouchedFor, hverdict]
              refine hrest ?_
              simpa [hverdict] using hunreadable
          | unreadable => exact isVouchedFor_of_unreadable hverdict

theorem isVouchedFor_eq_false
    (hgenuine : ∀ authority ∈ authorities, verdict? authority ≠ some .genuine)
    (hunreadable : ∀ authority ∈ authorities,
      verdict? authority ≠ some .unreadable) :
    isVouchedFor verdict? authorities = .ok false := by
  obtain ⟨vouched, hvouched, hiff⟩ := isVouchedFor_eq_ok hunreadable
  have hnot : ¬vouched = true := by
    intro htrue
    obtain ⟨authority, hmem, hverdict⟩ := hiff.mp htrue
    exact hgenuine authority hmem hverdict
  rw [hvouched, Bool.eq_false_iff.mpr hnot]

theorem exists_order (h : authority ∈ authorities) :
    ∃ others, (authority :: others).Perm authorities := by
  obtain ⟨before, after, rfl⟩ := List.append_of_mem h
  exact ⟨before ++ after, List.perm_middle.symm⟩

theorem neverMasks_iff : NeverMasks verdict? authorities ↔
    ¬CanMask verdict? authorities := by
  constructor
  · rintro h ⟨hgenuine, authority, hmem, hverdict⟩
    obtain ⟨others, horder⟩ := exists_order hmem
    have hfound := h hgenuine _ horder
    rw [isVouchedFor_of_unreadable hverdict] at hfound
    contradiction
  · intro h hgenuine order horder
    have hreadable : ∀ authority ∈ order, verdict? authority ≠ some .unreadable :=
      fun authority hmem hverdict =>
        h ⟨hgenuine, authority, horder.mem_iff.mp hmem, hverdict⟩
    obtain ⟨authority, hmem, hverdict⟩ := hgenuine
    obtain ⟨vouched, hvouched, hiff⟩ := isVouchedFor_eq_ok hreadable
    rw [hvouched, hiff.mpr ⟨authority, horder.mem_iff.mpr hmem, hverdict⟩]

theorem ignoresOrder_iff : IgnoresOrder verdict? authorities ↔
    ¬CanMask verdict? authorities := by
  constructor
  · rintro h ⟨⟨signer, hsigner, hgenuine⟩, other, hother, hunreadable⟩
    obtain ⟨afterSigner, hsignerFirst⟩ := exists_order hsigner
    obtain ⟨afterOther, hotherFirst⟩ := exists_order hother
    have hresults := (h _ hsignerFirst).trans (h _ hotherFirst).symm
    rw [isVouchedFor_of_genuine hgenuine,
      isVouchedFor_of_unreadable hunreadable] at hresults
    contradiction
  · intro h order horder
    by_cases hgenuine : ∃ authority ∈ authorities,
      verdict? authority = some .genuine
    · have hfound := neverMasks_iff.mpr h hgenuine
      rw [hfound order horder, hfound authorities (List.Perm.refl _)]
    · have hnone : ∀ authority ∈ authorities, verdict? authority ≠ some .genuine :=
        fun authority hmem hverdict => hgenuine ⟨authority, hmem, hverdict⟩
      have hnoneReordered : ∀ authority ∈ order,
          verdict? authority ≠ some .genuine :=
        fun authority hmem => hnone authority (horder.mem_iff.mp hmem)
      by_cases hunreadable : ∃ authority ∈ authorities,
        verdict? authority = some .unreadable
      · have hreordered : ∃ authority ∈ order,
            verdict? authority = some .unreadable := by
          simpa only [horder.mem_iff] using hunreadable
        rw [isVouchedFor_eq_error hnoneReordered hreordered,
          isVouchedFor_eq_error hnone hunreadable]
      · have hreadable : ∀ authority ∈ authorities,
            verdict? authority ≠ some .unreadable :=
          fun authority hmem hverdict => hunreadable ⟨authority, hmem, hverdict⟩
        rw [isVouchedFor_eq_false hnone hreadable,
          isVouchedFor_eq_false hnoneReordered
          fun authority hmem => hreadable authority (horder.mem_iff.mp hmem)]

end Certificate

/-! ## Keys without an answer -/

namespace Curve

structure LeadsToInfinity (point : Point) (digest : List UInt8) (r s : Nat) :
    Prop where
  r_pos : r ≠ 0
  r_lt : r < order
  s_pos : s ≠ 0
  s_lt : s < order
  infinite : (signaturePoint point digest r s).z = 0

theorem verifies?_eq_none_iff {point : Point} {digest : List UInt8} {r s : Nat} :
    verifies? point digest r s = none ↔ LeadsToInfinity point digest r s := by
  unfold verifies?
  constructor
  · intro h
    split at h
    · contradiction
    · rename_i hrange
      simp only [not_or, Nat.not_le] at hrange
      obtain ⟨hr, hrlt, hs, hslt⟩ := hrange
      dsimp only at h
      split at h
      · exact ⟨hr, hrlt, hs, hslt, ‹_›⟩
      · contradiction
  · rintro ⟨hr, hrlt, hs, hslt, hinfinite⟩
    rw [if_neg (by omega)]
    exact if_pos hinfinite

end Curve

namespace PublicKey

variable {point : Curve.Point} {key : PublicKey} {digest : Digest}
  {message signature : List UInt8}

theorem exists_of_verdict_eq_genuine
    (h : key.verdict digest message signature = .genuine)
    (hkind : key.kind = .curve) :
    ∃ r s compute, signature ≠ [] ∧ signatureNumbers? signature = some (r, s) ∧
      digest.compute? = some compute := by
  cases key with
  | rsa key => cases hkind
  | curve point =>
      unfold verdict at h
      dsimp only at h
      split at h
      · contradiction
      · rename_i hsome
        split at h
        · contradiction
        · contradiction
        · rename_i r s compute hnumbers hcompute
          exact ⟨r, s, compute, by simpa using hsome, hnumbers, hcompute⟩

theorem verdict_rsa_ne_unreadable (key : Rsa.Key) :
    (PublicKey.rsa key).verdict digest message signature ≠ .unreadable := by
  unfold verdict
  dsimp only
  split
  · simp
  · rename_i compute hcompute
    cases Rsa.verifies key digest.mark (compute message) signature <;>
      simp [Verdict.ofBool]

theorem verdict_curve_eq_unreadable_iff {r s : Nat}
    {compute : List UInt8 → List UInt8} (hsome : signature ≠ [])
    (hnumbers : signatureNumbers? signature = some (r, s))
    (hcompute : digest.compute? = some compute) :
    (PublicKey.curve point).verdict digest message signature = .unreadable ↔
      Curve.LeadsToInfinity point (compute message) r s := by
  have hnonempty : ¬signature.isEmpty = true := by simpa using hsome
  rw [← Curve.verifies?_eq_none_iff, verdict]
  simp only [if_neg hnonempty, hnumbers, hcompute]
  cases Curve.verifies? point (compute message) r s with
  | none => simp
  | some answer => cases answer <;> simp [Verdict.ofBool]

end PublicKey

namespace Certificate

variable {certificate signer other : Certificate} {authorities : List Certificate}

structure Judges (certificate : Certificate) (algorithm : SignatureAlgorithm) :
    Prop where
  same : certificate.algorithm.same certificate.signedAlgorithm = true
  unused : certificate.signature.unused = 0
  algorithm : SignatureAlgorithm.ofOid? certificate.algorithm.oid = some algorithm

theorem Judges.verdict {algorithm : SignatureAlgorithm}
    (h : certificate.Judges algorithm) {key : PublicKey}
    (hkind : algorithm.keyKind = key.kind) :
    certificate.verdict key =
      key.verdict algorithm.digest certificate.signed
        certificate.signature.bytes := by
  rw [Certificate.verdict, if_neg (by simp [h.same]), if_neg (by simp [h.unused]),
    h.algorithm]
  exact if_pos hkind

theorem exists_judges {key : PublicKey} (h : certificate.verdict key = .genuine) :
    ∃ algorithm, certificate.Judges algorithm ∧ algorithm.keyKind = key.kind := by
  unfold Certificate.verdict at h
  split at h
  · contradiction
  · rename_i hsame
    split at h
    · contradiction
    · rename_i hunused
      split at h
      · contradiction
      · rename_i algorithm halgorithm
        split at h
        · exact ⟨algorithm,
            ⟨by simpa using hsame, by simpa using hunused, halgorithm⟩, ‹_›⟩
        · contradiction

theorem exists_key_of_isIssuerOf {algorithm : SignatureAlgorithm}
    (h : certificate.Judges algorithm)
    (hissuer : other.isIssuerOf certificate = true) :
    ∃ key, other.publicKey? = some key ∧ algorithm.keyKind = key.kind := by
  have hoid : certificate.algorithm.oid = certificate.signedAlgorithm.oid := by
    have hsame := h.same
    simp only [Algorithm.same, Bool.and_eq_true, beq_iff_eq] at hsame
    exact hsame.1
  have hkey : other.hasKeyFor certificate = true := by
    unfold isIssuerOf at hissuer
    rw [Bool.and_eq_true] at hissuer
    obtain ⟨-, hfacts⟩ := hissuer
    split at hfacts
    · simp only [Bool.and_eq_true] at hfacts
      exact hfacts.1.2
    · contradiction
  unfold hasKeyFor at hkey
  rw [← hoid, h.algorithm] at hkey
  cases hpublic : other.publicKey? with
  | none => simp [hpublic] at hkey
  | some key =>
      simp only [hpublic, decide_eq_true_eq] at hkey
      exact ⟨key, rfl, hkey.symm⟩

/-- An authority is named as the issuer, but its key gives no answer to
the signature. -/
structure LacksAnswer (authority certificate : Certificate) : Prop where
  issuer : authority.isIssuerOf certificate = true
  key : ∃ point algorithm compute r s, authority.publicKey? = some (.curve point) ∧
    SignatureAlgorithm.ofOid? certificate.algorithm.oid = some algorithm ∧
      algorithm.digest.compute? = some compute ∧
        signatureNumbers? certificate.signature.bytes = some (r, s) ∧
          Curve.LeadsToInfinity point (compute certificate.signed) r s

theorem verdictOf?_eq_unreadable_iff
    (h : certificate.verdictOf? signer = some .genuine) :
    certificate.verdictOf? other = some .unreadable ↔
      other.LacksAnswer certificate := by
  obtain ⟨-, signerKey, -, hgenuine⟩ := verdictOf?_eq_genuine_iff.mp h
  obtain ⟨algorithm, hjudges, hsignerKind⟩ := exists_judges hgenuine
  rw [hjudges.verdict hsignerKind] at hgenuine
  constructor
  · intro hunreadable
    have hissuer : other.isIssuerOf certificate = true := by
      by_contra hnot
      simp [verdictOf?, hnot] at hunreadable
    obtain ⟨key, hkey, hkind⟩ := exists_key_of_isIssuerOf hjudges hissuer
    simp only [verdictOf?, hissuer, if_true, hkey, Option.map_some,
      Option.getD_some, hjudges.verdict hkind, Option.some.injEq] at hunreadable
    cases key with
    | rsa key => exact absurd hunreadable (PublicKey.verdict_rsa_ne_unreadable key)
    | curve point =>
        obtain ⟨r, s, compute, hsome, hnumbers, hcompute⟩ :=
          PublicKey.exists_of_verdict_eq_genuine hgenuine
            (hsignerKind.symm.trans hkind)
        rw [PublicKey.verdict_curve_eq_unreadable_iff hsome hnumbers
          hcompute] at hunreadable
        exact ⟨hissuer, point, algorithm, compute, r, s, hkey, hjudges.algorithm,
          hcompute, hnumbers, hunreadable⟩
  · rintro ⟨hissuer, point, found, compute, r, s, hkey, hfound, hcompute, hnumbers,
      hinfinite⟩
    rw [hjudges.algorithm, Option.some.injEq] at hfound
    subst hfound
    obtain ⟨key, hkey', hkind⟩ := exists_key_of_isIssuerOf hjudges hissuer
    rw [hkey, Option.some.injEq] at hkey'
    subst hkey'
    obtain ⟨-, -, -, hsome, -, -⟩ :=
      PublicKey.exists_of_verdict_eq_genuine hgenuine (hsignerKind.symm.trans hkind)
    simp only [verdictOf?, hissuer, if_true, hkey, Option.map_some,
      Option.getD_some, hjudges.verdict hkind, Option.some.injEq]
    exact (PublicKey.verdict_curve_eq_unreadable_iff hsome hnumbers hcompute).mpr
      hinfinite

theorem canMask_iff : CanMask certificate.verdictOf? authorities ↔
    certificate.IsIssuedByOneOf authorities ∧
      ∃ authority ∈ authorities, authority.LacksAnswer certificate := by
  have hissued :
      (∃ authority ∈ authorities,
        certificate.verdictOf? authority = some .genuine) ↔
      certificate.IsIssuedByOneOf authorities := by
    simp only [verdictOf?_eq_genuine_iff]
    rfl
  constructor
  · rintro ⟨hgenuine, other, hother, hunreadable⟩
    obtain ⟨signer, -, hsigner⟩ := id hgenuine
    exact ⟨hissued.mp hgenuine, other, hother,
      (verdictOf?_eq_unreadable_iff hsigner).mp hunreadable⟩
  · rintro ⟨hgenuine, other, hother, hlacks⟩
    obtain ⟨signer, -, hsigner⟩ := hissued.mpr hgenuine
    exact ⟨hissued.mpr hgenuine, other, hother,
      (verdictOf?_eq_unreadable_iff hsigner).mpr hlacks⟩

/-! ## Masking -/

/-- Whatever the authorities answer, the search masks one that vouches, and depends
on the order, exactly if another one cannot judge.  Where the answers are those of
keys on P-256 and of RSA keys under the digests that `Digest.compute?` knows, that
is so exactly if the key of an authority has no answer to a signature that another
authority has made. -/
theorem masks_iff_lacks_answer (verdict? : Certificate → Option Verdict)
    (certificate : Certificate) (authorities : List Certificate) :
    (NeverMasks verdict? authorities ↔ ¬CanMask verdict? authorities) ∧
      (IgnoresOrder verdict? authorities ↔ ¬CanMask verdict? authorities) ∧
        ((∀ authority ∈ authorities,
          verdict? authority = certificate.verdictOf? authority) →
          (CanMask verdict? authorities ↔
            certificate.IsIssuedByOneOf authorities ∧
              ∃ authority ∈ authorities, authority.LacksAnswer certificate)) :=
  ⟨neverMasks_iff, ignoresOrder_iff, fun hanswers =>
    (canMask_congr hanswers).trans canMask_iff⟩

def ofCurveKey (x y : Nat) : Certificate :=
  let content : List UInt8 := [0x2A, 0x86, 0x48, 0xCE, 0x3D, 0x03, 0x01, 0x07]
  { Certificate.numbered 1 with
    key :=
      ⟨⟨PublicKey.curveOid,
        some ⟨.universal 6, false, content, Asn1.encode 0x06 content⟩⟩,
        ⟨0, 4 :: (Bytes.bigEndian 32 x ++ Bytes.bigEndian 32 y)⟩⟩ }

def firstAuthority : Certificate :=
  .ofCurveKey Curve.generator.x Curve.generator.y

/-- An authority whose secret is the one at which the signature of `signedByFirst`
has no answer. -/
def unansweringAuthority : Certificate :=
  .ofCurveKey 0x8d7470cddec861e03dc0f8a3e8901174a7ae34ed2a4cafc567ba2e03413b6dca
    0x479130b103907fc495e603da63507e3c0787fea0ca6b44ea9b71303ebaeacec7

def signedByFirst : Certificate :=
  let algorithm : Algorithm := ⟨[1, 2, 840, 10045, 4, 3, 2], none⟩
  let r := Curve.generator.x
  let s := (Bytes.toNat (Sha256.digest []) + r) % Curve.order
  { Certificate.numbered 2 with
    signedAlgorithm := algorithm
    algorithm
    signature := ⟨0, Asn1.encode 0x30 (encodeNatural r ++ encodeNatural s)⟩ }

theorem verdictOf?_firstAuthority :
    signedByFirst.verdictOf? firstAuthority = some .genuine := by
  decide +kernel

theorem verdictOf?_unansweringAuthority :
    signedByFirst.verdictOf? unansweringAuthority = some .unreadable := by
  decide +kernel

theorem not_neverMasks_unansweringAuthority :
    ¬NeverMasks signedByFirst.verdictOf? [unansweringAuthority, firstAuthority] ∧
      signedByFirst.hasTrustedIssuer [firstAuthority, unansweringAuthority] =
        .ok true ∧
        signedByFirst.hasTrustedIssuer [unansweringAuthority, firstAuthority] =
          .error searchFault := by
  have hmask : CanMask signedByFirst.verdictOf?
      [unansweringAuthority, firstAuthority] :=
    ⟨⟨firstAuthority, by simp, verdictOf?_firstAuthority⟩,
      ⟨unansweringAuthority, by simp, verdictOf?_unansweringAuthority⟩⟩
  have hmasks := masks_iff_lacks_answer signedByFirst.verdictOf? signedByFirst
    [unansweringAuthority, firstAuthority]
  refine ⟨fun hnever => hmasks.1.mp hnever hmask, ?_, ?_⟩
  · exact isVouchedFor_of_genuine verdictOf?_firstAuthority
  · exact isVouchedFor_of_unreadable verdictOf?_unansweringAuthority

end Certificate

end EndpointDiscovery
