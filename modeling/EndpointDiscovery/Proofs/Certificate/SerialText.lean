import EndpointDiscovery.Proofs.Asn1.ElementCodec
import EndpointDiscovery.Proofs.Bytes.Digits
import EndpointDiscovery.Trust.Decision

/-!
# Texts of serial numbers

The text of a serial number tells the number, whatever its sign.
-/

namespace EndpointDiscovery

/-! ## Serial numbers -/

namespace Certificate

variable {first second : Certificate}

def magnitudeBytes (certificate : Certificate) : List UInt8 :=
  let magnitude := certificate.serialNumber.natAbs
  Asn1.numberBytes (magnitude + 1) magnitude

theorem natAbs_eq_of_magnitudeBytes
    (h : first.magnitudeBytes = second.magnitudeBytes) :
    first.serialNumber.natAbs = second.serialNumber.natAbs := by
  have := congrArg Bytes.toNat h
  have hfuel : ∀ magnitude, magnitude < 256 ^ (magnitude + 1) := fun magnitude =>
    Nat.lt_of_succ_lt (Nat.lt_pow_self (by decide))
  rwa [magnitudeBytes, magnitudeBytes, Asn1.toNat_numberBytes (hfuel _),
    Asn1.toNat_numberBytes (hfuel _)] at this

theorem serialText_of_zero (h : first.serialNumber = 0) :
    first.serialText = "0" := by
  simp [serialText, h]

theorem serialText_of_pos (h : 0 < first.serialNumber) :
    first.serialText = Bytes.hex first.magnitudeBytes := by
  have hne : first.serialNumber.natAbs ≠ 0 := by omega
  have hnot : ¬first.serialNumber < 0 := by omega
  simp [serialText, magnitudeBytes, hne, hnot]

theorem serialText_of_neg (h : first.serialNumber < 0) :
    first.serialText = "-" ++ Bytes.hex first.magnitudeBytes := by
  have hne : first.serialNumber.natAbs ≠ 0 := by omega
  simp [serialText, magnitudeBytes, hne, h]

theorem length_serialText_of_pos (h : 0 < first.serialNumber) :
    first.serialText.toList.length % 2 = 0 := by
  rw [serialText_of_pos h, Bytes.length_hex]
  omega

theorem serialText_ne_of_zero_of_pos (hzero : first.serialNumber = 0)
    (hpos : 0 < second.serialNumber) : first.serialText ≠ second.serialText := by
  intro h
  have hlength := length_serialText_of_pos hpos
  rw [← h, serialText_of_zero hzero] at hlength
  contradiction

theorem head?_serialText_iff (certificate : Certificate) :
    certificate.serialText.toList.head? = some '-' ↔
      certificate.serialNumber < 0 := by
  rcases Int.lt_trichotomy certificate.serialNumber 0 with hneg | hzero | hpos
  · rw [serialText_of_neg hneg, String.toList_append]
    exact iff_of_true rfl hneg
  · rw [serialText_of_zero hzero]
    exact iff_of_false (by decide) (by omega)
  · refine iff_of_false ?_ (by omega)
    rw [serialText_of_pos hpos]
    cases certificate.magnitudeBytes with
    | nil => simp [Bytes.hex_nil]
    | cons byte bytes =>
        have := byte.toNat_lt
        rw [Bytes.toList_hex_cons, List.head?_cons, Option.some.injEq]
        exact Bytes.lowerHexDigit_ne_minus _ (by omega)

theorem serialText_eq_iff (first second : Certificate) :
    first.serialText = second.serialText ↔
      first.serialNumber = second.serialNumber := by
  constructor
  · intro h
    have hsign : first.serialNumber < 0 ↔ second.serialNumber < 0 := by
      rw [← head?_serialText_iff, ← head?_serialText_iff, h]
    rcases Int.lt_trichotomy first.serialNumber 0 with hneg | hzero | hpos
    · have hsecond := hsign.mp hneg
      rw [serialText_of_neg hneg, serialText_of_neg hsecond,
        String.append_right_inj] at h
      have := natAbs_eq_of_magnitudeBytes (Bytes.hex_injective h)
      omega
    · have hnot : ¬0 < second.serialNumber := fun hsecond =>
        serialText_ne_of_zero_of_pos hzero hsecond h
      omega
    · have hne : second.serialNumber ≠ 0 := fun hsecond =>
        serialText_ne_of_zero_of_pos hsecond hpos h.symm
      have hsecond : 0 < second.serialNumber := by omega
      rw [serialText_of_pos hpos, serialText_of_pos hsecond] at h
      have := natAbs_eq_of_magnitudeBytes (Bytes.hex_injective h)
      omega
  · intro h
    rw [serialText, serialText, h]

end Certificate

end EndpointDiscovery
