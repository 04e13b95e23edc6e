import EndpointDiscovery.Certificate.Basic
import EndpointDiscovery.Proofs.Asn1.ElementCodec

/-!
# Certificates written and read again

A certificate is written with the bytes that were read of it, but for the
outermost lengths and the form of its signature.  What is written is read as the
same certificate.
-/

namespace EndpointDiscovery

namespace Asn1

/-! ## Signatures -/

theorem clearUnused_idem (unused : Nat) (bytes : List UInt8) :
    clearUnused unused (clearUnused unused bytes) = clearUnused unused bytes := by
  cases hlast : bytes.getLast? with
  | none => simp [clearUnused, hlast]
  | some last =>
      have hvalue : ∀ number,
          number >>> unused <<< unused = number / 2 ^ unused * 2 ^ unused := by
        intro number
        rw [Nat.shiftRight_eq_div_pow, Nat.shiftLeft_eq]
      have hlt : last.toNat / 2 ^ unused * 2 ^ unused < UInt8.size :=
        Nat.lt_of_le_of_lt (Nat.div_mul_le_self _ _) last.toNat_lt
      have hcleared : clearUnused unused bytes =
          bytes.dropLast ++
          [UInt8.ofNat (last.toNat / 2 ^ unused * 2 ^ unused)] := by
        rw [clearUnused, hlast, ← hvalue]
      rw [hcleared, clearUnused, List.getLast?_concat]
      dsimp only
      rw [List.dropLast_concat, UInt8.toNat_ofNat_of_lt' hlt, hvalue,
        Nat.mul_div_cancel _ (Nat.pow_pos (by decide))]

theorem bitStringContent?_again {content : List UInt8} {bits : BitString}
    (h : bitStringContent? content = some bits) :
    bitStringContent? (UInt8.ofNat bits.unused :: bits.bytes) = some bits := by
  cases content with
  | nil => cases h
  | cons unused bytes =>
      rw [bitStringContent?, Option.ite_none_right_eq_some, Option.some.injEq] at h
      obtain ⟨hunused, rfl⟩ := h
      rw [UInt8.ofNat_toNat, bitStringContent?, if_pos hunused, clearUnused_idem]

theorem exists_element?_encode {element : Element} {bits : BitString}
    (h : bitString? (.universal 3) element = some bits)
    (hlength : bits.bytes.length + 1 < 2 ^ 63) :
    ∃ written, element? bits.encode = some (written, []) ∧
      bitString? (.universal 3) written = some bits := by
  obtain ⟨content, -, hbits⟩ := Option.bind_eq_some_iff.mp h
  have hread := element?_encode 0x03 (by decide)
    (show (UInt8.ofNat bits.unused :: bits.bytes).length < 2 ^ 63 from hlength) []
  rw [List.append_nil] at hread
  refine ⟨_, hread, ?_⟩
  exact bitStringContent?_again hbits

end Asn1

namespace Certificate

open Asn1 (Element)

variable {certificate : Certificate} {signed algorithm signature : Element}
  {bytes : List UInt8}

theorem ofParts?_congr {other : Element}
    (h : Asn1.bitString? (.universal 3) other =
      Asn1.bitString? (.universal 3) signature) :
    ofParts? signed algorithm other = ofParts? signed algorithm signature := by
  simp only [ofParts?, h]

theorem encodings_of_ofParts?
    (h : ofParts? signed algorithm signature = some certificate) :
    certificate.signed = signed.encoding ∧
    certificate.algorithmEncoding = algorithm.encoding ∧
      Asn1.bitString? (.universal 3) signature = some certificate.signature := by
  simp only [ofParts?, Option.bind_eq_bind, Option.bind_eq_some_iff] at h
  obtain ⟨fields, -, ⟨version, fields⟩, -, h⟩ := h
  dsimp only at h
  split at h
  · simp only [Option.bind_eq_some_iff, Option.some.injEq] at h
    obtain ⟨_, -, _, -, _, -, _, -, _, -, _, -, _, -, _, -, bits, hbits, rfl⟩ := h
    exact ⟨rfl, rfl, hbits⟩
  · cases h

theorem ofDer?_eq_some_iff : ofDer? bytes = some certificate ↔
    ∃ element rest signed algorithm signature,
      Asn1.element? bytes = some (element, rest) ∧
      Asn1.sequence? element = some [signed, algorithm, signature] ∧
        ofParts? signed algorithm signature = some certificate := by
  simp only [ofDer?, Option.bind_eq_bind, Option.bind_eq_some_iff, Prod.exists]
  constructor
  · rintro ⟨element, rest, helement, parts, hparts, h⟩
    split at h
    · exact ⟨element, rest, _, _, _, helement, hparts, h⟩
    · cases h
  · rintro ⟨element, rest, signed, algorithm, signature, helement, hparts, h⟩
    exact ⟨element, rest, helement, _, hparts, h⟩

theorem length_encode_le (first : UInt8) (content : List UInt8) :
    content.length ≤ (Asn1.encode first content).length := by
  simp only [Asn1.encode, List.cons_append, List.length_cons, List.length_append]
  omega

/-- What is written for a certificate that was read is read as the
same certificate. -/
theorem ofDer?_der (h : ofDer? bytes = some certificate)
    (hlength : certificate.der.length < 2 ^ 63) :
    ofDer? certificate.der = some certificate := by
  obtain ⟨element, rest, signed, algorithm, signature, helement, hparts, h⟩ :=
    ofDer?_eq_some_iff.mp h
  obtain ⟨hsigned, halgorithm, hbits⟩ := encodings_of_ofParts? h
  have hcontent := Nat.lt_of_le_of_lt (length_encode_le _ _) hlength
  have hsignature : certificate.signature.bytes.length + 1 < 2 ^ 63 := by
    have := length_encode_le 0x03
      (UInt8.ofNat certificate.signature.unused :: certificate.signature.bytes)
    simp only [List.length_append, Asn1.BitString.encode] at hcontent
    rw [List.length_cons] at this
    omega
  obtain ⟨written, hwritten, hagain⟩ := Asn1.exists_element?_encode hbits hsignature
  have hread := Asn1.element?_encode 0x30 (by decide) hcontent []
  rw [List.append_nil] at hread
  -- The first two parts are those that were read, since other bytes follow
  -- each of them.
  refine ofDer?_eq_some_iff.mpr ⟨_, [], signed, algorithm, written, hread, ?_, ?_⟩
  · rw [Asn1.sequence?, Option.ite_none_right_eq_some] at hparts
    obtain ⟨-, hparts⟩ := hparts
    simp only [Asn1.elements?_eq_some_cons_iff, Asn1.elements?_nil_iff] at hparts
    obtain ⟨afterSigned, hfirst, afterAlgorithm, hsecond, afterSignature, hthird,
        -⟩ := hparts
    obtain ⟨-, -, hfirst⟩ := Asn1.element?_append hfirst
    obtain ⟨-, -, hsecond⟩ := Asn1.element?_append hsecond
    have hne : certificate.signature.encode ≠ [] := by
      simp [Asn1.BitString.encode, Asn1.encode]
    rw [Asn1.sequence?, if_pos ⟨rfl, rfl⟩]
    simp only [Asn1.elements?_eq_some_cons_iff, Asn1.elements?_nil_iff]
    rw [hsigned, halgorithm, List.append_assoc]
    exact ⟨_, hfirst _ (by simp [hne]), _, hsecond _ hne, [], hwritten, rfl⟩
  · rw [ofParts?_congr (hagain.trans hbits.symm), h]

end Certificate

end EndpointDiscovery
