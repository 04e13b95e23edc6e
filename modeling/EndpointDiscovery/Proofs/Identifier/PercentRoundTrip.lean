import EndpointDiscovery.Identifier.Percent
import EndpointDiscovery.Proofs.Text.Utf8RoundTrip

/-!
# Percent encoding is read back
-/

namespace EndpointDiscovery.Percent

theorem hexDigit_ascii : ∀ number < 16, (hexDigit number).toNat < 0x80 := by
  decide

theorem hexValue?_hexDigit :
    ∀ number < 16,
      hexValue? (UInt8.ofNat (hexDigit number).toNat) = some number := by
  decide

theorem unreserved_bounds {byte : UInt8} (h : isUnreserved byte = true) :
    byte.toNat < 0x80 ∧ byte ≠ 0x25 := by
  simp only [isUnreserved, Bool.or_eq_true, Bool.and_eq_true, decide_eq_true_eq,
    UInt8.le_iff_toNat_le, ← UInt8.toNat_inj, ne_eq, UInt8.reduceToNat] at h ⊢
  omega

theorem unescape_cons {byte : UInt8} (h : byte ≠ 0x25) (position : Nat)
    (rest : List UInt8) :
    unescape position (byte :: rest) =
      (unescape (position + 1) rest).map (byte :: ·) := by
  rw [unescape]
  · simp [h]
  · rintro high low others rfl
    contradiction

theorem unescape_escaped {number : Nat} (h : number < 256) (position : Nat)
    (rest : List UInt8) :
    unescape position (0x25 :: UInt8.ofNat (hexDigit (number / 16)).toNat ::
        UInt8.ofNat (hexDigit (number % 16)).toNat :: rest) =
      (unescape (position + 3) rest).map (UInt8.ofNat number :: ·) := by
  have hvalue : number / 16 * 16 + number % 16 = number := by omega
  rw [unescape, hexValue?_hexDigit _ (by omega), hexValue?_hexDigit _ (by omega)]
  simp only [hvalue]

theorem encodeByte_ascii (byte : UInt8) :
    ∀ character ∈ encodeByte byte, character.toNat < 0x80 := by
  have hbyte := byte.toNat_lt
  intro character hmem
  unfold encodeByte at hmem
  split at hmem
  · rename_i hunreserved
    have hascii := (unreserved_bounds hunreserved).1
    rwa [List.mem_singleton.mp hmem, Text.Utf8.toNat_ofNat_of_ascii _ hascii]
  · simp only [escapeByte, List.mem_cons, List.not_mem_nil, or_false] at hmem
    rcases hmem with rfl | rfl | rfl
    · decide
    · exact hexDigit_ascii _ (by omega)
    · exact hexDigit_ascii _ (by omega)

theorem unescape_encodeByte (byte : UInt8) (position : Nat) (rest : List UInt8) :
    ∃ next, unescape position (Text.Utf8.encode (encodeByte byte) ++ rest) =
      (unescape next rest).map (byte :: ·) := by
  have hbyte := byte.toNat_lt
  rw [Text.Utf8.encode_of_ascii (encodeByte_ascii byte)]
  unfold encodeByte
  split
  · rename_i hunreserved
    obtain ⟨hascii, hne⟩ := unreserved_bounds hunreserved
    have hsame : UInt8.ofNat (Char.ofNat byte.toNat).toNat = byte := by
      rw [Text.Utf8.toNat_ofNat_of_ascii _ hascii, UInt8.ofNat_toNat]
    refine ⟨position + 1, ?_⟩
    rw [List.map_singleton, hsame]
    exact unescape_cons hne position rest
  · have hescaped := unescape_escaped hbyte position rest
    rw [UInt8.ofNat_toNat] at hescaped
    exact ⟨position + 3, hescaped⟩

theorem unescape_encode (bytes : List UInt8) (position : Nat) :
    unescape position (Text.Utf8.encode (bytes.flatMap encodeByte)) =
      .ok bytes := by
  induction bytes generalizing position with
  | nil => rfl
  | cons byte bytes ih =>
      obtain ⟨next, hnext⟩ := unescape_encodeByte byte position
        (Text.Utf8.encode (bytes.flatMap encodeByte))
      rw [List.flatMap_cons, Text.Utf8.encode_append, hnext, ih]
      rfl

theorem decode_encode (text : String) : decode (encode text) = .ok text := by
  rw [decode, encode, Text.Utf8.encodeString, String.toList_ofList, unescape_encode]
  simp only [Text.Utf8.encodeString, Text.Utf8.decode?_encode, String.ofList_toList]

theorem encode_injective {first second : String}
    (h : encode first = encode second) :
    first = second := by
  have hdecoded := congrArg decode h
  rw [decode_encode, decode_encode] at hdecoded
  exact Except.ok.inj hdecoded

end EndpointDiscovery.Percent
