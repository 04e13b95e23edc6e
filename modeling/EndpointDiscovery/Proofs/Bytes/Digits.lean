import EndpointDiscovery.Bytes.Base32
import EndpointDiscovery.Bytes.Hex
import Mathlib.Data.List.Basic
import Mathlib.Data.List.Induction

/-!
# Digits of bytes

Two texts of hexadecimal digits are equal only if the bytes are.  Base32 drops the
number of bytes that its last digit stands for, so two texts of it tell byte
sequences of one length apart.
-/

namespace EndpointDiscovery.Bytes

/-! ## Hexadecimal text -/

theorem lowerHexDigit_injective :
    ∀ first < 16, ∀ second < 16, lowerHexDigit first = lowerHexDigit second →
      first = second := by
  decide

theorem lowerHexDigit_ne_minus : ∀ number < 16, lowerHexDigit number ≠ '-' := by
  decide

theorem hex_nil : hex [] = "" := rfl

theorem toList_hex_cons (byte : UInt8) (bytes : List UInt8) :
    (hex (byte :: bytes)).toList =
      lowerHexDigit (byte.toNat / 16) :: lowerHexDigit (byte.toNat % 16) ::
      (hex bytes).toList := by
  simp [hex]

theorem hex_injective {first second : List UInt8} (h : hex first = hex second) :
    first = second := by
  induction first generalizing second with
  | nil =>
      cases second with
      | nil => rfl
      | cons byte second =>
          have := congrArg String.toList h
          rw [toList_hex_cons, hex_nil] at this
          contradiction
  | cons byte first ih =>
      cases second with
      | nil =>
          have := congrArg String.toList h
          rw [toList_hex_cons, hex_nil] at this
          contradiction
      | cons other second =>
          have hlist := congrArg String.toList h
          rw [toList_hex_cons, toList_hex_cons] at hlist
          obtain ⟨hhigh, hrest⟩ := List.cons.inj hlist
          obtain ⟨hlow, htail⟩ := List.cons.inj hrest
          have hbyte := byte.toNat_lt
          have hother := other.toNat_lt
          have hdiv := lowerHexDigit_injective _ (by omega) _ (by omega) hhigh
          have hmod := lowerHexDigit_injective _ (by omega) _ (by omega) hlow
          have heq : byte = other := UInt8.toNat_inj.mp (by omega)
          rw [heq, ih (String.toList_inj.mp htail)]

theorem length_hex (bytes : List UInt8) :
    (hex bytes).toList.length = 2 * bytes.length := by
  induction bytes with
  | nil => rfl
  | cons byte bytes ih =>
      rw [toList_hex_cons]
      simp only [List.length_cons, ih]
      omega

theorem lowerHexDigit_mem : ∀ number < 16,
    lowerHexDigit number ∈ "0123456789abcdef".toList := by
  decide

theorem mem_hex {bytes : List UInt8} {character : Char}
    (h : character ∈ (hex bytes).toList) :
    character ∈ "0123456789abcdef".toList := by
  rw [hex, String.toList_ofList, List.mem_flatMap] at h
  obtain ⟨byte, -, hmem⟩ := h
  have hbyte := byte.toNat_lt
  simp only [List.mem_cons, List.not_mem_nil, or_false] at hmem
  rcases hmem with rfl | rfl
  · exact lowerHexDigit_mem _ (by omega)
  · exact lowerHexDigit_mem _ (by omega)

/-! ## Numbers of bits -/

def bitsValue (bits : List Bool) : Nat :=
  bits.foldl (fun sum bit => 2 * sum + bit.toNat) 0

theorem bitsValue_concat (bits : List Bool) (bit : Bool) :
    bitsValue (bits ++ [bit]) = 2 * bitsValue bits + bit.toNat := by
  rw [bitsValue, List.foldl_append]
  rfl

theorem bitsValue_lt (bits : List Bool) :
    bitsValue bits < Nat.pow 2 bits.length := by
  induction bits using List.reverseRecOn with
  | nil => decide
  | append_singleton bits bit ih =>
      have hbit := Bool.toNat_lt bit
      rw [bitsValue_concat, List.length_append, List.length_singleton, Nat.pow,
        Nat.mul_eq]
      omega

theorem bitsValue_injective {first second : List Bool}
    (hlength : first.length = second.length)
    (h : bitsValue first = bitsValue second) : first = second := by
  induction first using List.reverseRecOn generalizing second with
  | nil => exact (List.eq_nil_of_length_eq_zero hlength.symm).symm
  | append_singleton first bit ih =>
      rcases List.eq_nil_or_concat' second with rfl | ⟨second, other, rfl⟩
      · simp at hlength
      · simp only [List.length_append, List.length_singleton,
          Nat.add_right_cancel_iff] at hlength
        rw [bitsValue_concat, bitsValue_concat] at h
        have hbit := Bool.toNat_lt bit
        have hother := Bool.toNat_lt other
        have hlast : bit.toNat = other.toNat → bit = other := by
          cases bit <;> cases other <;> decide
        rw [ih hlength (by omega), hlast (by omega)]

namespace Base32

/-! ## Base32 -/

theorem alphabet_injective : ∀ first < 32, ∀ second < 32,
    alphabet.getD first 'A' = alphabet.getD second 'A' → first = second := by
  decide +kernel

theorem digit_eq (group : List Bool) :
    digit group =
      alphabet.getD
        (bitsValue (group ++ List.replicate (5 - group.length) false)) 'A' :=
  rfl

theorem digit_injective {group other : List Bool}
    (hlength : group.length = other.length) (hshort : group.length ≤ 5)
    (h : digit group = digit other) : group = other := by
  have hpadded : ∀ bits : List Bool, bits.length ≤ 5 →
      (bits ++ List.replicate (5 - bits.length) false).length = 5 := by
    intro bits hbits
    rw [List.length_append, List.length_replicate]
    omega
  have hlt : ∀ bits : List Bool, bits.length ≤ 5 →
      bitsValue (bits ++ List.replicate (5 - bits.length) false) < 32 := by
    intro bits hbits
    have := bitsValue_lt (bits ++ List.replicate (5 - bits.length) false)
    rwa [hpadded bits hbits] at this
  have hother : other.length ≤ 5 := hlength ▸ hshort
  rw [digit_eq, digit_eq] at h
  have hvalue := alphabet_injective _ (hlt group hshort) _ (hlt other hother) h
  have happend :=
    bitsValue_injective ((hpadded _ hshort).trans (hpadded _ hother).symm) hvalue
  exact (List.append_inj happend hlength).1

theorem eq_of_map_digit {count : Nat} {first second : List Bool}
    (hlength : first.length = second.length) (hcount : first.length ≤ 5 * count)
    (h : (chunks count 5 first).map digit = (chunks count 5 second).map digit) :
    first = second := by
  induction count generalizing first second with
  | zero =>
      rw [List.eq_nil_of_length_eq_zero (by omega : first.length = 0),
        List.eq_nil_of_length_eq_zero (by omega : second.length = 0)]
  | succ count ih =>
      simp only [chunks, List.map_cons, List.cons.injEq] at h
      have htake : first.take 5 = second.take 5 := by
        refine digit_injective ?_ ?_ h.1
        · rw [List.length_take, List.length_take, hlength]
        · exact List.length_take_le 5 first
      have hdrop : first.drop 5 = second.drop 5 := by
        refine ih ?_ ?_ h.2
        · rw [List.length_drop, List.length_drop, hlength]
        · rw [List.length_drop]
          omega
      rw [← List.take_append_drop 5 first, htake, hdrop, List.take_append_drop]

theorem bitsValue_bits (byte : UInt8) : bitsValue (bits byte) = byte.toNat := by
  have hall : ∀ number < 256, bitsValue (bits (UInt8.ofNat number)) = number := by
    decide +kernel
  have hbyte := hall byte.toNat byte.toNat_lt
  rwa [UInt8.ofNat_toNat] at hbyte

theorem length_bits (byte : UInt8) : (bits byte).length = 8 := rfl

theorem flatMap_bits_injective {first second : List UInt8}
    (h : first.flatMap bits = second.flatMap bits) : first = second := by
  induction first generalizing second with
  | nil =>
      cases second with
      | nil => rfl
      | cons byte second => cases h
  | cons byte first ih =>
      cases second with
      | nil => cases h
      | cons other second =>
          rw [List.flatMap_cons, List.flatMap_cons] at h
          obtain ⟨hbits, hrest⟩ := List.append_inj h rfl
          have hbyte := congrArg bitsValue hbits
          rw [bitsValue_bits, bitsValue_bits] at hbyte
          rw [UInt8.toNat_inj.mp hbyte, ih hrest]

theorem length_flatMap_bits (bytes : List UInt8) :
    (bytes.flatMap bits).length = 8 * bytes.length := by
  induction bytes with
  | nil => rfl
  | cons byte bytes ih =>
      rw [List.flatMap_cons, List.length_append, length_bits, ih, List.length_cons]
      omega

theorem length_chunks {α : Type} (count size : Nat) (items : List α) :
    (chunks count size items).length = count := by
  induction count generalizing items with
  | zero => rfl
  | succ count ih => rw [chunks, List.length_cons, ih]

theorem length_encode (bytes : List UInt8) :
    (encode bytes).toList.length = (8 * bytes.length + 4) / 5 := by
  rw [encode, String.toList_ofList, List.length_map, length_chunks,
    length_flatMap_bits]

theorem mem_encode {bytes : List UInt8} {character : Char}
    (h : character ∈ (encode bytes).toList) : character ∈ alphabet := by
  rw [encode, String.toList_ofList, List.mem_map] at h
  obtain ⟨group, -, rfl⟩ := h
  rw [digit_eq, List.getD_eq_getElem?_getD]
  cases hfound :
      alphabet[bitsValue (group ++ List.replicate (5 - group.length) false)]? with
  | none => exact List.mem_cons_self
  | some found => exact List.mem_of_getElem? hfound

theorem encode_injective {first second : List UInt8}
    (hlength : first.length = second.length) (h : encode first = encode second) :
    first = second := by
  have hstream : (first.flatMap bits).length = (second.flatMap bits).length := by
    rw [length_flatMap_bits, length_flatMap_bits, hlength]
  unfold encode at h
  rw [String.ofList_inj, ← hstream] at h
  exact flatMap_bits_injective (eq_of_map_digit hstream (by omega) h)

end Base32

end EndpointDiscovery.Bytes
