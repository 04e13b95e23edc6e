import EndpointDiscovery.Bytes.Base64
import EndpointDiscovery.Text.Blank
import Mathlib.Data.List.TakeDrop
import Mathlib.Data.List.TakeWhile

/-!
# Base64 read back

Both readers of base64 return the bytes that were written, the reader of
streams from any lines.
-/

namespace EndpointDiscovery.Base64

/-! ## Digits -/

def IsDigit (character : Char) : Prop :=
  ∃ value < 64, character = digit value

theorem value?_digit : ∀ value < 64, value? (digit value) = some value := by
  decide

theorem digit_ne_padding : ∀ value < 64, digit value ≠ padding := by
  decide

theorem IsDigit.ne_padding {character : Char} (h : IsDigit character) :
    character ≠ padding := by
  obtain ⟨value, hlt, rfl⟩ := h
  exact digit_ne_padding value hlt

/-! ## Groups -/

def groupValue? (character : Char) : Option Nat :=
  if character = padding then some 0 else value? character

theorem groupValue?_digit {value : Nat} (h : value < 64) :
    groupValue? (digit value) = some value := by
  rw [groupValue?, if_neg (digit_ne_padding value h), value?_digit value h]

theorem groups?_cons {first second third fourth : Char} {a b c d : Nat}
    (hfirst : groupValue? first = some a) (hsecond : groupValue? second = some b)
    (hthird : groupValue? third = some c) (hfourth : groupValue? fourth = some d)
    (rest : List Char) : groups? (first :: second :: third :: fourth :: rest) =
      (groups? rest).map
        (Bytes.bigEndian 3 (a * 262144 + b * 4096 + c * 64 + d) ++ ·) := by
  unfold groupValue? at hfirst hsecond hthird hfourth
  rw [groups?]
  simp only [hfirst, hsecond, hthird, hfourth, Option.bind_eq_bind,
    Option.bind_some]
  cases groups? rest <;> rfl

theorem bigEndian_three {number : Nat} {a b c : UInt8}
    (h : number = a.toNat * 65536 + b.toNat * 256 + c.toNat) :
    Bytes.bigEndian 3 number = [a, b, c] := by
  have hbyte : ∀ (number : Nat) (byte : UInt8), number % 256 = byte.toNat →
      UInt8.ofNat number = byte := by
    intro number byte h
    rw [← UInt8.toNat_inj, UInt8.toNat_ofNat']
    exact h
  have ha := a.toNat_lt
  have hb := b.toNat_lt
  have hc := c.toNat_lt
  have hlast := hbyte number c (by omega)
  have hmiddle := hbyte (number / 256) b (by omega)
  have hfirst := hbyte (number / 256 / 256) a (by omega)
  simp [Bytes.bigEndian, Bytes.littleEndian, hlast, hmiddle, hfirst]

theorem digits_sum (number : Nat) :
    number / 262144 * 262144 + number / 4096 % 64 * 4096 +
    number / 64 % 64 * 64 + number % 64 = number := by
  have hsecond : number / 4096 = number / 64 / 64 := by rw [Nat.div_div_eq_div_mul]
  have hthird : number / 262144 = number / 64 / 64 / 64 := by
    rw [Nat.div_div_eq_div_mul, Nat.div_div_eq_div_mul]
  rw [hsecond, hthird]
  omega

theorem exists_digits (bytes : List UInt8) : ∃ body count, count ≤ 2 ∧
    encode bytes = body ++ List.replicate count padding ∧
      (∀ character ∈ body, IsDigit character) ∧
        groups? (encode bytes) = some (bytes ++ List.replicate count 0) := by
  have hzero : groupValue? padding = some 0 := rfl
  have hempty : groups? [] = some [] := by rw [groups?]
  have hdigit : ∀ {value}, value < 64 → IsDigit (digit value) :=
    fun hlt => ⟨_, hlt, rfl⟩
  -- The last group may lack one or two bytes, which are then read as zeros.
  fun_induction encode bytes with
  | case1 => exact ⟨[], 0, by decide, rfl, by simp, rfl⟩
  | case2 first =>
      have hbyte := first.toNat_lt
      have hhigh : first.toNat * 65536 / 262144 < 64 := by omega
      have hlow : first.toNat * 65536 / 4096 % 64 < 64 := by omega
      have hsum : first.toNat * 65536 / 262144 * 262144 +
          first.toNat * 65536 / 4096 % 64 * 4096 +
          0 * 64 + 0 = first.toNat * 65536 + (0 : UInt8).toNat * 256 +
          (0 : UInt8).toNat := by
        rw [UInt8.toNat_zero]
        omega
      have hread :=
        groups?_cons (groupValue?_digit hhigh)
          (groupValue?_digit hlow) hzero hzero []
      rw [bigEndian_three hsum, hempty] at hread
      refine ⟨[digit (first.toNat * 65536 / 262144),
        digit (first.toNat * 65536 / 4096 % 64)],
        2, by decide, by simp [digits], by simp [hdigit, hhigh, hlow], ?_⟩
      simpa [digits] using hread
  | case3 first second =>
      have hbyte := first.toNat_lt
      have hother := second.toNat_lt
      obtain ⟨number, hnumber⟩ : ∃ number,
          first.toNat * 65536 + second.toNat * 256 = number :=
        ⟨_, rfl⟩
      have hhigh : number / 262144 < 64 := by omega
      have hmiddle : number / 4096 % 64 < 64 := by omega
      have hlow : number / 64 % 64 < 64 := by omega
      have hend : number % 64 = 0 := by omega
      have hvalue : number = first.toNat * 65536 + second.toNat * 256 +
          (0 : UInt8).toNat := by
        rw [UInt8.toNat_zero, Nat.add_zero, hnumber]
      have hread :=
        groups?_cons (groupValue?_digit hhigh) (groupValue?_digit hmiddle)
          (groupValue?_digit hlow) hzero []
      rw [← hend, digits_sum, bigEndian_three hvalue, hempty] at hread
      rw [hnumber]
      refine ⟨[digit (number / 262144), digit (number / 4096 % 64),
          digit (number / 64 % 64)], 1, by decide, by simp [digits],
        by simp [hdigit, hhigh, hmiddle, hlow], ?_⟩
      simpa [digits] using hread
  | case4 first second third rest ih =>
      obtain ⟨body, count, hcount, heq, hbody, hrest⟩ := ih
      have hbyte := first.toNat_lt
      have hother := second.toNat_lt
      have hlast := third.toNat_lt
      obtain ⟨number, hnumber⟩ : ∃ number,
        first.toNat * 65536 + second.toNat * 256 + third.toNat = number := ⟨_, rfl⟩
      have hvalues : number / 262144 < 64 ∧ number / 4096 % 64 < 64 ∧
          number / 64 % 64 < 64 ∧ number % 64 < 64 := by omega
      obtain ⟨hfirst, hsecond, hthird, hfourth⟩ := hvalues
      have hread :=
        groups?_cons (groupValue?_digit hfirst) (groupValue?_digit hsecond)
          (groupValue?_digit hthird) (groupValue?_digit hfourth) (encode rest)
      rw [digits_sum, bigEndian_three hnumber.symm, hrest] at hread
      rw [hnumber]
      refine ⟨digits number ++ body, count, hcount, by rw [heq, List.append_assoc],
        ?_, hread⟩
      rw [List.forall_mem_append]
      exact ⟨by simp [digits, hdigit, hfirst, hsecond, hthird, hfourth], hbody⟩

/-! ## Padding -/

theorem paddingLength_append {body : List Char}
    (h : ∀ character ∈ body, IsDigit character) {count : Nat} (hcount : count ≤ 2) :
    paddingLength (body ++ List.replicate count padding) = count := by
  have hdigits : (body.reverse.take (2 - count)).takeWhile (· = padding) = [] := by
    cases hlist : body.reverse.take (2 - count) with
    | nil => rfl
    | cons first rest =>
        have hmem : first ∈ body.reverse :=
          List.mem_of_mem_take (hlist ▸ List.mem_cons_self)
        have hne := (h first (List.mem_reverse.mp hmem)).ne_padding
        exact List.takeWhile_cons_of_neg (by simpa using hne)
  rw [paddingLength, List.reverse_append, List.reverse_replicate, List.take_append,
    List.length_replicate, List.take_of_length_le (by simpa using hcount),
    List.takeWhile_append_of_pos (by simp), hdigits, List.append_nil,
    List.length_replicate]

theorem forall_mem_encode {holds : Char → Prop}
    (hdigit : ∀ value < 64, holds (digit value)) (hpadding : holds padding)
    (bytes : List UInt8) :
    ∀ character ∈ encode bytes, holds character := by
  intro character hmem
  obtain ⟨body, count, -, heq, hbody, -⟩ := exists_digits bytes
  rw [heq, List.mem_append] at hmem
  rcases hmem with hmem | hmem
  · obtain ⟨value, hlt, rfl⟩ := hbody character hmem
    exact hdigit value hlt
  · rw [List.eq_of_mem_replicate hmem]
    exact hpadding

theorem ne_hyphen_of_mem_encode (bytes : List UInt8) :
    ∀ character ∈ encode bytes, character ≠ '-' :=
  forall_mem_encode (by decide) (by decide) bytes

theorem isBlank_of_mem_encode (bytes : List UInt8) :
    ∀ character ∈ encode bytes, Text.isBlank character = false :=
  forall_mem_encode (by decide +kernel) (by decide) bytes

theorem dropHyphens_eq_self {text : List Char} (h : '-' ∉ text) :
    dropHyphens text = text := by
  unfold dropHyphens
  split
  · simp at h
  · rfl

theorem block?_encode (bytes : List UInt8) :
    block? (encode bytes) = some bytes := by
  obtain ⟨body, count, hcount, heq, hbody, hread⟩ := exists_digits bytes
  have hhyphen : '-' ∉ (encode bytes).reverse := fun hmem =>
    ne_hyphen_of_mem_encode bytes '-' (List.mem_reverse.mp hmem) rfl
  have hpadding := paddingLength_append hbody hcount
  rw [← heq] at hpadding
  rw [block?, dropHyphens_eq_self hhyphen, List.reverse_reverse, hread, hpadding]
  simp

theorem stream?_of_filter {text : List Char} {bytes : List UInt8}
    (hhyphen : '-' ∉ text)
    (h : text.filter (· ∉ ['\t', '\n', '\r', ' ']) = encode bytes) :
    stream? text = some bytes := by
  obtain ⟨body, count, hcount, heq, hbody, hread⟩ := exists_digits bytes
  have hpadding := paddingLength_append hbody hcount
  rw [← heq] at hpadding
  have htaken : text.takeWhile (· ≠ '-') = text := by
    rw [List.takeWhile_eq_self_iff]
    intro character hmem
    simpa using fun heq : character = '-' => hhyphen (heq ▸ hmem)
  have hdata : (encode bytes).take ((encode bytes).length - count) = body := by
    simp [heq]
  have hvalues : body.all (value? · |>.isSome) = true := by
    rw [List.all_eq_true]
    intro character hmem
    obtain ⟨value, hlt, rfl⟩ := hbody character hmem
    rw [value?_digit value hlt]
    rfl
  rw [stream?, htaken, h]
  simp only [hpadding, hdata, hvalues, if_true, hread, Option.map_some]
  simp

end EndpointDiscovery.Base64
