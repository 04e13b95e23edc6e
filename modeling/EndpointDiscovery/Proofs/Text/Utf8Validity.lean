import EndpointDiscovery.Proofs.Text.Parts
import EndpointDiscovery.Proofs.Text.Utf8RoundTrip

/-!
# Which bytes are UTF-8

The strict decoder accepts the bytes of characters and nothing else.  Inside a
character the automaton remembers enough of the bytes that it has consumed to tell
them from the character that the remaining bytes complete them to.
-/

namespace EndpointDiscovery.Text.Utf8

/-! ## The bytes of a character -/

theorem toNat_ofNat_of_valid {number : Nat}
    (h : number < 0xD800 ∨ 0xDFFF < number ∧ number < 0x110000) :
    (Char.ofNat number).toNat = number := by
  have hvalid : number.isValidChar := h
  rw [Char.ofNat, dif_pos hvalid]
  rfl

theorem utf8EncodeChar_two {number : Nat} (hlow : 0x7F < number)
    (hhigh : number ≤ 0x7FF) :
    String.utf8EncodeChar (Char.ofNat number) =
      [UInt8.ofNat (number / 64 % 32 + 192), tail number] := by
  have hnumber : (Char.ofNat number).val.toNat = number :=
    toNat_ofNat_of_valid (.inl (by omega))
  rw [String.utf8EncodeChar, hnumber, if_neg (by omega), if_pos hhigh]
  rfl

theorem utf8EncodeChar_three {number : Nat} (hlow : 0x7FF < number)
    (hhigh : number ≤ 0xFFFF) (hvalid : number < 0xD800 ∨ 0xDFFF < number) :
    String.utf8EncodeChar (Char.ofNat number) =
      [UInt8.ofNat (number / 4096 % 16 + 224),
        tail (number / 64), tail number] := by
  have hnumber : (Char.ofNat number).val.toNat = number :=
    toNat_ofNat_of_valid (by omega)
  rw [String.utf8EncodeChar, hnumber, if_neg (by omega), if_neg (by omega),
    if_pos hhigh]
  rfl

theorem utf8EncodeChar_four {number : Nat} (hlow : 0xFFFF < number)
    (hhigh : number < 0x110000) :
    String.utf8EncodeChar (Char.ofNat number) =
      [UInt8.ofNat (number / 262144 % 8 + 240), tail (number / 4096),
        tail (number / 64), tail number] := by
  have hnumber : (Char.ofNat number).val.toNat = number :=
    toNat_ofNat_of_valid (by omega)
  rw [String.utf8EncodeChar, hnumber, if_neg (by omega), if_neg (by omega),
    if_neg (by omega)]
  rfl

/-! ## Bytes inside a character -/

/-- Whatever bytes within the bounds come next, the consumed ones and they are the
bytes of one character. -/
def Completes : Nat → List UInt8 → Nat → UInt8 → UInt8 → Prop
  | 0, consumed, value, low, high => ∀ byte, low ≤ byte → byte ≤ high →
      String.utf8EncodeChar (Char.ofNat (value * 64 + (byte.toNat - 0x80))) =
        consumed ++ [byte]
  | missing + 1, consumed, value, low, high => ∀ byte, low ≤ byte → byte ≤ high →
      Completes missing (consumed ++ [byte])
        (value * 64 + (byte.toNat - 0x80)) 0x80 0xBF

theorem eq_tail {bits : Nat} (byte : UInt8) (h : bits % 64 + 128 = byte.toNat) :
    tail bits = byte :=
  UInt8.toNat_inj.mp ((toNat_tail bits).trans h)

theorem eq_ofNat {number : Nat} (byte : UInt8) (h : number = byte.toNat) :
    UInt8.ofNat number = byte := by
  rw [h, UInt8.ofNat_toNat]

theorem tail_bounds {byte : UInt8} (hlow : 0x80 ≤ byte) (hhigh : byte ≤ 0xBF) :
    0x80 ≤ byte.toNat ∧ byte.toNat ≤ 0xBF :=
  ⟨UInt8.le_iff_toNat_le.mp hlow, UInt8.le_iff_toNat_le.mp hhigh⟩

theorem second_bounds {byte least greatest : UInt8} {tight loose : Prop}
    [Decidable tight] [Decidable loose]
    (hlow : (if tight then least else 0x80) ≤ byte)
    (hhigh : byte ≤ if loose then greatest else 0xBF)
    (hleast : 0x80 ≤ least.toNat) (hgreatest : greatest.toNat ≤ 0xBF) :
    0x80 ≤ byte.toNat ∧ byte.toNat ≤ 0xBF ∧ (tight → least.toNat ≤ byte.toNat) ∧
      (loose → byte.toNat ≤ greatest.toNat) := by
  rw [UInt8.le_iff_toNat_le] at hlow hhigh
  have heighty : (0x80 : UInt8).toNat = 0x80 := rfl
  have hbf : (0xBF : UInt8).toNat = 0xBF := rfl
  split at hlow <;> split at hhigh <;> simp_all <;> omega

theorem completes_two {first : UInt8} (hlow : 0xC2 ≤ first.toNat)
    (hhigh : first.toNat < 0xE0) :
    Completes 0 [first] (first.toNat - 0xC0) 0x80 0xBF := by
  intro last hleast hgreatest
  have hlast := tail_bounds hleast hgreatest
  rw [utf8EncodeChar_two (by omega) (by omega), eq_ofNat first (by omega),
    eq_tail last (by omega)]
  rfl

theorem completes_three {first : UInt8} (hlow : 0xE0 ≤ first.toNat)
    (hhigh : first.toNat < 0xF0) :
    Completes 1 [first] (first.toNat - 0xE0)
      (if first.toNat = 0xE0 then 0xA0 else 0x80)
      (if first.toNat = 0xED then 0x9F else 0xBF) := by
  intro second hlowest hhighest last hleast hgreatest
  have hsecond := second_bounds hlowest hhighest (by decide) (by decide)
  have hlast := tail_bounds hleast hgreatest
  simp only [UInt8.reduceToNat] at hsecond
  rw [utf8EncodeChar_three (by omega) (by omega) (by omega),
    eq_ofNat first (by omega), eq_tail second (by omega), eq_tail last (by omega)]
  rfl

theorem completes_four {first : UInt8} (hlow : 0xF0 ≤ first.toNat)
    (hhigh : first.toNat ≤ 0xF4) :
    Completes 2 [first] (first.toNat - 0xF0)
      (if first.toNat = 0xF0 then 0x90 else 0x80)
      (if first.toNat = 0xF4 then 0x8F else 0xBF) := by
  intro second hlowest hhighest third hlow hhigh last hleast hgreatest
  have hsecond := second_bounds hlowest hhighest (by decide) (by decide)
  have hthird := tail_bounds hlow hhigh
  have hlast := tail_bounds hleast hgreatest
  simp only [UInt8.reduceToNat] at hsecond
  rw [utf8EncodeChar_four (by omega) (by omega), eq_ofNat first (by omega),
    eq_tail second (by omega), eq_tail third (by omega), eq_tail last (by omega)]
  rfl

/-- Where the automaton stands tells what it has consumed since the
last character. -/
def Consumed : Position → List UInt8 → Prop
  | .start, consumed => consumed = []
  | .inside missing value low high, consumed =>
      Completes missing consumed value low high

/-! ## Steps and runs -/

variable {byte : UInt8} {bytes consumed : List UInt8} {position next : Position}
  {characters : List Char}

theorem consumed_enter (h : enter byte = (characters.map some, next)) :
    ∃ pending, encode characters ++ pending = [byte] ∧ Consumed next pending := by
  have hbyte := byte.toNat_lt
  by_cases hone : byte.toNat < 0x80
  · rw [enter_one hone, Prod.mk.injEq, ← List.map_singleton] at h
    obtain ⟨hread, rfl⟩ := h
    rw [← List.map_injective_iff.mpr (fun _ _ => Option.some.inj) hread]
    refine ⟨[], ?_, rfl⟩
    rw [encode_of_ascii (by simpa [toNat_ofNat_of_ascii _ hone] using hone)]
    simp [toNat_ofNat_of_ascii _ hone]
  · -- All other characters have several bytes, and nothing is read yet.
    have hpending : ∀ {position : Position}, enter byte = ([], position) →
        Consumed position [byte] →
          ∃ pending, encode characters ++ pending = [byte] ∧
            Consumed next pending := by
      intro position henter hconsumed
      rw [henter, Prod.mk.injEq] at h
      obtain ⟨hread, rfl⟩ := h
      rw [List.map_eq_nil_iff.mp hread.symm]
      exact ⟨[byte], rfl, hconsumed⟩
    by_cases htwo : 0xC2 ≤ byte.toNat ∧ byte.toNat < 0xE0
    · exact hpending (enter_two htwo.1 htwo.2) (completes_two htwo.1 htwo.2)
    by_cases hthree : 0xE0 ≤ byte.toNat ∧ byte.toNat < 0xF0
    · exact hpending (enter_three hthree.1 hthree.2)
        (completes_three hthree.1 hthree.2)
    by_cases hfour : 0xF0 ≤ byte.toNat ∧ byte.toNat ≤ 0xF4
    · exact hpending (enter_four hfour.1 hfour.2) (completes_four hfour.1 hfour.2)
    · exfalso
      have hmalformed : enter byte = ([none], .start) := by
        unfold enter
        simp only [UInt8.lt_iff_toNat_lt, ← UInt8.toNat_inj, UInt8.reduceToNat]
        split_ifs <;> first | rfl | omega
      rw [hmalformed, Prod.mk.injEq] at h
      cases characters <;> simp at h

theorem consumed_step (hconsumed : Consumed position consumed)
    (h : step position byte = (characters.map some, next)) :
    ∃ pending, encode characters ++ pending = consumed ++ [byte] ∧
      Consumed next pending := by
  cases position with
  | start =>
      obtain rfl : consumed = [] := hconsumed
      exact consumed_enter h
  | inside missing value low high =>
      rw [step] at h
      split at h
      · rename_i hbounds
        cases missing with
        | zero =>
            rw [Prod.mk.injEq, ← List.map_singleton] at h
            obtain ⟨hread, rfl⟩ := h
            rw [← List.map_injective_iff.mpr (fun _ _ => Option.some.inj) hread]
            refine ⟨[], ?_, rfl⟩
            rw [encode, List.flatMap_singleton, hconsumed byte hbounds.1 hbounds.2,
              List.append_nil]
        | succ fewer =>
            rw [Prod.mk.injEq] at h
            obtain ⟨hread, rfl⟩ := h
            rw [List.map_eq_nil_iff.mp hread.symm]
            exact ⟨consumed ++ [byte], rfl, hconsumed byte hbounds.1 hbounds.2⟩
      · -- The character breaks off.
        cases characters <;> simp at h

theorem consumed_scanFrom (hconsumed : Consumed position consumed)
    (h : scanFrom position bytes = characters.map some) :
    consumed ++ bytes = encode characters := by
  induction bytes generalizing position consumed characters with
  | nil =>
      cases position with
      | start =>
          obtain rfl : consumed = [] := hconsumed
          rw [List.map_eq_nil_iff.mp h.symm]
          rfl
      | inside missing value low high => cases characters <;> simp [scanFrom] at h
  | cons byte bytes ih =>
      have hscan : scanFrom position (byte :: bytes) =
          (step position byte).1 ++ scanFrom (step position byte).2 bytes := by
        rw [scanFrom]
      rw [hscan] at h
      obtain ⟨first, rest, rfl, hfirst, hrest⟩ := List.map_eq_append_iff.mp h.symm
      have hstep : step position byte =
          (first.map some, (step position byte).2) := by rw [hfirst]
      obtain ⟨pending, hpending, hnext⟩ := consumed_step hconsumed hstep
      rw [encode_append, ← ih hnext hrest.symm, ← List.append_assoc, hpending,
        List.append_assoc, List.singleton_append]

theorem eq_map_some_of_mapM_id {items : List (Option Char)}
    (h : items.mapM id = some characters) :
    items = characters.map some := by
  have hpairs : List.Forall₂ (· = ·) items (characters.map some) :=
    List.forall₂_map_right_iff.mpr (mapM_eq_some_iff.mp h)
  rwa [List.forall₂_eq_eq_eq] at hpairs

theorem decode?_eq_some_iff : decode? bytes = some characters ↔
    bytes = encode characters := by
  constructor
  · intro h
    have hstart : Consumed .start [] := rfl
    exact consumed_scanFrom hstart (eq_map_some_of_mapM_id h)
  · rintro rfl
    exact decode?_encode characters

end EndpointDiscovery.Text.Utf8
