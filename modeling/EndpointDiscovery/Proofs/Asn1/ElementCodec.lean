import EndpointDiscovery.Asn1.Element
import Mathlib.Algebra.Ring.Nat
import Mathlib.Data.List.Basic

/-!
# Elements read again

An element that was read is read again from its own bytes, whatever other bytes
follow them, and so is an element that was written.
-/

namespace EndpointDiscovery

theorem Bytes.toNat_append_singleton (bytes : List UInt8) (byte : UInt8) :
    toNat (bytes ++ [byte]) = toNat bytes * 256 + byte.toNat := by
  simp [toNat, List.foldl_append]

namespace Asn1

variable {input rest : List UInt8} {sum number : Nat} {first : UInt8}

/-! ## Headers -/

theorem groupedNumber?_append (h : groupedNumber? sum input = some (number, rest)) :
    ∃ front, input = front ++ rest ∧
      ∀ other, groupedNumber? sum (front ++ other) = some (number, other) := by
  induction input generalizing sum with
  | nil => cases h
  | cons byte input ih =>
      rw [groupedNumber?] at h
      split at h
      · rename_i hlast
        cases h
        exact ⟨[byte], rfl, fun other => by simp [groupedNumber?, hlast]⟩
      · rename_i hmore
        rw [Option.ite_none_right_eq_some] at h
        obtain ⟨front, rfl, hfront⟩ := ih h.2
        exact ⟨byte :: front, rfl, fun other => by
          simp [groupedNumber?, hmore, h.1, hfront]⟩

theorem tagNumber?_append (h : tagNumber? first input = some (number, rest)) :
    ∃ front, input = front ++ rest ∧
      ∀ other, tagNumber? first (front ++ other) = some (number, other) := by
  unfold tagNumber? at h
  split at h
  · rename_i hlong
    obtain ⟨front, rfl, hfront⟩ := groupedNumber?_append h
    exact ⟨front, rfl, fun other => by rw [tagNumber?, if_pos hlong, hfront]⟩
  · rename_i hshort
    cases h
    exact ⟨[], rfl, fun other => by rw [tagNumber?, if_neg hshort, List.nil_append]⟩

theorem length?_append {length : Option Nat}
    (h : length? input = some (length, rest)) :
    ∃ front, front ≠ [] ∧ input = front ++ rest ∧
      ∀ other, other ≠ [] → length? (front ++ other) = some (length, other) := by
  cases input with
  | nil => cases h
  | cons first input =>
      rw [length?] at h
      split at h
      · rename_i hshort
        cases h
        exact ⟨[first], by simp, rfl, fun other _ => by simp [length?, hshort]⟩
      split at h
      · rename_i hshort hopen
        cases h
        exact ⟨[first], by simp, rfl, fun other _ => by simp [length?, hopen]⟩
      · rename_i hshort hopen
        simp only [Option.ite_none_right_eq_some, Option.some.injEq,
          Prod.mk.injEq] at h
        obtain ⟨⟨hcount, hlength⟩, rfl, rfl⟩ := h
        refine ⟨first :: input.take (first.toNat - 0x80), by simp, by simp,
          fun other hother => ?_⟩
        have htaken : (input.take (first.toNat - 0x80)).length =
            first.toNat - 0x80 := by
          rw [List.length_take]
          omega
        have hpos := List.length_pos_iff.mpr hother
        rw [List.cons_append, length?, if_neg hshort, if_neg hopen]
        simp only [List.take_left' htaken, List.drop_left' htaken,
          List.length_append, htaken]
        rw [if_pos ⟨by omega, hlength⟩]

theorem header?_append {header : Header} (h : header? input = some (header, rest)) :
    ∃ front, 2 ≤ front.length ∧ input = front ++ rest ∧
      header.length?.getD 0 ≤ rest.length ∧
      ∀ other, other ≠ [] → header.length?.getD 0 ≤ other.length →
        header? (front ++ other) = some (header, other) := by
  cases input with
  | nil => cases h
  | cons first input =>
      simp only [header?, Option.bind_eq_bind, Option.bind_eq_some_iff,
        Prod.exists] at h
      obtain ⟨number, _, hnumber, length, _, hlength, h⟩ := h
      obtain ⟨tagBytes, rfl, htag⟩ := tagNumber?_append hnumber
      obtain ⟨lengthBytes, hne, rfl, hbytes⟩ := length?_append hlength
      have hfront : 2 ≤ (first :: (tagBytes ++ lengthBytes)).length := by
        have := List.length_pos_iff.mpr hne
        simp only [List.length_cons, List.length_append]
        omega
      refine ⟨first :: (tagBytes ++ lengthBytes), hfront, ?_⟩
      cases length with
      | none =>
          simp only [Option.isSome_none, Bool.false_eq_true, if_false,
            Option.ite_none_right_eq_some, Option.some.injEq, Prod.mk.injEq] at h
          obtain ⟨hconstructed, rfl, rfl⟩ := h
          refine ⟨by simp, by simp, fun other hother _ => ?_⟩
          simp [header?, htag, hbytes other hother, hconstructed]
      | some length =>
          simp only [Option.isSome_some, if_true, Option.getD_some,
            Option.ite_none_right_eq_some, Option.some.injEq, Prod.mk.injEq] at h
          obtain ⟨hfits, rfl, rfl⟩ := h
          refine ⟨by simp, hfits, fun other hother hroom => ?_⟩
          have hroom : length ≤ other.length := hroom
          simp [header?, htag, hbytes other hother, hroom]

/-! ## Elements -/

def BeginsWithEnd (input : List UInt8) : Prop :=
  ∃ rest, input = 0 :: 0 :: rest

theorem skipOpen?_header (h : ¬BeginsWithEnd input) (fuel pending : Nat) :
    skipOpen? (fuel + 1) (pending + 1) input = match header? input with
      | none => none
      | some (⟨_, _, some length⟩, rest) =>
          skipOpen? fuel (pending + 1) (rest.drop length)
      | some (⟨_, _, none⟩, rest) => skipOpen? fuel (pending + 2) rest :=
  skipOpen?.eq_4 input fuel pending fun rest heq => h ⟨rest, heq⟩

theorem exists_content {length : Nat} (h : length ≤ input.length) :
    ∃ content behind, input = content ++ behind ∧ content.length = length :=
  ⟨input.take length, input.drop length, (List.take_append_drop length input).symm,
    List.length_take_of_le h⟩

theorem beginsWithEnd_append {front : List UInt8} (h : 2 ≤ front.length)
    (other : List UInt8) :
    BeginsWithEnd (front ++ other) ↔ BeginsWithEnd (front ++ rest) := by
  match front, h with
  | first :: second :: front, _ => simp [BeginsWithEnd]

theorem skipOpen?_append {fuel pending : Nat}
    (h : skipOpen? fuel pending input = some rest) :
    ∃ front, input = front ++ rest ∧ ∀ fuel other,
      front.length < fuel → other ≠ [] →
      skipOpen? fuel pending (front ++ other) = some other := by
  -- What is read of a header stays the same as long as some byte follows it.
  induction fuel generalizing pending input with
  | zero => cases h
  | succ fuel ih =>
      cases pending with
      | zero =>
          cases h
          refine ⟨[], rfl, fun fuel other hfuel _ => ?_⟩
          obtain ⟨fuel, rfl⟩ := Nat.exists_eq_add_of_le' hfuel
          rfl
      | succ pending =>
          by_cases hend : BeginsWithEnd input
          · obtain ⟨input, rfl⟩ := hend
            obtain ⟨front, rfl, hfront⟩ := ih h
            refine ⟨0 :: 0 :: front, rfl, fun fuel other hfuel hother => ?_⟩
            obtain ⟨fuel, rfl⟩ := Nat.exists_eq_add_of_le' (Nat.zero_lt_of_lt hfuel)
            simp only [List.length_cons] at hfuel
            exact hfront fuel other (by omega) hother
          · rw [skipOpen?_header hend] at h
            split at h
            · cases h
            · rename_i tag constructed length start hheader
              obtain ⟨front, hlong, rfl, hfits, hfront⟩ := header?_append hheader
              obtain ⟨content, start, rfl, rfl⟩ := exists_content hfits
              rw [List.drop_left] at h
              obtain ⟨behind, rfl, hskip⟩ := ih h
              refine ⟨front ++ (content ++ behind), by simp,
                fun fuel other hfuel hother => ?_⟩
              obtain ⟨fuel, rfl⟩ :=
                Nat.exists_eq_add_of_le' (Nat.zero_lt_of_lt hfuel)
              rw [List.append_assoc, List.append_assoc,
                skipOpen?_header (by rwa [beginsWithEnd_append hlong]),
                hfront _ (by simp [hother]) (by simp)]
              simp only [List.length_append] at hfuel
              simpa using hskip fuel other (by omega) hother
            · rename_i tag constructed start hheader
              obtain ⟨front, hlong, rfl, hfits, hfront⟩ := header?_append hheader
              obtain ⟨behind, rfl, hskip⟩ := ih h
              refine ⟨front ++ behind, by simp, fun fuel other hfuel hother => ?_⟩
              obtain ⟨fuel, rfl⟩ :=
                Nat.exists_eq_add_of_le' (Nat.zero_lt_of_lt hfuel)
              rw [List.append_assoc,
                skipOpen?_header (by rwa [beginsWithEnd_append hlong]),
                hfront _ (by simp [hother]) (by simp)]
              rw [List.length_append] at hfuel
              exact hskip fuel other (by omega) hother

theorem take_before (front rest : List UInt8) (count : Nat) :
    (front ++ rest).take ((front ++ rest).length - rest.length - count) =
      front.take (front.length - count) := by
  rw [List.length_append, Nat.add_sub_cancel,
    List.take_append_of_le_length (Nat.sub_le _ _)]

theorem take_front (front content rest : List UInt8) :
    (front ++ (content ++ rest)).take
      ((front ++ (content ++ rest)).length - rest.length) =
      front ++ content := by
  rw [← List.append_assoc, List.length_append, Nat.add_sub_cancel, List.take_left]

theorem element?_append {element : Element}
    (h : element? input = some (element, rest)) :
    element.encoding ≠ [] ∧ input = element.encoding ++ rest ∧
      ∀ other, other ≠ [] → element? (element.encoding ++ other) =
        some (element, other) := by
  simp only [element?, Option.bind_eq_bind, Option.bind_eq_some_iff,
    Prod.exists] at h
  obtain ⟨header, start, hheader, h⟩ := h
  obtain ⟨front, hlong, rfl, hfits, hfront⟩ := header?_append hheader
  obtain ⟨tag, constructed, length⟩ := header
  have hne : ∀ content, front ++ content ≠ [] := by
    intro content hnil
    simp [(List.append_eq_nil_iff.mp hnil).1] at hlong
  cases length with
  | some length =>
      obtain ⟨content, behind, rfl, rfl⟩ := exists_content hfits
      simp only [List.drop_left, List.take_left, take_front, Option.some.injEq,
        Prod.mk.injEq] at h
      obtain ⟨rfl, rfl⟩ := h
      refine ⟨hne content, by simp, fun other hother => ?_⟩
      have hread := hfront (content ++ other) (by simp [hother]) (by simp)
      simp only [element?, List.append_assoc, hread, Option.bind_eq_bind,
        Option.bind_some, List.drop_left, List.take_left, take_front]
  | none =>
      simp only [Option.bind_eq_some_iff] at h
      obtain ⟨behind, hskip, h⟩ := h
      obtain ⟨content, rfl, hcontent⟩ := skipOpen?_append hskip
      simp only [take_before, take_front, Option.some.injEq, Prod.mk.injEq] at h
      obtain ⟨rfl, rfl⟩ := h
      refine ⟨hne content, by simp, fun other hother => ?_⟩
      have hread := hfront (content ++ other) (by simp [hother]) (by simp)
      have hskipped := hcontent ((content ++ other).length + 1) other
        (by rw [List.length_append]; omega) hother
      simp only [element?, List.append_assoc, hread, Option.bind_eq_bind,
        Option.bind_some, hskipped, take_before, take_front]

theorem elementsWithin?_succ (h : input ≠ []) (fuel : Nat) :
    elementsWithin? (fuel + 1) input =
      (element? input).bind fun (element, rest) =>
        (elementsWithin? fuel rest).map (element :: ·) := by
  rw [elementsWithin?]
  · cases element? input with
    | none => rfl
    | some read => cases h : elementsWithin? fuel read.2 <;> simp [h]
  · exact h

theorem length_lt_of_element? {element : Element}
    (h : element? input = some (element, rest)) :
    rest.length < input.length := by
  obtain ⟨hne, heq, -⟩ := element?_append h
  rw [heq, List.length_append]
  exact Nat.lt_add_of_pos_left (List.length_pos_iff.mpr hne)

theorem elementsWithin?_eq {fuel : Nat} (h : input.length ≤ fuel) :
    elementsWithin? fuel input = elements? input := by
  induction hlength :
    input.length using Nat.strongRecOn generalizing input fuel with
  | ind length ih =>
      subst hlength
      cases input with
      | nil => cases fuel <;> rfl
      | cons first input =>
          obtain ⟨fuel, rfl⟩ := Nat.exists_eq_add_of_le' (Nat.zero_lt_of_lt h)
          rw [elements?, List.length_cons,
            elementsWithin?_succ (List.cons_ne_nil _ _),
            elementsWithin?_succ (List.cons_ne_nil _ _)]
          refine Option.bind_congr fun (element, rest) hread => ?_
          have hshort := length_lt_of_element? hread
          rw [List.length_cons] at h hshort
          dsimp only
          rw [ih _ hshort (by omega) rfl, ih _ hshort (by omega) rfl]

theorem elements?_eq_some_cons_iff {element : Element} {elements : List Element} :
    elements? input = some (element :: elements) ↔
      ∃ rest, element? input = some (element, rest) ∧
        elements? rest = some elements := by
  cases input with
  | nil => simp [elements?, elementsWithin?, element?, header?]
  | cons first input =>
      rw [elements?, List.length_cons, elementsWithin?_succ (List.cons_ne_nil _ _)]
      have hfuel : ∀ {element rest},
          element? (first :: input) = some (element, rest) →
          elementsWithin? input.length rest = elements? rest := fun hread =>
        elementsWithin?_eq (Nat.le_of_lt_succ (length_lt_of_element? hread))
      simp only [Option.bind_eq_some_iff, Option.map_eq_some_iff, Prod.exists,
        List.cons.injEq]
      constructor
      · rintro ⟨_, rest, hread, _, helements, rfl, rfl⟩
        exact ⟨rest, hread, hfuel hread ▸ helements⟩
      · rintro ⟨rest, hread, helements⟩
        exact ⟨element, rest, hread, elements, hfuel hread ▸ helements, rfl, rfl⟩

theorem elements?_nil_iff : elements? input = some [] ↔ input = [] := by
  cases input with
  | nil => simp [elements?, elementsWithin?]
  | cons first input =>
      rw [elements?, List.length_cons, elementsWithin?_succ (List.cons_ne_nil _ _)]
      simp [Option.bind_eq_some_iff]

/-! ## Written elements -/

theorem toNat_numberBytes {fuel : Nat} (h : number < 256 ^ fuel) :
    Bytes.toNat (numberBytes fuel number) = number := by
  induction fuel generalizing number with
  | zero =>
      rw [Nat.pow_zero, Nat.lt_one_iff] at h
      rw [h]
      rfl
  | succ fuel ih =>
      rw [numberBytes]
      split
      · rename_i hzero
        exact hzero.symm
      · have hlt : number / 256 < 256 ^ fuel :=
          Nat.div_lt_of_lt_mul (by rwa [← Nat.pow_succ'])
        rw [Bytes.toNat_append_singleton, ih hlt, UInt8.toNat_ofNat']
        omega

theorem length_numberBytes_le (fuel number : Nat) :
    (numberBytes fuel number).length ≤ fuel := by
  induction fuel generalizing number with
  | zero => simp [numberBytes]
  | succ fuel ih =>
      rw [numberBytes]
      split
      · simp
      · rw [List.length_append, List.length_singleton]
        exact Nat.succ_le_succ (ih _)

theorem length?_digits {digits : List UInt8} (hpos : 0 < digits.length)
    (hmost : digits.length ≤ 8) (hvalue : Bytes.toNat digits < 2 ^ 63)
    (hrest : rest ≠ []) :
    length? (UInt8.ofNat (0x80 + digits.length) :: (digits ++ rest)) =
      some (some (Bytes.toNat digits), rest) := by
  have hfirst : (UInt8.ofNat (0x80 + digits.length)).toNat = 0x80 + digits.length :=
    UInt8.toNat_ofNat_of_lt' (by simp [UInt8.size]; omega)
  have hmark : ¬UInt8.ofNat (0x80 + digits.length) < 0x80 := by
    rw [UInt8.lt_iff_toNat_lt, hfirst]
    simp
  have hopen : UInt8.ofNat (0x80 + digits.length) ≠ 0x80 := by
    rw [Ne, ← UInt8.toNat_inj, hfirst]
    exact Nat.ne_of_gt (Nat.lt_add_of_pos_right hpos)
  have hroom := List.length_pos_iff.mpr hrest
  rw [length?, if_neg hmark, if_neg hopen]
  simp only [hfirst, Nat.add_sub_cancel_left, List.take_left, List.drop_left,
    List.length_append]
  rw [if_pos ⟨by omega, hvalue⟩]

theorem length?_encodeLength (h : number < 2 ^ 63) (hrest : number ≤ rest.length) :
    length? (encodeLength number ++ rest) = some (some number, rest) := by
  unfold encodeLength
  split
  · rename_i hshort
    have hfirst : (UInt8.ofNat number).toNat = number :=
      UInt8.toNat_ofNat_of_lt' (by simp [UInt8.size]; omega)
    have hlt : UInt8.ofNat number < 0x80 := by
      rw [UInt8.lt_iff_toNat_lt, hfirst]
      exact hshort
    rw [List.singleton_append, length?, if_pos hlt, hfirst]
  · rename_i hlong
    have hvalue : Bytes.toNat (numberBytes 8 number) = number :=
      toNat_numberBytes (by omega)
    have hne : numberBytes 8 number ≠ [] := by
      intro hnil
      rw [hnil] at hvalue
      simp [Bytes.toNat] at hvalue
      omega
    have hbehind : rest ≠ [] := List.ne_nil_of_length_pos (by omega)
    have hread :=
      length?_digits (List.length_pos_iff.mpr hne) (length_numberBytes_le 8 number)
        (by rwa [hvalue]) hbehind
    rwa [hvalue] at hread

theorem element?_encode (first : UInt8) {content : List UInt8}
    (hfirst : first.toNat % 32 ≠ 31) (h : content.length < 2 ^ 63)
    (rest : List UInt8) :
    element? (encode first content ++ rest) =
      some
        (⟨⟨tagClassOf first, first.toNat % 32⟩, first.toNat / 32 % 2 = 1, content,
          encode first content⟩, rest) := by
  have hlength := length?_encodeLength h
    (show content.length ≤ (content ++ rest).length by simp)
  have hheader :
      header? (first :: (encodeLength content.length ++ (content ++ rest))) =
      some
        (⟨⟨tagClassOf first, first.toNat % 32⟩, first.toNat / 32 % 2 = 1,
          some content.length⟩, content ++ rest) := by
    simp [header?, tagNumber?, hfirst, hlength]
  have hwritten : encode first content ++ rest =
      (first :: encodeLength content.length) ++ (content ++ rest) := by
    simp [encode]
  rw [element?, hwritten, List.cons_append, hheader]
  simp only [Option.bind_eq_bind, Option.bind_some, List.take_left, List.drop_left]
  rw [← List.cons_append, take_front]
  rfl

end Asn1

end EndpointDiscovery
