import EndpointDiscovery.Proofs.Text.Cut
import EndpointDiscovery.Proofs.Text.Parts
import EndpointDiscovery.Url.Host
import Mathlib.Data.List.Induction

/-!
# Addresses as hosts

The text of an address is read as that address.  The numbers of an IPv4 address are
written in decimal notation; the first longest run of zeros among the pieces of an
IPv6 address is left out and made up for when the text is read.
-/

namespace EndpointDiscovery.Url.Host

variable {text : List Char} {pieces : List Nat}

/-! ## Numbers -/

theorem digitOf?_digitChar : ∀ digit < 16,
    digitOf? 16 digit.digitChar = some digit := by
  decide

theorem digitOf?_lt {base value : Nat} {character : Char}
    (h : digitOf? base character = some value) : value < base := by
  have hguard : ∀ number,
      (if number < base then some number else none) = some value →
      value < base := by
    intro number hnumber
    split at hnumber
    · cases hnumber
      assumption
    · cases hnumber
  exact hguard _ h

theorem numberOf?_toDigits (number : Nat) :
    numberOf? 16 (Nat.toDigits 16 number) = some number := by
  induction number using Nat.strongRecOn with
  | ind number ih =>
      rw [Nat.toDigits_eq_if (by decide)]
      split
      · rename_i hlt
        simp [numberOf?, digitOf?_digitChar number hlt]
      · have hrest := ih (number / 16) (by omega)
        have hdigit := digitOf?_digitChar (number % 16) (Nat.mod_lt _ (by decide))
        rw [numberOf?] at hrest ⊢
        rw [List.foldlM_append, hrest]
        simp only [Option.bind_eq_bind, Option.bind_some, List.foldlM_cons,
          List.foldlM_nil, hdigit, Option.map_some, Option.pure_def,
          Option.some.injEq]
        omega

theorem numberOf?_lt {base number : Nat} {digits : List Char}
    (h : numberOf? base digits = some number) :
    number < Nat.pow base digits.length := by
  induction digits using List.reverseRecOn generalizing number with
  | nil =>
      cases h
      exact Nat.zero_lt_one
  | append_singleton digits digit ih =>
      rw [numberOf?, List.foldlM_append] at h
      obtain ⟨front, hfront, h⟩ := Option.bind_eq_some_iff.mp h
      simp only [List.foldlM_cons, List.foldlM_nil, Option.bind_eq_bind] at h
      obtain ⟨sum, hsum, h⟩ := Option.bind_eq_some_iff.mp h
      cases h
      obtain ⟨value, hvalue, rfl⟩ := Option.map_eq_some_iff.mp hsum
      have hdigit := digitOf?_lt hvalue
      have hlt := Nat.mul_le_mul_right base (Nat.succ_le_of_lt (ih hfront))
      rw [Nat.succ_mul] at hlt
      rw [List.length_append, List.length_singleton, Nat.pow, Nat.mul_eq]
      omega

theorem isSome_of_numberOf? {base number : Nat} {digits : List Char}
    (h : numberOf? base digits = some number) : ∀ digit ∈ digits,
    (digitOf? base digit).isSome := by
  induction digits using List.reverseRecOn generalizing number with
  | nil => simp
  | append_singleton digits digit ih =>
      rw [numberOf?, List.foldlM_append] at h
      obtain ⟨front, hfront, h⟩ := Option.bind_eq_some_iff.mp h
      simp only [List.foldlM_cons, List.foldlM_nil, Option.bind_eq_bind] at h
      obtain ⟨sum, hsum, -⟩ := Option.bind_eq_some_iff.mp h
      obtain ⟨value, hvalue, -⟩ := Option.map_eq_some_iff.mp hsum
      intro other hmem
      rcases List.mem_append.mp hmem with hmem | hmem
      · exact ih hfront other hmem
      · rw [List.mem_singleton.mp hmem, hvalue]
        rfl

/-! ## IPv4 -/

theorem ipv4Number?_toDigits :
    ∀ number < 256, ipv4Number? (Nat.toDigits 10 number) = some number := by
  decide +kernel

theorem toDigits_byte : ∀ number < 256, (Nat.toDigits 10 number).isEmpty = false ∧
    (Nat.toDigits 10 number).all (fun digit => (digitOf? 10 digit).isSome) = true ∧
    isWellFormedLabel (Nat.toDigits 10 number) = true := by
  decide +kernel

theorem joined_lt {leading : List Nat} {last : Nat} (hlength : leading.length ≤ 3)
    (hleading : leading.all (· ≤ 255) = true)
    (hlast : last < Nat.pow 256 (4 - leading.length)) :
    leading.foldr (fun number sum => sum / 256 + number * 0x1000000) 0 + last <
      0x100000000 := by
  match leading with
  | [] =>
      have hlast : last < 0x100000000 := hlast
      rw [List.foldr_nil]
      omega
  | [first] =>
      have hlast : last < 0x1000000 := hlast
      simp only [List.all_cons, List.all_nil, Bool.and_true,
        decide_eq_true_eq] at hleading
      rw [List.foldr_cons, List.foldr_nil]
      omega
  | [first, second] =>
      have hlast : last < 0x10000 := hlast
      simp only [List.all_cons, List.all_nil, Bool.and_true, Bool.and_eq_true,
        decide_eq_true_eq] at hleading
      rw [List.foldr_cons, List.foldr_cons, List.foldr_nil]
      omega
  | [first, second, third] =>
      have hlast : last < 0x100 := hlast
      simp only [List.all_cons, List.all_nil, Bool.and_true, Bool.and_eq_true,
        decide_eq_true_eq] at hleading
      rw [List.foldr_cons, List.foldr_cons, List.foldr_cons, List.foldr_nil]
      omega
  | _ :: _ :: _ :: _ :: _ =>
      simp only [List.length_cons] at hlength
      omega

theorem ipv4?_lt {address : Nat} (h : ipv4? text = some address) :
    address < 0x100000000 := by
  obtain ⟨numbers, -, h⟩ := Option.bind_eq_some_iff.mp h
  obtain ⟨last, -, h⟩ := Option.bind_eq_some_iff.mp h
  dsimp only at h
  split at h
  · rename_i hbounds
    cases h
    exact joined_lt hbounds.1 hbounds.2.1 hbounds.2.2
  · cases h

def addressText (address : Nat) : List Char :=
  List.intercalate ['.'] ((ipv4Bytes address).map (Nat.toDigits 10))

theorem toList_toText_ipv4 (address : Nat) :
    (toText (.ipv4 address)).toList = addressText address := by
  have htoList : String.toList ∘ toString = Nat.toDigits 10 :=
    funext fun _ => Nat.toList_repr
  rw [toText, addressText, String.toList_intercalate, List.map_map, htoList]
  rfl

theorem ipv4Bytes_lt {address : Nat} : ∀ byte ∈ ipv4Bytes address, byte < 256 := by
  simp only [ipv4Bytes, List.forall_mem_cons]
  refine ⟨Nat.mod_lt _ ?_, Nat.mod_lt _ ?_, Nat.mod_lt _ ?_, Nat.mod_lt _ ?_, ?_⟩
  all_goals simp

theorem labels_addressText (address : Nat) :
    labels (addressText address) = (ipv4Bytes address).map (Nat.toDigits 10) := by
  refine Text.splitOn_intercalate ?_ (by simp [ipv4Bytes])
  intro part hpart hdot
  obtain ⟨byte, hbyte, rfl⟩ := List.mem_map.mp hpart
  have hdigits := (toDigits_byte byte (ipv4Bytes_lt byte hbyte)).2.1
  exact absurd (List.all_eq_true.mp hdigits '.' hdot) (by decide)

theorem withoutLastEmpty_addressText (address : Nat) :
    withoutLastEmpty (labels (addressText address)) =
      (ipv4Bytes address).map (Nat.toDigits 10) := by
  rw [labels_addressText, withoutLastEmpty, if_neg]
  have hlast := (toDigits_byte (address % 256) (Nat.mod_lt _ (by decide))).1
  simpa only [ipv4Bytes, List.map_cons, List.map_nil, List.getLast?_cons_cons,
    List.getLast?_singleton, Option.some.injEq, List.isEmpty_eq_false_iff]
      using hlast

theorem joined_ipv4Bytes {address : Nat} (h : address < 0x100000000) :
    (ipv4Bytes address).dropLast.foldr (fun number sum =>
      sum / 256 + number * 0x1000000) 0 + address % 256 = address := by
  simp only [ipv4Bytes, List.dropLast_cons_cons, List.dropLast_singleton]
  rw [List.foldr_cons, List.foldr_cons, List.foldr_cons, List.foldr_nil]
  omega

theorem ipv4?_addressText {address : Nat} (h : address < 0x100000000) :
    ipv4? (addressText address) = some address := by
  have hnumbers : ((ipv4Bytes address).map (Nat.toDigits 10)).mapM ipv4Number? =
      some (ipv4Bytes address) :=
    Text.mapM_map_eq_some fun byte hbyte =>
      ipv4Number?_toDigits byte (ipv4Bytes_lt byte hbyte)
  have hlast : address % 256 <
      Nat.pow 256 (4 - (ipv4Bytes address).dropLast.length) :=
    Nat.mod_lt _ (by decide)
  have hleading : (ipv4Bytes address).dropLast.all (· ≤ 255) = true := by
    rw [List.all_eq_true]
    intro byte hmem
    exact decide_eq_true
      (Nat.le_of_lt_succ (ipv4Bytes_lt byte (List.mem_of_mem_dropLast hmem)))
  rw [ipv4?, withoutLastEmpty_addressText, hnumbers]
  refine Eq.trans (if_pos ⟨?_, hleading, hlast⟩)
    (congrArg some (joined_ipv4Bytes h))
  simp [ipv4Bytes]

theorem endsInNumber_addressText (address : Nat) :
    endsInNumber (addressText address) = true := by
  rw [endsInNumber, withoutLastEmpty_addressText]
  obtain ⟨hne, hdigits, -⟩ :=
    toDigits_byte (address % 256) (Nat.mod_lt _ (by decide))
  simp only [ipv4Bytes, List.map_cons, List.map_nil, List.getLast?_cons_cons,
    List.getLast?_singleton, hne, hdigits]
  rfl

/-! ## IPv6 -/

structure IsAddress (pieces : List Nat) : Prop where
  length_eq : pieces.length = 8
  bound : ∀ piece ∈ pieces, piece < 0x10000

def hexPiece? (part : List Char) : Option Nat :=
  if part.isEmpty || 4 < part.length then none else numberOf? 16 part

theorem hexPiece?_lt {part : List Char} {piece : Nat}
    (h : hexPiece? part = some piece) :
    piece < 0x10000 := by
  unfold hexPiece? at h
  split at h
  · cases h
  · rename_i hshort
    have hlength : part.length ≤ 4 := by simp at hshort; omega
    have hpow : Nat.pow 16 part.length ≤ 16 ^ 4 :=
      Nat.pow_le_pow_right (by decide) hlength
    exact Nat.lt_of_lt_of_le (numberOf?_lt h) hpow

theorem hexPiece?_toDigits {piece : Nat} (h : piece < 0x10000) :
    hexPiece? (Nat.toDigits 16 piece) = some piece := by
  have hlength : (Nat.toDigits 16 piece).length ≤ 4 :=
    (Nat.length_toDigits_le_iff (by decide) (by decide)).mpr h
  rw [hexPiece?, if_neg, numberOf?_toDigits]
  simp [Nat.toDigits_ne_nil, hlength]

theorem not_mem_toDigits {mark : Char} (hmark : digitOf? 16 mark = none)
    (piece : Nat) :
    mark ∉ Nat.toDigits 16 piece := by
  intro hmem
  have hdigit := isSome_of_numberOf? (numberOf?_toDigits piece) mark hmem
  rw [hmark] at hdigit
  cases hdigit

theorem embeddedNumber?_le {digits : List Char} {number : Nat}
    (h : embeddedNumber? digits = some number) : number ≤ 255 := by
  obtain ⟨value, -, h⟩ := Option.bind_eq_some_iff.mp h
  split at h
  · cases h
  · rename_i hnot
    cases h
    omega

theorem ipv6Pieces?_lt {allowAddress : Bool}
    (h : ipv6Pieces? text allowAddress = some pieces) :
    ∀ piece ∈ pieces, piece < 0x10000 := by
  have hread : ∀ {parts : List (List Char)} {read : List Nat},
      parts.mapM hexPiece? = some read →
      ∀ piece ∈ read, piece < 0x10000 := by
    intro parts read hparts piece hmem
    obtain ⟨part, -, hpart⟩ := Text.exists_of_mem_mapM hparts piece hmem
    exact hexPiece?_lt hpart
  unfold ipv6Pieces? at h
  split at h
  · cases h
    simp
  · dsimp only at h
    split at h
    · cases h
    · split at h
      · obtain ⟨leading, hleading, h⟩ := Option.bind_eq_some_iff.mp h
        obtain ⟨numbers, hnumbers, h⟩ := Option.bind_eq_some_iff.mp h
        split at h
        · rename_i a b c d
          cases h
          have hbyte : ∀ number ∈ [a, b, c, d], number ≤ 255 := by
            intro number hmem
            obtain ⟨digits, -, hdigits⟩ :=
              Text.exists_of_mem_mapM hnumbers number hmem
            exact embeddedNumber?_le hdigits
          simp only [List.forall_mem_cons] at hbyte
          intro piece hmem
          simp only [List.mem_append, List.mem_cons, List.not_mem_nil,
            or_false] at hmem
          rcases hmem with hmem | rfl | rfl
          · exact hread hleading piece hmem
          · omega
          · omega
        · cases h
      · exact hread h

theorem isAddress_of_ipv6? (h : ipv6? text = some pieces) : IsAddress pieces := by
  unfold ipv6? at h
  split at h
  · obtain ⟨found, hfound, h⟩ := Option.bind_eq_some_iff.mp h
    split at h
    · rename_i hlength
      cases h
      exact ⟨hlength, ipv6Pieces?_lt hfound⟩
    · cases h
  · obtain ⟨leading, hleading, h⟩ := Option.bind_eq_some_iff.mp h
    obtain ⟨trailing, htrailing, h⟩ := Option.bind_eq_some_iff.mp h
    dsimp only at h
    split at h
    · rename_i hcount
      cases h
      refine ⟨?_, ?_⟩
      · simp only [List.length_append, List.length_replicate]
        omega
      · intro piece hmem
        simp only [List.mem_append, List.mem_replicate] at hmem
        rcases hmem with (hmem | ⟨-, rfl⟩) | hmem
        · exact ipv6Pieces?_lt hleading piece hmem
        · decide
        · exact ipv6Pieces?_lt htrailing piece hmem
    · cases h

/-! ### Zeros that are left out -/

theorem drop_eq_zeros_append (pieces : List Nat) (start : Nat) :
    pieces.drop start = List.replicate ((zeroRuns pieces).getD start 0) 0 ++
      pieces.drop (start + (zeroRuns pieces).getD start 0) := by
  induction pieces generalizing start with
  | nil => simp [zeroRuns]
  | cons piece pieces ih =>
      cases start with
      | succ start =>
          have hrest := ih start
          simp only [zeroRuns, List.getD_cons_succ, List.drop_succ_cons,
            Nat.succ_add]
          exact hrest
      | zero =>
          have hrest := ih 0
          have hhead : (zeroRuns pieces).headD 0 = (zeroRuns pieces).getD 0 0 := by
            cases zeroRuns pieces <;> rfl
          simp only [zeroRuns, List.getD_cons_zero, List.drop_zero, Nat.zero_add,
            hhead] at hrest ⊢
          split
          · rename_i hzero
            rw [List.replicate_succ, List.cons_append, List.drop_succ_cons, hzero,
              ← hrest]
          · simp

theorem longest_mem {runs : List Nat} (h : 0 < runs.foldl max 0) :
    runs.foldl max 0 ∈ runs := by
  rw [List.foldl_max] at h ⊢
  cases hmax : runs.max? with
  | none => simp [hmax] at h
  | some longest =>
      rw [Option.getD_some, Nat.zero_max]
      exact List.max?_mem hmax

theorem around_longest {longest : Nat}
    (hlongest : (zeroRuns pieces).foldl max 0 = longest) (hsome : 0 < longest) :
    pieces.take ((zeroRuns pieces).idxOf longest) ++ (List.replicate longest 0 ++
      pieces.drop ((zeroRuns pieces).idxOf longest + longest)) = pieces := by
  have hmem : longest ∈ zeroRuns pieces := by
    rw [← hlongest]
    exact longest_mem (by omega)
  have hzeros := drop_eq_zeros_append pieces ((zeroRuns pieces).idxOf longest)
  rw [List.getD_eq_getElem?_getD, List.getElem?_idxOf hmem,
    Option.getD_some] at hzeros
  rw [← hzeros, List.take_append_drop]

/-! ### Texts of pieces -/

def joinedText (pieces : List Nat) : List Char :=
  List.intercalate [':'] (pieces.map (Nat.toDigits 16))

theorem toList_joinPieces (pieces : List Nat) :
    (joinPieces pieces).toList = joinedText pieces := by
  simp [joinPieces, joinedText, String.toList_intercalate, Function.comp_def]

theorem splitOn_joinedText (h : pieces ≠ []) :
    Text.splitOn ':' (joinedText pieces) = pieces.map (Nat.toDigits 16) := by
  refine Text.splitOn_intercalate ?_ (by simpa using h)
  intro part hpart
  obtain ⟨piece, -, rfl⟩ := List.mem_map.mp hpart
  exact not_mem_toDigits (by decide) piece

theorem nil_not_mem_toDigits : [] ∉ pieces.map (Nat.toDigits 16) := by
  intro hmem
  obtain ⟨piece, -, hpiece⟩ := List.mem_map.mp hmem
  exact Nat.toDigits_ne_nil hpiece

theorem joinedText_ne_nil (h : pieces ≠ []) : joinedText pieces ≠ [] := by
  intro hnil
  have hsplit := splitOn_joinedText h
  rw [hnil, eq_comm] at hsplit
  have hempty : [] ∈ pieces.map (Nat.toDigits 16) := by
    rw [hsplit]
    exact List.mem_singleton.mpr rfl
  exact nil_not_mem_toDigits hempty

theorem ipv6Pieces?_joinedText (h : ∀ piece ∈ pieces, piece < 0x10000)
    (allowAddress : Bool) :
    ipv6Pieces? (joinedText pieces) allowAddress = some pieces := by
  by_cases hpieces : pieces = []
  · rw [hpieces]
    rfl
  have hempty : (joinedText pieces).isEmpty = false := by
    simpa using joinedText_ne_nil hpieces
  have hlast :
      ((pieces.map (Nat.toDigits 16)).getLast
        (by simpa using hpieces)).contains '.' =
      false := by
    obtain ⟨piece, -, hpiece⟩ :=
      List.mem_map.mp (List.getLast_mem (by simpa using hpieces :
      pieces.map (Nat.toDigits 16) ≠ []))
    rw [← hpiece]
    simpa using not_mem_toDigits (by decide) piece
  unfold ipv6Pieces?
  simp only [hempty, splitOn_joinedText hpieces, List.getLast?_eq_some_getLast (by
    simpa using hpieces : pieces.map (Nat.toDigits 16) ≠ []), hlast, Bool.and_false,
    Bool.false_eq_true, if_false]
  exact Text.mapM_map_eq_some fun piece hmem => hexPiece?_toDigits (h piece hmem)

theorem nil_mem_dropLast (h : [':', ':'] <:+: text) :
    [] ∈ (Text.splitOn ':' text).dropLast := by
  obtain ⟨front, back, rfl⟩ := h
  have hsplit : Text.splitOn ':' (front ++ [':', ':'] ++ back) =
      Text.splitOn ':' front ++ [] :: Text.splitOn ':' back := by
    rw [List.append_assoc]
    exact Text.splitOn_append_cons ':' front (':' :: back)
  rw [hsplit, List.dropLast_append_of_ne_nil (List.cons_ne_nil _ _),
    List.dropLast_cons_of_ne_nil (Text.splitOn_ne_nil ':' back)]
  exact List.mem_append_right _ List.mem_cons_self

theorem cutFirst_joinedText (pieces : List Nat) :
    Text.cutFirst [':', ':'] (joinedText pieces) = none := by
  have hnot : ¬[':', ':'] <:+: joinedText pieces := by
    intro hinfix
    have hmem := List.mem_of_mem_dropLast (nil_mem_dropLast hinfix)
    by_cases hpieces : pieces = []
    · rw [hpieces] at hinfix
      simp [joinedText] at hinfix
    · rw [splitOn_joinedText hpieces] at hmem
      exact nil_not_mem_toDigits hmem
  rw [← Text.occurs_iff_infix, Text.occurs] at hnot
  simpa using hnot

theorem cutFirst_joinedText_append (leading trailing : List Nat) :
    Text.cutFirst [':', ':']
      (joinedText leading ++ ([':', ':'] ++ joinedText trailing)) =
      some (joinedText leading, joinedText trailing) := by
  rw [Text.cutFirst_append_iff _ _ (List.cons_ne_nil _ _)]
  intro hinfix
  by_cases hleading : leading = []
  · rw [hleading] at hinfix
    exact absurd hinfix.length_le (by decide)
  · have hmem := nil_mem_dropLast hinfix
    have hsplit : Text.splitOn ':' (joinedText leading ++ [':', ':'].dropLast) =
        leading.map (Nat.toDigits 16) ++ [[]] := by
      rw [← splitOn_joinedText hleading]
      exact Text.splitOn_append_cons ':' (joinedText leading) []
    rw [hsplit, List.dropLast_concat] at hmem
    exact nil_not_mem_toDigits hmem

theorem IsAddress.ipv6?_ipv6Text (h : IsAddress pieces) :
    ipv6? (ipv6Text pieces).toList = some pieces := by
  unfold ipv6Text
  dsimp only
  split
  · rw [toList_joinPieces, ipv6?, cutFirst_joinedText]
    simp [ipv6Pieces?_joinedText h.bound, h.length_eq]
  · rename_i hlong
    generalize hlongest : (zeroRuns pieces).foldl max 0 = longest at hlong ⊢
    have hpieces := around_longest hlongest (by omega)
    generalize (zeroRuns pieces).idxOf longest = start at hpieces ⊢
    have hlength := congrArg List.length hpieces
    rw [List.length_append, List.length_append, List.length_replicate,
      h.length_eq] at hlength
    have hleading : ∀ piece ∈ pieces.take start, piece < 0x10000 :=
      fun piece hmem => h.bound piece (List.mem_of_mem_take hmem)
    have htrailing : ∀ piece ∈ pieces.drop (start + longest), piece < 0x10000 :=
      fun piece hmem => h.bound piece (List.mem_of_mem_drop hmem)
    have htext : (joinPieces (pieces.take start) ++ "::" ++
        joinPieces (pieces.drop (start + longest))).toList =
          joinedText (pieces.take start) ++
            ([':', ':'] ++ joinedText (pieces.drop (start + longest))) := by
      simp [toList_joinPieces]
    have hcount :
        8 - ((pieces.take start).length + (pieces.drop (start + longest)).length) =
        longest := by omega
    rw [htext, ipv6?, cutFirst_joinedText_append]
    simp only [ipv6Pieces?_joinedText hleading, ipv6Pieces?_joinedText htrailing,
      Option.bind_eq_bind, Option.bind_some, hcount, List.append_assoc, hpieces]
    rw [if_pos (by omega)]

end EndpointDiscovery.Url.Host
