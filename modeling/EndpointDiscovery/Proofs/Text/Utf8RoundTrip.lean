import EndpointDiscovery.Text.Utf8
import Mathlib.Data.List.Basic

/-!
# UTF-8 is read back

The automaton reads the bytes of a character as that character and is then where it
started, whatever follows.
-/

namespace EndpointDiscovery.Text.Utf8

/-! ## Single bytes -/

theorem enter_one {byte : UInt8} (h : byte.toNat < 0x80) :
    enter byte = ([some (Char.ofNat byte.toNat)], .start) := by
  have hlt : byte < 0x80 := UInt8.lt_iff_toNat_lt.mpr h
  simp [enter, hlt]

theorem enter_two {byte : UInt8} (hlow : 0xC2 ≤ byte.toNat)
    (hhigh : byte.toNat < 0xE0) :
    enter byte = ([], .inside 0 (byte.toNat - 0xC0) 0x80 0xBF) := by
  unfold enter
  simp only [UInt8.lt_iff_toNat_lt, UInt8.reduceToNat]
  rw [if_neg (by omega), if_neg (by omega), if_pos hhigh]

theorem enter_three {byte : UInt8} (hlow : 0xE0 ≤ byte.toNat)
    (hhigh : byte.toNat < 0xF0) :
    enter byte =
      ([], .inside 1 (byte.toNat - 0xE0) (if byte.toNat = 0xE0 then 0xA0 else 0x80)
        (if byte.toNat = 0xED then 0x9F else 0xBF)) := by
  unfold enter
  simp only [UInt8.lt_iff_toNat_lt, ← UInt8.toNat_inj, UInt8.reduceToNat]
  rw [if_neg (by omega), if_neg (by omega), if_neg (by omega)]
  by_cases hfirst : byte.toNat = 0xE0
  · simp [hfirst]
  · by_cases hsurrogate : byte.toNat = 0xED
    · simp [hsurrogate]
    · simp [hfirst, hsurrogate, hhigh]

theorem enter_four {byte : UInt8} (hlow : 0xF0 ≤ byte.toNat)
    (hhigh : byte.toNat ≤ 0xF4) :
    enter byte =
      ([], .inside 2 (byte.toNat - 0xF0) (if byte.toNat = 0xF0 then 0x90 else 0x80)
        (if byte.toNat = 0xF4 then 0x8F else 0xBF)) := by
  unfold enter
  simp only [UInt8.lt_iff_toNat_lt, ← UInt8.toNat_inj, UInt8.reduceToNat]
  rw [if_neg (by omega), if_neg (by omega), if_neg (by omega), if_neg (by omega),
    if_neg (by omega), if_neg (by omega)]
  by_cases hfirst : byte.toNat = 0xF0
  · simp [hfirst]
  · by_cases hlast : byte.toNat = 0xF4
    · simp [hlast]
    · have hmiddle : byte.toNat < 0xF4 := by omega
      simp [hfirst, hlast, hmiddle]

variable {byte low high : UInt8} {rest : List UInt8} {missing value : Nat}

theorem scanFrom_enter {read : List (Option Char)} {position : Position}
    (h : enter byte = (read, position)) :
    scanFrom .start (byte :: rest) = read ++ scanFrom position rest := by
  simp [scanFrom, step, h]

theorem scanFrom_last (hlow : low ≤ byte) (hhigh : byte ≤ high) :
    scanFrom (.inside 0 value low high) (byte :: rest) =
      some (Char.ofNat (value * 64 + (byte.toNat - 0x80))) ::
      scanFrom .start rest := by
  simp [scanFrom, step, hlow, hhigh]

theorem scanFrom_next (hlow : low ≤ byte) (hhigh : byte ≤ high) :
    scanFrom (.inside (missing + 1) value low high) (byte :: rest) =
      scanFrom (.inside missing (value * 64 + (byte.toNat - 0x80)) 0x80 0xBF)
        rest := by
  simp [scanFrom, step, hlow, hhigh]

/-! ## Characters -/

def tail (bits : Nat) : UInt8 := UInt8.ofNat (bits % 64 + 128)

theorem toNat_tail (bits : Nat) : (tail bits).toNat = bits % 64 + 128 := by
  simp only [tail, UInt8.toNat_ofNat']
  omega

theorem le_tail {low : UInt8} {bits : Nat} (h : low.toNat ≤ bits % 64 + 128) :
    low ≤ tail bits := by
  rwa [UInt8.le_iff_toNat_le, toNat_tail]

theorem tail_le {high : UInt8} {bits : Nat} (h : bits % 64 + 128 ≤ high.toNat) :
    tail bits ≤ high := by
  rwa [UInt8.le_iff_toNat_le, toNat_tail]

theorem least_le_tail (bits : Nat) : 0x80 ≤ tail bits :=
  le_tail (Nat.le_add_left _ _)

theorem tail_le_greatest (bits : Nat) : tail bits ≤ 0xBF :=
  tail_le
    (Nat.add_le_add_right (Nat.le_of_lt_succ (Nat.mod_lt bits (by decide))) 128)

theorem le_tail_of_tight {tight : Prop} [Decidable tight] {least : UInt8}
    {bits : Nat} (h : tight → least.toNat ≤ bits % 64 + 128) :
    (if tight then least else 0x80) ≤ tail bits := by
  split
  · exact le_tail (h ‹_›)
  · exact least_le_tail bits

theorem tail_le_of_loose {loose : Prop} [Decidable loose] {greatest : UInt8}
    {bits : Nat} (h : loose → bits % 64 + 128 ≤ greatest.toNat) :
    tail bits ≤ if loose then greatest else 0xBF := by
  split
  · exact tail_le (h ‹_›)
  · exact tail_le_greatest bits

theorem scanFrom_one {number : Nat} (h : number ≤ 0x7F) :
    scanFrom .start (UInt8.ofNat number :: rest) =
      some (Char.ofNat number) :: scanFrom .start rest := by
  have hbyte : (UInt8.ofNat number).toNat = number := by
    rw [UInt8.toNat_ofNat']
    omega
  rw [scanFrom_enter (enter_one (by omega)), hbyte]
  rfl

theorem scanFrom_two {number : Nat} (hlow : 0x7F < number)
    (hhigh : number ≤ 0x7FF) :
    scanFrom .start (UInt8.ofNat (number / 64 % 32 + 192) :: tail number :: rest) =
      some (Char.ofNat number) :: scanFrom .start rest := by
  have hbyte : (UInt8.ofNat (number / 64 % 32 + 192)).toNat =
      number / 64 + 192 := by
    rw [UInt8.toNat_ofNat']
    omega
  have hvalue : (number / 64 + 192 - 192) * 64 + (number % 64 + 128 - 128) =
      number := by omega
  rw [scanFrom_enter (enter_two (by omega) (by omega)), List.nil_append,
    scanFrom_last (least_le_tail _) (tail_le_greatest _), hbyte, toNat_tail, hvalue]

/-- The bounds of the second byte leave out the surrogates, which no
character is. -/
theorem scanFrom_three {number : Nat} (hlow : 0x7FF < number)
    (hhigh : number ≤ 0xFFFF) (hvalid : number < 0xD800 ∨ 0xDFFF < number) :
    scanFrom .start (UInt8.ofNat (number / 4096 % 16 + 224) :: tail (number / 64) ::
        tail number :: rest) =
      some (Char.ofNat number) :: scanFrom .start rest := by
  have hbyte : (UInt8.ofNat (number / 4096 % 16 + 224)).toNat =
      number / 4096 + 224 := by
    rw [UInt8.toNat_ofNat']
    omega
  have hvalue :
      ((number / 4096 + 224 - 224) * 64 + (number / 64 % 64 + 128 - 128)) * 64 +
      (number % 64 + 128 - 128) = number := by omega
  rw [scanFrom_enter (enter_three (by omega) (by omega)), List.nil_append, hbyte,
    scanFrom_next, scanFrom_last (least_le_tail _) (tail_le_greatest _), toNat_tail,
    toNat_tail, hvalue]
  · exact le_tail_of_tight fun hleast => by simp only [UInt8.reduceToNat]; omega
  · exact tail_le_of_loose fun hgreatest => by simp only [UInt8.reduceToNat]; omega

theorem scanFrom_four {number : Nat} (hlow : 0xFFFF < number)
    (hhigh : number < 0x110000) :
    scanFrom .start
      (UInt8.ofNat (number / 262144 % 8 + 240) :: tail (number / 4096) ::
        tail (number / 64) :: tail number :: rest) =
      some (Char.ofNat number) :: scanFrom .start rest := by
  have hbyte : (UInt8.ofNat (number / 262144 % 8 + 240)).toNat =
      number / 262144 + 240 := by
    rw [UInt8.toNat_ofNat']
    omega
  have hvalue :
      (((number / 262144 + 240 - 240) * 64 + (number / 4096 % 64 + 128 - 128)) *
        64 +
      (number / 64 % 64 + 128 - 128)) * 64 + (number % 64 + 128 - 128) =
        number := by omega
  rw [scanFrom_enter (enter_four (by omega) (by omega)), List.nil_append, hbyte,
    scanFrom_next, scanFrom_next (least_le_tail _) (tail_le_greatest _),
    scanFrom_last (least_le_tail _) (tail_le_greatest _), toNat_tail, toNat_tail,
    toNat_tail, hvalue]
  · exact le_tail_of_tight fun hleast => by simp only [UInt8.reduceToNat]; omega
  · exact tail_le_of_loose fun hgreatest => by simp only [UInt8.reduceToNat]; omega

theorem scanFrom_utf8EncodeChar (character : Char) (rest : List UInt8) :
    scanFrom .start (String.utf8EncodeChar character ++ rest) =
      some character :: scanFrom .start rest := by
  have hvalid : character.toNat < 0xD800 ∨ 0xDFFF < character.toNat ∧
      character.toNat < 0x110000 :=
    character.valid
  have hcharacter := Char.ofNat_toNat character
  simp only [String.utf8EncodeChar,
    show character.val.toNat = character.toNat from rfl]
  generalize character.toNat = number at hvalid hcharacter
  rw [← hcharacter]
  split
  · exact scanFrom_one (by omega)
  split
  · exact scanFrom_two (by omega) (by omega)
  split
  · exact scanFrom_three (by omega) (by omega) (by omega)
  · exact scanFrom_four (by omega) (by omega)

/-! ## Texts -/

theorem scan_encode (characters : List Char) :
    scan (encode characters) = characters.map some := by
  induction characters with
  | nil => rfl
  | cons character characters ih =>
      rw [scan] at ih ⊢
      rw [encode, List.flatMap_cons, ← encode, scanFrom_utf8EncodeChar, ih,
        List.map_cons]

theorem decode?_encode (characters : List Char) :
    decode? (encode characters) = some characters := by
  rw [decode?, scan_encode]
  induction characters with
  | nil => rfl
  | cons character characters ih => simp [ih]

theorem decodeLenient_encode (characters : List Char) :
    decodeLenient (encode characters) = characters := by
  rw [decodeLenient, scan_encode, List.map_map]
  exact List.map_id _

theorem encodeString_injective {first second : String}
    (h : encodeString first = encodeString second) : first = second := by
  have hdecoded := congrArg decode? h
  rw [encodeString, encodeString, decode?_encode, decode?_encode] at hdecoded
  exact String.toList_inj.mp (Option.some.inj hdecoded)

theorem lt_of_mem_utf8EncodeChar {character : Char} {byte : UInt8}
    (h : byte ∈ String.utf8EncodeChar character) : byte.toNat < 0xF8 := by
  simp only [String.utf8EncodeChar] at h
  repeat' split at h
  all_goals
    simp only [List.mem_cons, List.not_mem_nil, or_false] at h
    obtain rfl | rfl | rfl | rfl := h <;> simp only [UInt8.toNat_ofNat'] <;> omega

theorem end_not_mem_encode (characters : List Char) : 0xFF ∉ encode characters := by
  intro hmem
  obtain ⟨character, -, hbyte⟩ := List.mem_flatMap.mp hmem
  exact absurd (lt_of_mem_utf8EncodeChar hbyte) (by decide)

/-! ## Texts in ASCII -/

theorem toNat_ofNat_of_ascii : ∀ number < 0x80,
    (Char.ofNat number).toNat = number := by
  decide

theorem encode_append (first second : List Char) :
    encode (first ++ second) = encode first ++ encode second :=
  List.flatMap_append

theorem utf8EncodeChar_of_ascii {character : Char} (h : character.toNat < 0x80) :
    String.utf8EncodeChar character = [UInt8.ofNat character.toNat] := by
  have hle : character.val.toNat ≤ 127 := Nat.le_of_lt_succ h
  rw [String.utf8EncodeChar, if_pos hle]
  rfl

theorem encode_of_ascii {characters : List Char}
    (h : ∀ character ∈ characters, character.toNat < 0x80) :
    encode characters = characters.map fun character =>
      UInt8.ofNat character.toNat := by
  induction characters with
  | nil => rfl
  | cons character characters ih =>
      obtain ⟨hfirst, hrest⟩ := List.forall_mem_cons.mp h
      rw [encode, List.flatMap_cons, utf8EncodeChar_of_ascii hfirst, ← encode,
        ih hrest]
      rfl

theorem toNat_eq_of_mem_utf8EncodeChar {character : Char} {byte : UInt8}
    (hmem : byte ∈ String.utf8EncodeChar character) (hascii : byte.toNat < 0x80) :
    byte.toNat = character.toNat := by
  have hnumber : character.val.toNat = character.toNat := rfl
  simp only [String.utf8EncodeChar, hnumber] at hmem
  split at hmem
  · obtain rfl := List.mem_singleton.mp hmem
    rw [UInt8.toNat_ofNat']
    omega
  · -- All bytes of a longer form are too great.
    exfalso
    repeat' split at hmem
    all_goals
      simp only [List.mem_cons, List.not_mem_nil, or_false] at hmem
      rcases hmem with rfl | rfl | rfl | rfl <;>
        simp only [UInt8.toNat_ofNat'] at hascii <;> omega

theorem scan_of_ascii {bytes : List UInt8} (h : ∀ byte ∈ bytes, byte.toNat < 0x80) :
    scan bytes = bytes.map fun byte => some (Char.ofNat byte.toNat) := by
  induction bytes with
  | nil => rfl
  | cons byte bytes ih =>
      obtain ⟨hfirst, hrest⟩ := List.forall_mem_cons.mp h
      rw [scan] at ih ⊢
      rw [scanFrom_enter (enter_one hfirst), ih hrest]
      rfl

theorem eq_map_of_encode_ascii {characters : List Char}
    (h : ∀ byte ∈ encode characters, byte.toNat < 0x80) :
    characters = (encode characters).map fun byte => Char.ofNat byte.toNat := by
  have hscan := scan_of_ascii h
  rw [scan_encode] at hscan
  apply List.map_injective_iff.mpr fun _ _ => Option.some.inj
  rw [hscan, List.map_map]
  rfl

theorem encodeString_eq_bytes (text : String) :
    encodeString text = text.toByteArray.data.toList := by
  rw [← String.utf8Encode_toList, List.utf8Encode, List.data_toByteArray]
  rfl

theorem forall_mem_toList_of_bytes {P : Char → Prop} {text : String}
    (h : ∀ byte ∈ text.toByteArray.data.toList,
      byte.toNat < 0x80 ∧ P (Char.ofNat byte.toNat)) :
    ∀ character ∈ text.toList, P character := by
  rw [← encodeString_eq_bytes] at h
  rw [eq_map_of_encode_ascii fun byte hbyte => (h byte hbyte).1]
  exact List.forall_mem_map.mpr fun byte hbyte => (h byte hbyte).2

end EndpointDiscovery.Text.Utf8
