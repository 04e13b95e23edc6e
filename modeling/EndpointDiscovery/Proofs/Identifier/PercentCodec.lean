import EndpointDiscovery.Proofs.Identifier.PercentRoundTrip
import EndpointDiscovery.Proofs.Text.Utf8Validity
import EndpointDiscovery.Proofs.Url.HostName
import EndpointDiscovery.Url.Strict

/-!
# What percent decoding accepts

A text is decoded if every percent sign in it begins an escape and the bytes that
the text spells are UTF-8.  The texts that encoding produces are made of unreserved
characters and escapes with upper-case digits.
-/

namespace EndpointDiscovery.Percent

open Text.Utf8 (encodeString)
open Url (isHexDigit unescapeBytes)
open Url.Host (digitOf?)

/-! ## Escapes in texts -/

def EscapesComplete (text : List Char) : Prop :=
  ∀ before after, text = before ++ '%' :: after → ∃ high low rest,
    after = high :: low :: rest ∧ isHexDigit high = true ∧ isHexDigit low = true

/-- The bytes that a text of characters and escapes stands for: one byte for every
escape, and the bytes of every other character. -/
inductive Spells : List Char → List UInt8 → Prop
  | nil : Spells [] []
  | plain {character : Char} {rest : List Char} {bytes : List UInt8}
      (hne : character ≠ '%') (hrest : Spells rest bytes) :
      Spells (character :: rest) (String.utf8EncodeChar character ++ bytes)
  | escape {high low : Char} {upper lower : Nat} {rest : List Char}
      {bytes : List UInt8}
      (hhigh : digitOf? 16 high = some upper) (hlow : digitOf? 16 low = some lower)
      (hrest : Spells rest bytes) :
      Spells ('%' :: high :: low :: rest)
        (UInt8.ofNat (upper * 16 + lower) :: bytes)

def IsUpperHexDigit (character : Char) : Prop :=
  character ∈ "0123456789ABCDEF".toList

/-- Unreserved characters, and percent signs with two upper-case
hexadecimal digits. -/
inductive Escaped : List Char → Prop
  | nil : Escaped []
  | unreserved {character : Char} {rest : List Char}
      (hcharacter : Url.isUnreserved character = true) (hrest : Escaped rest) :
      Escaped (character :: rest)
  | escape {high low : Char} {rest : List Char} (hhigh : IsUpperHexDigit high)
      (hlow : IsUpperHexDigit low) (hrest : Escaped rest) :
      Escaped ('%' :: high :: low :: rest)

/-! ## Digits as characters and as bytes -/

variable {character : Char} {characters rest : List Char} {bytes : List UInt8}
  {byte : UInt8} {value : Nat}

theorem digitOf?_ascii (h : digitOf? 16 character = some value) :
    character.toNat < 0x80 := by
  by_contra hascii
  have habove : ∀ last : Char, last.toNat < 0x80 → ¬character ≤ last := by
    intro last hlast hle
    exact hascii (Nat.lt_of_le_of_lt hle hlast)
  simp [digitOf?, habove '9' (by decide), habove 'f' (by decide),
    habove 'F' (by decide)] at h

theorem hexValue?_ofNat (h : character.toNat < 0x80) :
    hexValue? (UInt8.ofNat character.toNat) = digitOf? 16 character :=
  Text.of_ascii (P := fun character =>
    hexValue? (UInt8.ofNat character.toNat) = digitOf? 16 character) (by decide) h

theorem hexValue?_ascii (h : hexValue? byte = some value) : byte.toNat < 0x80 := by
  simp only [hexValue?, UInt8.le_iff_toNat_le, UInt8.reduceToNat] at h
  split at h
  · omega
  split at h
  · omega
  split at h
  · omega
  · cases h

theorem exists_cons_of_encode (h : Text.Utf8.encode characters = byte :: bytes)
    (hascii : byte.toNat < 0x80) :
    ∃ character rest, characters = character :: rest ∧ character.toNat < 0x80 ∧
      byte = UInt8.ofNat character.toNat ∧ bytes = Text.Utf8.encode rest := by
  cases characters with
  | nil => cases h
  | cons character rest =>
      rw [Text.Utf8.encode, List.flatMap_cons, ← Text.Utf8.encode] at h
      have hmem : byte ∈ String.utf8EncodeChar character := by
        cases hencoded : String.utf8EncodeChar character with
        | nil => exact absurd hencoded (String.utf8EncodeChar_ne_nil)
        | cons first others =>
            rw [hencoded, List.cons_append] at h
            rw [(List.cons.inj h).1]
            exact List.mem_cons_self
      have hnumber := Text.Utf8.toNat_eq_of_mem_utf8EncodeChar hmem hascii
      have hcharacter : character.toNat < 0x80 := hnumber ▸ hascii
      rw [Text.Utf8.utf8EncodeChar_of_ascii hcharacter] at h
      obtain ⟨hbyte, hbytes⟩ := List.cons.inj h
      exact ⟨character, rest, rfl, hcharacter, hbyte.symm, hbytes.symm⟩

/-! ## Unescaping -/

theorem unescape_append {first : List UInt8} (h : 0x25 ∉ first) (position : Nat) :
    unescape position (first ++ bytes) =
      (unescape (position + first.length) bytes).map (first ++ ·) := by
  induction first generalizing position with
  | nil =>
      rw [List.nil_append, List.length_nil, Nat.add_zero]
      cases unescape position bytes <;> rfl
  | cons byte first ih =>
      rw [List.mem_cons, not_or] at h
      rw [List.cons_append, unescape_cons (Ne.symm h.1), ih h.2, List.length_cons,
        Nat.add_assoc, Nat.add_comm 1]
      cases unescape (position + (first.length + 1)) bytes <;> rfl

theorem percent_not_mem_utf8EncodeChar (h : character ≠ '%') :
    0x25 ∉ String.utf8EncodeChar character := by
  have hencoded :=
    Url.percent_not_mem_encode (by simpa using Ne.symm h : '%' ∉ [character])
  rwa [Text.Utf8.encode, List.flatMap_singleton] at hencoded

theorem encode_escape {high low : Char} (hhigh : high.toNat < 0x80)
    (hlow : low.toNat < 0x80) :
    Text.Utf8.encode ('%' :: high :: low :: rest) =
      0x25 :: UInt8.ofNat high.toNat :: UInt8.ofNat low.toNat ::
      Text.Utf8.encode rest := by
  simp only [Text.Utf8.encode, List.flatMap_cons,
    Text.Utf8.utf8EncodeChar_of_ascii hhigh, Text.Utf8.utf8EncodeChar_of_ascii hlow]
  rfl

theorem Spells.unescape (h : Spells characters bytes) (position : Nat) :
    unescape position (Text.Utf8.encode characters) = .ok bytes := by
  induction h generalizing position with
  | nil => rfl
  | plain hne _ ih =>
      rw [Text.Utf8.encode, List.flatMap_cons, ← Text.Utf8.encode,
        unescape_append (percent_not_mem_utf8EncodeChar hne), ih]
      rfl
  | escape hhigh hlow _ ih =>
      have hhighAscii := digitOf?_ascii hhigh
      have hlowAscii := digitOf?_ascii hlow
      rw [encode_escape hhighAscii hlowAscii, Percent.unescape,
        hexValue?_ofNat hhighAscii, hexValue?_ofNat hlowAscii, hhigh, hlow]
      simp only [ih]
      rfl

theorem exists_of_unescape_percent {position : Nat} {result : List UInt8}
    (h : Percent.unescape position (0x25 :: bytes) = .ok result) :
    ∃ high low rest upper lower spelled, bytes = high :: low :: rest ∧
      hexValue? high = some upper ∧ hexValue? low = some lower ∧
      Percent.unescape (position + 3) rest = .ok spelled ∧
      result = UInt8.ofNat (upper * 16 + lower) :: spelled := by
  match bytes, h with
  | [], h => cases h
  | [_], h => cases h
  | high :: low :: rest, h =>
      rw [Percent.unescape] at h
      split at h
      · rename_i upper lower hhigh hlow
        cases hrest : Percent.unescape (position + 3) rest with
        | error _ =>
            rw [hrest] at h
            cases h
        | ok spelled =>
            rw [hrest] at h
            cases h
            exact ⟨high, low, rest, upper, lower, spelled, rfl, hhigh, hlow,
              hrest, rfl⟩
      · cases h

theorem spells_of_unescape {position : Nat}
    (h : Percent.unescape position (Text.Utf8.encode characters) = .ok bytes) :
    Spells characters bytes := by
  -- An escape takes three characters at once, so the induction is on the length.
  induction hlength : characters.length using Nat.strongRecOn
    generalizing characters position bytes with
  | ind length ih =>
      subst hlength
      match characters, h with
      | [], h =>
          cases h
          exact .nil
      | character :: rest, h =>
          rw [Text.Utf8.encode, List.flatMap_cons, ← Text.Utf8.encode] at h
          by_cases hne : character = '%'
          · subst hne
            obtain ⟨high, low, after, upper, lower, spelled, hbytes, hhigh,
                hlow, hafter, rfl⟩ :=
              exists_of_unescape_percent h
            obtain ⟨first, more, rfl, hfirst, rfl, hmore⟩ :=
              exists_cons_of_encode hbytes (hexValue?_ascii hhigh)
            obtain ⟨second, others, rfl, hsecond, rfl, rfl⟩ :=
              exists_cons_of_encode hmore.symm (hexValue?_ascii hlow)
            rw [hexValue?_ofNat hfirst] at hhigh
            rw [hexValue?_ofNat hsecond] at hlow
            refine .escape hhigh hlow (ih others.length ?_ hafter rfl)
            simp only [List.length_cons]
            omega
          · rw [unescape_append (percent_not_mem_utf8EncodeChar hne)] at h
            cases hrest : Percent.unescape
                (position + (String.utf8EncodeChar character).length)
                (Text.Utf8.encode rest) with
            | error _ =>
                rw [hrest] at h
                cases h
            | ok spelled =>
                rw [hrest] at h
                cases h
                exact .plain hne (ih rest.length (Nat.lt_succ_self _) hrest rfl)

theorem decode_eq_ok_iff {text decoded : String} :
    decode text = .ok decoded ↔ Spells text.toList (encodeString decoded) := by
  unfold decode
  constructor
  · intro h
    split at h
    · cases h
    · rename_i bytes hbytes
      split at h
      · rename_i characters hcharacters
        cases h
        rw [encodeString, String.toList_ofList,
          ← Text.Utf8.decode?_eq_some_iff.mp hcharacters]
        exact spells_of_unescape hbytes
      · cases h
  · intro h
    rw [encodeString, h.unescape 0]
    simp only [encodeString, Text.Utf8.decode?_encode, String.ofList_toList]

/-! ## Replacing escapes -/

theorem Spells.escapesComplete (h : Spells characters bytes) :
    EscapesComplete characters := by
  induction h with
  | nil =>
      intro before after heq
      simp at heq
  | plain hne _ ih =>
      intro before after heq
      cases before with
      | nil => exact absurd (List.cons.inj heq).1 hne
      | cons first before => exact ih before after (List.cons.inj heq).2
  | @escape high low upper lower rest bytes hhigh hlow _ ih =>
      have hdigit : ∀ {digit : Char} {value : Nat}, digitOf? 16 digit = some value →
          isHexDigit digit = true ∧ digit ≠ '%' := by
        intro digit value h
        refine ⟨by rw [isHexDigit, h]; rfl, ?_⟩
        rintro rfl
        cases h
      intro before after heq
      match before, heq with
      | [], heq =>
          exact ⟨high, low, rest, (List.cons.inj heq).2.symm, (hdigit hhigh).1,
            (hdigit hlow).1⟩
      | [_], heq =>
          exact absurd (List.cons.inj (List.cons.inj heq).2).1 (hdigit hhigh).2
      | [_, _], heq =>
          exact absurd (List.cons.inj (List.cons.inj (List.cons.inj heq).2).2).1
            (hdigit hlow).2
      | _ :: _ :: _ :: before, heq =>
          exact ih before after
            (List.cons.inj (List.cons.inj (List.cons.inj heq).2).2).2

theorem unescapeBytes_append {first : List UInt8} (h : 0x25 ∉ first) :
    unescapeBytes (first ++ bytes) = first ++ unescapeBytes bytes := by
  induction first with
  | nil => rfl
  | cons byte first ih =>
      rw [List.mem_cons, not_or] at h
      rw [List.cons_append, unescapeBytes, ih h.2, List.cons_append]
      rintro high low tail rfl -
      exact h.1 rfl

theorem Spells.unescapeBytes_eq (h : Spells characters bytes) :
    unescapeBytes (Text.Utf8.encode characters) = bytes := by
  induction h with
  | nil => rw [Text.Utf8.encode, List.flatMap_nil, unescapeBytes]
  | plain hne _ ih =>
      rw [Text.Utf8.encode, List.flatMap_cons, ← Text.Utf8.encode,
        unescapeBytes_append (percent_not_mem_utf8EncodeChar hne), ih]
  | escape hhigh hlow _ ih =>
      have hhighAscii := digitOf?_ascii hhigh
      have hlowAscii := digitOf?_ascii hlow
      rw [encode_escape hhighAscii hlowAscii, unescapeBytes,
        hexValue?_ofNat hhighAscii, hexValue?_ofNat hlowAscii, hhigh, hlow]
      simp only [ih]

theorem EscapesComplete.of_append (first : List Char)
    (h : EscapesComplete (first ++ rest)) :
    EscapesComplete rest := by
  intro before after heq
  exact h (first ++ before) after (by rw [heq, List.append_assoc])

theorem EscapesComplete.exists_spells (h : EscapesComplete characters) :
    ∃ bytes, Spells characters bytes := by
  induction hlength : characters.length using Nat.strongRecOn
    generalizing characters with
  | ind length ih =>
      subst hlength
      match characters, h with
      | [], h => exact ⟨[], .nil⟩
      | character :: rest, h =>
          by_cases hne : character = '%'
          · subst hne
            obtain ⟨high, low, others, rfl, hhigh, hlow⟩ := h [] rest rfl
            obtain ⟨upper, hupper⟩ := Option.isSome_iff_exists.mp hhigh
            obtain ⟨lower, hlower⟩ := Option.isSome_iff_exists.mp hlow
            have hothers : EscapesComplete others := .of_append ['%', high, low] h
            obtain ⟨bytes, hbytes⟩ :=
              ih others.length (by simp only [List.length_cons]; omega) hothers rfl
            exact ⟨_, .escape hupper hlower hbytes⟩
          · have hrest : EscapesComplete rest := .of_append [character] h
            obtain ⟨bytes, hbytes⟩ := ih rest.length (Nat.lt_succ_self _) hrest rfl
            exact ⟨_, .plain hne hbytes⟩

theorem spells_iff : Spells characters bytes ↔
    EscapesComplete characters ∧
    unescapeBytes (Text.Utf8.encode characters) = bytes := by
  constructor
  · exact fun h => ⟨h.escapesComplete, h.unescapeBytes_eq⟩
  · rintro ⟨hcomplete, rfl⟩
    obtain ⟨bytes, hbytes⟩ := hcomplete.exists_spells
    rwa [hbytes.unescapeBytes_eq]

/-! ## Encoded texts -/

theorem isUpperHexDigit_hexDigit : ∀ number < 16,
    IsUpperHexDigit (hexDigit number) := by
  unfold IsUpperHexDigit
  decide

theorem isUnreserved_ofNat : ∀ number < 0x80,
    isUnreserved (UInt8.ofNat number) = true →
    Url.isUnreserved (Char.ofNat number) = true := by
  decide

theorem Escaped.encodeByte_append (byte : UInt8) (h : Escaped rest) :
    Escaped (encodeByte byte ++ rest) := by
  have hbyte := byte.toNat_lt
  unfold encodeByte
  split
  · rename_i hunreserved
    refine .unreserved (isUnreserved_ofNat _ (unreserved_bounds hunreserved).1 ?_) h
    rwa [UInt8.ofNat_toNat]
  · exact .escape (isUpperHexDigit_hexDigit _ (by omega))
      (isUpperHexDigit_hexDigit _ (by omega)) h

theorem escaped_encode (text : String) : Escaped (encode text).toList := by
  rw [encode, String.toList_ofList]
  induction encodeString text with
  | nil => exact .nil
  | cons byte bytes ih =>
      rw [List.flatMap_cons]
      exact ih.encodeByte_append byte

theorem Escaped.mem (h : Escaped characters) (hmem : character ∈ characters) :
    Url.isUnreserved character = true ∨ character = '%' := by
  have hdigits : "0123456789ABCDEF".toList.all Url.isUnreserved = true := by decide
  have hdigit := List.all_eq_true.mp hdigits
  induction h with
  | nil => cases hmem
  | unreserved hcharacter _ ih =>
      rcases List.mem_cons.mp hmem with rfl | hmem
      · exact .inl hcharacter
      · exact ih hmem
  | escape hhigh hlow _ ih =>
      simp only [List.mem_cons] at hmem
      rcases hmem with rfl | rfl | rfl | hmem
      · exact .inr rfl
      · exact .inl (hdigit _ hhigh)
      · exact .inl (hdigit _ hlow)
      · exact ih hmem

theorem slash_not_mem_encode (text : String) : '/' ∉ (encode text).toList := by
  intro hmem
  rcases (escaped_encode text).mem hmem with h | h
  · exact absurd h (by decide)
  · cases h

/-! ## The codec -/

/-- What is encoded consists of unreserved characters and escapes and is decoded
again.  A text is decoded exactly if all its percent signs begin escapes and the
bytes that replace the escapes are UTF-8; every escape then stands for one byte of
the result and every other character for itself, and encoding and decoding once more
changes nothing. -/
theorem strict_codec (text : String) :
    decode (encode text) = .ok text ∧
      Escaped (encode text).toList ∧
      (∀ decoded, decode text = .ok decoded ↔
        EscapesComplete text.toList ∧
          unescapeBytes (encodeString text) = encodeString decoded) ∧
      (∀ decoded, decode text = .ok decoded →
        Spells text.toList (encodeString decoded)) ∧
      (∀ decoded, decode text = .ok decoded →
        (decode (encode decoded)).map encode = .ok (encode decoded)) := by
  refine ⟨decode_encode text, escaped_encode text, ?_, ?_, ?_⟩
  · intro decoded
    rw [decode_eq_ok_iff, spells_iff]
    rfl
  · exact fun decoded h => decode_eq_ok_iff.mp h
  · intro decoded _
    rw [decode_encode]
    rfl

example : decode "%2541" = .ok "%41" := by decide +kernel

example : (decode "%C3%A").toOption = none ∧ (decode "%C3é").toOption = none := by
  decide +kernel

end EndpointDiscovery.Percent
