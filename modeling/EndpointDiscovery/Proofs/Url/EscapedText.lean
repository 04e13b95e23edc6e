import EndpointDiscovery.Proofs.Identifier.PercentCodec

/-!
# Characters of URLs

A component of a URL has none of the characters that are written as escapes, and is
escaped again as itself.  The components of a URL that obeys the generic syntax have
no characters that cut a URL in another place.
-/

namespace EndpointDiscovery.Url

variable {set : EscapeSet} {text : List Char} {character : Char}

/-! ## Escaped texts -/

def escapeChars : List Char := "%0123456789ABCDEF".toList

def sparesEscapes (set : EscapeSet) : Bool :=
  escapeChars.all (!set ·)

theorem mem_escapeByte {byte : UInt8} (h : character ∈ Percent.escapeByte byte) :
    character ∈ escapeChars := by
  have hdigit : ∀ number < 16, Percent.hexDigit number ∈ escapeChars := by decide
  have hbyte := byte.toNat_lt
  simp only [Percent.escapeByte, List.mem_cons, List.not_mem_nil, or_false] at h
  rcases h with rfl | rfl | rfl
  · decide
  · exact hdigit _ (by omega)
  · exact hdigit _ (by omega)

theorem mem_escape (h : character ∈ (escape set text).toList) :
    (character ∈ text ∧ set character = false) ∨ character ∈ escapeChars := by
  rw [escape, String.toList_ofList, List.mem_flatMap] at h
  obtain ⟨original, horiginal, hmem⟩ := h
  unfold escapeChar at hmem
  split at hmem
  · obtain ⟨byte, -, hbyte⟩ := List.mem_flatMap.mp hmem
    exact .inr (mem_escapeByte hbyte)
  · rename_i hnot
    obtain rfl := List.mem_singleton.mp hmem
    exact .inl ⟨horiginal, Bool.eq_false_iff.mpr hnot⟩

theorem not_set_of_mem_escape (hset : sparesEscapes set = true)
    (h : character ∈ (escape set text).toList) : set character = false := by
  rcases mem_escape h with ⟨-, hnot⟩ | hescape
  · exact hnot
  · simpa using List.all_eq_true.mp hset character hescape

theorem escape_eq_self (h : ∀ character ∈ text, set character = false) :
    escape set text = String.ofList text := by
  have hself : text.flatMap (escapeChar set) = text := by
    induction text with
    | nil => rfl
    | cons first text ih =>
        rw [List.forall_mem_cons] at h
        rw [List.flatMap_cons, ih h.2, escapeChar, h.1]
        rfl
  rw [escape, hself]

theorem escape_eq_empty_iff : escape set text = "" ↔ text = [] := by
  have hne : ∀ character, escapeChar set character ≠ [] := by
    intro character
    unfold escapeChar
    split
    · cases hbytes : String.utf8EncodeChar character with
      | nil => exact absurd hbytes String.utf8EncodeChar_ne_nil
      | cons byte bytes => simp [Percent.escapeByte]
    · simp
  rw [escape, String.ofList_eq_empty_iff, List.flatMap_eq_nil_iff]
  constructor
  · intro h
    cases text with
    | nil => rfl
    | cons first text => exact absurd (h first List.mem_cons_self) (hne first)
  · rintro rfl
    simp

theorem head?_escape (h : (escape set text).toList.head? = some character) :
    text.head? = some character ∨ character = '%' := by
  cases text with
  | nil => exact .inl h
  | cons first text =>
      rw [escape, String.toList_ofList, List.flatMap_cons] at h
      unfold escapeChar at h
      split at h
      · cases hbytes : String.utf8EncodeChar first with
        | nil => exact absurd hbytes String.utf8EncodeChar_ne_nil
        | cons byte bytes =>
            rw [hbytes] at h
            exact .inr (Option.some.inj h).symm
      · exact .inl h

/-! ## Texts of the generic syntax -/

def isPartChar (character : Char) : Bool :=
  isPathChar character || "%[]".toList.contains character

theorem isPartChar_iff : isPartChar character = true ↔ isLetter character = true ∨
    isDigit character = true ∨ character ∈ "-._~!$&'()*+,;=:@/%[]".toList := by
  simp [isPartChar, isPathChar, isUnreserved, isSubDelimiter, or_assoc]

theorem ascii_of_isPartChar (h : isPartChar character = true) :
    character.toNat < 0x80 := by
  have hle : ∀ last : Char, last.toNat < 0x80 → character ≤ last →
      character.toNat < 0x80 :=
    fun last hlast hle => Nat.lt_of_le_of_lt hle hlast
  rcases isPartChar_iff.mp h with hletter | hdigit | hmark
  · simp only [isLetter, Bool.or_eq_true, Bool.and_eq_true,
      decide_eq_true_eq] at hletter
    rcases hletter with ⟨-, hlast⟩ | ⟨-, hlast⟩
    · exact hle 'z' (by decide) hlast
    · exact hle 'Z' (by decide) hlast
  · simp only [isDigit, Bool.and_eq_true, decide_eq_true_eq] at hdigit
    exact hle '9' (by decide) hdigit.2
  · have hmarks : "-._~!$&'()*+,;=:@/%[]".toList.all (·.toNat < 0x80) =
        true := by decide
    exact of_decide_eq_true (List.all_eq_true.mp hmarks character hmark)

theorem not_cut_of_isPartChar (h : isPartChar character = true) :
    0x20 < character.toNat ∧ character ≠ '#' ∧ character ≠ '?' ∧ character ≠ '\\' :=
  Text.of_ascii (P := fun character => isPartChar character = true →
    0x20 < character.toNat ∧ character ≠ '#' ∧ character ≠ '?' ∧ character ≠ '\\')
    (by decide) (ascii_of_isPartChar h) h

theorem isUnreserved_of_isHexDigit (h : isHexDigit character = true) :
    isUnreserved character = true := by
  obtain ⟨value, hvalue⟩ := Option.isSome_iff_exists.mp h
  exact Text.of_ascii (P := fun character =>
    isHexDigit character = true → isUnreserved character = true)
    (by decide) (Percent.digitOf?_ascii hvalue) h

theorem mem_of_consistsOf {allowed : Char → Bool}
    (hunreserved : ∀ digit, isUnreserved digit = true → allowed digit = true)
    (h : consistsOf allowed text = true) (hmem : character ∈ text) :
    allowed character = true ∨ character = '%' := by
  have hdigit : ∀ digit, isHexDigit digit = true → allowed digit = true :=
    fun digit h => hunreserved digit (isUnreserved_of_isHexDigit h)
  induction text using consistsOf.induct with
  | case1 => cases hmem
  | case2 high low rest ih =>
      simp only [consistsOf, Bool.and_eq_true] at h
      simp only [List.mem_cons] at hmem
      rcases hmem with rfl | rfl | rfl | hmem
      · exact .inr rfl
      · exact .inl (hdigit _ h.1.1)
      · exact .inl (hdigit _ h.1.2)
      · exact ih h.2 hmem
  | case3 first rest hnot ih =>
      rw [consistsOf, Bool.and_eq_true, Bool.and_eq_true] at h
      · rcases List.mem_cons.mp hmem with rfl | hmem
        · exact .inl h.1.2
        · exact ih h.2 hmem
      · exact hnot

end EndpointDiscovery.Url
