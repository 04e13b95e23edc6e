import EndpointDiscovery.Proofs.Url.Address
import EndpointDiscovery.Proofs.Url.EscapedText
import EndpointDiscovery.Proofs.Url.HostName

/-!
# Texts of hosts

The text of a host that was read is read as that host again.  It has no character
that ends the host in a URL, except for the colons of an address in brackets.
-/

namespace EndpointDiscovery.Url.Host

open Text (lowerChar)

variable {text name : List Char} {bytes : List UInt8} {host : Host}

/-! ## Domain names -/

structure IsSettled (character : Char) : Prop extends IsPlain character where
  lower : lowerChar character = [character]

theorem isSettled_of_domain? (h : domain? bytes = some name) :
    ∀ character ∈ name, IsSettled character := by
  intro character hmem
  refine ⟨isPlain_of_domain? h character hmem, ?_⟩
  obtain ⟨hascii, rfl, -⟩ := domain?_eq_some h
  obtain ⟨byte, hbyte, hlowered⟩ := List.mem_flatMap.mp hmem
  have hlow := hascii byte hbyte
  have hall : (lowerChar (Char.ofNat byte.toNat)).all
      (fun lowered => lowerChar lowered = [lowered]) = true :=
    Text.of_ascii (P := fun character => (lowerChar character).all
      (fun lowered => lowerChar lowered = [lowered]) = true) (by decide)
      (by rwa [Text.Utf8.toNat_ofNat_of_ascii _ hlow])
  exact of_decide_eq_true (List.all_eq_true.mp hall character hlowered)

theorem isWellFormedLabel_of_domain? (h : domain? bytes = some name) :
    (labels name).all isWellFormedLabel = true := by
  unfold domain? at h
  split at h
  · dsimp only at h
    split at h
    · cases h
    · rename_i hallowed
      cases h
      rw [Bool.or_eq_true, not_or, Bool.not_eq_true, Bool.not_eq_true'] at hallowed
      simpa using hallowed.2
  · cases h

theorem domain?_of_isSettled (h : ∀ character ∈ name, IsSettled character)
    (hlabels : (labels name).all isWellFormedLabel = true) :
    domain? (unescapeBytes (Text.Utf8.encode name)) = some name := by
  have hpercent : '%' ∉ name := fun hmem => absurd (h '%' hmem).allowed (by decide)
  have hascii : ∀ byte ∈ Text.Utf8.encode name, byte.toNat < 0x80 := by
    rw [Text.Utf8.encode_of_ascii fun character hmem => (h character hmem).ascii]
    intro byte hbyte
    obtain ⟨character, hmem, rfl⟩ := List.mem_map.mp hbyte
    have hlow := (h character hmem).ascii
    rw [UInt8.toNat_ofNat']
    omega
  have hall : (Text.Utf8.encode name).all (· < 0x80) = true := by
    rw [List.all_eq_true]
    exact fun byte hbyte =>
      decide_eq_true (UInt8.lt_iff_toNat_lt.mpr (hascii byte hbyte))
  have hname : (Text.Utf8.encode name).flatMap
      (fun byte => lowerChar (Char.ofNat byte.toNat)) = name := by
    have hself : name.flatMap lowerChar = name := by
      rw [List.flatMap_congr fun character hmem => (h character hmem).lower]
      exact List.flatMap_singleton' name
    rw [← List.flatMap_map, ← Text.Utf8.eq_map_of_encode_ascii hascii, hself]
  have hallowed : name.any isForbidden = false := by
    rw [List.any_eq_false]
    exact fun character hmem => Bool.eq_false_iff.mp (h character hmem).allowed
  rw [unescapeBytes_eq_self (percent_not_mem_encode hpercent), domain?, if_pos hall]
  simp only [hname, hallowed, hlabels]
  rfl

/-! ## Hosts of special schemes -/

/-- What can be the host of a URL with a special scheme. -/
inductive IsSpecial : Host → Prop
  | domain {name : List Char} (hsettled : ∀ character ∈ name, IsSettled character)
      (hlabels : (labels name).all isWellFormedLabel = true) (hne : name ≠ [])
      (hnumber : endsInNumber name = false) :
      IsSpecial (.domain (String.ofList name))
  | ipv4 {address : Nat} (hbound : address < 0x100000000) :
      IsSpecial (.ipv4 address)
  | ipv6 {pieces : List Nat} (haddress : IsAddress pieces) :
      IsSpecial (.ipv6 pieces)

theorem isSpecial_of_ofSpecial? (h : ofSpecial? text = some host) :
    host.IsSpecial := by
  unfold ofSpecial? at h
  split at h
  · split at h
    · obtain ⟨pieces, hpieces, rfl⟩ := Option.map_eq_some_iff.mp h
      exact .ipv6 (isAddress_of_ipv6? hpieces)
    · cases h
  · obtain ⟨name, hname, h⟩ := Option.bind_eq_some_iff.mp h
    split at h
    · cases h
    rename_i hne
    split at h
    · obtain ⟨address, haddress, rfl⟩ := Option.map_eq_some_iff.mp h
      exact .ipv4 (ipv4?_lt haddress)
    · rename_i hnumber
      cases h
      exact .domain (isSettled_of_domain? hname)
        (isWellFormedLabel_of_domain? hname)
        (by simpa using hne) (Bool.eq_false_iff.mpr hnumber)

theorem ofSpecial?_of_isSettled (hsettled : ∀ character ∈ name, IsSettled character)
    (hlabels : (labels name).all isWellFormedLabel = true) :
    ofSpecial? name = if name.isEmpty then none
      else if endsInNumber name then (ipv4? name).map .ipv4
      else some (.domain (String.ofList name)) := by
  unfold ofSpecial?
  split
  · exact absurd (hsettled '[' List.mem_cons_self).allowed (by decide)
  · rw [domain?_of_isSettled hsettled hlabels]
    rfl

theorem isSettled_addressText (address : Nat) :
    ∀ character ∈ addressText address, IsSettled character := by
  have hdigits : ∀ byte < 256, (Nat.toDigits 10 byte).all (fun digit =>
      digit.toNat < 0x80 && !isForbidden digit && lowerChar digit = [digit]) =
        true := by
    decide +kernel
  intro character hmem
  rcases Text.mem_intercalate hmem with rfl | ⟨part, hpart, hmem⟩
  · exact ⟨⟨by decide, by decide⟩, by decide⟩
  · obtain ⟨byte, hbyte, rfl⟩ := List.mem_map.mp hpart
    have hdigit :=
      List.all_eq_true.mp (hdigits byte (ipv4Bytes_lt byte hbyte)) character hmem
    simp only [Bool.and_eq_true, decide_eq_true_eq, Bool.not_eq_true'] at hdigit
    exact ⟨⟨hdigit.1.1, hdigit.1.2⟩, hdigit.2⟩

theorem addressText_ne_nil (address : Nat) : addressText address ≠ [] := by
  intro hnil
  have hnumber := endsInNumber_addressText address
  rw [hnil] at hnumber
  exact absurd hnumber (by decide)

theorem toList_toText_ipv6 (pieces : List Nat) :
    (toText (.ipv6 pieces)).toList = '[' ::
    ((ipv6Text pieces).toList ++ [']']) := by
  simp [toText]

theorem IsSpecial.ofSpecial?_toText (h : host.IsSpecial) :
    ofSpecial? host.toText.toList = some host := by
  cases h with
  | @domain name hsettled hlabels hne hnumber =>
      have hempty : name.isEmpty = false := by simpa using hne
      rw [toText, String.toList_ofList, ofSpecial?_of_isSettled hsettled hlabels,
        hempty, hnumber]
      rfl
  | @ipv4 address hbound =>
      have hlabels :
          (labels (addressText address)).all isWellFormedLabel = true := by
        rw [labels_addressText, List.all_map, List.all_eq_true]
        exact fun byte hbyte => (toDigits_byte byte (ipv4Bytes_lt byte hbyte)).2.2
      have hempty : (addressText address).isEmpty = false := by
        simpa using addressText_ne_nil address
      rw [toList_toText_ipv4,
        ofSpecial?_of_isSettled (isSettled_addressText address) hlabels, hempty,
        endsInNumber_addressText, ipv4?_addressText hbound]
      rfl
  | @ipv6 pieces haddress =>
      rw [toList_toText_ipv6, ofSpecial?, List.getLast?_concat, if_pos rfl,
        List.dropLast_concat, haddress.ipv6?_ipv6Text]
      rfl

theorem IsSpecial.toText_ne_empty (h : host.IsSpecial) : host.toText ≠ "" := by
  refine mt String.toList_eq_nil_iff.mpr ?_
  cases h with
  | domain _ _ hne _ => rwa [toText, String.toList_ofList]
  | ipv4 _ =>
      rw [toList_toText_ipv4]
      exact addressText_ne_nil _
  | ipv6 _ =>
      rw [toList_toText_ipv6]
      exact List.cons_ne_nil _ _

/-! ## Hosts of other schemes -/

inductive IsOther : Host → Prop
  | domain {name : List Char}
      (hallowed : ∀ character ∈ name, isForbiddenPlain character = false)
      (hescaped : ∀ character ∈ name, controlSet character = false) :
      IsOther (.domain (String.ofList name))
  | ipv6 {pieces : List Nat} (haddress : IsAddress pieces) : IsOther (.ipv6 pieces)

theorem isOther_of_ofOther? (h : ofOther? text = some host) : host.IsOther := by
  unfold ofOther? at h
  split at h
  · split at h
    · obtain ⟨pieces, hpieces, rfl⟩ := Option.map_eq_some_iff.mp h
      exact .ipv6 (isAddress_of_ipv6? hpieces)
    · cases h
  · split at h
    · cases h
    · rename_i hallowed
      cases h
      rw [← String.ofList_toList (s := escape controlSet text)]
      refine .domain (fun character hmem => ?_)
        fun character hmem => not_set_of_mem_escape (by decide) hmem
      rcases mem_escape hmem with ⟨hmem, -⟩ | hescape
      · rw [Bool.not_eq_true, List.any_eq_false] at hallowed
        exact Bool.eq_false_iff.mpr (hallowed character hmem)
      · have hescapes : escapeChars.all (!isForbiddenPlain ·) = true := by decide
        simpa using List.all_eq_true.mp hescapes character hescape

theorem IsOther.ofOther?_toText (h : host.IsOther) :
    ofOther? host.toText.toList = some host := by
  cases h with
  | @domain name hallowed hescaped =>
      rw [toText, String.toList_ofList]
      unfold ofOther?
      split
      · exact absurd (hallowed '[' List.mem_cons_self) (by decide)
      · rw [if_neg, escape_eq_self hescaped]
        rw [Bool.not_eq_true, List.any_eq_false]
        exact fun character hmem => Bool.eq_false_iff.mp (hallowed character hmem)
  | @ipv6 pieces haddress =>
      rw [toList_toText_ipv6, ofOther?, List.getLast?_concat, if_pos rfl,
        List.dropLast_concat, haddress.ipv6?_ipv6Text]
      rfl

/-! ## Characters of hosts -/

def isHostChar (character : Char) : Bool :=
  isNameChar character || character = '%'

theorem isHostChar_of_isUnreserved {character : Char}
    (h : isUnreserved character = true) :
    isHostChar character = true := by
  rw [isHostChar, isNameChar, h]
  rfl

theorem isHostChar_of_mem_toDigits {piece : Nat} {digit : Char}
    (h : digit ∈ Nat.toDigits 16 piece) : isHostChar digit = true :=
  isHostChar_of_isUnreserved
    (isUnreserved_of_isHexDigit
      (isSome_of_numberOf? (numberOf?_toDigits piece) digit h))

theorem mem_ipv6Text {pieces : List Nat} {character : Char}
    (h : character ∈ (ipv6Text pieces).toList) :
    isHostChar character = true ∨ character = ':' := by
  have hjoined : ∀ pieces, character ∈ (joinPieces pieces).toList →
      isHostChar character = true ∨ character = ':' := by
    intro pieces hmem
    rw [toList_joinPieces] at hmem
    rcases Text.mem_intercalate hmem with rfl | ⟨part, hpart, hmem⟩
    · exact .inr rfl
    · obtain ⟨piece, -, rfl⟩ := List.mem_map.mp hpart
      exact .inl (isHostChar_of_mem_toDigits hmem)
  unfold ipv6Text at h
  dsimp only at h
  split at h
  · exact hjoined _ h
  · rw [String.toList_append, String.toList_append, List.mem_append,
      List.mem_append] at h
    rcases h with (h | h) | h
    · exact hjoined _ h
    · simp at h
      exact .inr h
    · exact hjoined _ h

theorem isHostChar_addressText {address : Nat} {character : Char}
    (h : character ∈ addressText address) : isHostChar character = true := by
  have hdigits : ∀ byte < 256, (Nat.toDigits 10 byte).all isHostChar = true := by
    decide +kernel
  rcases Text.mem_intercalate h with rfl | ⟨part, hpart, hmem⟩
  · decide
  · obtain ⟨byte, hbyte, rfl⟩ := List.mem_map.mp hpart
    exact List.all_eq_true.mp (hdigits byte (ipv4Bytes_lt byte hbyte))
      character hmem

theorem toText_shape (h : host.isStrict = true) :
    (∀ character ∈ host.toText.toList, isHostChar character = true) ∨
      ∃ body, host.toText.toList = '[' :: (body ++ [']']) ∧
        ∀ character ∈ body, isHostChar character = true ∨ character = ':' := by
  cases host with
  | domain name =>
      refine .inl fun character hmem => ?_
      have hallowed : ∀ digit, isUnreserved digit = true →
          isNameChar digit = true := by
        intro digit hdigit
        rw [isNameChar, hdigit]
        rfl
      rw [isHostChar, Bool.or_eq_true, decide_eq_true_eq]
      exact mem_of_consistsOf hallowed h hmem
  | ipv4 address =>
      rw [toList_toText_ipv4]
      exact .inl fun character hmem => isHostChar_addressText hmem
  | ipv6 pieces =>
      exact .inr ⟨_, toList_toText_ipv6 pieces,
        fun character hmem => mem_ipv6Text hmem⟩

theorem mem_toText (h : host.isStrict = true) {character : Char}
    (hmem : character ∈ host.toText.toList) :
    isHostChar character = true ∨ character ∈ [':', '[', ']'] := by
  rcases host.toText_shape h with hname | ⟨body, hbody, hinside⟩
  · exact .inl (hname character hmem)
  · rw [hbody, List.mem_cons, List.mem_append, List.mem_singleton] at hmem
    rcases hmem with rfl | hmem | rfl
    · exact .inr (by decide)
    · rcases hinside character hmem with hcharacter | rfl
      · exact .inl hcharacter
      · exact .inr (by decide)
    · exact .inr (by decide)

end EndpointDiscovery.Url.Host
