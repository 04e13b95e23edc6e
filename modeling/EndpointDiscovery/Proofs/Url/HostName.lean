import EndpointDiscovery.Proofs.Text.LowerCase
import EndpointDiscovery.Proofs.Text.Utf8RoundTrip
import EndpointDiscovery.Url.Host

/-!
# Names of hosts

A text that is read as a domain name becomes the name of a host in lower
case, unless it is read as a number.  A name that begins with something else
than a digit is not.
-/

namespace EndpointDiscovery.Url

open Text (lowerChar)

variable {text name : List Char} {bytes : List UInt8}

/-! ## Bytes of a name -/

theorem unescapeBytes_eq_self (h : 0x25 ∉ bytes) : unescapeBytes bytes = bytes := by
  induction bytes using unescapeBytes.induct with
  | case1 => rw [unescapeBytes]
  | case2 high low rest => exact absurd List.mem_cons_self h
  | case3 high low rest => exact absurd List.mem_cons_self h
  | case4 byte rest hnot ih =>
      rw [List.mem_cons, not_or] at h
      rw [unescapeBytes, ih h.2]
      rintro high low tail rfl -
      exact h.1 rfl

theorem percent_not_mem_encode (h : '%' ∉ text) : 0x25 ∉ Text.Utf8.encode text := by
  intro hmem
  obtain ⟨character, hcharacter, hbyte⟩ := List.mem_flatMap.mp hmem
  have hnumber := Text.Utf8.toNat_eq_of_mem_utf8EncodeChar hbyte (by decide)
  have hpercent : character = '%' := Char.toNat_inj.mp hnumber.symm
  exact h (hpercent ▸ hcharacter)

namespace Host

/-! ## Domain names -/

structure IsPlain (character : Char) : Prop where
  ascii : character.toNat < 0x80
  allowed : isForbidden character = false

theorem domain?_eq_some (h : domain? bytes = some name) :
    (∀ byte ∈ bytes, byte.toNat < 0x80) ∧
      name = bytes.flatMap (fun byte => lowerChar (Char.ofNat byte.toNat)) ∧
      ∀ character ∈ name, isForbidden character = false := by
  unfold domain? at h
  split at h
  · rename_i hall
    dsimp only at h
    split at h
    · cases h
    · rename_i hallowed
      cases h
      rw [Bool.or_eq_true, not_or, Bool.not_eq_true, List.any_eq_false] at hallowed
      refine ⟨fun byte hmem => ?_, rfl, fun character hmem => ?_⟩
      · have hlow := List.all_eq_true.mp hall byte hmem
        exact UInt8.lt_iff_toNat_lt.mp (of_decide_eq_true hlow)
      · exact Bool.eq_false_iff.mpr (hallowed.1 character hmem)
  · cases h

theorem isPlain_of_domain? (h : domain? bytes = some name) :
    ∀ character ∈ name, IsPlain character := by
  obtain ⟨hascii, rfl, hallowed⟩ := domain?_eq_some h
  intro character hmem
  refine ⟨?_, hallowed character hmem⟩
  obtain ⟨byte, hbyte, hlowered⟩ := List.mem_flatMap.mp hmem
  have hlow := hascii byte hbyte
  refine Text.ascii_lowerChar ?_ hlowered
  rwa [Text.Utf8.toNat_ofNat_of_ascii _ hlow]

/-- What is read as a host is an address, or a domain name with its
lower-case form. -/
theorem ofSpecial?_eq_some {host : Host} (h : ofSpecial? text = some host) :
    (∃ name, domain? (unescapeBytes (Text.Utf8.encode text)) = some name ∧
        ((ipv4? name).map .ipv4 = some host ∨
          host = .domain (String.ofList name))) ∨
      ∃ pieces, text.head? = some '[' ∧ host = .ipv6 pieces := by
  unfold ofSpecial? at h
  split at h
  · split at h
    · obtain ⟨pieces, -, rfl⟩ := Option.map_eq_some_iff.mp h
      exact .inr ⟨pieces, rfl, rfl⟩
    · cases h
  · obtain ⟨name, hname, h⟩ := Option.bind_eq_some_iff.mp h
    refine .inl ⟨name, hname, ?_⟩
    split at h
    · cases h
    split at h
    · exact .inl h
    · cases h
      exact .inr rfl

theorem isPlain_of_ofSpecial? {domain : String}
    (h : ofSpecial? text = some (.domain domain)) :
    ∀ character ∈ domain.toList, IsPlain character := by
  obtain ⟨name, hname, hnumber | hdomain⟩ | ⟨pieces, -, hpieces⟩ :=
    ofSpecial?_eq_some h
  · obtain ⟨address, -, haddress⟩ := Option.map_eq_some_iff.mp hnumber
    cases haddress
  · cases hdomain
    rw [String.toList_ofList]
    exact isPlain_of_domain? hname
  · cases hpieces

theorem eq_flatMap_of_domain? (h : domain? (Text.Utf8.encode text) = some name) :
    name = text.flatMap lowerChar := by
  obtain ⟨hascii, hname, -⟩ := domain?_eq_some h
  rw [hname, ← List.flatMap_map, ← Text.Utf8.eq_map_of_encode_ascii hascii]

/-! ## Numbers -/

theorem splitOn_cons {first : Char} (rest : List Char) (h : first ≠ '.') :
    ∃ part others, Text.splitOn '.' (first :: rest) =
      (first :: part) :: others := by
  simp only [Text.splitOn, if_neg h]
  split
  · exact ⟨_, _, rfl⟩
  · exact ⟨_, _, rfl⟩

theorem ipv4Number?_eq_none {first : Char} {rest : List Char}
    (h : digitOf? 10 first = none) :
    ipv4Number? (first :: rest) = none := by
  have hzero : first ≠ '0' := by
    rintro rfl
    exact absurd h (by decide)
  unfold ipv4Number?
  split <;> simp_all [numberOf?]

theorem ipv4?_eq_none {first : Char} {rest : List Char} (hdot : first ≠ '.')
    (h : digitOf? 10 first = none) : ipv4? (first :: rest) = none := by
  -- An empty last label may go, but not the first one, which is no number.
  obtain ⟨part, others, hparts⟩ := splitOn_cons rest hdot
  have hfirst : ∃ kept, withoutLastEmpty ((first :: part) :: others) =
      (first :: part) :: kept := by
    unfold withoutLastEmpty
    split
    · cases others with
      | nil => simp_all
      | cons other others => exact ⟨_, rfl⟩
    · exact ⟨others, rfl⟩
  obtain ⟨kept, hkept⟩ := hfirst
  rw [ipv4?, labels, hparts, hkept, List.mapM_cons, ipv4Number?_eq_none h]
  rfl

/-! ## Hosts without escapes -/

theorem eq_domain_of_ofSpecial? {first lowered : Char} {rest : List Char}
    {host : Host} (hbracket : first ≠ '[') (hpercent : '%' ∉ first :: rest)
    (hlowered : lowerChar first = [lowered]) (hdot : lowered ≠ '.')
    (hdigit : digitOf? 10 lowered = none)
    (h : ofSpecial? (first :: rest) = some host) :
    host = .domain (String.ofList ((first :: rest).flatMap lowerChar)) := by
  obtain ⟨name, hname, hhost⟩ | ⟨pieces, hhead, -⟩ := ofSpecial?_eq_some h
  · rw [unescapeBytes_eq_self (percent_not_mem_encode hpercent)] at hname
    obtain rfl := eq_flatMap_of_domain? hname
    obtain hnumber | hdomain := hhost
    · rw [List.flatMap_cons, hlowered, List.singleton_append,
        ipv4?_eq_none hdot hdigit] at hnumber
      cases hnumber
    · exact hdomain
  · cases hhead
    exact absurd rfl hbracket

end Host

end EndpointDiscovery.Url
