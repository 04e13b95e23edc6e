import EndpointDiscovery.Identifier.Policy
import EndpointDiscovery.Proofs.Url.PlainHost
import EndpointDiscovery.Sml.Locator

/-!
# URLs of the classic scheme

The URL of an SMP is put together from the host name of a participant as a text.  It
is the URL of that host as long as every character of the host name is one that a
domain name is made of; the scheme of an identifier may hold others.
-/

namespace EndpointDiscovery

open Url.Host (IsPlain)

/-! ## Host names under a zone -/

theorem SmlZone.dnsZone_ne_nil (zone : SmlZone) : zone.dnsZone.toList ≠ [] := by
  intro hnil
  have hempty : zone.dnsZone.isEmpty = true := by
    rw [String.isEmpty_iff, ← String.toList_inj, hnil]
    rfl
  have hvalid := zone.valid
  rw [zoneFlaw?, if_pos hempty] at hvalid
  cases hvalid

theorem withoutFinalDot_append (first : String) {second : String}
    (h : second.toList ≠ []) :
    withoutFinalDot (first ++ second) = first ++ withoutFinalDot second := by
  unfold withoutFinalDot
  rw [String.toList_append, List.getLast?_append_of_ne_nil _ h,
    List.dropLast_append_of_ne_nil h]
  split
  · rw [String.ofList_append, String.ofList_toList]
  · rfl

def SmlZone.Contains (zone : SmlZone) (host : String) : Prop :=
  ∃ front, host = front ++ "." ++ Text.lower (withoutFinalDot zone.dnsZone)

variable {participant : Identifier} {zone : SmlZone} {name : String} {url : Url}

theorem assembleHostName_eq (label scheme : String) (zone : SmlZone) :
    assembleHostName label scheme zone =
      label ++ "." ++ Text.lower scheme ++ "." ++ withoutFinalDot zone.dnsZone :=
  withoutFinalDot_append _ zone.dnsZone_ne_nil

theorem eq_of_classicHostName
    (named : classicHostName participant zone = .ok name) :
    name = assembleHostName (classicLabel participant.normalizedValue)
      participant.scheme zone := by
  have hchecked : ∀ (check : Except SmlFault Unit) (assembled : String),
      (check >>= fun _ => pure assembled) = .ok name → name = assembled := by
    intro check assembled h
    cases check with
    | error fault => cases h
    | ok checked =>
        cases h
        rfl
  exact hchecked _ _ named

theorem exists_first_of_classicHostName
    (named : classicHostName participant zone = .ok name) :
    ∃ rest, name.toList = '*' :: rest ∨ name.toList = 'B' :: rest := by
  rw [eq_of_classicHostName named, assembleHostName_eq]
  unfold classicLabel
  split
  · exact ⟨_, .inl (by simp [wildcardValue]; rfl)⟩
  · exact ⟨_, .inr (by simp [classicHashPrefix]; rfl)⟩

theorem contains_of_classicHostName
    (named : classicHostName participant zone = .ok name)
    (hsigma : '\u03A3' ∉ name.toList) : zone.Contains (Text.lower name) := by
  have hdot : Text.lower "." = "." := by decide
  rw [eq_of_classicHostName named, assembleHostName_eq] at hsigma ⊢
  rw [Text.lower_append hsigma]
  rw [String.toList_append, List.mem_append, not_or] at hsigma
  rw [Text.lower_append hsigma.1, hdot]
  exact ⟨_, rfl⟩

/-! ## URLs under a zone -/

/-- What the classic scheme has for the URL of a host name. -/
structure StaysInZone (zone : SmlZone) (name : String) (url : Url) : Prop where
  url_eq : url = Url.ofDomain (Text.lower name)
  within : zone.Contains (Text.lower name)

theorem ascii_of_isMark {mark : Char} (h : Url.isMark mark = true) :
    mark.toNat < 0x80 := by
  have hmarks : "\t\n\r#/:?@[\\".toList.all (·.toNat < 0x80) = true := by decide
  exact of_decide_eq_true
    (List.all_eq_true.mp hmarks mark (List.contains_iff_mem.mp h))

theorem isMark_of_isPlain {character : Char}
    (h : ∀ lowered ∈ Text.lowerChar character, IsPlain lowered) :
    Url.isMark character = false ∧ character ≠ '%' := by
  by_cases hascii : character.toNat < 0x80
  · have hallowed :
        (Text.lowerChar character).all (!Url.Host.isForbidden ·) = true := by
      rw [List.all_eq_true]
      intro lowered hmem
      rw [(h lowered hmem).allowed]
      rfl
    exact Text.of_ascii (P := fun character =>
        (Text.lowerChar character).all (!Url.Host.isForbidden ·) = true →
          Url.isMark character = false ∧ character ≠ '%')
      (by decide) hascii hallowed
  · refine ⟨Bool.eq_false_iff.mpr fun hmark => hascii (ascii_of_isMark hmark), ?_⟩
    rintro rfl
    exact hascii (by decide)

theorem toList_classicUrl (name : String) :
    "http://" ++ name ++ "/" = String.ofList
      (Url.httpMark ++ (name.toList ++ ['/'])) := by
  rw [← String.toList_inj]
  simp [Url.httpMark]

theorem parse?_of_classicSmpUrl
    (named : classicHostName participant zone = .ok name)
    (located : classicSmpUrl participant zone = .ok url) :
    Url.parse? (String.ofList (Url.httpMark ++ (name.toList ++ ['/']))) =
      some url := by
  rw [← toList_classicUrl]
  have hparsed : parseSmpUrl ("http://" ++ name ++ "/") = .ok url := by
    rw [classicSmpUrl, named] at located
    exact located
  unfold parseSmpUrl at hparsed
  split at hparsed
  · rename_i found hfound
    cases hparsed
    exact hfound
  · cases hparsed

theorem eq_ofDomain_of_isPlain (named : classicHostName participant zone = .ok name)
    (located : classicSmpUrl participant zone = .ok url)
    (hsigma : '\u03A3' ∉ name.toList)
    (hplain : ∀ character ∈ (Text.lower name).toList, IsPlain character) :
    url = Url.ofDomain (Text.lower name) := by
  -- A character outside ASCII may be plain in lower case; such a name is
  -- not read at all.
  have hlower := Text.toList_lower hsigma
  have hname : ∀ character ∈ name.toList,
      Url.isMark character = false ∧ character ≠ '%' := by
    intro character hmem
    refine isMark_of_isPlain fun lowered hlowered => hplain lowered ?_
    rw [hlower]
    exact List.mem_flatMap.mpr ⟨character, hmem, hlowered⟩
  have hmarks : ∀ character ∈ name.toList, Url.isMark character = false :=
    fun character hmem => (hname character hmem).1
  have hpercent : '%' ∉ name.toList := fun hmem => (hname '%' hmem).2 rfl
  have hparse := parse?_of_classicSmpUrl named located
  rw [← String.ofList_toList (s := Text.lower name), hlower]
  obtain ⟨rest, hfirst | hfirst⟩ := exists_first_of_classicHostName named
  · rw [hfirst] at hmarks hpercent hparse ⊢
    exact Url.eq_ofDomain_of_parse? hmarks hpercent rfl (by decide)
      (by decide) hparse
  · rw [hfirst] at hmarks hpercent hparse ⊢
    exact Url.eq_ofDomain_of_parse? hmarks hpercent rfl (by decide)
      (by decide) hparse

/-! ## A scheme that leads out of a zone -/

def strayParticipant : Identifier := ⟨.participant, "x@evil.example/", "*", "*"⟩

def strayName : String := "*.x@evil.example/.edelivery.tech.ec.europa.eu"

def strayUrl : Url where
  scheme := "http"
  username := "*.x"
  host := some (.domain "evil.example")
  path := .segments [".edelivery.tech.ec.europa.eu", ""]

theorem classicHostName_stray :
    classicHostName strayParticipant PeppolNetwork.production.zone =
      .ok strayName := by
  have hassembled : assembleHostName wildcardValue strayParticipant.scheme
      PeppolNetwork.production.zone = strayName := by
    decide +kernel
  exact congrArg Except.ok hassembled

theorem classicSmpUrl_stray :
    classicSmpUrl strayParticipant PeppolNetwork.production.zone =
      .ok strayUrl := by
  have hparse : Url.parse? ("http://" ++ strayName ++ "/") = some strayUrl := by
    decide +kernel
  have hparsed : parseSmpUrl ("http://" ++ strayName ++ "/") = .ok strayUrl := by
    rw [parseSmpUrl, hparse]
  rw [classicSmpUrl, classicHostName_stray]
  exact hparsed

/-! ## The zone of a URL -/

/-- The URL that the classic scheme gives is that of the host name, and
lies under the zone, exactly if all characters of the host name can be part
of a domain name. -/
theorem classicSmpUrl_staysInZone_iff
    (named : classicHostName participant zone = .ok name)
    (located : classicSmpUrl participant zone = .ok url) :
    StaysInZone zone name url ↔ ∀ character ∈ (Text.lower name).toList,
      IsPlain character := by
  constructor
  · intro hstays
    obtain ⟨hostText, hhost⟩ :=
      Url.host_of_parse?_http (parse?_of_classicSmpUrl named located)
    rw [hstays.url_eq] at hhost
    exact Url.Host.isPlain_of_ofSpecial? hhost.symm
  · intro hplain
    have hsigma : '\u03A3' ∉ name.toList := by
      rw [Text.lower, String.toList_ofList] at hplain
      exact Text.sigma_not_mem_of_ascii fun lowered hmem =>
        (hplain lowered hmem).ascii
    exact ⟨eq_ofDomain_of_isPlain named located hsigma hplain,
      contains_of_classicHostName named hsigma⟩

/-- The scheme of an identifier may bring user information, another
host and a path. -/
theorem not_staysInZone_stray :
    IdentifierPolicy.create {} .participant "x@evil.example/" "*" =
      .ok strayParticipant ∧
      classicHostName strayParticipant PeppolNetwork.production.zone =
        .ok strayName ∧
      classicSmpUrl strayParticipant PeppolNetwork.production.zone = .ok strayUrl ∧
      strayUrl.host = some (.domain "evil.example") ∧
      ¬StaysInZone PeppolNetwork.production.zone strayName strayUrl := by
  refine ⟨by rfl, classicHostName_stray, classicSmpUrl_stray, rfl, fun hstays => ?_⟩
  have hplain :=
    (classicSmpUrl_staysInZone_iff classicHostName_stray classicSmpUrl_stray).mp
      hstays
  have hat : '@' ∈ (Text.lower strayName).toList := by decide +kernel
  exact absurd (hplain '@' hat).allowed (by decide)

end EndpointDiscovery
