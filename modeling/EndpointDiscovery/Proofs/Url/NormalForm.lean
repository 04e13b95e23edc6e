import EndpointDiscovery.Proofs.Url.AuthorityText
import EndpointDiscovery.Proofs.Url.PathText

/-!
# The normal form of URLs

What is read as a URL has each of its components in the form in which
it is read again.
-/

namespace EndpointDiscovery.Url

open Text (lowerChar)

variable {url : Url} {scheme written : String} {text rest : List Char}
  {character : Char}

/-! ## Schemes -/

theorem isPartChar_of_isSchemeChar (h : isSchemeChar character = true) :
    isPartChar character = true := by
  have hmarks : "+-.".toList.all isPartChar = true := by decide
  simp only [isSchemeChar, Bool.or_eq_true, List.contains_iff_mem] at h
  rcases h with (hletter | hdigit) | hmark
  · exact isPartChar_iff.mpr (.inl hletter)
  · exact isPartChar_iff.mpr (.inr (.inl hdigit))
  · exact List.all_eq_true.mp hmarks character hmark

structure IsScheme (scheme : String) : Prop where
  chars : ∀ character ∈ scheme.toList, isSchemeChar character = true
  first : scheme.toList.head?.any isLetter = true
  lower : Text.lower scheme = scheme

theorem isScheme_lower (hchars : ∀ character ∈ text, isSchemeChar character = true)
    (hfirst : text.head?.any isLetter = true) :
    IsScheme (Text.lower (String.ofList text)) := by
  have hascii : ∀ character ∈ text, character.toNat < 0x80 :=
    fun character hmem =>
      ascii_of_isPartChar (isPartChar_of_isSchemeChar (hchars character hmem))
  have hlower : (Text.lower (String.ofList text)).toList =
      text.flatMap lowerChar := by
    have hlist := Text.toList_lower_of_ascii (by rwa [String.toList_ofList] :
      ∀ character ∈ (String.ofList text).toList, character.toNat < 0x80)
    rwa [String.toList_ofList] at hlist
  have hlowered : ∀ lowered ∈ text.flatMap lowerChar,
      isSchemeChar lowered = true ∧ lowerChar lowered = [lowered] := by
    intro lowered hmem
    obtain ⟨character, hcharacter, hmem⟩ := List.mem_flatMap.mp hmem
    have hall : (lowerChar character).all (fun lowered =>
        isSchemeChar lowered && lowerChar lowered = [lowered]) = true :=
      Text.of_ascii (P := fun character => isSchemeChar character = true →
        (lowerChar character).all (fun lowered =>
          isSchemeChar lowered && lowerChar lowered = [lowered]) = true)
        (by decide) (hascii character hcharacter) (hchars character hcharacter)
    simpa using List.all_eq_true.mp hall lowered hmem
  refine ⟨?_, ?_, ?_⟩
  · rw [hlower]
    exact fun lowered hmem => (hlowered lowered hmem).1
  · rw [hlower]
    cases text with
    | nil => cases hfirst
    | cons first text =>
        have hletter :
            ((lowerChar first).head?.any isLetter && !(lowerChar first).isEmpty) =
              true :=
          Text.of_ascii (P := fun first => isLetter first = true →
            ((lowerChar first).head?.any isLetter && !(lowerChar first).isEmpty) =
              true) (by decide) (hascii first List.mem_cons_self) hfirst
        simp only [Bool.and_eq_true, Bool.not_eq_true',
          List.isEmpty_eq_false_iff] at hletter
        rw [List.flatMap_cons, List.head?_append_of_ne_nil _ hletter.2]
        exact hletter.1
  · have hself : (text.flatMap lowerChar).flatMap lowerChar =
        text.flatMap lowerChar := by
      rw [List.flatMap_congr fun lowered hmem => (hlowered lowered hmem).2]
      exact List.flatMap_singleton' _
    have hagain : ∀ lowered ∈ (Text.lower (String.ofList text)).toList,
        lowered.toNat < 0x80 := by
      rw [hlower]
      exact fun lowered hmem =>
        ascii_of_isPartChar (isPartChar_of_isSchemeChar (hlowered lowered hmem).1)
    rw [← String.toList_inj, Text.toList_lower_of_ascii hagain, hlower, hself]

theorem isScheme_of_scheme? (h : scheme? text = some (scheme, rest)) :
    IsScheme scheme := by
  unfold scheme? at h
  split at h
  · rename_i first after hfirst _
    split at h
    · rename_i hletter
      cases h
      refine isScheme_lower (fun character hmem => List.mem_takeWhile_imp hmem) ?_
      cases text with
      | nil => cases hfirst
      | cons other text =>
          cases hfirst
          have hchar : isSchemeChar first = true := by
            rw [isSchemeChar, hletter]
            rfl
          rw [List.takeWhile_cons_of_pos hchar]
          exact hletter
    · cases h
  · cases h

theorem IsScheme.scheme?_append (h : IsScheme scheme) (rest : List Char) :
    scheme? (scheme.toList ++ ':' :: rest) = some (scheme, rest) := by
  have htake : (scheme.toList ++ ':' :: rest).takeWhile isSchemeChar =
      scheme.toList := by
    rw [List.takeWhile_append_of_pos h.chars,
      List.takeWhile_cons_of_neg (by decide), List.append_nil]
  have hdrop : (scheme.toList ++ ':' :: rest).dropWhile isSchemeChar =
      ':' :: rest := by
    rw [List.dropWhile_append_of_pos h.chars,
      List.dropWhile_cons_of_neg (by decide)]
  have hfirst := h.first
  cases hscheme : scheme.toList with
  | nil =>
      rw [hscheme] at hfirst
      cases hfirst
  | cons first others =>
      rw [hscheme] at hfirst
      rw [← hscheme, scheme?, htake, hdrop, String.ofList_toList, h.lower, hscheme]
      exact if_pos hfirst

/-! ## The parts of a URL -/

def body? (scheme : String) (text : List Char) : Option Url :=
  if scheme = "file" then file? text
  else if isSpecialScheme scheme then hierarchical? scheme (text.dropWhile isSlash)
  else match text with
    | '/' :: '/' :: rest => hierarchical? scheme rest
    | '/' :: body => some { scheme, path := .segments (segments false body) }
    | rest => some { scheme, path := .plain (escape controlSet rest) }

def withSlashes (scheme : String) (text : List Char) : List Char :=
  if isSpecialScheme scheme then
    text.map fun c => if c = '\\' then '/' else c
  else
    text

def querySetOf (scheme : String) : EscapeSet :=
  if isSpecialScheme scheme then specialQuerySet else querySet

theorem parse?_eq (h : scheme? (clean written.toList) = some (scheme, rest)) :
    parse? written =
      (body? scheme (withSlashes scheme (cutMark '?' (cutMark '#' rest).1).1)).map
        fun url =>
        { url with
          query :=
            (cutMark '?' (cutMark '#' rest).1).2.map (escape (querySetOf scheme)),
          fragment := (cutMark '#' rest).2.map (escape fragmentSet) } := by
  unfold parse? body? withSlashes querySetOf
  rw [h, Option.map_eq_bind]
  simp only [Option.bind_eq_bind, Option.bind_some]
  by_cases hfile : scheme = "file"
  · simp only [if_pos hfile]
    rfl
  by_cases hspecial : isSpecialScheme scheme = true
  · simp only [if_neg hfile, if_pos hspecial]
    rfl
  · simp only [if_neg hfile, if_neg hspecial]
    -- Both sides distinguish the same three beginnings.
    generalize (cutMark '?' (cutMark '#' rest).1).1 = text
    cases text with
    | nil => rfl
    | cons first text =>
        by_cases hfirst : first = '/'
        · subst hfirst
          cases text with
          | nil => rfl
          | cons second text =>
              by_cases hsecond : second = '/'
              · subst hsecond
                rfl
              · simp [hsecond]
        · simp [hfirst]

/-! ## Normal forms -/

structure IsHostless (url : Url) : Prop where
  username : url.username = ""
  password : url.password = none
  host : url.host = none
  port : url.port = none

structure IsFile (url : Url) (host : Host) : Prop where
  scheme : url.scheme = "file"
  username : url.username = ""
  password : url.password = none
  host_eq : url.host = some host
  port : url.port = none
  reads : host = .domain "" ∨ host.IsSpecial
  notLocal : host ≠ .domain "localhost"

/-- A URL up to its query, as it is read. -/
inductive IsBody (url : Url) : Prop
  | file {host : Host} {items : List String} (hfile : IsFile url host)
      (hpath : url.path = .segments items) (hitems : ∀ item ∈ items, IsSegment item)
      (hfirst : items.head? = some "" → items = [""])
  | hierarchical {host : Host} {items : List String} (hscheme : url.scheme ≠ "file")
      (hauthority : IsAuthority url host) (hpath : url.path = .segments items)
      (hitems : ∀ item ∈ items, IsSegment item)
  | rooted {items : List String} (hspecial : isSpecialScheme url.scheme = false)
      (hhostless : IsHostless url) (hpath : url.path = .segments items)
      (hitems : ∀ item ∈ items, IsSegment item)
  | plain {text : String} (hspecial : isSpecialScheme url.scheme = false)
      (hhostless : IsHostless url) (hpath : url.path = .plain text)
      (hescaped : ∀ character ∈ text.toList, controlSet character = false)
      (hroot : text.toList.head? ≠ some '/')

/-- A URL as it is read. -/
structure IsNormal (url : Url) : Prop where
  scheme : IsScheme url.scheme
  body : IsBody url
  query : ∀ query, url.query = some query →
    ∀ character ∈ query.toList, querySetOf url.scheme character = false
  fragment : ∀ fragment, url.fragment = some fragment →
    ∀ character ∈ fragment.toList, fragmentSet character = false

def fileParts (text : List Char) : List Char × List Char :=
  match text with
  | '/' :: '/' :: rest =>
      let host := rest.takeWhile (!isSlash ·)
      if isDriveLetter host then ([], rest) else (host, rest.dropWhile (!isSlash ·))
  | rest => ([], rest)

def fileHost? (text : List Char) : Option Host :=
  if text.isEmpty then some (.domain "") else Host.ofSpecial? text

def fileUrl (host : Host) (items : List String) : Url where
  scheme := "file"
  host :=
    some (if items.head?.any (isDriveLetter ·.toList) ||
      host = .domain "localhost" then
    .domain "" else host)
  path := .segments (dropLeadingEmpty items)

theorem file?_eq (text : List Char) :
    file? text = (fileHost? (fileParts text).1).map fun host =>
      fileUrl host (segments true (afterSlash (fileParts text).2)) := by
  have hread : file? text =
      if (fileParts text).1.isEmpty then
        some (fileUrl (.domain "") (segments true (afterSlash (fileParts text).2)))
      else (Host.ofSpecial? (fileParts text).1).bind fun host =>
        some (fileUrl host (segments true (afterSlash (fileParts text).2))) := rfl
  rw [hread, fileHost?]
  split
  · rfl
  · rw [Option.map_eq_bind]
    rfl

theorem isBody_of_file? (h : file? text = some url) :
    url.scheme = "file" ∧ IsBody url := by
  rw [file?_eq] at h
  obtain ⟨host, hhost, rfl⟩ := Option.map_eq_some_iff.mp h
  refine ⟨rfl, .file ⟨rfl, rfl, rfl, rfl, rfl, ?_, ?_⟩ rfl (fun item hmem => ?_)
    head?_dropLeadingEmpty⟩
  · split
    · exact .inl rfl
    · unfold fileHost? at hhost
      split at hhost
      · cases hhost
        exact .inl rfl
      · exact .inr (Host.isSpecial_of_ofSpecial? hhost)
  · split
    · decide
    · rename_i hkept
      simp only [Bool.or_eq_true, not_or, decide_eq_true_eq] at hkept
      exact hkept.2
  · exact isSegment_of_mem_segments item ((dropLeadingEmpty_suffix _).subset hmem)

theorem IsAuthority.before {host : Host} (h : IsAuthority url host) (path : Path)
    (query fragment : Option String) :
    IsAuthority
      { url with path := path, query := query, fragment := fragment } host :=
  ⟨h.host_eq, h.reads, h.userinfo, h.port, h.alone⟩

theorem isBody_of_hierarchical? (hscheme : scheme ≠ "file")
    (h : hierarchical? scheme text = some url) :
    url.scheme = scheme ∧ IsBody url := by
  obtain ⟨⟨found, rest⟩, hfound, h⟩ := Option.bind_eq_some_iff.mp h
  obtain ⟨rfl, hpath, host, hauthority⟩ := isAuthority_of_authority? hfound
  dsimp only at h
  split at h
  · cases h
    exact ⟨rfl, .hierarchical hscheme hauthority hpath (by simp)⟩
  · cases h
    exact ⟨rfl,
      .hierarchical hscheme (hauthority.before _ _ _) rfl isSegment_of_mem_segments⟩

theorem isBody_of_body? (h : body? scheme text = some url) :
    url.scheme = scheme ∧ IsBody url := by
  unfold body? at h
  split at h
  · rename_i hscheme
    rw [hscheme]
    exact isBody_of_file? h
  rename_i hscheme
  split at h
  · exact isBody_of_hierarchical? hscheme h
  rename_i hspecial
  rw [Bool.not_eq_true] at hspecial
  split at h
  · exact isBody_of_hierarchical? hscheme h
  · cases h
    exact ⟨rfl, .rooted hspecial ⟨rfl, rfl, rfl, rfl⟩ rfl isSegment_of_mem_segments⟩
  · rename_i hdouble hsingle
    cases h
    refine ⟨rfl, .plain hspecial ⟨rfl, rfl, rfl, rfl⟩ rfl
      (fun character hmem => not_set_of_mem_escape (by decide) hmem)
      fun hhead => ?_⟩
    rcases head?_escape hhead with hslash | hpercent
    · obtain ⟨rest, rfl⟩ := List.head?_eq_some_iff.mp hslash
      exact hsingle rest rfl
    · cases hpercent

theorem IsBody.behind (h : IsBody url) (query fragment : Option String) :
    IsBody { url with query := query, fragment := fragment } := by
  have hhostless : IsHostless url →
      IsHostless { url with query := query, fragment := fragment } :=
    fun h => ⟨h.username, h.password, h.host, h.port⟩
  cases h with
  | file h hpath hitems hfirst =>
      exact .file ⟨h.scheme, h.username, h.password, h.host_eq, h.port, h.reads,
        h.notLocal⟩ hpath hitems hfirst
  | hierarchical hscheme h hpath hitems =>
      exact .hierarchical hscheme (h.before url.path query fragment) hpath hitems
  | rooted hspecial h hpath hitems =>
      exact .rooted hspecial (hhostless h) hpath hitems
  | plain hspecial h hpath hescaped hroot =>
      exact .plain hspecial (hhostless h) hpath hescaped hroot

theorem isNormal_of_parse? (h : parse? written = some url) : IsNormal url := by
  cases hscheme : scheme? (clean written.toList) with
  | none =>
      unfold parse? at h
      rw [hscheme] at h
      cases h
  | some found =>
      obtain ⟨scheme, rest⟩ := found
      rw [parse?_eq hscheme] at h
      obtain ⟨body, hbody, rfl⟩ := Option.map_eq_some_iff.mp h
      obtain ⟨rfl, hnormal⟩ := isBody_of_body? hbody
      have hspares : sparesEscapes (querySetOf body.scheme) = true := by
        unfold querySetOf
        split <;> decide
      refine ⟨isScheme_of_scheme? hscheme, hnormal.behind _ _,
        fun query hquery => ?_, fun fragment hfragment => ?_⟩
      · obtain ⟨text, -, rfl⟩ := Option.map_eq_some_iff.mp hquery
        exact fun character hmem => not_set_of_mem_escape hspares hmem
      · obtain ⟨text, -, rfl⟩ := Option.map_eq_some_iff.mp hfragment
        exact fun character hmem => not_set_of_mem_escape (by decide) hmem

end EndpointDiscovery.Url
