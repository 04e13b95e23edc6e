import EndpointDiscovery.Proofs.Url.NormalForm

/-!
# Longer paths

Segments that are put after the path of a URL are read as the last segments of that
path.  All other components are read as they were, but for the host before a drive.
-/

namespace EndpointDiscovery.Url

variable {url : Url} {host : Host} {items new : List String} {path : List Char}
  {character : Char}

/-! ## Characters of strict URLs -/

theorem isUserinfoChar_of_isUnreserved (h : isUnreserved character = true) :
    isUserinfoChar character = true := by
  rw [isUserinfoChar, h]
  rfl

theorem isPathChar_of_isUnreserved (h : isUnreserved character = true) :
    isPathChar character = true := by
  rw [isPathChar, h]
  rfl

theorem isQueryChar_of_isUnreserved (h : isUnreserved character = true) :
    isQueryChar character = true := by
  rw [isQueryChar, isPathChar_of_isUnreserved h]
  rfl

structure HasStrictChars (url : Url) : Prop where
  username : ∀ character ∈ url.username.toList,
    isUserinfoChar character = true ∨ character = '%'
  password : ∀ password, url.password = some password →
    ∀ character ∈ password.toList, isUserinfoChar character = true ∨ character = '%'
  host : ∀ host, url.host = some host → host.isStrict = true
  path : ∀ character ∈ url.pathText.toList,
    isPathChar character = true ∨ character = '%'
  query : ∀ query, url.query = some query →
    ∀ character ∈ query.toList, isQueryChar character = true ∨ character = '%'
  fragment : ∀ fragment, url.fragment = some fragment →
    ∀ character ∈ fragment.toList, isQueryChar character = true ∨ character = '%'

theorem hasStrictChars (h : url.isStrict = true) : HasStrictChars url := by
  simp only [isStrict, Bool.and_eq_true, Option.all_eq_true] at h
  obtain ⟨⟨⟨⟨⟨husername, hpassword⟩, hhost⟩, hpath⟩, hquery⟩, hfragment⟩ := h
  exact {
    username := fun _ =>
      mem_of_consistsOf (fun _ => isUserinfoChar_of_isUnreserved) husername
    password := fun password hsome _ =>
      mem_of_consistsOf (fun _ => isUserinfoChar_of_isUnreserved)
        (hpassword password hsome)
    host := hhost
    path := fun _ => mem_of_consistsOf (fun _ => isPathChar_of_isUnreserved) hpath
    query := fun query hsome _ =>
      mem_of_consistsOf (fun _ => isQueryChar_of_isUnreserved) (hquery query hsome)
    fragment := fun fragment hsome _ =>
      mem_of_consistsOf (fun _ => isQueryChar_of_isUnreserved)
        (hfragment fragment hsome) }

theorem isPartChar_of_isPathChar
    (h : isPathChar character = true ∨ character = '%') :
    isPartChar character = true := by
  rcases h with hpath | rfl
  · rw [isPartChar, hpath]
    rfl
  · decide

def IsInnerChar (character : Char) : Prop :=
  isPartChar character = true ∧ character ≠ '/'

theorem isInnerChar_of_isUserinfoChar
    (h : isUserinfoChar character = true ∨ character = '%') :
    IsInnerChar character := by
  constructor
  · refine isPartChar_of_isPathChar (h.imp_left fun hchar => ?_)
    simp only [isUserinfoChar, Bool.or_eq_true, decide_eq_true_eq] at hchar
    rcases hchar with (hunreserved | hdelimiter) | rfl
    · exact isPathChar_of_isUnreserved hunreserved
    · rw [isPathChar, hdelimiter, Bool.or_true]
      rfl
    · decide
  · rintro rfl
    exact absurd h (by decide)

theorem isInnerChar_of_isHostChar (h : Host.isHostChar character = true) :
    IsInnerChar character := by
  refine isInnerChar_of_isUserinfoChar ?_
  simp only [Host.isHostChar, isNameChar, Bool.or_eq_true, decide_eq_true_eq] at h
  refine h.imp_left fun hname => ?_
  simp only [isUserinfoChar, Bool.or_eq_true]
  exact .inl hname

theorem isInnerChar_of_isDigit (h : isDigit character = true) :
    IsInnerChar character := by
  refine isInnerChar_of_isUserinfoChar (.inl (isUserinfoChar_of_isUnreserved ?_))
  rw [isUnreserved, h, Bool.or_true]
  rfl

theorem isPartChar_of_mem_pathText (h : url.isStrict = true)
    (hmem : character ∈ url.pathText.toList) :
    isPartChar character = true ∧ character ≠ '|' := by
  have hchar := (hasStrictChars h).path character hmem
  refine ⟨isPartChar_of_isPathChar hchar, ?_⟩
  rintro rfl
  exact absurd hchar (by decide)

theorem isInnerChar_of_mem_userinfoText (h : url.isStrict = true)
    (hmem : character ∈ url.userinfoText.toList) : IsInnerChar character := by
  have hname : ∀ character ∈ url.username.toList, IsInnerChar character :=
    fun character hmem =>
    isInnerChar_of_isUserinfoChar ((hasStrictChars h).username character hmem)
  have hmarks : IsInnerChar ':' ∧ IsInnerChar '@' := by
    unfold IsInnerChar
    decide
  unfold userinfoText at hmem
  split at hmem
  · rename_i password hsome
    simp only [String.toList_append, List.mem_append] at hmem
    rcases hmem with ((hmem | hmem) | hmem) | hmem
    · exact hname character hmem
    · rw [List.mem_singleton.mp hmem]
      exact hmarks.1
    · exact isInnerChar_of_isUserinfoChar
        ((hasStrictChars h).password password hsome character hmem)
    · rw [List.mem_singleton.mp hmem]
      exact hmarks.2
  · split at hmem
    · cases hmem
    · rw [String.toList_append, List.mem_append] at hmem
      rcases hmem with hmem | hmem
      · exact hname character hmem
      · rw [List.mem_singleton.mp hmem]
        exact hmarks.2

theorem isInnerChar_of_mem_innerText (h : url.isStrict = true)
    (hhost : url.host = some host) (hmem : character ∈ innerText url host) :
    IsInnerChar character := by
  rw [innerText, List.mem_append, List.mem_append] at hmem
  rcases hmem with hmem | hmem | hmem
  · exact isInnerChar_of_mem_userinfoText h hmem
  · have hmarks :
        [':', '[', ']'].all (fun mark => isPartChar mark && mark ≠ '/') = true := by
      decide
    rcases Host.mem_toText ((hasStrictChars h).host host hhost) hmem with
      hhost | hbracket
    · exact isInnerChar_of_isHostChar hhost
    · simpa [IsInnerChar] using List.all_eq_true.mp hmarks character hbracket
  · rcases isDigit_of_mem_portText hmem with hdigit | rfl
    · exact isInnerChar_of_isDigit hdigit
    · unfold IsInnerChar
      decide

/-! ## The text of a URL with some path -/

def textWith (url : Url) (path : List Char) : List Char :=
  url.scheme.toList ++ ':' ::
  (url.authorityText.toList ++ path ++ marked '?' url.query ++
    marked '#' url.fragment)

theorem toList_queryText (url : Url) :
    url.queryText.toList = marked '?' url.query := by
  unfold queryText marked
  cases url.query with
  | none => rfl
  | some query => exact String.toList_append

theorem toList_fragmentText (url : Url) :
    url.fragmentText.toList = marked '#' url.fragment := by
  unfold fragmentText marked
  cases url.fragment with
  | none => rfl
  | some fragment => exact String.toList_append

theorem toList_extendedText (url : Url) (suffix : String) :
    (url.extendedText suffix).toList =
      url.textWith (pathStem url.pathText.toList ++ suffix.toList) := by
  simp [extendedText, textWith, toList_queryText, toList_fragmentText]

theorem toList_authorityText (hhost : url.host = some host) :
    url.authorityText.toList = '/' :: '/' :: innerText url host := by
  rw [authorityText, hhost]
  simp [innerText]

theorem isPartChar_of_mem_authorityText (h : url.isStrict = true)
    (hmem : character ∈ url.authorityText.toList) :
    isPartChar character = true := by
  cases hhost : url.host with
  | none =>
      rw [authorityText, hhost] at hmem
      cases hmem
  | some host =>
      rw [toList_authorityText hhost, List.mem_cons, List.mem_cons] at hmem
      rcases hmem with rfl | rfl | hmem
      · decide
      · decide
      · exact (isInnerChar_of_mem_innerText h hhost hmem).1

theorem clean_eq_self {text : List Char}
    (h : ∀ character ∈ text, 0x20 < character.toNat) :
    clean text = text := by
  have hdrop : ∀ {text : List Char}, (∀ character ∈ text, 0x20 < character.toNat) →
      text.dropWhile (fun character => decide (character.toNat ≤ 0x20)) = text := by
    intro text h
    cases text with
    | nil => rfl
    | cons first text =>
        have hfirst := h first List.mem_cons_self
        rw [List.dropWhile_cons_of_neg]
        simpa using hfirst
  have hkept : ∀ character ∈ text,
      (character ≠ '\t' && character ≠ '\n' && character ≠ '\r') = true := by
    intro character hmem
    have hne : ∀ mark : Char, mark.toNat ≤ 0x20 → character ≠ mark := by
      rintro mark hmark rfl
      exact absurd (h character hmem) (Nat.not_lt_of_le hmark)
    simp [hne '\t' (by decide), hne '\n' (by decide), hne '\r' (by decide)]
  unfold clean
  dsimp only
  rw [hdrop h, hdrop (by simpa using h), List.reverse_reverse]
  exact List.filter_eq_self.mpr hkept

theorem above_of_isQueryChar (h : isQueryChar character = true ∨ character = '%') :
    0x20 < character.toNat ∧ character ≠ '#' := by
  rcases h with hquery | rfl
  · rw [isQueryChar, Bool.or_eq_true, decide_eq_true_eq] at hquery
    rcases hquery with hpath | rfl
    · have hpart := not_cut_of_isPartChar (isPartChar_of_isPathChar (.inl hpath))
      exact ⟨hpart.1, hpart.2.1⟩
    · decide
  · decide

theorem above_of_mem_marked_query (h : url.isStrict = true)
    (hmem : character ∈ marked '?' url.query) :
    0x20 < character.toNat ∧ character ≠ '#' := by
  cases hquery : url.query with
  | none =>
      rw [hquery] at hmem
      cases hmem
  | some query =>
      rw [hquery, marked, List.mem_cons] at hmem
      rcases hmem with rfl | hmem
      · decide
      · exact above_of_isQueryChar
          ((hasStrictChars h).query query hquery character hmem)

theorem above_of_mem_marked_fragment (h : url.isStrict = true)
    (hmem : character ∈ marked '#' url.fragment) : 0x20 < character.toNat := by
  cases hfragment : url.fragment with
  | none =>
      rw [hfragment] at hmem
      cases hmem
  | some fragment =>
      rw [hfragment, marked, List.mem_cons] at hmem
      rcases hmem with rfl | hmem
      · decide
      · exact (above_of_isQueryChar
          ((hasStrictChars h).fragment fragment hfragment character hmem)).1

theorem clean_textWith (hnormal : IsNormal url) (h : url.isStrict = true)
    (hpath : ∀ character ∈ path, isPartChar character = true) :
    clean (url.textWith path) = url.textWith path := by
  refine clean_eq_self fun character hmem => ?_
  simp only [textWith, List.mem_append, List.mem_cons] at hmem
  rcases hmem with hmem | rfl | ((hmem | hmem) | hmem) | hmem
  · exact (not_cut_of_isPartChar (isPartChar_of_isSchemeChar
      (hnormal.scheme.chars character hmem))).1
  · decide
  · exact (not_cut_of_isPartChar (isPartChar_of_mem_authorityText h hmem)).1
  · exact (not_cut_of_isPartChar (hpath character hmem)).1
  · exact (above_of_mem_marked_query h hmem).1
  · exact above_of_mem_marked_fragment h hmem

theorem parse?_textWith (hnormal : IsNormal url) (h : url.isStrict = true)
    (hpath : ∀ character ∈ path, isPartChar character = true) :
    parse? (String.ofList (url.textWith path)) =
      (body? url.scheme (url.authorityText.toList ++ path)).map fun read =>
        { read with query := url.query, fragment := url.fragment } := by
  have hfront : ∀ character ∈ url.authorityText.toList ++ path,
      isPartChar character = true := by
    intro character hmem
    rcases List.mem_append.mp hmem with hmem | hmem
    · exact isPartChar_of_mem_authorityText h hmem
    · exact hpath character hmem
  have hmarks := fun character hmem => not_cut_of_isPartChar (hfront character hmem)
  have hsharp : '#' ∉ url.authorityText.toList ++ path ++ marked '?' url.query := by
    rw [List.mem_append, not_or]
    exact ⟨fun hmem => (hmarks '#' hmem).2.1 rfl,
      fun hmem => (above_of_mem_marked_query h hmem).2 rfl⟩
  have hquestion : '?' ∉ url.authorityText.toList ++ path := fun hmem =>
    (hmarks '?' hmem).2.2.1 rfl
  have hslashes : withSlashes url.scheme (url.authorityText.toList ++ path) =
      url.authorityText.toList ++ path := by
    unfold withSlashes
    split
    · exact map_slash_eq_self fun hmem => (hmarks '\\' hmem).2.2.2 rfl
    · rfl
  have hscheme : scheme? (clean (String.ofList (url.textWith path)).toList) =
      some (url.scheme, url.authorityText.toList ++ path ++ marked '?' url.query ++
        marked '#' url.fragment) := by
    rw [String.toList_ofList, clean_textWith hnormal h hpath]
    exact hnormal.scheme.scheme?_append _
  have hquery : (url.query.map String.toList).map (escape (querySetOf url.scheme)) =
      url.query := by
    cases hsome : url.query with
    | none => rfl
    | some query =>
        simp [escape_eq_self (hnormal.query query hsome)]
  have hfragment :
      (url.fragment.map String.toList).map (escape fragmentSet) = url.fragment := by
    cases hsome : url.fragment with
    | none => rfl
    | some fragment =>
        simp [escape_eq_self (hnormal.fragment fragment hsome)]
  rw [parse?_eq hscheme, cutMark_append_marked hsharp,
    cutMark_append_marked hquestion, hslashes, hquery, hfragment]

/-! ## Longer paths -/

def Path.extended (hasHost : Bool) (path : Path) (new : List String) : Path :=
  match path with
  | .segments items => .segments (kept hasHost items ++ new)
  | .plain text =>
      if text = "" then .segments new
      else .plain (String.ofList (pathStem text.toList ++ slashed new))

/-- The host of a URL when its text is read again: a file on a drive has none. -/
def settledHost (url : Url) : Option Host :=
  match url.path with
  | .segments items =>
      if url.scheme = "file" && items.head?.any (isDriveLetter ·.toList) then
        some (.domain "")
      else url.host
  | .plain _ => url.host

def withSegments (url : Url) (new : List String) : Url :=
  { url with host := url.settledHost,
             path := url.path.extended url.host.isSome new }

theorem toList_pathText_of_host (hhost : url.host = some host)
    (hpath : url.path = .segments items) : url.pathText.toList = slashed items := by
  rw [pathText, hpath, hhost]
  exact toList_join_slash items

theorem toList_pathText_hostless (hhost : url.host = none)
    (hpath : url.path = .segments items) :
    url.pathText.toList =
      (if beginsEmpty items then ['/', '.'] else []) ++ slashed items := by
  have hbegins : (items.head? = some "" && 1 < items.length) = beginsEmpty items :=
    rfl
  rw [pathText, hpath, hhost]
  simp only [Option.isNone_none, Bool.true_and, hbegins]
  cases beginsEmpty items with
  | true =>
      rw [if_pos rfl, String.toList_append, toList_join_slash]
      rfl
  | false => exact toList_join_slash items

theorem takeWhile_inner {inner : List Char}
    (hinner : ∀ character ∈ inner, character ≠ '/')
    (hpath : path.head? = some '/') :
    (inner ++ path).takeWhile (!isSlash ·) = inner ∧
      (inner ++ path).dropWhile (!isSlash ·) = path := by
  have hkeep : ∀ character ∈ inner, (!isSlash character) = true := by
    intro character hmem
    simpa [isSlash] using hinner character hmem
  obtain ⟨rest, rfl⟩ := List.head?_eq_some_iff.mp hpath
  rw [List.takeWhile_append_of_pos hkeep, List.dropWhile_append_of_pos hkeep]
  simp [isSlash]

theorem head?_slashed (hne : items ≠ []) : (slashed items).head? = some '/' := by
  obtain ⟨first, rest, rfl⟩ := List.exists_cons_of_ne_nil hne
  rfl

theorem isPlainSegment_of_mem (h : url.isStrict = true)
    (hpath : url.path = .segments items) (hitems : ∀ item ∈ items, IsSegment item) :
    ∀ item ∈ items, IsPlainSegment item := by
  intro item hmem
  refine ⟨hitems item hmem, fun hbar => ?_⟩
  have hslashed : '|' ∈ slashed items :=
    List.mem_flatMap.mpr ⟨item, hmem, List.mem_cons_of_mem _ hbar⟩
  have htext : '|' ∈ url.pathText.toList := by
    cases hhost : url.host with
    | none =>
        rw [toList_pathText_hostless hhost hpath]
        exact List.mem_append_right _ hslashed
    | some host => rwa [toList_pathText_of_host hhost hpath]
  exact (isPartChar_of_mem_pathText h htext).2 rfl

theorem hierarchical?_innerText (hauthority : IsAuthority url host)
    (h : url.isStrict = true) (hitems : ∀ item ∈ items, IsPlainSegment item)
    (hne : items ≠ []) :
    hierarchical? url.scheme (innerText url host ++ slashed items) =
      some { url with path := .segments items, query := none,
                      fragment := none } := by
  have hinner : ∀ character ∈ innerText url host, character ≠ '/' :=
    fun character hmem =>
    (isInnerChar_of_mem_innerText h hauthority.host_eq hmem).2
  obtain ⟨htake, hdrop⟩ := takeWhile_inner hinner (head?_slashed hne)
  have hempty : (slashed items).isEmpty = false := by
    simpa using mt slashed_eq_nil_iff.mp hne
  have hstrict := (hasStrictChars h).host host hauthority.host_eq
  rw [hierarchical?, htake, hauthority.authority?_innerText hstrict]
  simp only [Option.bind_eq_bind, Option.bind_some, hdrop, List.nil_append, hempty,
    Bool.false_and, Bool.false_eq_true, if_false,
    segments_afterSlash_slashed hitems hne]

theorem dropWhile_slashes_inner {inner : List Char}
    (hinner : ∀ character ∈ inner, character ≠ '/') (hne : inner ≠ [])
    (path : List Char) :
    ('/' :: '/' :: (inner ++ path)).dropWhile isSlash = inner ++ path := by
  obtain ⟨first, rest, rfl⟩ := List.exists_cons_of_ne_nil hne
  have hfirst : ¬isSlash first = true := by
    simpa [isSlash] using hinner first List.mem_cons_self
  rw [List.dropWhile_cons_of_pos rfl, List.dropWhile_cons_of_pos rfl,
    List.cons_append, List.dropWhile_cons_of_neg hfirst]

theorem IsAuthority.innerText_ne_nil (hauthority : IsAuthority url host)
    (hspecial : isSpecialScheme url.scheme = true) : innerText url host ≠ [] := by
  have hreads := hauthority.reads
  rw [hostOf?, if_pos hspecial] at hreads
  intro hnil
  rw [innerText, List.append_eq_nil_iff, List.append_eq_nil_iff] at hnil
  exact (Host.isSpecial_of_ofSpecial? hreads).toText_ne_empty
    (String.toList_eq_nil_iff.mp hnil.2.1)

theorem body?_hierarchical (hscheme : url.scheme ≠ "file")
    (hauthority : IsAuthority url host) (h : url.isStrict = true)
    (hitems : ∀ item ∈ items, IsPlainSegment item) (hne : items ≠ []) :
    body? url.scheme (url.authorityText.toList ++ slashed items) =
      some { url with path := .segments items, query := none,
                      fragment := none } := by
  have hread := hierarchical?_innerText hauthority h hitems hne
  rw [toList_authorityText hauthority.host_eq, List.cons_append,
    List.cons_append, body?, if_neg hscheme]
  split
  · rename_i hspecial
    have hinner : ∀ character ∈ innerText url host, character ≠ '/' :=
      fun character hmem =>
      (isInnerChar_of_mem_innerText h hauthority.host_eq hmem).2
    rw [dropWhile_slashes_inner hinner (hauthority.innerText_ne_nil hspecial),
      hread]
  · exact hread

theorem isDriveLetter_toText (h : host.isStrict = true) :
    isDriveLetter host.toText.toList = false := by
  unfold isDriveLetter
  split
  · rename_i letter mark heq
    rcases host.toText_shape h with hname | ⟨body, hbody, -⟩
    · have hmark :=
        hname mark (by rw [heq]; exact List.mem_cons_of_mem _ List.mem_cons_self)
      have hcolon : mark ≠ ':' := by
        rintro rfl
        exact absurd hmark (by decide)
      have hbar : mark ≠ '|' := by
        rintro rfl
        exact absurd hmark (by decide)
      simp [hcolon, hbar]
    · rw [heq] at hbody
      rw [(List.cons.inj hbody).1]
      rfl
  · rfl

theorem fileHost?_toText (hreads : host = .domain "" ∨ host.IsSpecial) :
    fileHost? host.toText.toList = some host := by
  rcases hreads with rfl | hspecial
  · rfl
  · have hne : host.toText.toList ≠ [] :=
      mt String.toList_eq_nil_iff.mp hspecial.toText_ne_empty
    rw [fileHost?, if_neg (by simpa using hne), hspecial.ofSpecial?_toText]

theorem fileParts_append {inner : List Char}
    (hinner : ∀ character ∈ inner, character ≠ '/')
    (hdrive : isDriveLetter inner = false) (hpath : path.head? = some '/') :
    fileParts ('/' :: '/' :: (inner ++ path)) = (inner, path) := by
  obtain ⟨htake, hdrop⟩ := takeWhile_inner hinner hpath
  rw [fileParts, htake, hdrop, hdrive]
  rfl

theorem body?_file (hfile : IsFile url host) (h : url.isStrict = true)
    (hitems : ∀ item ∈ items, IsPlainSegment item) (hne : items ≠ [])
    (hfirst : items.head? ≠ some "") :
    body? url.scheme (url.authorityText.toList ++ slashed items) =
      some { url with
        host := if items.head?.any (isDriveLetter ·.toList) then some (.domain "")
          else url.host,
        path := .segments items, query := none, fragment := none } := by
  have hinner : innerText url host = host.toText.toList := by
    simp [innerText, userinfoText, portText, hfile.username, hfile.password,
      hfile.port]
  have hslash : ∀ character ∈ host.toText.toList, character ≠ '/' := by
    rw [← hinner]
    exact fun character hmem =>
      (isInnerChar_of_mem_innerText h hfile.host_eq hmem).2
  have hdrive := isDriveLetter_toText ((hasStrictChars h).host host hfile.host_eq)
  have hparts := fileParts_append hslash hdrive (head?_slashed hne)
  have hsettled : fileUrl host items = { url with
      host := if items.head?.any (isDriveLetter ·.toList) then some (.domain "")
        else url.host,
      path := .segments items, query := none, fragment := none } := by
    obtain ⟨scheme, username, password, urlHost, port, urlPath, query, fragment⟩ :=
      url
    obtain ⟨hscheme, hname, hpassword, hhost, hport, -, hlocal⟩ := hfile
    dsimp only at hscheme hhost hname hpassword hport
    subst hscheme hhost hname hpassword hport
    rw [fileUrl, dropLeadingEmpty_eq_self hfirst, decide_eq_false hlocal,
      Bool.or_false]
    split <;> rfl
  rw [toList_authorityText hfile.host_eq, hinner, List.cons_append,
    List.cons_append, body?, if_pos hfile.scheme, file?_eq, hparts,
    fileHost?_toText hfile.reads, Option.map_some,
    segments_afterSlash_slashed hitems hne, hsettled]

theorem ne_file_of_not_special (hspecial : isSpecialScheme url.scheme = false) :
    url.scheme ≠ "file" := by
  intro hfile
  rw [hfile] at hspecial
  cases hspecial

theorem IsHostless.eq (h : IsHostless url) (path : Path) :
    ({ scheme := url.scheme, path := path } : Url) =
      { url with path := path, query := none, fragment := none } := by
  obtain ⟨scheme, username, password, host, port, urlPath, query, fragment⟩ := url
  obtain ⟨hname, hpassword, hhost, hport⟩ := h
  dsimp only at hname hpassword hhost hport
  subst hname hpassword hhost hport
  rfl

theorem body?_of_slash (hspecial : isSpecialScheme url.scheme = false)
    (hhostless : IsHostless url) {body : List Char}
    (hbody : body.head? ≠ some '/') :
    body? url.scheme ('/' :: body) =
      some { url with
        path := .segments (segments false body), query :=
          none, fragment := none } := by
  have hscheme := ne_file_of_not_special hspecial
  rw [body?, if_neg hscheme, hspecial, if_neg Bool.false_ne_true, ← hhostless.eq]
  rintro rest rfl
  exact hbody rfl

theorem body?_rooted (hspecial : isSpecialScheme url.scheme = false)
    (hhostless : IsHostless url) (hitems : ∀ item ∈ items, IsPlainSegment item)
    (hne : items ≠ []) (hfirst : items.head? ≠ some "") :
    body? url.scheme (slashed items) =
      some { url with path := .segments items, query := none,
                      fragment := none } := by
  have hsegments : segments false (afterSlash (slashed items)) = items :=
    segments_afterSlash_slashed hitems hne
  obtain ⟨first, rest, rfl⟩ := List.exists_cons_of_ne_nil hne
  have hslashed : slashed (first :: rest) = '/' :: (first.toList ++ slashed rest) :=
    rfl
  have hbody : (first.toList ++ slashed rest).head? ≠ some '/' := by
    have hnil : first.toList ≠ [] := by
      intro hnil
      rw [String.toList_eq_nil_iff.mp hnil] at hfirst
      exact hfirst rfl
    rw [List.head?_append_of_ne_nil _ hnil]
    exact fun hslash =>
      (hitems first List.mem_cons_self).noSlash (List.mem_of_mem_head? hslash)
  rw [hslashed] at hsegments ⊢
  rw [body?_of_slash hspecial hhostless hbody]
  rw [afterSlash] at hsegments
  rw [hsegments]

theorem body?_dot_rooted (hspecial : isSpecialScheme url.scheme = false)
    (hhostless : IsHostless url) (hitems : ∀ item ∈ items, IsPlainSegment item)
    (hne : items ≠ []) :
    body? url.scheme (['/', '.'] ++ slashed items) =
      some { url with path := .segments items, query := none,
                      fragment := none } := by
  have hdot : ('.' :: slashed items).head? ≠ some '/' := by simp
  rw [List.cons_append, List.singleton_append,
    body?_of_slash hspecial hhostless hdot, segments_dot_slashed hitems hne]

theorem body?_plain (hspecial : isSpecialScheme url.scheme = false)
    (hhostless : IsHostless url)
    (hescaped : ∀ character ∈ path, controlSet character = false)
    (hroot : path.head? ≠ some '/') :
    body? url.scheme path =
      some { url with path := .plain (String.ofList path), query := none,
                      fragment := none } := by
  have hscheme := ne_file_of_not_special hspecial
  rw [body?, if_neg hscheme, hspecial, if_neg Bool.false_ne_true, ← hhostless.eq]
  · rw [escape_eq_self hescaped]
  · rintro rest rfl
    exact hroot rfl
  · rintro rest rfl
    exact hroot rfl

def stemText (url : Url) : List Char := pathStem url.pathText.toList

theorem stemText_append_of_host (hhost : url.host = some host)
    (hpath : url.path = .segments items) (hitems : ∀ item ∈ items, IsSegment item)
    (new : List String) : url.stemText ++ slashed new =
      slashed (kept true items ++ new) := by
  rw [stemText, toList_pathText_of_host hhost hpath,
    pathStem_slashed fun item hmem => (hitems item hmem).noSlash, slashed_append]

theorem stemText_append_hostless (hhost : url.host = none)
    (hpath : url.path = .segments items) (hitems : ∀ item ∈ items, IsSegment item)
    (new : List String) :
    url.stemText ++ slashed new =
      (if beginsEmpty items then ['/', '.'] else []) ++
      slashed (kept false items ++ new) := by
  have hslash : ∀ item ∈ items, '/' ∉ item.toList :=
    fun item hmem => (hitems item hmem).noSlash
  rw [stemText, toList_pathText_hostless hhost hpath, slashed_append]
  cases hbegins : beginsEmpty items with
  | true =>
      have hne : items ≠ [] := by
        rintro rfl
        cases hbegins
      rw [if_pos rfl, pathStem_dot_slashed hslash hne, List.append_assoc]
  | false =>
      rw [if_neg Bool.false_ne_true, List.nil_append, List.nil_append,
        pathStem_slashed hslash, kept_eq_of_not_beginsEmpty hbegins]

theorem IsBody.body?_extended (hbody : IsBody url) (h : url.isStrict = true)
    (hnew : IsSuffix new) :
    body? url.scheme (url.authorityText.toList ++ (url.stemText ++ slashed new)) =
      some { url.withSegments new with query := none, fragment := none } := by
  have hne : ∀ {short : List String}, short ++ new ≠ [] := by
    intro short hnil
    exact hnew.ne_nil (List.append_eq_nil_iff.mp hnil).2
  cases hbody with
  | @file host items hfile hpath hitems hfirst =>
      have hplain :=
        hnew.forall_kept_append (isPlainSegment_of_mem h hpath hitems) true
      have hhead : (kept true items ++ new).head? ≠ some "" := by
        refine hnew.head?_kept_append_ne_empty fun hkept hempty => hkept ?_
        rw [hfirst hempty]
        rfl
      rw [stemText_append_of_host hfile.host_eq hpath hitems,
        body?_file hfile h hplain hne hhead, hnew.drive_kept_append]
      simp [withSegments, settledHost, Path.extended, hfile.scheme, hpath,
        hfile.host_eq]
  | @hierarchical host items hscheme hauthority hpath hitems =>
      have hhost := hauthority.host_eq
      have hplain :=
        hnew.forall_kept_append (isPlainSegment_of_mem h hpath hitems) true
      rw [stemText_append_of_host hhost hpath hitems,
        body?_hierarchical hscheme hauthority h hplain hne]
      simp [withSegments, settledHost, Path.extended, hscheme, hpath, hhost]
  | @rooted items hspecial hhostless hpath hitems =>
      have hscheme := ne_file_of_not_special hspecial
      have hhost := hhostless.host
      have hauthority : url.authorityText = "" := by rw [authorityText, hhost]
      have hplain :=
        hnew.forall_kept_append (isPlainSegment_of_mem h hpath hitems) false
      have hsettled : url.withSegments new =
          { url with path := .segments (kept false items ++ new) } := by
        simp [withSegments, settledHost, Path.extended, hscheme, hpath, hhost]
      rw [stemText_append_hostless hhost hpath hitems, hauthority,
        String.toList_empty, List.nil_append, hsettled]
      cases hbegins : beginsEmpty items with
      | true => exact body?_dot_rooted hspecial hhostless hplain hne
      | false =>
          exact body?_rooted hspecial hhostless hplain hne
            (hnew.head?_kept_append_ne_empty
              (head?_ne_empty_of_not_beginsEmpty hbegins))
  | @plain text hspecial hhostless hpath hescaped hroot =>
      have hhost := hhostless.host
      have hauthority : url.authorityText = "" := by rw [authorityText, hhost]
      have htext : url.pathText = text := by rw [pathText, hpath]
      have hsettled : url.withSegments new =
          { url with path := (Path.plain text).extended false new } := by
        simp [withSegments, settledHost, hpath, hhost]
      rw [hauthority, String.toList_empty, List.nil_append, hsettled,
        stemText, htext]
      by_cases hempty : text = ""
      · rw [Path.extended, if_pos hempty, hempty]
        exact body?_rooted hspecial hhostless hnew.plain hnew.ne_nil
          hnew.head?_ne_empty
      · have hnil : text.toList ≠ [] := mt String.toList_eq_nil_iff.mp hempty
        obtain ⟨hhead, hstem⟩ := head?_pathStem hnil hroot
        rw [Path.extended, if_neg hempty]
        refine body?_plain hspecial hhostless (fun character hmem => ?_) ?_
        · rcases List.mem_append.mp hmem with hmem | hmem
          · exact hescaped character ((prefix_pathStem _).subset hmem)
          · exact hnew.not_control hmem
        · rwa [List.head?_append_of_ne_nil _ hstem, hhead]

theorem isPartChar_of_mem_extended (h : url.isStrict = true) (hnew : IsSuffix new)
    (hmem : character ∈ url.stemText ++ slashed new) :
    isPartChar character = true := by
  rcases List.mem_append.mp hmem with hmem | hmem
  · exact (isPartChar_of_mem_pathText h ((prefix_pathStem _).subset hmem)).1
  · exact hnew.isPartChar hmem

/-- Segments are put after the path of a URL exactly if it is strict. -/
theorem extendPath?_eq (hnormal : IsNormal url) (hnew : IsSuffix new) :
    url.extendPath? (String.ofList (slashed new)) =
      if url.isStrict then some (url.withSegments new) else none := by
  rw [extendPath?]
  split
  · rename_i hstrict
    have htext : url.extendedText (String.ofList (slashed new)) =
        String.ofList (url.textWith (url.stemText ++ slashed new)) := by
      rw [← String.toList_inj, toList_extendedText, String.toList_ofList,
        String.toList_ofList, stemText]
    rw [htext, parse?_textWith hnormal hstrict
      fun character hmem => isPartChar_of_mem_extended hstrict hnew hmem,
      hnormal.body.body?_extended hstrict hnew]
    rfl
  · rfl

theorem exists_settledHost (hhost : url.host = some host) :
    ∃ settled, url.settledHost = some settled := by
  unfold settledHost
  split
  · split
    · exact ⟨_, rfl⟩
    · exact ⟨host, hhost⟩
  · exact ⟨host, hhost⟩

theorem toList_pathText_withSegments_of_host (hhost : url.host = some host)
    (hpath : url.path = .segments items) (hitems : ∀ item ∈ items, IsSegment item) :
    (url.withSegments new).pathText.toList = url.stemText ++ slashed new := by
  obtain ⟨settled, hsettled⟩ := exists_settledHost hhost
  have hextended : (url.withSegments new).path =
      .segments (kept true items ++ new) := by
    simp [withSegments, Path.extended, hpath, hhost]
  rw [toList_pathText_of_host hsettled hextended,
    stemText_append_of_host hhost hpath hitems]

theorem settledHost_of_not_file (hscheme : url.scheme ≠ "file") :
    url.settledHost = url.host := by
  unfold settledHost
  split
  · rw [decide_eq_false hscheme]
    rfl
  · rfl

theorem toList_pathText_withSegments (hbody : IsBody url) (hnew : IsSuffix new) :
    (url.withSegments new).pathText.toList = url.stemText ++ slashed new := by
  cases hbody with
  | file hfile hpath hitems _ =>
      exact toList_pathText_withSegments_of_host hfile.host_eq hpath hitems
  | hierarchical _ hauthority hpath hitems =>
      exact toList_pathText_withSegments_of_host hauthority.host_eq hpath hitems
  | @rooted items hspecial hhostless hpath hitems =>
      have hsettled := settledHost_of_not_file (ne_file_of_not_special hspecial)
      have hextended : (url.withSegments new).path =
          .segments (kept false items ++ new) := by
        simp [withSegments, Path.extended, hpath, hhostless.host]
      rw [toList_pathText_hostless (hsettled.trans hhostless.host) hextended,
        hnew.beginsEmpty_kept_append,
        stemText_append_hostless hhostless.host hpath hitems]
  | @plain text hspecial hhostless hpath _ _ =>
      have hsettled := settledHost_of_not_file (ne_file_of_not_special hspecial)
      by_cases hempty : text = ""
      · have hextended : (url.withSegments new).path = .segments new := by
          simp [withSegments, Path.extended, hpath, hempty]
        have hstem : url.stemText = [] := by
          rw [stemText, pathText, hpath, hempty]
          rfl
        rw [toList_pathText_hostless (hsettled.trans hhostless.host) hextended,
          hstem]
        simp [beginsEmpty, hnew.head?_ne_empty]
      · simp [pathText, withSegments, Path.extended, hpath, hempty, stemText]

theorem toText_eq (url : Url) :
    url.toText = String.ofList (url.textWith url.pathText.toList) := by
  rw [← String.toList_inj, String.toList_ofList]
  simp [toText, textWith, toList_queryText, toList_fragmentText]

theorem settledHost_eq (hnormal : IsNormal url) (h : url.isStrict = true)
    (hsame : parse? url.toText = some url) : url.settledHost = url.host := by
  cases hnormal.body with
  | @file host items hfile hpath hitems hfirst =>
      cases hdrive : items.head?.any (isDriveLetter ·.toList) with
      | false => simp [settledHost, hpath, hdrive]
      | true =>
          have hne : items ≠ [] := by
            rintro rfl
            cases hdrive
          have hhead : items.head? ≠ some "" := by
            intro hempty
            rw [hempty] at hdrive
            cases hdrive
          have hbody :=
            body?_file hfile h (isPlainSegment_of_mem h hpath hitems) hne hhead
          rw [toText_eq, parse?_textWith hnormal h
            fun character hmem => (isPartChar_of_mem_pathText h hmem).1,
            toList_pathText_of_host hfile.host_eq hpath, hbody, hdrive] at hsame
          have hread := congrArg Url.host (Option.some.inj hsame)
          rw [← hread]
          simp [settledHost, hpath, hfile.scheme, hdrive]
  | hierarchical hscheme _ _ _ => exact settledHost_of_not_file hscheme
  | rooted hspecial _ _ _ =>
      exact settledHost_of_not_file (ne_file_of_not_special hspecial)
  | plain hspecial _ _ _ _ =>
      exact settledHost_of_not_file (ne_file_of_not_special hspecial)

/-- What a URL has of another one that segments are put after. -/
structure Lengthens (base : Url) (new : List String) (url : Url) : Prop where
  scheme : url.scheme = base.scheme
  username : url.username = base.username
  password : url.password = base.password
  port : url.port = base.port
  query : url.query = base.query
  fragment : url.fragment = base.fragment
  host : url.host = base.settledHost
  sameHost : parse? base.toText = some base → url.host = base.host
  path : url.path = base.path.extended base.host.isSome new
  pathText : url.pathText.toList = base.stemText ++ slashed new

theorem IsNormal.lengthens_withSegments (hnormal : IsNormal url)
    (h : url.isStrict = true) (hnew : IsSuffix new) :
    Lengthens url new (url.withSegments new) where
  scheme := rfl
  username := rfl
  password := rfl
  port := rfl
  query := rfl
  fragment := rfl
  host := rfl
  sameHost := settledHost_eq hnormal h
  path := rfl
  pathText := toList_pathText_withSegments hnormal.body hnew

theorem slashed_eq_of_toText {other : List String} (hbody : IsBody url)
    (hnew : IsSuffix new) (hother : IsSuffix other)
    (h : (url.withSegments new).toText = (url.withSegments other).toText) :
    slashed new = slashed other := by
  rw [toText_eq, toText_eq, String.ofList_inj,
    toList_pathText_withSegments hbody hnew,
    toList_pathText_withSegments hbody hother] at h
  have hbehind := (List.cons.inj (List.append_cancel_left h)).2
  exact List.append_cancel_left
    (List.append_cancel_left
      (List.append_cancel_right (List.append_cancel_right hbehind)))

end EndpointDiscovery.Url
