import EndpointDiscovery.Proofs.Url.HostText
import EndpointDiscovery.Proofs.Url.PlainHost

/-!
# Texts of authorities

What an authority is written as between the slashes and the path is read
as that authority.
-/

namespace EndpointDiscovery.Url

variable {mark : Char} {front text rest : List Char} {scheme : String} {url : Url}
  {host : Host}

/-! ## Cutting at marks -/

theorem cutMark_append_cons (h : mark ∉ front) (rest : List Char) :
    cutMark mark (front ++ mark :: rest) = (front, some rest) := by
  have hkeep : ∀ character ∈ front, decide (character ≠ mark) = true :=
    fun character hmem => decide_eq_true fun heq => h (heq ▸ hmem)
  rw [cutMark, List.dropWhile_append_of_pos hkeep,
    List.takeWhile_append_of_pos hkeep]
  simp

def marked (mark : Char) (part : Option String) : List Char :=
  match part with
  | some part => mark :: part.toList
  | none => []

theorem cutMark_append_marked (h : mark ∉ front) (part : Option String) :
    cutMark mark (front ++ marked mark part) = (front, part.map String.toList) := by
  cases part with
  | none => rw [marked, List.append_nil, cutMark_eq_self h, Option.map_none]
  | some part => exact cutMark_append_cons h part.toList

theorem cutPort_append (h : ∀ character ∈ front, character ≠ ':' ∧ character ≠ '[')
    (rest : List Char) :
    cutPort false (front ++ rest) =
      (front ++ (cutPort false rest).1, (cutPort false rest).2) := by
  induction front with
  | nil => rfl
  | cons character front ih =>
      rw [List.forall_mem_cons] at h
      obtain ⟨⟨hcolon, hbracket⟩, hfront⟩ := h
      have hinside :
          (if character = '[' then true else if character = ']' then false
            else false) =
          false := by
        rw [if_neg hbracket, ite_self]
      rw [List.cons_append, cutPort]
      · rw [hinside, ih hfront]
        rfl
      · exact hcolon

theorem cutPort_inside (h : ∀ character ∈ front, character ≠ '[' ∧ character ≠ ']')
    (rest : List Char) :
    cutPort true (front ++ ']' :: rest) =
      (front ++ ']' :: (cutPort false rest).1, (cutPort false rest).2) := by
  induction front with
  | nil =>
      rw [List.nil_append, cutPort]
      · rfl
      · decide
  | cons character front ih =>
      rw [List.forall_mem_cons] at h
      obtain ⟨⟨hopen, hclose⟩, hfront⟩ := h
      by_cases hcolon : character = ':'
      · subst hcolon
        rw [List.cons_append, cutPort, if_pos rfl, ih hfront]
        rfl
      · rw [List.cons_append, cutPort]
        · rw [if_neg hopen, if_neg hclose, ih hfront]
          rfl
        · exact hcolon

theorem cutPort_host (h : host.isStrict = true) (rest : List Char) :
    cutPort false (host.toText.toList ++ rest) =
      (host.toText.toList ++ (cutPort false rest).1, (cutPort false rest).2) := by
  have hhost : ∀ mark, Host.isHostChar mark = false →
      ∀ character, Host.isHostChar character = true → character ≠ mark := by
    rintro mark hmark character hcharacter rfl
    rw [hmark] at hcharacter
    cases hcharacter
  rcases host.toText_shape h with hname | ⟨body, hbody, hinside⟩
  · refine cutPort_append (fun character hmem => ?_) rest
    exact ⟨hhost ':' (by decide) _ (hname character hmem),
      hhost '[' (by decide) _ (hname character hmem)⟩
  · have hfront : ∀ character ∈ body, character ≠ '[' ∧ character ≠ ']' := by
      intro character hmem
      rcases hinside character hmem with hcharacter | rfl
      · exact ⟨hhost '[' (by decide) _ hcharacter,
          hhost ']' (by decide) _ hcharacter⟩
      · decide
    rw [hbody, List.cons_append, cutPort]
    · rw [if_pos rfl, List.append_assoc, List.singleton_append,
        cutPort_inside hfront]
      simp
    · decide

/-! ## Ports -/

theorem isDigit_of_mem_toDigits {number : Nat} {digit : Char}
    (h : digit ∈ Nat.toDigits 10 number) : isDigit digit = true := by
  have hdigit := Nat.isDigit_of_mem_toDigits (by decide) (by decide) h
  simpa [isDigit, Char.isDigit, Char.le_def] using hdigit

theorem foldl_toDigits (number : Nat) : (Nat.toDigits 10 number).foldl
    (fun sum digit => sum * 10 + (digit.toNat - 0x30)) 0 = number := by
  have hvalue : Nat.ofDigitChars 10 (Nat.toDigits 10 number) 0 = number :=
    Nat.ofDigitChars_toDigits (by decide) (by decide)
  simpa [Nat.ofDigitChars, Nat.mul_comm] using hvalue

theorem port?_toDigits {port : Nat} (hbound : port ≤ 65535)
    (hport : defaultPort? scheme ≠ some port) :
    port? scheme (Nat.toDigits 10 port) = some (some port, []) := by
  have htake : (Nat.toDigits 10 port).takeWhile isDigit = Nat.toDigits 10 port := by
    rw [List.takeWhile_eq_self_iff]
    exact fun digit hmem => isDigit_of_mem_toDigits hmem
  have hdrop : (Nat.toDigits 10 port).dropWhile isDigit = [] := by
    rw [List.dropWhile_eq_nil_iff]
    exact fun digit hmem => isDigit_of_mem_toDigits hmem
  have hempty : (Nat.toDigits 10 port).isEmpty = false := by
    simp [Nat.toDigits_ne_nil]
  unfold port?
  simp only [htake, hdrop, foldl_toDigits, hempty, hport, Bool.false_or,
    decide_false, Bool.false_eq_true, if_false, List.head?_nil, Option.any_none]
  rw [if_neg (by omega)]

theorem bounds_of_port? {port : Nat}
    (h : port? scheme text = some (some port, rest)) :
    port ≤ 65535 ∧ defaultPort? scheme ≠ some port := by
  unfold port? at h
  dsimp only at h
  split at h
  · cases h
  · rename_i hbound
    split at h
    · cases h
    · split at h
      · cases h
      · rename_i hport
        cases h
        rw [Bool.or_eq_true, not_or, decide_eq_true_eq] at hport
        exact ⟨by omega, hport.2⟩

/-! ## Credentials -/

def credentials? (url : Url) : Option (List Char) :=
  match url.password with
  | some password => some (url.username.toList ++ ':' :: password.toList)
  | none => if url.username = "" then none else some url.username.toList

theorem toList_userinfoText (url : Url) :
    url.userinfoText.toList = (url.credentials?.map (· ++ ['@'])).getD [] := by
  unfold userinfoText credentials?
  cases url.password with
  | some password => simp
  | none =>
      by_cases hname : url.username = ""
      · simp [hname]
      · simp [hname]

structure IsUserinfo (username : String) (password : Option String) : Prop where
  username : ∀ character ∈ username.toList, userinfoSet character = false
  password : ∀ text, password = some text →
    text ≠ "" ∧ ∀ character ∈ text.toList, userinfoSet character = false

theorem isUserinfo_userinfo (text : List Char) :
    IsUserinfo (userinfo text).1 (userinfo text).2 := by
  have hescaped : ∀ part, ∀ character ∈ (escape userinfoSet part).toList,
      userinfoSet character = false :=
    fun part character hmem => not_set_of_mem_escape (by decide) hmem
  unfold userinfo
  dsimp only
  split
  · exact ⟨hescaped _, by simp⟩
  · exact ⟨hescaped _, by simp⟩
  · rename_i password hne _
    refine ⟨hescaped _, fun text htext => ?_⟩
    cases htext
    exact ⟨mt escape_eq_empty_iff.mp hne, hescaped _⟩

theorem userinfo_credentials (h : IsUserinfo url.username url.password) :
    userinfo (url.credentials?.getD []) = (url.username, url.password) := by
  have hcolon : ':' ∉ url.username.toList :=
    fun hmem => absurd (h.username ':' hmem) (by decide)
  have hname : escape userinfoSet url.username.toList = url.username := by
    rw [escape_eq_self h.username, String.ofList_toList]
  unfold credentials?
  cases hpassword : url.password with
  | some password =>
      obtain ⟨hne, hplain⟩ := h.password password hpassword
      have hnil : password.toList ≠ [] := mt String.toList_eq_nil_iff.mp hne
      rw [Option.getD_some, userinfo, cutMark_append_cons hcolon]
      dsimp only
      rw [hname]
      split
      · contradiction
      · rename_i heq
        exact absurd (Option.some.inj heq) hnil
      · rename_i heq
        cases heq
        rw [escape_eq_self hplain, String.ofList_toList]
  | none =>
      have hcredentials :
          (if url.username = "" then none else some url.username.toList).getD [] =
          url.username.toList := by
        split
        · rename_i hempty
          rw [hempty]
          rfl
        · rfl
      rw [hcredentials, userinfo, cutMark_eq_self hcolon]
      dsimp only
      rw [hname]

/-! ## Authorities -/

def innerText (url : Url) (host : Host) : List Char :=
  url.userinfoText.toList ++ (host.toText.toList ++ url.portText.toList)

def hostOf? (scheme : String) (text : List Char) : Option Host :=
  if isSpecialScheme scheme then Host.ofSpecial? text else Host.ofOther? text

def portOf? (scheme : String) : Option (List Char) → Option (Option Nat × List Char)
  | some text => port? scheme text
  | none => some (none, [])

def isAnnounced (credentials portText : Option (List Char)) : Bool :=
  credentials = some [] || portText.isSome ||
  !(userinfo (credentials.getD [])).1.isEmpty ||
    (userinfo (credentials.getD [])).2.isSome

theorem authority?_eq {credentials portText : Option (List Char)}
    {place hostText : List Char}
    (hcut : Text.cutLast ['@'] text = credentials.map (·, place))
    (hplace : credentials = none → place = text)
    (hport : cutPort false place = (hostText, portText)) :
    authority? scheme text = (hostOf? scheme hostText).bind fun host =>
      if hostText.isEmpty && isAnnounced credentials portText then none
      else (portOf? scheme portText).map fun found =>
        ({ scheme := scheme, username := (userinfo (credentials.getD [])).1,
           password := (userinfo (credentials.getD [])).2, host := some host,
           port := found.1 }, found.2) := by
  cases credentials with
  | none =>
      obtain rfl := hplace rfl
      simp only [authority?, hcut, Option.map_none, hport, hostOf?,
        Option.bind_eq_bind]
      cases portText <;> split <;> simp only [portOf?, Option.map_eq_bind] <;> rfl
  | some credentials =>
      simp only [authority?, hcut, Option.map_some, hport, hostOf?,
        Option.bind_eq_bind]
      cases portText <;> split <;> simp only [portOf?, Option.map_eq_bind] <;> rfl

/-- The authority of a URL as it is read. -/
structure IsAuthority (url : Url) (host : Host) : Prop where
  host_eq : url.host = some host
  reads : hostOf? url.scheme host.toText.toList = some host
  userinfo : IsUserinfo url.username url.password
  port : ∀ port, url.port = some port → port ≤ 65535 ∧
    defaultPort? url.scheme ≠ some port
  alone : host.toText = "" → url.username = "" ∧ url.password = none ∧
    url.port = none

theorem hostOf?_toText (h : hostOf? scheme text = some host) :
    hostOf? scheme host.toText.toList = some host := by
  unfold hostOf? at h ⊢
  cases hspecial : isSpecialScheme scheme with
  | true =>
      rw [hspecial, if_pos rfl] at h
      exact (Host.isSpecial_of_ofSpecial? h).ofSpecial?_toText
  | false =>
      rw [hspecial, if_neg Bool.false_ne_true] at h
      exact (Host.isOther_of_ofOther? h).ofOther?_toText

theorem eq_nil_of_hostOf? (h : hostOf? scheme text = some host)
    (hempty : host.toText = "") :
    text = [] := by
  have hagain := hostOf?_toText h
  rw [hempty] at hagain
  unfold hostOf? at h hagain
  cases hspecial : isSpecialScheme scheme with
  | true =>
      rw [hspecial, if_pos rfl] at h
      exact absurd hempty (Host.isSpecial_of_ofSpecial? h).toText_ne_empty
  | false =>
      have hdomain : Host.ofOther? "".toList = some (.domain "") := by decide
      rw [hspecial, if_neg Bool.false_ne_true, hdomain] at hagain
      rw [hspecial, if_neg Bool.false_ne_true] at h
      cases hagain
      unfold Host.ofOther? at h
      split at h
      · split at h
        · obtain ⟨pieces, -, hpieces⟩ := Option.map_eq_some_iff.mp h
          cases hpieces
        · cases h
      · split at h
        · cases h
        · rw [Option.some.injEq, Host.domain.injEq] at h
          exact escape_eq_empty_iff.mp h

theorem isAuthority_of_authority? (h : authority? scheme text = some (url, rest)) :
    url.scheme = scheme ∧ url.path = .segments [] ∧ ∃ host,
      IsAuthority url host := by
  obtain ⟨credentials, place, hcut, hplace⟩ : ∃ credentials place,
      Text.cutLast ['@'] text = credentials.map (·, place) ∧
        (credentials = none → place = text) := by
    cases Text.cutLast ['@'] text with
    | none => exact ⟨none, text, rfl, fun _ => rfl⟩
    | some cut => exact ⟨some cut.1, cut.2, rfl, by simp⟩
  rw [authority?_eq hcut hplace rfl] at h
  obtain ⟨host, hhost, h⟩ := Option.bind_eq_some_iff.mp h
  split at h
  · cases h
  · rename_i hannounced
    obtain ⟨⟨port, after⟩, hport, h⟩ := Option.map_eq_some_iff.mp h
    cases h
    refine ⟨rfl, rfl, host,
      ⟨rfl, hostOf?_toText hhost, isUserinfo_userinfo _, ?_, ?_⟩⟩
    · rintro number rfl
      unfold portOf? at hport
      split at hport
      · exact bounds_of_port? hport
      · cases hport
    · intro hempty
      have hnil := eq_nil_of_hostOf? hhost hempty
      simp only [hnil, isAnnounced, List.isEmpty_nil, Bool.true_and,
        Bool.or_eq_true, not_or, Bool.not_eq_true, Bool.not_eq_false',
        Option.isSome_eq_false_iff, Option.isNone_iff_eq_none,
        String.isEmpty_iff] at hannounced
      obtain ⟨⟨⟨-, hnone⟩, hname⟩, hpassword⟩ := hannounced
      rw [hnone] at hport
      cases hport
      exact ⟨hname, hpassword, rfl⟩

theorem cutPort_portText (url : Url) :
    cutPort false url.portText.toList = ([], url.port.map (Nat.toDigits 10)) := by
  unfold portText
  cases url.port with
  | none => rfl
  | some port =>
      rw [String.toList_append]
      change cutPort false (':' :: (toString port).toList) = _
      rw [cutPort, Nat.toString_eq_repr, Nat.toList_repr]
      rfl

theorem isDigit_of_mem_portText {character : Char}
    (h : character ∈ url.portText.toList) :
    isDigit character = true ∨ character = ':' := by
  unfold portText at h
  cases hport : url.port with
  | none =>
      rw [hport] at h
      cases h
  | some port =>
      rw [hport, String.toList_append] at h
      change character ∈ ':' :: (toString port).toList at h
      rw [Nat.toString_eq_repr, Nat.toList_repr] at h
      rcases List.mem_cons.mp h with rfl | h
      · exact .inr rfl
      · exact .inl (isDigit_of_mem_toDigits h)

theorem at_not_mem_place (hstrict : host.isStrict = true) (url : Url) :
    '@' ∉ host.toText.toList ++ url.portText.toList := by
  rw [List.mem_append, not_or]
  constructor
  · intro hmem
    rcases Host.mem_toText hstrict hmem with h | h
    · exact absurd h (by decide)
    · exact absurd h (by decide)
  · intro hmem
    rcases isDigit_of_mem_portText hmem with h | h
    · exact absurd h (by decide)
    · cases h

theorem cutLast_innerText (hstrict : host.isStrict = true) :
    Text.cutLast ['@'] (innerText url host) =
      url.credentials?.map (·, host.toText.toList ++ url.portText.toList) := by
  have hat := at_not_mem_place hstrict url
  rw [innerText, toList_userinfoText]
  cases url.credentials? with
  | none => exact cutLast_eq_none hat
  | some credentials =>
      rw [Option.map_some, Option.map_some,
        Text.cutLast_eq_some_iff (List.cons_ne_nil _ _)]
      refine ⟨List.append_assoc _ _ _, fun hinfix => hat ?_⟩
      exact hinfix.subset List.mem_cons_self

theorem IsAuthority.isAnnounced_eq_false (h : IsAuthority url host)
    (hempty : host.toText = "") :
    isAnnounced url.credentials? (url.port.map (Nat.toDigits 10)) = false := by
  obtain ⟨hname, hpassword, hport⟩ := h.alone hempty
  have hcredentials : url.credentials? = none := by
    rw [credentials?, hpassword]
    exact if_pos hname
  rw [hcredentials, hport]
  decide

theorem IsAuthority.portOf?_toDigits (h : IsAuthority url host) :
    portOf? url.scheme (url.port.map (Nat.toDigits 10)) = some (url.port, []) := by
  cases hport : url.port with
  | none => rfl
  | some port =>
      obtain ⟨hbound, hdefault⟩ := h.port port hport
      exact port?_toDigits hbound hdefault

theorem IsAuthority.authority?_innerText (h : IsAuthority url host)
    (hstrict : host.isStrict = true) :
    authority? url.scheme (innerText url host) =
      some ({ url with path := .segments [], query := none, fragment := none },
        []) := by
  have hplace : url.credentials? = none →
      host.toText.toList ++ url.portText.toList = innerText url host := by
    intro hnone
    rw [innerText, toList_userinfoText, hnone]
    rfl
  have hport := cutPort_host hstrict url.portText.toList
  rw [cutPort_portText, List.append_nil] at hport
  have hallowed : ¬(host.toText.toList.isEmpty &&
      isAnnounced url.credentials? (url.port.map (Nat.toDigits 10))) = true := by
    rw [Bool.and_eq_true, List.isEmpty_iff, String.toList_eq_nil_iff]
    rintro ⟨hempty, hannounced⟩
    rw [h.isAnnounced_eq_false hempty] at hannounced
    cases hannounced
  rw [authority?_eq (cutLast_innerText hstrict) hplace hport, h.reads,
    Option.bind_some, if_neg hallowed, userinfo_credentials h.userinfo,
    h.portOf?_toDigits, ← h.host_eq]
  rfl

end EndpointDiscovery.Url
