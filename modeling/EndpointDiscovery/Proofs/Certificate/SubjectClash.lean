import EndpointDiscovery.Proofs.Certificate.SubjectName
import EndpointDiscovery.Proofs.Revocation.Run

/-!
# Names that tell more than one subject

A separator inside a value has blanks beside it that do not count, a lost
space leaves an escape for the separator behind the value, and case does not
tell all types apart.
-/

namespace EndpointDiscovery

open NameAttribute (escapeAfterFirst escapeValue)
open Text (AllBlank IsBorder isBlank lowerList trimList)

/-! ## Escapes in front of a rest -/

namespace NameAttribute

theorem exists_escapeAfterFirst_append (value : List Char) :
    ∃ front, ∀ rest, rest ≠ [] →
      escapeAfterFirst (value ++ rest) = front ++ escapeAfterFirst rest := by
  induction value with
  | nil => exact ⟨[], fun rest _ => rfl⟩
  | cons first value ih =>
      obtain ⟨front, hfront⟩ := ih
      by_cases hdelimiter : first ∈ delimiters
      · refine ⟨'\\' :: first :: front, fun rest hrest => ?_⟩
        rw [List.cons_append, escapeAfterFirst_delimiter hdelimiter,
          hfront rest hrest]
        rfl
      · refine ⟨first :: front, fun rest hrest => ?_⟩
        rw [List.cons_append, escapeAfterFirst_plain hdelimiter, hfront rest hrest]
        · rfl
        · exact fun _ hnil => hrest (List.append_eq_nil_iff.mp hnil).2

theorem exists_escapeValue_append (value : List Char) :
    ∃ front, ∀ rest, rest ≠ [] →
      (value = [] → ∀ first, rest.head? = some first → first ≠ ' ' ∧ first ≠ '#') →
      escapeValue (value ++ rest) = front ++ escapeAfterFirst rest := by
  cases value with
  | nil => exact ⟨[], fun rest _ hhead => escapeValue_of_head (hhead rfl)⟩
  | cons first value =>
      obtain ⟨front, hfront⟩ := exists_escapeAfterFirst_append value
      obtain ⟨plain, hplain⟩ := exists_escapeAfterFirst_append (first :: value)
      by_cases hspace : first = ' '
      · refine ⟨'\\' :: ' ' :: front, fun rest hrest _ => ?_⟩
        rw [hspace, List.cons_append, escapeValue, hfront rest hrest]
        rfl
      · by_cases hnumber : first = '#'
        · refine ⟨'\\' :: '#' :: front, fun rest hrest _ => ?_⟩
          rw [hnumber, List.cons_append, escapeValue, hfront rest hrest]
          rfl
        · refine ⟨plain, fun rest hrest _ => ?_⟩
          rw [escapeValue_of_head, hplain rest hrest]
          rintro other ⟨⟩
          exact ⟨hspace, hnumber⟩

theorem exists_escapeValue_separator {separator : Char}
    (h : separator = ',' ∨ separator = '=') (before : List Char) {after : List Char}
    (hafter : after ≠ []) :
    ∃ front, escapeValue (before ++ separator :: after) =
        front ++ separator :: escapeAfterFirst after ∧
      escapeValue (before ++ separator :: ' ' :: after) =
        front ++ separator :: ' ' :: escapeAfterFirst after := by
  obtain ⟨front, hfront⟩ := exists_escapeValue_append before
  have hspace : escapeAfterFirst (' ' :: after) = ' ' :: escapeAfterFirst after :=
    escapeAfterFirst_plain (by decide) fun _ => hafter
  have hhead : ∀ rest, before = [] → ∀ first,
      (separator :: rest).head? = some first →
      first ≠ ' ' ∧ first ≠ '#' := by
    rintro rest - first ⟨⟩
    rcases h with rfl | rfl <;> decide
  rw [hfront _ (List.cons_ne_nil _ _) (hhead _),
    hfront _ (List.cons_ne_nil _ _) (hhead _)]
  rcases h with rfl | rfl
  · refine ⟨front ++ ['\\'], ?_, ?_⟩
    · rw [escapeAfterFirst_delimiter (by decide), List.append_assoc,
        List.singleton_append]
    · rw [escapeAfterFirst_delimiter (by decide), hspace, List.append_assoc,
        List.singleton_append]
  · refine ⟨front, ?_, ?_⟩
    · rw [escapeAfterFirst_plain (by decide) (absurd · (by decide))]
    · rw [escapeAfterFirst_plain (by decide) (absurd · (by decide)), hspace]

end NameAttribute

/-! ## Other subjects with the same name -/

def NameEntry.encoded (entry : NameEntry) : NameAttribute :=
  ⟨entry.type, 12, Text.Utf8.encode entry.value.toList⟩

def Certificate.withSubject (certificate : Certificate)
    (entries : List NameEntry) : Certificate :=
  { certificate with subject := ⟨entries.map fun entry => [entry.encoded]⟩ }

theorem hasSubject_withSubject (certificate : Certificate)
    {entries : List NameEntry} (h : ∀ entry ∈ entries, entry.Readable) :
    HasSubject (certificate.withSubject entries) entries := by
  have hattributes : (certificate.withSubject entries).subject.attributes =
      entries.map NameEntry.encoded := by
    rw [Name.attributes, Certificate.withSubject, ← List.flatMap_def,
      ← List.map_eq_flatMap]
  rw [HasSubject, hattributes, List.forall₂_map_right_iff, List.forall₂_same]
  exact fun entry hentry => ⟨h entry hentry, rfl, Text.Utf8.decode?_encode _⟩

def NameEntry.key (entry : NameEntry) : Asn1.Oid × List Char :=
  (entry.type, lowerList (trimList entry.value.toList))

theorem NameEntry.alike_iff_key {entry other : NameEntry} :
    entry.Alike other ↔ entry.key = other.key := by
  rw [alike_iff, key, key, Prod.mk.injEq]

theorem SameSubject.perm_key {entries others : List NameEntry}
    (h : SameSubject entries others) :
    (entries.map NameEntry.key).Perm (others.map NameEntry.key) := by
  have hkeys : ∀ {others : List NameEntry},
      List.Forall₂ NameEntry.Alike entries others →
      entries.map NameEntry.key = others.map NameEntry.key := by
    intro others hall
    rw [← List.forall₂_eq_eq_eq, List.forall₂_map_left_iff,
      List.forall₂_map_right_iff]
    exact hall.imp fun _ _ => NameEntry.alike_iff_key.mp
  rcases h with hsame | hreverse
  · rw [hkeys hsame]
  · rw [hkeys hreverse, List.map_reverse]
    exact List.reverse_perm _

section

variable {certificate : Certificate} {entries : List NameEntry}

theorem HasSubject.not_tellsSubject (h : HasSubject certificate entries)
    (hne : entries ≠ []) {others : List NameEntry}
    (hreadable : ∀ other ∈ others, other.Readable) (hothers : others ≠ [])
    (hparts : entries.reverse.flatMap NameEntry.parts =
      others.reverse.flatMap NameEntry.parts)
    (hdiffer : ¬SameSubject entries others) :
    ¬TellsSubject certificate entries := by
  intro htells
  have hsubject := hasSubject_withSubject certificate hreadable
  refine hdiffer (htells _ _ others h.text? hsubject ?_)
  refine (isNameOf_iff hsubject _).mpr ⟨others.reverse, .inr rfl, ?_⟩
  rw [nameParts_writtenName (by simpa using hne),
    nameParts_writtenName (by simpa using hothers)]
  exact hparts

theorem HasSubject.not_tellsSubject_of_change (h : HasSubject certificate entries)
    {entry changed : NameEntry} (hentry : entry ∈ entries)
    (hchanged : changed.Readable) (hparts : changed.parts = entry.parts)
    (hdiffer : ¬entry.Alike changed) :
    ¬TellsSubject certificate entries := by
  obtain ⟨front, back, rfl⟩ := List.append_of_mem hentry
  have hreadable : ∀ other ∈ front ++ changed :: back, other.Readable := by
    have hentries := h.readable
    rw [List.forall_mem_append, List.forall_mem_cons] at hentries ⊢
    exact ⟨hentries.1, hchanged, hentries.2.2⟩
  refine h.not_tellsSubject (by simp) hreadable (by simp) ?_ fun hsame => hdiffer ?_
  · simp [hparts]
  · have hkeys := hsame.perm_key
    rw [List.map_append, List.map_append, List.perm_append_left_iff] at hkeys
    have hone : [entry.key].Perm [changed.key] :=
      (List.perm_append_right_iff (back.map NameEntry.key)).mp hkeys
    exact NameEntry.alike_iff_key.mpr (List.singleton_perm_singleton.mp hone)

/-! ## Separators in values -/

namespace NameEntry

def withValue (entry : NameEntry) (value : List Char) : NameEntry :=
  ⟨entry.type, String.ofList value⟩

variable {entry : NameEntry} {before after : List Char}

theorem Readable.withValue (h : entry.Readable) {value : List Char}
    (hvalue : '\x00' ∉ value) :
    (entry.withValue value).Readable where
  name := h.name
  value := by rwa [NameEntry.withValue, String.toList_ofList]

theorem written_withValue (entry : NameEntry) (value : List Char) :
    (entry.withValue value).written = entry.shortName ++ '=' ::
    escapeValue value := by
  rw [written, withValue, String.toList_ofList]
  rfl

theorem not_alike_withValue_space (hvalue : entry.value.toList = before ++ after)
    (hbefore : ¬AllBlank before) (hafter : ¬AllBlank after) :
    ¬entry.Alike (entry.withValue (before ++ ' ' :: after)) := by
  obtain ⟨first, last, htrim⟩ := Text.exists_trimList_append hbefore hafter
  have hshort := htrim []
  have hlong := htrim [' ']
  have hspace : (Text.lowerChar ' ').length = 1 := by decide
  rw [List.nil_append, List.nil_append] at hshort
  rw [List.singleton_append] at hlong
  intro halike
  have hlength := congrArg List.length (alike_iff.mp halike).2
  rw [withValue, String.toList_ofList, hvalue, hshort, hlong, lowerList, lowerList,
    Text.length_lowerAfter, Text.length_lowerAfter] at hlength
  simp only [List.singleton_append, List.flatMap_append, List.flatMap_cons,
    List.length_append, hspace] at hlength
  omega

theorem parts_withValue_space {separator : Char}
    (h : separator = ',' ∨ separator = '=')
    (hvalue : entry.value.toList = before ++ separator :: after)
    (hafter : after ≠ []) :
    (entry.withValue (before ++ separator :: ' ' :: after)).parts =
      entry.parts := by
  have hborder : IsBorder separator := by rcases h with rfl | rfl <;> decide
  have hspace : AllBlank [' '] := by decide
  obtain ⟨front, hshort, hlong⟩ :=
    NameAttribute.exists_escapeValue_separator h before hafter
  have hwritten : entry.written =
      (entry.shortName ++ '=' :: front) ++ separator :: escapeAfterFirst after := by
    rw [written, hvalue, hshort, List.append_assoc, List.cons_append]
  rw [parts, parts, written_withValue, hlong, ← List.cons_append,
    ← List.append_assoc, hwritten, Text.lowerList_append_border _ _ hborder,
    Text.lowerList_append_border _ _ hborder,
    Text.lowerList_border_cons (by decide)]
  have hnone : AllBlank [] := fun _ hmem => absurd hmem List.not_mem_nil
  exact nameParts_separator_blanks h hnone hspace _ _

end NameEntry

theorem HasSubject.not_tellsSubject_of_separator
    (h : HasSubject certificate entries) {separator : Char}
    (hseparator : separator = ',' ∨ separator = '=') {entry : NameEntry}
    (hentry : entry ∈ entries) {before after : List Char}
    (hvalue : entry.value.toList = before ++ separator :: after)
    (hafter : ¬AllBlank after) :
    ¬TellsSubject certificate entries := by
  have hreadable := h.readable entry hentry
  have hvisible : ¬AllBlank (before ++ [separator]) := by
    intro hblank
    have hseparatorBlank := hblank separator (by simp)
    rcases hseparator with rfl | rfl <;> contradiction
  have hne : after ≠ [] := by
    rintro rfl
    exact hafter fun _ hnone => absurd hnone List.not_mem_nil
  have hnul : '\x00' ∉ before ++ separator :: ' ' :: after := by
    have hnot := hreadable.value
    rw [hvalue] at hnot
    simpa using hnot
  refine h.not_tellsSubject_of_change hentry (hreadable.withValue hnul)
    (NameEntry.parts_withValue_space hseparator hvalue hne) ?_
  have hsplit : entry.value.toList = (before ++ [separator]) ++ after := by
    rw [hvalue, List.append_assoc, List.singleton_append]
  have hdiffer := NameEntry.not_alike_withValue_space hsplit hvisible hafter
  rwa [List.append_assoc, List.singleton_append] at hdiffer

/-! ## Types with one name -/

theorem HasSubject.not_tellsSubject_of_type (h : HasSubject certificate entries)
    {entry : NameEntry} (hentry : entry ∈ entries)
    (htype : ¬AttributeType.HasOwnName entry.type) :
    ¬TellsSubject certificate entries := by
  simp only [AttributeType.HasOwnName, not_forall] at htype
  obtain ⟨other, hknown, hlower, hne⟩ := htype
  have hname : lowerList (AttributeType.shortName other).toList =
      lowerList entry.shortName := by
    rw [Text.lower_eq_lowerList, Text.lower_eq_lowerList] at hlower
    exact String.ofList_injective hlower
  have hparts : NameEntry.parts ⟨other, entry.value⟩ = entry.parts := by
    rw [NameEntry.parts, NameEntry.parts, NameEntry.lowerList_written,
      NameEntry.lowerList_written, ← hname]
    rfl
  have hreadable : NameEntry.Readable ⟨other, entry.value⟩ :=
    ⟨hknown, (h.readable entry hentry).value⟩
  exact h.not_tellsSubject_of_change hentry hreadable hparts fun halike =>
    hne halike.1.symm

/-! ## Lost spaces -/

namespace NameEntry

def unescaped (entry : NameEntry) : List Char :=
  entry.shortName ++ '=' :: entry.value.toList

variable {next entry : NameEntry} {value : List Char}

theorem Readable.not_mem_unescaped (h : entry.Readable) :
    '\x00' ∉ entry.unescaped := by
  have hname : '\x00' ∉ entry.shortName := fun hmem =>
    absurd (AttributeType.isNameCharacter_of_mem_shortName h.name _ hmem)
      (by decide)
  simp [unescaped, hname, h.value]

theorem escapeAfterFirst_unescaped (h : entry.Readable)
    (hhead : ∀ first, entry.value.toList.head? = some first →
      first ≠ ' ' ∧ first ≠ '#') :
    escapeAfterFirst entry.unescaped = entry.written := by
  have hplain : ∀ character ∈ entry.shortName, ¬IsBorder character :=
    fun _ => AttributeType.not_border_of_mem_shortName h.name
  have hvalue : escapeAfterFirst ('=' :: entry.value.toList) =
      '=' :: escapeAfterFirst entry.value.toList :=
    NameAttribute.escapeAfterFirst_plain (by decide) (absurd · (by decide))
  rw [unescaped, NameAttribute.escapeAfterFirst_append hplain, hvalue, written,
    NameAttribute.escapeValue_of_head hhead]

theorem parts_withValue_comma (hvalue : entry.value.toList = value ++ [' '])
    (hne : value ≠ []) (hnext : escapeAfterFirst next.unescaped = next.written) :
    (entry.withValue (value ++ ',' :: next.unescaped)).parts =
      entry.parts ++ next.parts := by
  obtain ⟨front, hfront⟩ := NameAttribute.exists_escapeValue_append value
  have hwritten : entry.written =
      (entry.shortName ++ '=' :: front) ++ '\\' :: [' '] := by
    rw [written, hvalue, hfront _ (List.cons_ne_nil _ _) fun hnil =>
      absurd hnil hne, List.append_assoc, List.cons_append]
    rfl
  have hjoined : (entry.withValue (value ++ ',' :: next.unescaped)).written =
      (entry.shortName ++ '=' :: front) ++ '\\' :: ',' :: next.written := by
    rw [written_withValue, hfront _ (List.cons_ne_nil _ _) fun hnil =>
      absurd hnil hne, NameAttribute.escapeAfterFirst_delimiter (by decide), hnext,
      List.append_assoc, List.cons_append]
  have hlower : ∀ rest,
      lowerList ((entry.shortName ++ '=' :: front) ++ '\\' :: rest) =
      (lowerList (entry.shortName ++ '=' :: front) ++ ['\\']) ++
      lowerList rest := by
    intro rest
    rw [Text.lowerList_append_border _ _ (by decide), List.append_assoc,
      List.singleton_append]
  have hlost : lowerList [' '] = [' '] := by decide
  have hspace : AllBlank [' '] := by decide
  rw [parts, parts, parts, hwritten, hjoined, hlower, hlower, hlost,
    nameParts_append_blanks _ hspace,
    Text.lowerList_border_cons (by decide), nameParts_append]

end NameEntry

theorem HasSubject.not_tellsSubject_of_space {front back : List NameEntry}
    {next entry : NameEntry}
    (h : HasSubject certificate (front ++ next :: entry :: back))
    {value : List Char} (hvalue : entry.value.toList = value ++ [' '])
    (hne : value ≠ []) (hhead : ∀ first,
      next.value.toList.head? = some first → first ≠ ' ' ∧ first ≠ '#') :
    ¬TellsSubject certificate (front ++ next :: entry :: back) := by
  have hentries := h.readable
  rw [List.forall_mem_append, List.forall_mem_cons,
    List.forall_mem_cons] at hentries
  obtain ⟨hfront, hnext, hentry, hback⟩ := hentries
  let joined := entry.withValue (value ++ ',' :: next.unescaped)
  have hparts : joined.parts = entry.parts ++ next.parts :=
    NameEntry.parts_withValue_comma hvalue hne
      (NameEntry.escapeAfterFirst_unescaped hnext hhead)
  have hnul : '\x00' ∉ value ++ ',' :: next.unescaped := by
    have hnot := hentry.value
    rw [hvalue, List.mem_append, not_or] at hnot
    simp [hnot.1, hnext.not_mem_unescaped]
  have hreadable : ∀ other ∈ front ++ joined :: back, other.Readable := by
    rw [List.forall_mem_append, List.forall_mem_cons]
    exact ⟨hfront, hentry.withValue hnul, hback⟩
  refine h.not_tellsSubject (by simp) hreadable (by simp) ?_ fun hsame => ?_
  · simp [hparts]
  · have hlength := hsame.perm_key.length_eq
    simp at hlength

/-! ## Values without borders -/

/-- A value that neither begins with what is escaped only there nor ends, up to
blanks, with a separator. -/
structure Ordinary (value : List Char) : Prop where
  head : ∀ first, value.head? = some first → first ≠ ' ' ∧ first ≠ '#'
  last : ∀ last, (trimList value).getLast? = some last → last ≠ ',' ∧ last ≠ '='

theorem Ordinary.not_allBlank {value before after : List Char} (h : Ordinary value)
    {separator : Char} (hseparator : separator = ',' ∨ separator = '=')
    (hvalue : value = before ++ separator :: after) : ¬AllBlank after := by
  intro hafter
  have hvisible : isBlank separator = false := by
    rcases hseparator with rfl | rfl <;> decide
  have htrim : (trimList value).getLast? = some separator := by
    rw [hvalue, List.append_cons, Text.trimList_append_blanks _ hafter,
      Text.getLast?_trimList_concat _ hvisible]
  have hlast := h.last separator htrim
  rcases hseparator with rfl | rfl
  · exact hlast.1 rfl
  · exact hlast.2 rfl

theorem exists_of_mem_tail {entry : NameEntry} (h : entry ∈ entries.tail) :
    ∃ front next back, entries = front ++ next :: entry :: back := by
  cases entries with
  | nil => contradiction
  | cons first rest =>
      obtain ⟨before, back, hrest⟩ := List.append_of_mem h
      rw [List.tail_cons] at hrest
      refine ⟨(first :: before).dropLast, (first :: before).getLast (by simp),
        back, ?_⟩
      rw [List.append_cons, List.dropLast_append_getLast, hrest, List.cons_append]

theorem HasSubject.plain (h : HasSubject certificate entries)
    (hordinary : ∀ entry ∈ entries, Ordinary entry.value.toList)
    (htells : TellsSubject certificate entries) : Plain entries where
  comma entry hentry hmem := by
    obtain ⟨before, after, hvalue⟩ := List.append_of_mem hmem
    exact h.not_tellsSubject_of_separator (.inl rfl) hentry hvalue
      ((hordinary entry hentry).not_allBlank (.inl rfl) hvalue) htells
  equals entry hentry hmem := by
    obtain ⟨before, after, hvalue⟩ := List.append_of_mem hmem
    exact h.not_tellsSubject_of_separator (.inr rfl) hentry hvalue
      ((hordinary entry hentry).not_allBlank (.inr rfl) hvalue) htells
  types entry hentry := by
    by_contra htype
    exact h.not_tellsSubject_of_type hentry htype htells
  ends entry hentry hfrays := by
    have hhead := (hordinary entry (List.mem_of_mem_tail hentry)).head
    have hspace : entry.value.toList.getLast? = some ' ' :=
      hfrays.resolve_right fun hfirst => (hhead ' ' hfirst.1).1 rfl
    obtain ⟨value, hvalue⟩ := List.getLast?_eq_some_iff.mp hspace
    obtain ⟨front, next, back, rfl⟩ := exists_of_mem_tail hentry
    refine h.not_tellsSubject_of_space hvalue ?_
      (hordinary next (by simp)).head htells
    rintro rfl
    exact (hhead ' ' (by rw [hvalue]; rfl)).1 rfl

/-- The name of a subject tells it from all others if it is plain, and, up to values
at whose ends the separators and escapes make no difference, only then. -/
theorem HasSubject.tells_plain_subjects (h : HasSubject certificate entries) :
    (Plain entries → TellsSubject certificate entries) ∧
      ((∀ entry ∈ entries, Ordinary entry.value.toList) →
        TellsSubject certificate entries → Plain entries) :=
  ⟨h.tellsSubject, h.plain⟩

end

def organizationName : List NameEntry := [⟨[2, 5, 4, 10], "b,CN=a"⟩]

def memberName : List NameEntry := [⟨[2, 5, 4, 3], "a"⟩, ⟨[2, 5, 4, 10], "b "⟩]

theorem not_tellsSubject_organization :
    HasSubject (.withSubject (.numbered 1) organizationName) organizationName ∧
      HasSubject (.withSubject (.numbered 2) memberName) memberName ∧
      (Certificate.withSubject (.numbered 1) organizationName).subject.text? =
        some "O=b\\,CN=a".toList ∧
      CertificateUid.isNameOf "O=b\\,CN=a"
        (.withSubject (.numbered 2) memberName) = true ∧
      ¬SameSubject organizationName memberName ∧
      ¬TellsSubject (.withSubject (.numbered 1) organizationName)
        organizationName := by
  have horganization :
      HasSubject (.withSubject (.numbered 1) organizationName)
        organizationName := by
    refine hasSubject_withSubject _ fun entry hentry => ?_
    rw [List.mem_singleton.mp hentry]
    exact ⟨by decide, by decide⟩
  have hmember : HasSubject (.withSubject (.numbered 2) memberName) memberName := by
    refine hasSubject_withSubject _ fun entry hentry => ?_
    rcases List.mem_pair.mp hentry with rfl | rfl <;> exact ⟨by decide, by decide⟩
  refine ⟨horganization, hmember, by decide, by decide, ?_, fun htells => ?_⟩
  · intro hsame
    have hlength := hsame.perm_key.length_eq
    contradiction
  · have hordinary : ∀ entry ∈ organizationName, Ordinary entry.value.toList := by
      intro entry hentry
      have hhead : "b,CN=a".toList.head? = some 'b' := by decide
      have hlast : (trimList "b,CN=a".toList).getLast? = some 'a' := by decide
      rw [List.mem_singleton.mp hentry]
      constructor
      · rw [hhead]
        rintro first ⟨⟩
        decide
      · rw [hlast]
        rintro last ⟨⟩
        decide
    have hplain := horganization.tells_plain_subjects.2 hordinary htells
    exact hplain.comma _ (List.mem_singleton_self _) (by decide)

end EndpointDiscovery
