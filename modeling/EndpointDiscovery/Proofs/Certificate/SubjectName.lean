import EndpointDiscovery.Proofs.Certificate.NameParts
import EndpointDiscovery.Proofs.Text.Utf8RoundTrip
import Mathlib.Data.List.Forall2

/-!
# Names that tell a subject

The name of a subject, given as a text, is accepted for every certificate with the
same subject.  If its values neither hold a separator nor lose an escaped space, it
is accepted for no other.
-/

namespace EndpointDiscovery

open Asn1 (Oid)
open NameAttribute (Frays escapeValue)
open Text (IsBorder lowerList trimList)

/-! ## Short names -/

namespace AttributeType

def named : List (Oid × String) :=
  registry.flatMap fun (arc, names) => names.map fun (number, name) =>
    (arc ++ [number], name)

theorem mem_of_lookup {α β : Type} [BEq α] [LawfulBEq α] {table : List (α × β)}
    {key : α} {value : β} (h : table.lookup key = some value) :
    (key, value) ∈ table := by
  obtain ⟨before, after, rfl, -⟩ := List.lookup_eq_some_iff.mp h
  simp

theorem mem_named {type : Oid} (h : shortName type ≠ unknownName) :
    (type, shortName type) ∈ named := by
  unfold shortName at h ⊢
  cases hname : registeredName? type with
  | none =>
      rw [hname] at h
      contradiction
  | some name =>
      simp only [registeredName?, Option.bind_eq_bind,
        Option.bind_eq_some_iff] at hname
      obtain ⟨names, hnames, number, hnumber, hname⟩ := hname
      refine List.mem_flatMap.mpr ⟨_, mem_of_lookup hnames, ?_⟩
      refine List.mem_map.mpr ⟨_, mem_of_lookup hname, ?_⟩
      simp only [List.dropLast_append_getLast? number hnumber, Option.getD_some]

def isNameCharacter (character : Char) : Bool :=
  character.isAlphanum || character == '-' || character == '_' || character == '/'

-- The bytes of a literal are at hand for the kernel, its characters are not.
theorem isNameCharacter_of_named : ∀ entry ∈ named,
    entry.2.toByteArray.data.toList.all (fun byte =>
      byte.toNat < 0x80 && isNameCharacter (Char.ofNat byte.toNat)) = true := by
  decide +kernel

theorem isNameCharacter_of_mem_shortName {type : Oid}
    (h : shortName type ≠ unknownName) :
    ∀ character ∈ (shortName type).toList, isNameCharacter character = true := by
  refine Text.Utf8.forall_mem_toList_of_bytes fun byte hbyte => ?_
  simpa using List.all_eq_true.mp
    (isNameCharacter_of_named _ (mem_named h)) byte hbyte

theorem not_border_of_mem_shortName {type : Oid} (h : shortName type ≠ unknownName)
    {character : Char} (hmem : character ∈ (shortName type).toList) :
    ¬IsBorder character := by
  intro hborder
  have hnone :=
    Text.of_border (P := fun character => isNameCharacter character = false)
      (by decide) hborder
  rw [isNameCharacter_of_mem_shortName h character hmem] at hnone
  contradiction

/-- No other type has the same short name, up to case. -/
def HasOwnName (type : Oid) : Prop :=
  ∀ other, shortName other ≠ unknownName →
    Text.lower (shortName other) = Text.lower (shortName type) → other = type

theorem hasOwnName_iff {type : Oid} : HasOwnName type ↔
    ∀ entry ∈ named, shortName entry.1 ≠ unknownName →
      Text.lower (shortName entry.1) = Text.lower (shortName type) →
        entry.1 = type := by
  constructor
  · intro h entry _ hknown hsame
    exact h entry.1 hknown hsame
  · intro h other hother hsame
    exact h (other, shortName other) (mem_named hother) hother hsame

instance (type : Oid) : Decidable (HasOwnName type) :=
  decidable_of_iff _ hasOwnName_iff.symm

-- `mail` stands in the pilot directory, and `Mail` below `1.3.6.1`.
example : ¬HasOwnName [0, 9, 2342, 19200300, 100, 1, 3] := fun h =>
  absurd (h [1, 3, 6, 1, 7] (by decide +kernel) (by decide +kernel)) (by decide)

end AttributeType

/-! ## Subjects -/

structure NameEntry where
  type : Oid
  value : String

namespace NameEntry

/-- An attribute can be stated by a short name and its whole text. -/
structure Readable (entry : NameEntry) : Prop where
  name : AttributeType.shortName entry.type ≠ AttributeType.unknownName
  value : '\x00' ∉ entry.value.toList

structure Describes (entry : NameEntry) (given : NameAttribute) : Prop
    extends Readable entry where
  type_eq : given.type = entry.type
  value_eq : given.characters? = some entry.value.toList

/-- The same type and value up to case and blanks at the ends. -/
def Alike (entry other : NameEntry) : Prop :=
  entry.type = other.type ∧
    Text.lower (Text.trim entry.value) = Text.lower (Text.trim other.value)

def shortName (entry : NameEntry) : List Char :=
  (AttributeType.shortName entry.type).toList

def written (entry : NameEntry) : List Char :=
  entry.shortName ++ '=' :: escapeValue entry.value.toList

variable {entry other : NameEntry}

theorem Describes.describe? {given : NameAttribute} (h : entry.Describes given) :
    given.describe? = some entry.written := by
  have htext : given.text? = some entry.value := by
    rw [NameAttribute.text?, h.value_eq, Option.map_some,
      List.takeWhile_eq_self_iff.mpr]
    · rw [String.ofList_toList]
    · intro character hmem
      exact decide_eq_true fun heq => h.value (heq ▸ hmem)
  rw [NameAttribute.describe?, htext, Option.map_some, written, shortName,
    h.type_eq]

theorem alike_iff : entry.Alike other ↔ entry.type = other.type ∧
    lowerList (trimList entry.value.toList) =
      lowerList (trimList other.value.toList) := by
  simp only [Alike, Text.lower_eq_lowerList, Text.trim, String.toList_ofList,
    String.ofList_inj]

end NameEntry

def HasSubject (certificate : Certificate) (entries : List NameEntry) : Prop :=
  List.Forall₂ NameEntry.Describes entries certificate.subject.attributes

/-- The same attributes in the same or the reverse order. -/
def SameSubject (entries others : List NameEntry) : Prop :=
  List.Forall₂ NameEntry.Alike entries others ∨
  List.Forall₂ NameEntry.Alike entries others.reverse

def writtenName (entries : List NameEntry) : List Char :=
  List.intercalate [','] (entries.map NameEntry.written)

variable {certificate : Certificate} {entries : List NameEntry}

theorem HasSubject.descriptions? (h : HasSubject certificate entries) :
    certificate.subject.descriptions? = some (entries.map NameEntry.written) := by
  rw [Name.descriptions?]
  unfold HasSubject at h
  generalize certificate.subject.attributes = attributes at h
  induction h with
  | nil => rfl
  | cons hfirst hrest ih => rw [List.mapM_cons, hfirst.describe?, ih]; rfl

theorem HasSubject.text? (h : HasSubject certificate entries) :
    certificate.subject.text? = some (writtenName entries.reverse) := by
  rw [Name.text?, h.descriptions?, Option.map_some, writtenName, List.map_reverse]

theorem HasSubject.encodedText? (h : HasSubject certificate entries) :
    certificate.subject.encodedText? = some (writtenName entries) := by
  rw [Name.encodedText?, h.descriptions?, Option.map_some, writtenName]

/-! ## Accepted names -/

namespace NameEntry

def parts (entry : NameEntry) : List (List (List Char)) :=
  nameParts (lowerList entry.written)

end NameEntry

theorem nameParts_writtenName (hne : entries ≠ []) :
    nameParts (lowerList (writtenName entries)) =
      entries.flatMap NameEntry.parts := by
  have hcomma : IsBorder ',' := by decide
  rw [writtenName, Text.lowerList_intercalate hcomma,
    nameParts_intercalate (by simpa using hne), List.map_map, List.flatMap_map]
  rfl

theorem isNameOf_iff (h : HasSubject certificate entries) (uid : List Char) :
    CertificateUid.isNameOf (String.ofList uid) certificate = true ↔
      ∃ order, (order = entries ∨ order = entries.reverse) ∧
        nameParts (lowerList uid) = nameParts (lowerList (writtenName order)) := by
  simp only [CertificateUid.isNameOf, h.text?, h.encodedText?, Option.any_some,
    Bool.or_eq_true, decide_eq_true_eq, String.toList_ofList,
    CertificateUid.normalName_eq_iff]
  constructor
  · rintro (hname | hname)
    · exact ⟨_, .inr rfl, hname.symm⟩
    · exact ⟨_, .inl rfl, hname.symm⟩
  · rintro ⟨_, rfl | rfl, hname⟩
    · exact .inr hname.symm
    · exact .inl hname.symm

namespace NameEntry

variable {entry other : NameEntry}

theorem lowerList_shortName_plain (h : entry.Readable) :
    ∀ character ∈ lowerList entry.shortName, ¬IsBorder character := by
  intro character hmem hborder
  rw [lowerList, Text.border_mem_lowerAfter_iff hborder] at hmem
  exact AttributeType.not_border_of_mem_shortName h.name hmem hborder

theorem lowerList_written (entry : NameEntry) : lowerList entry.written =
    lowerList entry.shortName ++ '=' ::
    escapeValue (lowerList entry.value.toList) := by
  have hequals : IsBorder '=' := by decide
  rw [written, lowerList, Text.lowerAfter_append_border _ _ _ hequals,
    NameAttribute.lowerList_escapeValue]
  rfl

theorem trimList_shortName (h : entry.Readable) :
    trimList (lowerList entry.shortName) = lowerList entry.shortName := by
  have hvisible : ∀ character ∈ lowerList entry.shortName,
      Text.isBlank character = false := by
    refine fun character hmem => eq_false_of_ne_true fun hblank => ?_
    exact lowerList_shortName_plain h character hmem
      (Text.isBorder_of_isBlank hblank)
  exact (Text.tight_of_forall hvisible).trimList_eq

theorem exists_parts (h : entry.Readable) : ∃ first others,
    Text.splitOn ',' (escapeValue (lowerList entry.value.toList)) =
      first :: others ∧
      entry.parts = (lowerList entry.shortName :: attributeParts first) ::
        others.map attributeParts := by
  obtain ⟨first, others, hsplit⟩ := List.exists_cons_of_ne_nil
    (Text.splitOn_ne_nil ',' (escapeValue (lowerList entry.value.toList)))
  have hcomma : ',' ∉ lowerList entry.shortName ++ ['='] := by
    rw [List.mem_append, not_or]
    exact ⟨fun hmem => lowerList_shortName_plain h _ hmem (by decide), by decide⟩
  have hequals : '=' ∉ lowerList entry.shortName :=
    fun hmem => lowerList_shortName_plain h _ hmem (by decide)
  refine ⟨first, others, hsplit, ?_⟩
  rw [parts, lowerList_written, nameParts, ← List.singleton_append,
    ← List.append_assoc, Text.splitOn_append_of_not_mem hcomma hsplit,
    List.map_cons, List.append_assoc, List.singleton_append, attributeParts_append,
    attributeParts_of_not_mem hequals, trimList_shortName h, List.singleton_append]

theorem parts_of_not_mem (h : entry.Readable) (hcomma : ',' ∉ entry.value.toList)
    (hequals : '=' ∉ entry.value.toList) :
    entry.parts = [[lowerList entry.shortName,
      trimList (escapeValue (lowerList entry.value.toList))]] := by
  have hvalue : ∀ {character : Char}, IsBorder character → character ≠ '\\' →
      character ∉ entry.value.toList →
      character ∉ escapeValue (lowerList entry.value.toList) := by
    intro character hborder hne hnot hmem
    have hlower := NameAttribute.mem_of_mem_escapeValue hmem hne
    exact hnot ((Text.border_mem_lowerAfter_iff hborder).mp hlower)
  obtain ⟨first, others, hsplit, hparts⟩ := exists_parts h
  rw [Text.splitOn_of_not_mem (hvalue (by decide) (by decide) hcomma)] at hsplit
  obtain ⟨rfl, rfl⟩ := List.cons.inj hsplit
  rw [hparts, attributeParts_of_not_mem (hvalue (by decide) (by decide) hequals),
    List.map_nil]

end NameEntry

/-- Attributes whose text, which begins with the last of them, cannot be
taken for others. -/
structure Plain (entries : List NameEntry) : Prop where
  comma : ∀ entry ∈ entries, ',' ∉ entry.value.toList
  equals : ∀ entry ∈ entries, '=' ∉ entry.value.toList
  types : ∀ entry ∈ entries, AttributeType.HasOwnName entry.type
  ends : ∀ entry ∈ entries.tail, ¬Frays entry.value.toList

theorem Plain.of_concat {last : NameEntry} (h : Plain (entries ++ [last])) :
    Plain entries where
  comma entry hentry := h.comma entry (List.mem_append_left _ hentry)
  equals entry hentry := h.equals entry (List.mem_append_left _ hentry)
  types entry hentry := h.types entry (List.mem_append_left _ hentry)
  ends entry hentry := by
    have hne : entries ≠ [] := by
      rintro rfl
      contradiction
    refine h.ends entry ?_
    rw [List.tail_append_of_ne_nil hne]
    exact List.mem_append_left _ hentry

theorem Plain.not_frays {last : NameEntry} (h : Plain (entries ++ [last]))
    (hne : entries ≠ []) :
    ¬Frays last.value.toList := by
  refine h.ends last ?_
  rw [List.tail_append_of_ne_nil hne]
  simp

theorem alike_of_parts {first second : NameEntry} (hfirst : first.Readable)
    (hsecond : second.Readable) (hcomma : ',' ∉ first.value.toList)
    (hequals : '=' ∉ first.value.toList)
    (htype : AttributeType.HasOwnName first.type)
    {rest others : List (List (List Char))}
    (h : first.parts ++ rest = second.parts ++ others)
    (hends : rest ≠ [] → ¬Frays first.value.toList) :
    first.Alike second ∧ rest = others := by
  obtain ⟨part, more, hsplit, hparts⟩ := NameEntry.exists_parts hsecond
  rw [NameEntry.parts_of_not_mem hfirst hcomma hequals, hparts, List.cons_append,
    List.cons_append, List.nil_append] at h
  obtain ⟨hhead, hrest⟩ := List.cons.inj h
  obtain ⟨hname, hvalue⟩ := List.cons.inj hhead
  have hjoined :=
    Text.intercalate_splitOn ',' (escapeValue (lowerList second.value.toList))
  rw [hsplit] at hjoined
  have hpart : trimList part =
      trimList (escapeValue (lowerList first.value.toList)) := by
    obtain ⟨whole, hwhole, htrim⟩ := List.map_eq_singleton_iff.mp hvalue.symm
    have hsame := Text.intercalate_splitOn '=' part
    rw [hwhole, List.intercalate_singleton] at hsame
    rw [← hsame, htrim]
  cases more with
  | cons next more =>
      -- What stands in front of a comma in the second value ends with an escape.
      -- The first value only looks the same if it has lost a space, and then
      -- nothing follows it.
      rw [List.intercalate_cons_cons, List.append_assoc,
        List.singleton_append] at hjoined
      have hescape := NameAttribute.endsInEscape_trimList
        (NameAttribute.endsInEscape_of_comma hjoined.symm)
      rw [hpart] at hescape
      have hfrays := (NameAttribute.frays_of_endsInEscape hescape).of_lowerList
      exact absurd hfrays (hends (by simp [hrest]))
  | nil =>
      rw [List.intercalate_singleton] at hjoined
      rw [hjoined] at hpart
      have htrim := NameAttribute.trimList_eq_of_escapeValue hpart
      rw [Text.trimList_lowerList, Text.trimList_lowerList] at htrim
      have hlower : Text.lower (AttributeType.shortName second.type) =
          Text.lower (AttributeType.shortName first.type) := by
        rw [Text.lower_eq_lowerList, Text.lower_eq_lowerList]
        exact congrArg String.ofList hname.symm
      refine ⟨NameEntry.alike_iff.mpr ⟨?_, htrim.symm⟩, hrest⟩
      exact (htype second.type hsecond.name hlower).symm

theorem forall₂_alike_of_parts {entries others : List NameEntry}
    (hentries : ∀ entry ∈ entries, entry.Readable)
    (hothers : ∀ entry ∈ others, entry.Readable) (hplain : Plain entries.reverse)
    (h : entries.flatMap NameEntry.parts = others.flatMap NameEntry.parts) :
    List.Forall₂ NameEntry.Alike entries others := by
  have hparts : ∀ {entry : NameEntry} (rest : List (List (List Char))),
      entry.Readable → entry.parts ++ rest ≠ [] := by
    intro entry rest hreadable
    obtain ⟨first, more, -, hentry⟩ := NameEntry.exists_parts hreadable
    rw [hentry]
    exact List.cons_ne_nil _ _
  induction entries generalizing others with
  | nil =>
      cases others with
      | nil => exact .nil
      | cons second others =>
          exact absurd h.symm (hparts _ (hothers second List.mem_cons_self))
  | cons first entries ih =>
      rw [List.forall_mem_cons] at hentries
      cases others with
      | nil => exact absurd h (hparts _ hentries.1)
      | cons second others =>
          rw [List.forall_mem_cons] at hothers
          rw [List.flatMap_cons, List.flatMap_cons] at h
          rw [List.reverse_cons] at hplain
          have hmem : first ∈ entries.reverse ++ [first] := by simp
          have hends : entries.flatMap NameEntry.parts ≠ [] →
              ¬Frays first.value.toList := by
            intro hmore
            refine hplain.not_frays fun hnone => hmore ?_
            rw [List.reverse_eq_nil_iff.mp hnone, List.flatMap_nil]
          obtain ⟨halike, hrest⟩ :=
            alike_of_parts hentries.1 hothers.1 (hplain.comma first hmem)
              (hplain.equals first hmem) (hplain.types first hmem) h hends
          exact .cons halike (ih hentries.2 hothers.2 hplain.of_concat hrest)

theorem HasSubject.readable (h : HasSubject certificate entries) :
    ∀ entry ∈ entries, entry.Readable := by
  unfold HasSubject at h
  generalize certificate.subject.attributes = attributes at h
  induction h with
  | nil => simp
  | cons hfirst hrest ih => exact List.forall_mem_cons.mpr ⟨hfirst.toReadable, ih⟩

theorem nameParts_writtenName_nil_ne {others : List NameEntry}
    (hothers : ∀ entry ∈ others, entry.Readable) (hne : others ≠ []) :
    nameParts (lowerList (writtenName [])) ≠
      nameParts (lowerList (writtenName others)) := by
  have hnil : nameParts (lowerList (writtenName [])) = [[[]]] := by decide
  obtain ⟨entry, others, rfl⟩ := List.exists_cons_of_ne_nil hne
  obtain ⟨first, more, -, hparts⟩ :=
    NameEntry.exists_parts (hothers entry List.mem_cons_self)
  rw [hnil, nameParts_writtenName hne, List.flatMap_cons, hparts, List.cons_append]
  intro h
  have hlength := congrArg List.length (List.cons.inj h).1
  have hfirst : attributeParts first ≠ [] := by
    simpa [attributeParts] using Text.splitOn_ne_nil '=' first
  have hpos := List.length_pos_iff.mpr hfirst
  simp only [List.length_cons, List.length_nil] at hlength
  omega

theorem forall₂_alike_of_nameParts {entries others : List NameEntry}
    (hentries : ∀ entry ∈ entries, entry.Readable)
    (hothers : ∀ entry ∈ others, entry.Readable) (hplain : Plain entries.reverse)
    (h : nameParts (lowerList (writtenName entries)) =
      nameParts (lowerList (writtenName others))) :
    List.Forall₂ NameEntry.Alike entries others := by
  by_cases hentriesNil : entries = []
  · by_cases hothersNil : others = []
    · rw [hentriesNil, hothersNil]
      exact .nil
    · rw [hentriesNil] at h
      exact absurd h (nameParts_writtenName_nil_ne hothers hothersNil)
  · by_cases hothersNil : others = []
    · rw [hothersNil] at h
      exact absurd h.symm (nameParts_writtenName_nil_ne hentries hentriesNil)
    · rw [nameParts_writtenName hentriesNil, nameParts_writtenName hothersNil] at h
      exact forall₂_alike_of_parts hentries hothers hplain h

/-- Whenever the name is accepted for a certificate, that has the same subject. -/
def TellsSubject (certificate : Certificate) (entries : List NameEntry) : Prop :=
  ∀ uid other others, certificate.subject.text? = some uid →
    HasSubject other others →
    CertificateUid.isNameOf (String.ofList uid) other = true →
      SameSubject entries others

theorem HasSubject.tellsSubject (h : HasSubject certificate entries)
    (hplain : Plain entries) :
    TellsSubject certificate entries := by
  intro uid other others huid hother haccepted
  rw [h.text?, Option.some.injEq] at huid
  obtain ⟨order, horder, hparts⟩ := (isNameOf_iff hother uid).mp haccepted
  rw [← huid] at hparts
  have hreadable : ∀ entry ∈ order, entry.Readable := by
    rcases horder with rfl | rfl
    · exact hother.readable
    · exact fun entry hentry => hother.readable entry (List.mem_reverse.mp hentry)
  have halike := forall₂_alike_of_nameParts
    (fun entry hentry => h.readable entry (List.mem_reverse.mp hentry)) hreadable
    (by rwa [List.reverse_reverse]) hparts
  rw [← List.forall₂_reverse_iff, List.reverse_reverse] at halike
  rcases horder with rfl | rfl
  · exact .inr halike
  · rw [List.reverse_reverse] at halike
    exact .inl halike

end EndpointDiscovery
