import EndpointDiscovery.Proofs.Certificate.EscapedValue
import EndpointDiscovery.Smp.CertificateUid

/-!
# Parts of written names

Names are compared by their parts between commas and equals signs, in lower case and
without the blanks around them.  Escapes do not keep a value from being taken apart.
-/

namespace EndpointDiscovery

open Text (AllBlank IsBorder isBlank lowerList splitOn trimList)

/-! ## Parts of texts -/

def attributeParts (entry : List Char) : List (List Char) :=
  (splitOn '=' entry).map trimList

def nameParts (name : List Char) : List (List (List Char)) :=
  (splitOn ',' name).map attributeParts

theorem attributeParts_append (before after : List Char) :
    attributeParts (before ++ '=' :: after) =
      attributeParts before ++ attributeParts after := by
  rw [attributeParts, Text.splitOn_append_cons, List.map_append, attributeParts,
    attributeParts]

theorem attributeParts_of_not_mem {entry : List Char} (h : '=' ∉ entry) :
    attributeParts entry = [trimList entry] := by
  rw [attributeParts, Text.splitOn_of_not_mem h, List.map_singleton]

theorem nameParts_append (before after : List Char) :
    nameParts (before ++ ',' :: after) = nameParts before ++ nameParts after := by
  rw [nameParts, Text.splitOn_append_cons, List.map_append, nameParts, nameParts]

theorem nameParts_intercalate {texts : List (List Char)} (hne : texts ≠ []) :
    nameParts (List.intercalate [','] texts) = texts.flatMap nameParts := by
  rw [nameParts, Text.splitOn_intercalate_eq_flatMap _ hne, List.map_flatMap]
  rfl

theorem mem_of_mem_trimList {character : Char} {text : List Char}
    (h : character ∈ trimList text) :
    character ∈ text := by
  obtain ⟨before, after, htext, -, -⟩ := Text.exists_blanks_around text
  rw [htext]
  simp [h]

/-! ## Blanks that do not count -/

section Blanks

variable {separator : Char} {blanks left right : List Char}

theorem isBlank_ne_separator {blank : Char} (h : isBlank blank = true) :
    blank ≠ ',' ∧ blank ≠ '=' := by
  constructor <;> (rintro rfl; contradiction)

theorem attributeParts_blanks_append (h : AllBlank blanks) (entry : List Char) :
    attributeParts (blanks ++ entry) = attributeParts entry := by
  induction blanks with
  | nil => rfl
  | cons blank blanks ih =>
      rw [AllBlank, List.forall_mem_cons] at h
      rw [← ih h.2]
      exact Text.map_splitOn_cons (isBlank_ne_separator h.1).2
        (Text.trimList_cons_blank h.1) (blanks ++ entry)

theorem attributeParts_append_blanks (entry : List Char) (h : AllBlank blanks) :
    attributeParts (entry ++ blanks) = attributeParts entry := by
  induction blanks generalizing entry with
  | nil => rw [List.append_nil]
  | cons blank blanks ih =>
      rw [AllBlank, List.forall_mem_cons] at h
      rw [List.append_cons, ih _ h.2]
      exact Text.map_splitOn_concat (isBlank_ne_separator h.1).2
        (fun part => Text.trimList_concat_blank part h.1) entry

theorem nameParts_blanks_append (h : AllBlank blanks) (name : List Char) :
    nameParts (blanks ++ name) = nameParts name := by
  induction blanks with
  | nil => rfl
  | cons blank blanks ih =>
      rw [AllBlank, List.forall_mem_cons] at h
      have hone : AllBlank [blank] := by simpa [AllBlank] using h.1
      rw [← ih h.2]
      exact Text.map_splitOn_cons (isBlank_ne_separator h.1).1
        (attributeParts_blanks_append hone) (blanks ++ name)

theorem nameParts_append_blanks (name : List Char) (h : AllBlank blanks) :
    nameParts (name ++ blanks) = nameParts name := by
  induction blanks generalizing name with
  | nil => rw [List.append_nil]
  | cons blank blanks ih =>
      rw [AllBlank, List.forall_mem_cons] at h
      have hone : AllBlank [blank] := by simpa [AllBlank] using h.1
      rw [List.append_cons, ih _ h.2]
      exact Text.map_splitOn_concat (isBlank_ne_separator h.1).1
        (attributeParts_append_blanks · hone) name

theorem comma_not_mem_blanks (h : AllBlank blanks) : ',' ∉ blanks :=
  fun hmem => absurd (h ',' hmem) (by decide)

theorem nameParts_separator_blanks (h : separator = ',' ∨ separator = '=')
    (hleft : AllBlank left) (hright : AllBlank right) (before after : List Char) :
    nameParts (before ++ (left ++ separator :: (right ++ after))) =
      nameParts (before ++ separator :: after) := by
  rcases h with rfl | rfl
  · rw [← List.append_assoc, nameParts_append, nameParts_append,
      nameParts_append_blanks _ hleft, nameParts_blanks_append hright]
  · have hentry : ∀ before after,
        attributeParts (before ++ ((left ++ '=' :: right) ++ after)) =
          attributeParts (before ++ (['='] ++ after)) := by
      intro before after
      rw [List.singleton_append, attributeParts_append, List.append_assoc,
        List.cons_append, ← List.append_assoc, attributeParts_append,
        attributeParts_append_blanks _ hleft, attributeParts_blanks_append hright]
    have hbetween : ',' ∉ left ++ '=' :: right := by
      simp [comma_not_mem_blanks hleft, comma_not_mem_blanks hright]
    have hparts := Text.map_splitOn_congr hbetween (by decide) hentry before after
    rwa [List.append_assoc, List.cons_append] at hparts

end Blanks

namespace CertificateUid

theorem splitOn_normalAttribute (entry : List Char) :
    splitOn '=' (normalAttribute entry) = attributeParts entry := by
  refine Text.splitOn_intercalate ?_ ?_
  · intro part hpart
    obtain ⟨whole, hwhole, rfl⟩ := List.mem_map.mp hpart
    exact fun hmem => Text.not_mem_of_mem_splitOn hwhole (mem_of_mem_trimList hmem)
  · simpa using Text.splitOn_ne_nil '=' entry

theorem lowerList_normalAttribute (entry : List Char) :
    lowerList (normalAttribute entry) = normalAttribute (lowerList entry) := by
  have hequals : IsBorder '=' := by decide
  rw [normalAttribute, Text.lowerList_intercalate hequals, normalAttribute,
    Text.splitOn_lowerList hequals, List.map_map, List.map_map]
  exact congrArg _
    (List.map_congr_left fun part _ => (Text.trimList_lowerList part).symm)

theorem comma_not_mem_normalAttribute {entry : List Char} (h : ',' ∉ entry) :
    ',' ∉ normalAttribute entry := by
  intro hmem
  rcases Text.mem_intercalate hmem with hequals | ⟨part, hpart, hcomma⟩
  · contradiction
  · obtain ⟨whole, hwhole, rfl⟩ := List.mem_map.mp hpart
    exact h (Text.mem_of_mem_splitOn hwhole (mem_of_mem_trimList hcomma))

theorem normalName_eq (name : List Char) : normalName name = String.ofList
    (List.intercalate [',']
      ((splitOn ',' (lowerList name)).map normalAttribute)) := by
  have hcomma : IsBorder ',' := by decide
  rw [normalName, Text.lower_eq_lowerList, String.toList_ofList,
    Text.lowerList_intercalate hcomma, Text.splitOn_lowerList hcomma, List.map_map,
    List.map_map]
  exact congrArg (fun parts => String.ofList (List.intercalate [','] parts))
    (List.map_congr_left fun entry _ => lowerList_normalAttribute entry)

/-- Two texts count as the same name exactly if they have the same parts
in lower case. -/
theorem normalName_eq_iff (first second : List Char) :
    normalName first = normalName second ↔
      nameParts (lowerList first) = nameParts (lowerList second) := by
  have hapart : ∀ name, splitOn ',' (List.intercalate [',']
      ((splitOn ',' name).map normalAttribute)) =
        (splitOn ',' name).map normalAttribute := by
    intro name
    refine Text.splitOn_intercalate (fun entry hentry => ?_) ?_
    · obtain ⟨whole, hwhole, rfl⟩ := List.mem_map.mp hentry
      exact comma_not_mem_normalAttribute (Text.not_mem_of_mem_splitOn hwhole)
    · simpa using Text.splitOn_ne_nil ',' name
  have hparts : ∀ name,
      nameParts name =
        ((splitOn ',' name).map normalAttribute).map (splitOn '=') := by
    intro name
    rw [nameParts, List.map_map]
    exact List.map_congr_left fun entry _ => (splitOn_normalAttribute entry).symm
  have hjoined : ∀ name, (splitOn ',' name).map normalAttribute =
      (nameParts name).map (List.intercalate ['=']) := by
    intro name
    rw [nameParts, List.map_map]
    rfl
  rw [normalName_eq, normalName_eq]
  constructor
  · intro h
    have hsame := congrArg (splitOn ',') (String.ofList_injective h)
    rw [hapart, hapart] at hsame
    rw [hparts, hparts, hsame]
  · intro h
    rw [hjoined, hjoined, h]

end CertificateUid

end EndpointDiscovery
