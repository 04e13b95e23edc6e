import EndpointDiscovery.Text.Split
import Mathlib.Data.List.DropRight
import Mathlib.Data.List.Forall2

/-!
# Parts of texts

A text is taken apart at a separator and put together again.  What follows a text
goes on in its last part, so that what makes no difference to the parts makes
none to the text.
-/

namespace EndpointDiscovery.Text

variable {separator character : Char} {characters before after : List Char}

/-! ## Taking apart and joining -/

theorem splitOn_eq_splitOn (separator : Char) (characters : List Char) :
    splitOn separator characters = characters.splitOn separator := by
  induction characters with
  | nil => rfl
  | cons first characters ih =>
      rw [List.splitOn_cons_eq_if_modifyHead, splitOn, ih]
      by_cases heq : first = separator
      · simp [heq]
      · obtain ⟨part, others, hparts⟩ :=
          List.exists_cons_of_ne_nil (List.splitOn_ne_nil separator characters)
        simp [heq, hparts]

theorem intercalate_splitOn (separator : Char) (characters : List Char) :
    List.intercalate [separator] (splitOn separator characters) = characters := by
  rw [splitOn_eq_splitOn, List.intercalate_splitOn]

theorem splitOn_intercalate {parts : List (List Char)}
    (h : ∀ part ∈ parts, separator ∉ part) (hne : parts ≠ []) :
    splitOn separator (List.intercalate [separator] parts) = parts := by
  rw [splitOn_eq_splitOn, List.splitOn_intercalate _ h hne]

theorem splitOn_append_cons (separator : Char) (before after : List Char) :
    splitOn separator (before ++ separator :: after) =
      splitOn separator before ++ splitOn separator after := by
  simp only [splitOn_eq_splitOn, List.splitOn_append_cons_self]

theorem splitOn_of_not_mem (h : separator ∉ characters) :
    splitOn separator characters = [characters] := by
  rw [splitOn_eq_splitOn, List.splitOn_eq_singleton h]

theorem splitOn_ne_nil (separator : Char) (characters : List Char) :
    splitOn separator characters ≠ [] := by
  rw [splitOn_eq_splitOn]
  exact List.splitOn_ne_nil separator characters

theorem not_mem_of_mem_splitOn {part : List Char}
    (h : part ∈ splitOn separator characters) : separator ∉ part := by
  induction characters generalizing part with
  | nil =>
      rw [splitOn, List.mem_singleton] at h
      simp [h]
  | cons first characters ih =>
      rw [splitOn_eq_splitOn, List.splitOn_cons_eq_if_modifyHead,
        ← splitOn_eq_splitOn] at h
      obtain ⟨other, others, hparts⟩ :=
        List.exists_cons_of_ne_nil (splitOn_ne_nil separator characters)
      rw [hparts] at h ih
      split at h
      · rcases List.mem_cons.mp h with rfl | hmem
        · exact List.not_mem_nil
        · exact ih hmem
      · rename_i hne
        rw [List.modifyHead_cons] at h
        rcases List.mem_cons.mp h with rfl | hmem
        · have hother := ih List.mem_cons_self
          have hfirst : first ≠ separator := by simpa using hne
          simp [hother, Ne.symm hfirst]
        · exact ih (List.mem_cons_of_mem _ hmem)

theorem splitOn_eq_iff {parts : List (List Char)} (hne : parts ≠ []) :
    splitOn separator characters = parts ↔
      characters = List.intercalate [separator] parts ∧ ∀ part ∈ parts,
        separator ∉ part := by
  constructor
  · rintro rfl
    exact ⟨(intercalate_splitOn separator characters).symm,
      fun part hpart => not_mem_of_mem_splitOn hpart⟩
  · rintro ⟨rfl, hparts⟩
    exact splitOn_intercalate hparts hne

theorem splitOn_append_of_not_mem {first : List Char}
    {others : List (List Char)} (h : separator ∉ before)
    (hparts : splitOn separator characters = first :: others) :
    splitOn separator (before ++ characters) = (before ++ first) :: others := by
  induction before with
  | nil => exact hparts
  | cons item before ih =>
      rw [List.mem_cons, not_or] at h
      rw [List.cons_append, splitOn, ih h.2, if_neg (Ne.symm h.1)]
      rfl

theorem mem_of_mem_splitOn {part : List Char}
    (hpart : part ∈ splitOn separator characters) (h : character ∈ part) :
    character ∈ characters := by
  induction characters generalizing part with
  | nil =>
      rw [splitOn, List.mem_singleton] at hpart
      rwa [hpart] at h
  | cons first characters ih =>
      rw [splitOn_eq_splitOn, List.splitOn_cons_eq_if_modifyHead,
        ← splitOn_eq_splitOn] at hpart
      obtain ⟨other, others, hparts⟩ :=
        List.exists_cons_of_ne_nil (splitOn_ne_nil separator characters)
      rw [hparts] at hpart ih
      split at hpart
      · rcases List.mem_cons.mp hpart with rfl | hmem
        · contradiction
        · exact List.mem_cons_of_mem _ (ih hmem h)
      · rw [List.modifyHead_cons] at hpart
        rcases List.mem_cons.mp hpart with rfl | hmem
        · rcases List.mem_cons.mp h with rfl | hrest
          · exact List.mem_cons_self
          · exact List.mem_cons_of_mem _ (ih List.mem_cons_self hrest)
        · exact List.mem_cons_of_mem _ (ih (List.mem_cons_of_mem _ hmem) h)

theorem mem_intercalate {parts : List (List Char)}
    (h : character ∈ List.intercalate [separator] parts) :
    character = separator ∨ ∃ part ∈ parts, character ∈ part := by
  induction parts with
  | nil => simp at h
  | cons part parts ih =>
      cases parts with
      | nil => exact .inr ⟨part, List.mem_cons_self, by simpa using h⟩
      | cons other parts =>
          rw [List.intercalate_cons_cons, List.append_assoc, List.singleton_append,
            List.mem_append, List.mem_cons] at h
          rcases h with hpart | hseparator | hrest
          · exact .inr ⟨part, List.mem_cons_self, hpart⟩
          · exact .inl hseparator
          · refine (ih hrest).imp_right fun ⟨found, hfound, hmem⟩ => ?_
            exact ⟨found, List.mem_cons_of_mem _ hfound, hmem⟩

theorem splitOn_intercalate_eq_flatMap (separator : Char) {parts : List (List Char)}
    (hne : parts ≠ []) : splitOn separator (List.intercalate [separator] parts) =
      parts.flatMap (splitOn separator) := by
  induction parts with
  | nil => contradiction
  | cons part parts ih =>
      cases parts with
      | nil => simp
      | cons other parts =>
          rw [List.flatMap_cons, ← ih (List.cons_ne_nil _ _),
            List.intercalate_cons_cons, List.append_assoc, List.singleton_append,
            splitOn_append_cons]

/-! ## Texts one behind the other -/

theorem exists_splitOn_append (separator : Char) (before : List Char) :
    ∃ parts last, splitOn separator before = parts ++ [last] ∧
      ∀ after first others, splitOn separator after = first :: others →
        splitOn separator (before ++ after) =
          parts ++ (last ++ first) :: others := by
  by_cases hmem : separator ∈ before
  · obtain ⟨later, earlier, hreverse, hlater⟩ :=
      List.eq_append_cons_of_mem (List.mem_reverse.mpr hmem)
    have hbefore : before = earlier.reverse ++ separator :: later.reverse := by
      rw [← List.reverse_reverse before, hreverse]
      simp
    rw [← List.mem_reverse] at hlater
    refine ⟨splitOn separator earlier.reverse, later.reverse, ?_,
      fun after _ _ hafter => ?_⟩
    · rw [hbefore, splitOn_append_cons, splitOn_of_not_mem hlater]
    · rw [hbefore, List.append_assoc, List.cons_append, splitOn_append_cons,
        splitOn_append_of_not_mem hlater hafter]
  · exact ⟨[], before, splitOn_of_not_mem hmem,
      fun after _ _ hafter => splitOn_append_of_not_mem hmem hafter⟩

/-! ## Reading parts -/

section Reading

variable {α : Type} {read : List Char → α}

theorem map_splitOn_cons (hne : character ≠ separator)
    (h : ∀ part, read (character :: part) = read part) (characters : List Char) :
    (splitOn separator (character :: characters)).map read =
      (splitOn separator characters).map read := by
  obtain ⟨first, others, hparts⟩ :=
    List.exists_cons_of_ne_nil (splitOn_ne_nil separator characters)
  have hnot : separator ∉ [character] := by simpa using Ne.symm hne
  rw [← List.singleton_append, splitOn_append_of_not_mem hnot hparts, hparts,
    List.map_cons, List.map_cons, List.singleton_append, h]

theorem map_splitOn_concat (hne : character ≠ separator)
    (h : ∀ part, read (part ++ [character]) = read part) (characters : List Char) :
    (splitOn separator (characters ++ [character])).map read =
      (splitOn separator characters).map read := by
  obtain ⟨parts, last, hparts, happend⟩ :=
    exists_splitOn_append separator characters
  have hnot : separator ∉ [character] := by simpa using Ne.symm hne
  rw [happend _ _ _ (splitOn_of_not_mem hnot), hparts, List.map_append,
    List.map_append, List.map_singleton, List.map_singleton, h]

theorem map_splitOn_congr {between other : List Char}
    (hbetween : separator ∉ between) (hother : separator ∉ other)
    (h : ∀ before after, read (before ++ (between ++ after)) =
      read (before ++ (other ++ after))) (before after : List Char) :
    (splitOn separator (before ++ (between ++ after))).map read =
      (splitOn separator (before ++ (other ++ after))).map read := by
  obtain ⟨parts, last, -, happend⟩ := exists_splitOn_append separator before
  obtain ⟨first, others, hparts⟩ :=
    List.exists_cons_of_ne_nil (splitOn_ne_nil separator after)
  rw [happend _ _ _ (splitOn_append_of_not_mem hbetween hparts),
    happend _ _ _ (splitOn_append_of_not_mem hother hparts), List.map_append,
    List.map_append, List.map_cons, List.map_cons, h]

end Reading

/-! ## Reading all parts -/

section ReadingAll

variable {α β : Type} {read : α → Option β} {parts : List α} {items : List β}

theorem mapM_eq_some_iff : parts.mapM read = some items ↔
    List.Forall₂ (fun part item => read part = some item) parts items := by
  induction parts generalizing items with
  | nil => simp [List.forall₂_nil_left_iff, eq_comm]
  | cons part parts ih =>
      rw [List.mapM_cons, List.forall₂_cons_left_iff]
      simp only [Option.bind_eq_bind, Option.bind_eq_some_iff, ih, Option.pure_def,
        Option.some.injEq]
      constructor
      · rintro ⟨first, hfirst, rest, hrest, rfl⟩
        exact ⟨first, rest, hfirst, hrest, rfl⟩
      · rintro ⟨first, rest, hfirst, hrest, rfl⟩
        exact ⟨first, hfirst, rest, hrest, rfl⟩

theorem mapM_map_eq_some {write : β → α}
    (h : ∀ item ∈ items, read (write item) = some item) :
    (items.map write).mapM read = some items := by
  rw [mapM_eq_some_iff, List.forall₂_map_left_iff, List.forall₂_same]
  exact h

theorem exists_of_mem_mapM (h : parts.mapM read = some items) :
    ∀ item ∈ items, ∃ part ∈ parts, read part = some item := by
  have hpairs := mapM_eq_some_iff.mp h
  clear h
  induction hpairs with
  | nil => simp
  | cons hpart _ ih =>
      simp only [List.forall_mem_cons, List.exists_mem_cons_iff]
      exact ⟨.inl hpart, fun item hmem => .inr (ih item hmem)⟩

end ReadingAll

end EndpointDiscovery.Text
