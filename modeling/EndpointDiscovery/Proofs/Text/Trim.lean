import EndpointDiscovery.Text.Blank
import Mathlib.Data.List.DropRight

/-!
# Texts without the blanks at their ends

A text consists of what is left of it after trimming, with blanks on either side.
-/

namespace EndpointDiscovery.Text

def AllBlank (characters : List Char) : Prop :=
  ∀ character ∈ characters, isBlank character = true

instance (characters : List Char) : Decidable (AllBlank characters) :=
  List.decidableBAll _ characters

structure Tight (characters : List Char) : Prop where
  head : ∀ first, characters.head? = some first → isBlank first = false
  last : ∀ last, characters.getLast? = some last → isBlank last = false

variable {characters before after : List Char} {character : Char}

theorem trimList_eq_rdropWhile (characters : List Char) :
    trimList characters = (characters.dropWhile isBlank).rdropWhile isBlank := rfl

theorem trimList_cons_blank (h : isBlank character = true)
    (characters : List Char) :
    trimList (character :: characters) = trimList characters := by
  rw [trimList, List.dropWhile_cons_of_pos h, trimList]

theorem trimList_blanks_append (h : AllBlank before) (characters : List Char) :
    trimList (before ++ characters) = trimList characters := by
  induction before with
  | nil => rfl
  | cons first before ih =>
      rw [AllBlank, List.forall_mem_cons] at h
      rw [List.cons_append, trimList_cons_blank h.1, ih h.2]

theorem trimList_concat_blank (characters : List Char)
    (h : isBlank character = true) :
    trimList (characters ++ [character]) = trimList characters := by
  rw [trimList_eq_rdropWhile, trimList_eq_rdropWhile, List.dropWhile_append]
  split
  · rename_i hempty
    rw [List.isEmpty_iff.mp hempty, List.dropWhile_cons_of_pos h,
      List.dropWhile_nil]
  · rw [List.rdropWhile_concat_pos _ _ _ h]

theorem getLast?_trimList_concat (characters : List Char)
    (h : isBlank character = false) :
    (trimList (characters ++ [character])).getLast? = some character := by
  have hkept : ∀ rest : List Char,
      ((rest ++ [character]).rdropWhile isBlank).getLast? = some character := by
    intro rest
    rw [List.rdropWhile_concat_neg _ _ _ (by simp [h]), List.getLast?_concat]
  rw [trimList_eq_rdropWhile, List.dropWhile_append]
  split
  · rw [List.dropWhile_cons_of_neg (by simp [h])]
    exact hkept []
  · exact hkept _

theorem trimList_append_blanks (characters : List Char) (h : AllBlank after) :
    trimList (characters ++ after) = trimList characters := by
  induction after generalizing characters with
  | nil => rw [List.append_nil]
  | cons first after ih =>
      rw [AllBlank, List.forall_mem_cons] at h
      rw [List.append_cons, ih _ h.2, trimList_concat_blank _ h.1]

theorem Tight.trimList_eq (h : Tight characters) :
    trimList characters = characters := by
  have hhead : characters.dropWhile isBlank = characters := by
    cases characters with
    | nil => rfl
    | cons first characters =>
        exact List.dropWhile_cons_of_neg (by simp [h.head first rfl])
  rw [trimList_eq_rdropWhile, hhead, List.rdropWhile_eq_self_iff]
  intro hne
  simp [h.last _ (List.getLast?_eq_some_getLast hne)]

theorem tight_of_forall (h : ∀ character ∈ characters, isBlank character = false) :
    Tight characters where
  head first hfirst := h first (List.mem_of_mem_head? hfirst)
  last last hlast := h last (List.mem_of_mem_getLast? hlast)

theorem tight_trimList (characters : List Char) : Tight (trimList characters) where
  head := by
    intro first hfirst
    have hprefix : trimList characters <+: characters.dropWhile isBlank :=
      List.rdropWhile_prefix _ _
    have hhead := List.head?_dropWhile_not isBlank characters
    obtain ⟨rest, hrest⟩ := hprefix
    cases htrim : trimList characters with
    | nil =>
        rw [htrim] at hfirst
        contradiction
    | cons other rest =>
        rw [htrim] at hfirst hrest
        cases hfirst
        rw [← hrest] at hhead
        exact hhead
  last := by
    intro last hlast
    have hne : trimList characters ≠ [] := by
      rintro hnil
      rw [hnil] at hlast
      contradiction
    rw [List.getLast?_eq_some_getLast hne, Option.some.injEq] at hlast
    have hnot := List.rdropWhile_last_not isBlank (characters.dropWhile isBlank) hne
    rw [← hlast]
    exact eq_false_of_ne_true hnot

theorem exists_blanks_around (characters : List Char) :
    ∃ before after, characters = before ++ (trimList characters ++ after) ∧
      AllBlank before ∧
      AllBlank after := by
  refine ⟨characters.takeWhile isBlank,
    (characters.dropWhile isBlank).rtakeWhile isBlank, ?_,
    fun _ => List.mem_takeWhile_imp, fun _ => List.mem_rtakeWhile_imp⟩
  rw [trimList_eq_rdropWhile, List.rdropWhile_append_rtakeWhile,
    List.takeWhile_append_dropWhile]

theorem trimList_eq_nil_iff (characters : List Char) :
    trimList characters = [] ↔ ∀ character ∈ characters,
      isBlank character = true := by
  constructor
  · intro h
    obtain ⟨before, after, hcharacters, hbefore, hafter⟩ :=
      exists_blanks_around characters
    rw [hcharacters, h, List.nil_append, List.forall_mem_append]
    exact ⟨hbefore, hafter⟩
  · intro h
    have htrim := trimList_blanks_append h []
    rwa [List.append_nil] at htrim

def Padded (characters padded : List Char) : Prop :=
  ∃ before after, AllBlank before ∧ AllBlank after ∧
    padded = before ++ (characters ++ after)

theorem Padded.refl (characters : List Char) : Padded characters characters :=
  ⟨[], [], by simp [AllBlank], by simp [AllBlank], by simp⟩

theorem Padded.trimList_eq {padded : List Char} (h : Padded characters padded) :
    trimList padded = trimList characters := by
  obtain ⟨before, after, hbefore, hafter, rfl⟩ := h
  rw [trimList_blanks_append hbefore, trimList_append_blanks _ hafter]

theorem exists_trimList_append (hbefore : ¬AllBlank before)
    (hafter : ¬AllBlank after) :
    ∃ first last, ∀ between,
      trimList (before ++ (between ++ after)) = first ++ (between ++ last) := by
  obtain ⟨left, middle, hleft, hleftBlank, -⟩ := exists_blanks_around before
  obtain ⟨other, right, hright, -, hrightBlank⟩ := exists_blanks_around after
  have hfirst : trimList before ≠ [] := mt (trimList_eq_nil_iff before).mp hbefore
  have hlast : trimList after ≠ [] := mt (trimList_eq_nil_iff after).mp hafter
  refine ⟨trimList before ++ middle, other ++ trimList after, fun between => ?_⟩
  have htight :
      Tight
        (trimList before ++
          (middle ++ (between ++ (other ++ trimList after)))) := by
    constructor
    · intro character hcharacter
      rw [List.head?_append_of_ne_nil _ hfirst] at hcharacter
      exact (tight_trimList before).head character hcharacter
    · intro character hcharacter
      simp only [← List.append_assoc] at hcharacter
      rw [List.getLast?_append_of_ne_nil _ hlast] at hcharacter
      exact (tight_trimList after).last character hcharacter
  have hwhole : before ++ (between ++ after) = left ++
      ((trimList before ++ (middle ++ (between ++ (other ++ trimList after)))) ++
        right) := by
    conv_lhs => rw [hleft, hright]
    simp only [List.append_assoc]
  rw [hwhole, trimList_blanks_append hleftBlank,
    trimList_append_blanks _ hrightBlank, htight.trimList_eq]
  simp only [List.append_assoc]

/-! ## Blanks in between -/

inductive Spaced : List Char → List Char → Prop where
  | nil : Spaced [] []
  | keep {text spaced : List Char} (character : Char) (h : Spaced text spaced) :
      Spaced (character :: text) (character :: spaced)
  | insert {text spaced : List Char} (character : Char)
      (hblank : isBlank character = true)
      (h : Spaced text spaced) : Spaced text (character :: spaced)

def inked (characters : List Char) : List Char :=
  characters.filter (!isBlank ·)

theorem inked_append (first second : List Char) :
    inked (first ++ second) = inked first ++ inked second :=
  List.filter_append ..

theorem inked_eq_nil (h : AllBlank characters) : inked characters = [] := by
  rw [inked, List.filter_eq_nil_iff]
  intro character hmem
  simp [h character hmem]

theorem inked_trimList (characters : List Char) :
    inked (trimList characters) = inked characters := by
  obtain ⟨before, after, hcharacters, hbefore, hafter⟩ :=
    exists_blanks_around characters
  conv_rhs => rw [hcharacters, inked_append, inked_append]
  rw [inked_eq_nil hbefore, inked_eq_nil hafter, List.nil_append, List.append_nil]

theorem Spaced.inked_eq {text spaced : List Char} (h : Spaced text spaced) :
    inked spaced = inked text := by
  induction h with
  | nil => rfl
  | keep character _ ih =>
      unfold inked at ih ⊢
      rw [List.filter_cons, List.filter_cons, ih]
  | insert character hblank _ ih =>
      rw [inked, List.filter_cons_of_neg (by simp [hblank])]
      exact ih

theorem spaced_inked (characters : List Char) :
    Spaced (inked characters) characters := by
  induction characters with
  | nil => exact .nil
  | cons character characters ih =>
      cases hblank : isBlank character
      · rw [inked, List.filter_cons_of_pos (by simp [hblank])]
        exact ih.keep character
      · rw [inked, List.filter_cons_of_neg (by simp [hblank])]
        exact ih.insert character hblank

end EndpointDiscovery.Text
