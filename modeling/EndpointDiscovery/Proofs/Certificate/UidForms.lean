import EndpointDiscovery.Proofs.Certificate.Announcement
import EndpointDiscovery.Proofs.Text.SmallLetters
import Mathlib.Logic.Relation

/-!
# Normal forms of certificate identifiers

The normal form of a name is final, and blanks beside its separators and at its ends
do not change it.  That of any other text is final unless colons keep a blank from
the trimming that comes before they are left out; exactly then it also matters where
the colons stand.
-/

namespace EndpointDiscovery

open Text
    (AllBlank IsBorder IsSmall Padded SameUpToCase Tight isBlank lowerChar
      lowerList splitOn
  trimList)

/-! ## Characters on their own in lower case -/

namespace Text

variable {characters blanks : List Char}

theorem flatMap_lowerChar_blanks (h : AllBlank blanks) :
    blanks.flatMap lowerChar = blanks := by
  calc blanks.flatMap lowerChar
      = blanks.flatMap fun character => [character] :=
        List.flatMap_congr fun character hmem =>
          lowerChar_border (isBorder_of_isBlank (h character hmem))
    _ = blanks := by simp

theorem flatMap_lowerChar_again (characters : List Char) :
    (characters.flatMap lowerChar).flatMap lowerChar =
      characters.flatMap lowerChar := by
  have hsmall : ∀ lowered ∈ characters.flatMap lowerChar,
      lowerChar lowered = [lowered] := by
    intro lowered hmem
    obtain ⟨character, -, hlowered⟩ := List.mem_flatMap.mp hmem
    exact isSmall_of_mem_lowerChar hlowered
  rw [List.flatMap_congr hsmall]
  simp

theorem isBlank_of_mem_lowerChar {character lowered : Char}
    (h : isBlank character = false) (hmem : lowered ∈ lowerChar character) :
    isBlank lowered = false := by
  by_cases hborder : IsBorder character
  · rw [lowerChar_border hborder, List.mem_singleton] at hmem
    rwa [hmem]
  · refine eq_false_of_ne_true fun hblank => ?_
    exact not_border_of_mem_lowerChar hborder hmem (isBorder_of_isBlank hblank)

theorem Tight.flatMap_lowerChar (h : Tight characters) :
    Tight (characters.flatMap lowerChar) where
  head := by
    intro lowered hlowered
    cases characters with
    | nil => contradiction
    | cons first rest =>
        rw [List.flatMap_cons,
          List.head?_append_of_ne_nil _ (lowerChar_ne_nil first)] at hlowered
        exact isBlank_of_mem_lowerChar (h.head first rfl)
          (List.mem_of_mem_head? hlowered)
  last := by
    intro lowered hlowered
    rcases List.eq_nil_or_concat characters with rfl | ⟨front, last, rfl⟩
    · contradiction
    · rw [List.concat_eq_append] at h hlowered
      rw [List.flatMap_append, List.flatMap_singleton,
        List.getLast?_append_of_ne_nil _ (lowerChar_ne_nil last)] at hlowered
      exact isBlank_of_mem_lowerChar (h.last last List.getLast?_concat)
        (List.mem_of_mem_getLast? hlowered)

theorem trimList_flatMap_lowerChar (characters : List Char) :
    trimList (characters.flatMap lowerChar) =
      (trimList characters).flatMap lowerChar := by
  obtain ⟨before, after, hcharacters, hbefore, hafter⟩ :=
    exists_blanks_around characters
  have htight := (tight_trimList characters).flatMap_lowerChar
  calc trimList (characters.flatMap lowerChar)
      = trimList
        (before ++ ((trimList characters).flatMap lowerChar ++ after)) := by
        conv_lhs => rw [hcharacters]
        rw [List.flatMap_append, List.flatMap_append,
          flatMap_lowerChar_blanks hbefore, flatMap_lowerChar_blanks hafter]
    _ = (trimList characters).flatMap lowerChar := by
        rw [trimList_blanks_append hbefore, trimList_append_blanks _ hafter,
          htight.trimList_eq]

theorem tight_iff_trimList_eq : Tight characters ↔
    trimList characters = characters := by
  constructor
  · exact Tight.trimList_eq
  · intro h
    rw [← h]
    exact tight_trimList characters

theorem flatMap_lowerChar_trimList_eq_iff :
    (trimList characters).flatMap lowerChar = characters.flatMap lowerChar ↔
      Tight characters := by
  constructor
  · intro h
    obtain ⟨before, after, hcharacters, hbefore, hafter⟩ :=
      exists_blanks_around characters
    have hlength :=
      congrArg (fun text => (text.flatMap lowerChar).length) hcharacters
    simp only [List.flatMap_append, List.length_append,
      flatMap_lowerChar_blanks hbefore, flatMap_lowerChar_blanks hafter,
      h] at hlength
    have hbeforeNil : before = [] := List.eq_nil_of_length_eq_zero (by omega)
    have hafterNil : after = [] := List.eq_nil_of_length_eq_zero (by omega)
    rw [hbeforeNil, hafterNil, List.nil_append, List.append_nil] at hcharacters
    rw [tight_iff_trimList_eq, ← hcharacters]
  · intro h
    rw [h.trimList_eq]

end Text

/-! ## Names -/

/-- Blanks at the ends of a name and beside its separators, or another case of
ASCII letters. -/
inductive NameRespelling : List Char → List Char → Prop
  | padded {name padded : List Char} (h : Padded name padded) :
      NameRespelling name padded
  | beside {before left right after : List Char} {separator : Char}
      (hseparator : separator = ',' ∨ separator = '=') (hleft : AllBlank left)
      (hright : AllBlank right) :
      NameRespelling (before ++ separator :: after)
        (before ++ (left ++ separator :: (right ++ after)))
  | cased {name other : List Char} (h : SameUpToCase name other) :
      NameRespelling name other

/-- Blanks at the ends of a text, or another case of ASCII letters. -/
inductive TextRespelling : List Char → List Char → Prop
  | padded {text padded : List Char} (h : Padded text padded) :
      TextRespelling text padded
  | cased {text other : List Char} (h : SameUpToCase text other) :
      TextRespelling text other

inductive LacksColons : List Char → List Char → Prop
  | nil : LacksColons [] []
  | keep {text other : List Char} (character : Char) (h : LacksColons text other) :
      LacksColons (character :: text) (character :: other)
  | leave {text other : List Char} (h : LacksColons text other) :
      LacksColons (':' :: text) other

namespace CertificateUid

variable {name other text : List Char}

theorem attributeParts_normalAttribute (entry : List Char) :
    attributeParts (normalAttribute entry) = attributeParts entry := by
  have htrim : trimList ∘ trimList = trimList :=
    funext fun part => (Text.tight_trimList part).trimList_eq
  calc attributeParts (normalAttribute entry)
      = (attributeParts entry).map trimList := by
        rw [attributeParts, splitOn_normalAttribute]
    _ = attributeParts entry := by rw [attributeParts, List.map_map, htrim]

theorem nameParts_normalAttributes (name : List Char) :
    nameParts (List.intercalate [','] ((splitOn ',' name).map normalAttribute)) =
      nameParts name := by
  have hapart :
      splitOn ','
        (List.intercalate [','] ((splitOn ',' name).map normalAttribute)) =
      (splitOn ',' name).map normalAttribute := by
    refine Text.splitOn_intercalate (fun entry hentry => ?_) ?_
    · obtain ⟨whole, hwhole, rfl⟩ := List.mem_map.mp hentry
      exact comma_not_mem_normalAttribute (Text.not_mem_of_mem_splitOn hwhole)
    · simpa using Text.splitOn_ne_nil ',' name
  rw [nameParts, hapart, List.map_map, nameParts]
  exact List.map_congr_left fun entry _ => attributeParts_normalAttribute entry

theorem normalName_normalName (name : List Char) :
    normalName (normalName name).toList = normalName name := by
  have hsmall : Text.lower (normalName name) = normalName name := by
    rw [normalName, Text.lower_lower]
  have hlower : lowerList (normalName name).toList = (normalName name).toList := by
    have hlist := congrArg String.toList hsmall
    rwa [Text.lower_eq_lowerList, String.toList_ofList] at hlist
  rw [normalName_eq_iff, hlower, normalName_eq, String.toList_ofList,
    nameParts_normalAttributes]

theorem normalName_respelling (h : NameRespelling name other) :
    normalName other = normalName name := by
  cases h with
  | padded h =>
      obtain ⟨before, after, hbefore, hafter, hpadded⟩ := h.lowerList
      rw [normalName_eq_iff, hpadded, nameParts_blanks_append hbefore,
        nameParts_append_blanks _ hafter]
  | @beside before left right after separator hseparator hleft hright =>
      have hborder : IsBorder separator := by
        rcases hseparator with rfl | rfl <;> decide
      rw [normalName_eq_iff, ← List.append_assoc,
        Text.lowerList_append_border _ _ hborder,
        Text.lowerList_append_border _ _ hborder,
        Text.lowerList_append_blanks _ hleft, Text.lowerList_blanks_append hright,
        List.append_assoc, nameParts_separator_blanks hseparator hleft hright]
  | cased h => rw [normalName_eq, normalName_eq, h.lowerList_eq]

theorem eq_of_eqvGen {α β : Type} {step : α → α → Prop} (form : α → β)
    (h : ∀ {first second}, step first second → form second = form first)
    {first second : α} (hsteps : Relation.EqvGen step first second) :
    form second = form first := by
  induction hsteps with
  | rel _ _ hstep => exact h hstep
  | refl _ => rfl
  | symm _ _ _ ih => exact ih.symm
  | trans _ _ _ _ _ ihFirst ihSecond => exact ihSecond.trans ihFirst

/-! ## Texts and their colons -/

def uncolonned (text : List Char) : List Char :=
  (trimList text).filter (· ≠ ':')

theorem normalList_eq (text : List Char) :
    normalList text = (uncolonned text).flatMap lowerChar := rfl

/-- Between the rest of a trimmed text and the colons at one of its ends
stands a blank. -/
inductive HidesBlank (text : List Char) : Prop
  | front {count : Nat} {blank : Char} {rest : List Char}
      (hblank : isBlank blank = true)
      (h : trimList text = List.replicate (count + 1) ':' ++ blank :: rest)
  | back {count : Nat} {blank : Char} {rest : List Char}
      (hblank : isBlank blank = true)
      (h : trimList text = rest ++ blank :: List.replicate (count + 1) ':')

theorem filter_blanks {blanks : List Char} (h : AllBlank blanks) :
    blanks.filter (· ≠ ':') = blanks := by
  refine List.filter_eq_self.mpr fun blank hmem => decide_eq_true ?_
  rintro rfl
  exact absurd (h _ hmem) (by decide)

theorem eq_replicate_of_colons {colons : List Char} (hne : colons ≠ [])
    (h : ∀ character ∈ colons, ¬decide (character ≠ ':') = true) :
    ∃ count, colons = List.replicate (count + 1) ':' := by
  obtain ⟨count, hcount⟩ :=
    Nat.exists_eq_succ_of_ne_zero (mt List.eq_nil_of_length_eq_zero hne)
  refine ⟨count, List.eq_replicate_iff.mpr ⟨hcount, fun character hmem => ?_⟩⟩
  simpa using h character hmem

theorem not_hidesBlank_iff : ¬HidesBlank text ↔ Tight (uncolonned text) := by
  have htight := Text.tight_trimList text
  constructor
  · intro h
    constructor
    · intro first hfirst
      refine eq_false_of_ne_true fun hblank => h ?_
      obtain ⟨others, hothers⟩ := List.head?_eq_some_iff.mp hfirst
      obtain ⟨colons, rest, htext, hcolons, -, -⟩ :=
        List.filter_eq_cons_iff.mp hothers
      have hne : colons ≠ [] := by
        rintro rfl
        have hvisible := htight.head first (by rw [htext]; rfl)
        exact Bool.false_ne_true (hvisible.symm.trans hblank)
      obtain ⟨count, rfl⟩ := eq_replicate_of_colons hne hcolons
      exact .front hblank htext
    · intro last hlast
      refine eq_false_of_ne_true fun hblank => h ?_
      obtain ⟨others, hothers⟩ := List.getLast?_eq_some_iff.mp hlast
      obtain ⟨front, back, htext, -, hback⟩ := List.filter_eq_append_iff.mp hothers
      obtain ⟨before, colons, rfl, -, -, hcolons⟩ :=
        List.filter_eq_cons_iff.mp hback
      have hne : colons ≠ [] := by
        rintro rfl
        have hvisible := htight.last last (by rw [htext]; simp)
        exact Bool.false_ne_true (hvisible.symm.trans hblank)
      obtain ⟨count, rfl⟩ :=
        eq_replicate_of_colons hne (List.filter_eq_nil_iff.mp hcolons)
      exact .back hblank (by rw [htext, List.append_assoc])
  · rintro h (⟨hblank, htext⟩ | ⟨hblank, htext⟩)
    all_goals
      rename_i count blank rest
      have hne : blank ≠ ':' := by
        rintro rfl
        exact absurd hblank (by decide)
    · have hvisible := h.head blank (by simp [uncolonned, htext, hne])
      exact Bool.false_ne_true (hvisible.symm.trans hblank)
    · have hvisible := h.last blank (by simp [uncolonned, htext, hne])
      exact Bool.false_ne_true (hvisible.symm.trans hblank)

theorem trimList_filter (text : List Char) :
    trimList (text.filter (· ≠ ':')) = trimList (uncolonned text) := by
  obtain ⟨before, after, htext, hbefore, hafter⟩ := Text.exists_blanks_around text
  conv_lhs => rw [htext]
  rw [List.filter_append, List.filter_append, filter_blanks hbefore,
    filter_blanks hafter, Text.trimList_blanks_append hbefore,
    Text.trimList_append_blanks _ hafter, uncolonned]

theorem filter_trimList_of_filter {characters : List Char}
    (h : characters.filter (· ≠ ':') = characters) :
    (trimList characters).filter (· ≠ ':') = trimList characters := by
  refine List.filter_eq_self.mpr fun character hmem => ?_
  exact List.filter_eq_self.mp h character (mem_of_mem_trimList hmem)

theorem normalList_filter (text : List Char) : normalList (text.filter (· ≠ ':')) =
    (trimList (uncolonned text)).flatMap lowerChar := by
  have hfilter : (text.filter (· ≠ ':')).filter (· ≠ ':') =
      text.filter (· ≠ ':') := by
    rw [List.filter_filter]
    simp
  rw [normalList_eq, uncolonned, filter_trimList_of_filter hfilter, trimList_filter]

theorem filter_flatMap_lowerChar (characters : List Char) :
    (characters.flatMap lowerChar).filter (· ≠ ':') =
      (characters.filter (· ≠ ':')).flatMap lowerChar := by
  induction characters with
  | nil => rfl
  | cons character characters ih =>
      rw [List.flatMap_cons, List.filter_append, ih, List.filter_cons]
      by_cases hcolon : character = ':'
      · rw [hcolon]
        rfl
      · have hkept : (lowerChar character).filter (· ≠ ':') =
            lowerChar character := by
          refine List.filter_eq_self.mpr fun lowered hmem => decide_eq_true ?_
          rintro rfl
          exact hcolon (Text.eq_of_mem_lowerChar (by decide) (by decide) hmem)
        rw [hkept, if_pos (decide_eq_true hcolon), List.flatMap_cons]

theorem normalList_normalList (text : List Char) : normalList (normalList text) =
    (trimList (uncolonned text)).flatMap lowerChar := by
  have hfilter : (uncolonned text).filter (· ≠ ':') = uncolonned text := by
    rw [uncolonned, List.filter_filter]
    simp
  rw [normalList_eq (normalList text), normalList_eq, uncolonned,
    Text.trimList_flatMap_lowerChar, filter_flatMap_lowerChar,
    Text.flatMap_lowerChar_again, filter_trimList_of_filter hfilter]

end CertificateUid

namespace LacksColons

open CertificateUid

variable {text other first second : List Char}

theorem filter_eq (h : LacksColons text other) :
    other.filter (· ≠ ':') = text.filter (· ≠ ':') := by
  induction h with
  | nil => rfl
  | keep character _ ih => rw [List.filter_cons, List.filter_cons, ih]
  | leave _ ih => rw [ih, List.filter_cons_of_neg (by simp)]

theorem of_filter (text : List Char) :
    LacksColons text (text.filter (· ≠ ':')) := by
  induction text with
  | nil => exact .nil
  | cons character text ih =>
      by_cases hcolon : character = ':'
      · rw [hcolon, List.filter_cons_of_neg (by simp)]
        exact .leave ih
      · rw [List.filter_cons_of_pos (by simp [hcolon])]
        exact .keep character ih

theorem eq_of_not_mem (h : LacksColons text other)
    (hcolon : ':' ∉ text) : other = text := by
  induction h with
  | nil => rfl
  | keep character _ ih => rw [ih fun hmem => hcolon (List.mem_cons_of_mem _ hmem)]
  | leave => exact absurd List.mem_cons_self hcolon

theorem exists_append (h : LacksColons (first ++ second) other) :
    ∃ front back, other = front ++ back ∧ LacksColons first front ∧
      LacksColons second back := by
  induction first generalizing other with
  | nil => exact ⟨[], other, rfl, .nil, h⟩
  | cons character first ih =>
      cases h with
      | keep _ h =>
          obtain ⟨front, back, rfl, hfront, hback⟩ := ih h
          exact ⟨character :: front, back, rfl, .keep character hfront, hback⟩
      | leave h =>
          obtain ⟨front, back, rfl, hfront, hback⟩ := ih h
          exact ⟨front, back, rfl, .leave hfront, hback⟩

end LacksColons

namespace CertificateUid

variable {text other : List Char}

theorem tight_of_filter (h : Tight (text.filter (· ≠ ':'))) : Tight text where
  head := by
    intro first hfirst
    by_cases hcolon : first = ':'
    · rw [hcolon]
      decide
    · obtain ⟨rest, rfl⟩ := List.head?_eq_some_iff.mp hfirst
      exact h.head first (by rw [List.filter_cons_of_pos (by simp [hcolon])]; rfl)
  last := by
    intro last hlast
    by_cases hcolon : last = ':'
    · rw [hcolon]
      decide
    · obtain ⟨front, rfl⟩ := List.getLast?_eq_some_iff.mp hlast
      exact h.last last (by simp [hcolon])

theorem uncolonned_of_lacksColons (h : LacksColons text other)
    (htight : Tight (uncolonned text)) :
    uncolonned other = uncolonned text := by
  obtain ⟨before, after, htext, hbefore, hafter⟩ := Text.exists_blanks_around text
  have hcolon : ∀ {blanks : List Char}, AllBlank blanks → ':' ∉ blanks := by
    intro blanks hblanks hmem
    exact absurd (hblanks _ hmem) (by decide)
  rw [htext] at h
  obtain ⟨front, rest, rfl, hfront, hrest⟩ := h.exists_append
  obtain ⟨middle, back, rfl, hmiddle, hback⟩ := hrest.exists_append
  obtain rfl := hfront.eq_of_not_mem (hcolon hbefore)
  obtain rfl := hback.eq_of_not_mem (hcolon hafter)
  have hfilter : middle.filter (· ≠ ':') = uncolonned text := hmiddle.filter_eq
  have hvisible : Tight middle := tight_of_filter (hfilter ▸ htight)
  rw [uncolonned, Text.trimList_blanks_append hbefore,
    Text.trimList_append_blanks _ hafter, hvisible.trimList_eq, hfilter]

theorem normalList_normalList_eq_iff :
    normalList (normalList text) = normalList text ↔ ¬HidesBlank text := by
  rw [normalList_normalList, normalList_eq, Text.flatMap_lowerChar_trimList_eq_iff,
    not_hidesBlank_iff]

theorem normalList_of_lacksColons_iff :
    (∀ other, LacksColons text other → normalList other = normalList text) ↔
      ¬HidesBlank text := by
  rw [not_hidesBlank_iff]
  constructor
  · intro h
    have hnone := h _ (.of_filter text)
    rwa [normalList_filter, normalList_eq,
      Text.flatMap_lowerChar_trimList_eq_iff] at hnone
  · intro htight other h
    rw [normalList_eq, normalList_eq, uncolonned_of_lacksColons h htight]

theorem normalList_respelling (h : TextRespelling text other) :
    normalList other = normalList text := by
  cases h with
  | padded h => exact normalList_padded h
  | cased h => exact (normalList_congr h).symm

end CertificateUid

/-! ## Normal forms -/

open CertificateUid

/-- What the two normal forms of a text do not depend on. -/
structure HasNormalForms (text : String) : Prop where
  name_final : normalName (normalName text.toList).toList = normalName text.toList
  name_respelled : ∀ other : String,
    Relation.EqvGen NameRespelling text.toList other.toList →
    normalName other.toList = normalName text.toList
  text_respelled : ∀ other : String,
    Relation.EqvGen TextRespelling text.toList other.toList →
    normalText other = normalText text
  text_final_iff : normalText (normalText text) = normalText text ↔
    ¬HidesBlank text.toList
  text_colons_iff : (∀ other : String, LacksColons text.toList other.toList →
    normalText other = normalText text) ↔ ¬HidesBlank text.toList

theorem normalText_eq_iff (text other : String) :
    normalText other = normalText text ↔
      normalList other.toList = normalList text.toList := by
  rw [normalText_eq, normalText_eq, String.ofList_inj]

/-- The normal form of a name is one, for every text.  That of another text is
final, and does not depend on its colons, exactly if these hide no blank. -/
theorem has_normal_forms (text : String) : HasNormalForms text where
  name_final := normalName_normalName text.toList
  name_respelled other h := eq_of_eqvGen normalName normalName_respelling h
  text_respelled other h := by
    rw [normalText_eq_iff]
    exact eq_of_eqvGen normalList normalList_respelling h
  text_final_iff := by
    rw [normalText_eq_iff, normalText_eq text, String.toList_ofList,
      normalList_normalList_eq_iff]
  text_colons_iff := by
    simp only [normalText_eq_iff]
    rw [← normalList_of_lacksColons_iff]
    constructor
    · intro h other hlacks
      have hother := h (String.ofList other) (by rwa [String.toList_ofList])
      rwa [String.toList_ofList] at hother
    · exact fun h other => h other.toList

theorem not_final_hiddenBlank :
    normalText ": leaf" = " leaf" ∧ normalText " leaf" = "leaf" ∧
      LacksColons ": leaf".toList " leaf".toList ∧
      ¬(normalText (normalText ": leaf") = normalText ": leaf") ∧
      ¬∀ other : String, LacksColons ": leaf".toList other.toList →
        normalText other = normalText ": leaf" := by
  have hforms := has_normal_forms ": leaf"
  have hhides : HidesBlank ": leaf".toList :=
    @HidesBlank.front _ 0 ' ' "leaf".toList (by decide) (by decide)
  refine ⟨by decide, by decide, .leave ?_, ?_, ?_⟩
  · exact .keep ' ' (.keep 'l' (.keep 'e' (.keep 'a' (.keep 'f' .nil))))
  · exact fun hfinal => hforms.text_final_iff.mp hfinal hhides
  · exact fun hcolons => hforms.text_colons_iff.mp hcolons hhides

end EndpointDiscovery
