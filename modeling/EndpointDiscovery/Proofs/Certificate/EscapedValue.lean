import EndpointDiscovery.Certificate.NameText
import EndpointDiscovery.Proofs.Text.Border

/-!
# Escaped values

The value of an attribute can be told from its escaped form, and apart from blanks
at its ends even when that has lost blanks at its own.  A space that is escaped at
the end can be lost without its escape, which is then left over.
-/

namespace EndpointDiscovery.NameAttribute

open Text
    (AllBlank IsBorder isBlank lowerAfter lowerBetween lowerList nextIsCased
      trimList)

/-! ## Reading escapes -/

/-- The text that an escaped text stands for; an escape at the end
stands for nothing. -/
def unescape : List Char → List Char
  | [] => []
  | ['\\'] => []
  | '\\' :: character :: rest => character :: unescape rest
  | character :: rest => character :: unescape rest

def endsInEscape : List Char → Bool
  | [] => false
  | ['\\'] => true
  | '\\' :: _ :: rest => endsInEscape rest
  | _ :: rest => endsInEscape rest

variable {character : Char} {value rest text before after : List Char}

theorem unescape_cons (h : character ≠ '\\') (rest : List Char) :
    unescape (character :: rest) = character :: unescape rest := by
  rw [unescape]
  · exact fun heq _ => h heq
  · exact fun _ _ heq _ => h heq

theorem endsInEscape_cons (h : character ≠ '\\') (rest : List Char) :
    endsInEscape (character :: rest) = endsInEscape rest := by
  rw [endsInEscape]
  · exact fun heq _ => h heq
  · exact fun _ _ heq _ => h heq

private theorem ne_escape_of_cases (hlast : character = '\\' → rest = [] → False)
    (hescape : ∀ first others, character = '\\' → rest = first :: others → False) :
    character ≠ '\\' := by
  intro heq
  cases rest with
  | nil => exact hlast heq rfl
  | cons first others => exact hescape first others heq rfl

theorem unescape_append_cons (text rest : List Char) (h : character ≠ '\\') :
    unescape (text ++ character :: rest) =
      unescape text ++ character :: unescape rest := by
  induction text using unescape.induct with
  | case1 => exact unescape_cons h rest
  | case2 => rfl
  | case3 first text ih => simp only [List.cons_append, unescape, ih]
  | case4 first text hlast hescape ih =>
      have hfirst := ne_escape_of_cases hlast hescape
      rw [List.cons_append, unescape_cons hfirst, unescape_cons hfirst, ih,
        List.cons_append]

theorem endsInEscape_append_cons (text rest : List Char) (h : character ≠ '\\') :
    endsInEscape (text ++ character :: rest) = endsInEscape rest := by
  induction text using unescape.induct with
  | case1 => exact endsInEscape_cons h rest
  | case2 => rfl
  | case3 first text ih => simp only [List.cons_append, endsInEscape, ih]
  | case4 first text hlast hescape ih =>
      have hfirst := ne_escape_of_cases hlast hescape
      rw [List.cons_append, endsInEscape_cons hfirst, ih]

theorem ne_escape_of_isBlank (h : isBlank character = true) : character ≠ '\\' := by
  rintro rfl
  contradiction

theorem unescape_append_blanks (text : List Char) (h : AllBlank after) :
    unescape (text ++ after) = unescape text ++ after := by
  induction after generalizing text with
  | nil => rw [List.append_nil, List.append_nil]
  | cons first after ih =>
      rw [AllBlank, List.forall_mem_cons] at h
      have hrest := ih [] h.2
      rw [List.nil_append, unescape, List.nil_append] at hrest
      rw [unescape_append_cons _ _ (ne_escape_of_isBlank h.1), hrest]

theorem unescape_blanks_append (h : AllBlank before) (text : List Char) :
    unescape (before ++ text) = before ++ unescape text := by
  induction before with
  | nil => rfl
  | cons first before ih =>
      rw [AllBlank, List.forall_mem_cons] at h
      rw [List.cons_append, unescape_cons (ne_escape_of_isBlank h.1), ih h.2,
        List.cons_append]

theorem endsInEscape_blanks_append (h : AllBlank before) (text : List Char) :
    endsInEscape (before ++ text) = endsInEscape text := by
  induction before with
  | nil => rfl
  | cons first before ih =>
      rw [AllBlank, List.forall_mem_cons] at h
      rw [List.cons_append, endsInEscape_cons (ne_escape_of_isBlank h.1), ih h.2]

theorem trimList_unescape_trimList (text : List Char) :
    trimList (unescape (trimList text)) = trimList (unescape text) := by
  obtain ⟨before, after, htext, hbefore, hafter⟩ := Text.exists_blanks_around text
  have hread : unescape text = before ++ (unescape (trimList text) ++ after) := by
    rw [← unescape_append_blanks _ hafter, ← unescape_blanks_append hbefore,
      ← htext]
  rw [hread, Text.trimList_blanks_append hbefore,
    Text.trimList_append_blanks _ hafter]

theorem endsInEscape_trimList (h : endsInEscape text = true) :
    endsInEscape (trimList text) = true := by
  obtain ⟨before, after, htext, hbefore, hafter⟩ := Text.exists_blanks_around text
  rw [htext, endsInEscape_blanks_append hbefore] at h
  cases after with
  | nil => rwa [List.append_nil] at h
  | cons first after =>
      -- Behind an escape there is room for one blank only.
      rw [AllBlank, List.forall_mem_cons] at hafter
      have hends := endsInEscape_blanks_append hafter.2 []
      rw [List.append_nil] at hends
      rw [endsInEscape_append_cons _ _ (ne_escape_of_isBlank hafter.1), hends] at h
      contradiction

/-! ## Writing escapes -/

theorem escapeAfterFirst_delimiter (h : character ∈ delimiters) (rest : List Char) :
    escapeAfterFirst (character :: rest) =
      '\\' :: character :: escapeAfterFirst rest := by
  rw [escapeAfterFirst, if_pos h]
  rintro rfl -
  exact absurd h (by decide)

theorem escapeAfterFirst_plain (h : character ∉ delimiters)
    (hspace : character = ' ' → rest ≠ []) :
    escapeAfterFirst (character :: rest) = character :: escapeAfterFirst rest := by
  rw [escapeAfterFirst, if_neg h]
  exact hspace

theorem escapeValue_of_head
    (h : ∀ first, value.head? = some first → first ≠ ' ' ∧ first ≠ '#') :
    escapeValue value = escapeAfterFirst value := by
  unfold escapeValue
  split
  · exact absurd rfl (h ' ' rfl).1
  · exact absurd rfl (h '#' rfl).2
  · rfl

theorem ne_escape_of_not_delimiter (h : character ∉ delimiters) :
    character ≠ '\\' := by
  rintro rfl
  exact h (by decide)

theorem unescape_escapeAfterFirst (value : List Char) :
    unescape (escapeAfterFirst value) = value := by
  induction value using escapeAfterFirst.induct with
  | case1 => rfl
  | case2 => rfl
  | case3 first rest hspace hdelimiter ih =>
      rw [escapeAfterFirst_delimiter hdelimiter, unescape, ih]
  | case4 first rest hspace hplain ih =>
      rw [escapeAfterFirst_plain hplain hspace,
        unescape_cons (ne_escape_of_not_delimiter hplain), ih]

theorem unescape_escapeValue (value : List Char) :
    unescape (escapeValue value) = value := by
  unfold escapeValue
  split
  · rw [unescape, unescape_escapeAfterFirst]
  · rw [unescape, unescape_escapeAfterFirst]
  · exact unescape_escapeAfterFirst value

theorem endsInEscape_escapeAfterFirst (value : List Char) :
    endsInEscape (escapeAfterFirst value) = false := by
  induction value using escapeAfterFirst.induct with
  | case1 => rfl
  | case2 => rfl
  | case3 first rest hspace hdelimiter ih =>
      rw [escapeAfterFirst_delimiter hdelimiter, endsInEscape, ih]
  | case4 first rest hspace hplain ih =>
      rw [escapeAfterFirst_plain hplain hspace,
        endsInEscape_cons (ne_escape_of_not_delimiter hplain), ih]

theorem endsInEscape_escapeValue (value : List Char) :
    endsInEscape (escapeValue value) = false := by
  unfold escapeValue
  split
  · rw [endsInEscape, endsInEscape_escapeAfterFirst]
  · rw [endsInEscape, endsInEscape_escapeAfterFirst]
  · exact endsInEscape_escapeAfterFirst value

theorem mem_of_mem_escapeValue (h : character ∈ escapeValue value)
    (hne : character ≠ '\\') :
    character ∈ value := by
  obtain ⟨before, after, hvalue⟩ := List.append_of_mem h
  have hread := unescape_append_cons before after hne
  rw [← hvalue, unescape_escapeValue] at hread
  rw [hread]
  simp

theorem trimList_eq_of_escapeValue {other : List Char}
    (h : trimList (escapeValue value) = trimList (escapeValue other)) :
    trimList value = trimList other := by
  have hread := congrArg (fun text => trimList (unescape text)) h
  simp only [trimList_unescape_trimList, unescape_escapeValue] at hread
  exact hread

/-! ## What is escaped -/

/-- What stands behind an escape is a delimiter or the space at the end, and
delimiters stand nowhere else. -/
structure Escapes (value before : List Char) (character : Char) : Prop where
  escaped : endsInEscape before = true → character ∈ delimiters ∨
    value.getLast? = some ' '
  free : endsInEscape before = false → character ∈ delimiters → character = '\\'

theorem Escapes.cons {first : Char} (h : Escapes rest before character)
    (escape : List Char)
    (hescape : endsInEscape (escape ++ before) = endsInEscape before) :
    Escapes (first :: rest) (escape ++ before) character := by
  refine ⟨fun hends => ?_, fun hends => h.free (hescape ▸ hends)⟩
  refine (h.escaped (hescape ▸ hends)).imp_right fun hlast => ?_
  rw [List.getLast?_cons, hlast, Option.getD_some]

theorem escapes_escapeAfterFirst
    (h : escapeAfterFirst value = before ++ character :: after) :
    Escapes value before character := by
  induction value using escapeAfterFirst.induct generalizing before with
  | case1 =>
      rw [escapeAfterFirst] at h
      simp at h
  | case2 =>
      refine ⟨fun _ => .inr rfl, fun hends _ => ?_⟩
      match before, h with
      | [], h => exact (List.cons.inj h).1.symm
      | [_], h =>
          rw [← (List.cons.inj h).1] at hends
          contradiction
      | _ :: _ :: before, h =>
          have hlength := congrArg List.length h
          simp [escapeAfterFirst] at hlength
  | case3 first rest hspace hdelimiter ih =>
      rw [escapeAfterFirst_delimiter hdelimiter] at h
      match before, h with
      | [], h =>
          exact ⟨fun hends => absurd hends (by decide),
            fun _ _ => (List.cons.inj h).1.symm⟩
      | [_], h =>
          obtain ⟨hescape, hrest⟩ := List.cons.inj h
          rw [← hescape]
          have hfirst := (List.cons.inj hrest).1
          exact ⟨fun _ => .inl (hfirst ▸ hdelimiter),
            fun hends => absurd hends (by decide)⟩
      | _ :: _ :: before, h =>
          obtain ⟨hescape, hrest⟩ := List.cons.inj h
          rw [← hescape]
          exact (ih (List.cons.inj hrest).2).cons ['\\', _] rfl
  | case4 first rest hspace hplain ih =>
      rw [escapeAfterFirst_plain hplain hspace] at h
      match before, h with
      | [], h =>
          have hfirst := (List.cons.inj h).1
          exact ⟨fun hends => absurd hends (by decide),
            fun _ hdelimiter => absurd (hfirst ▸ hdelimiter) hplain⟩
      | _ :: before, h =>
          obtain ⟨hfirst, hrest⟩ := List.cons.inj h
          rw [← hfirst]
          exact (ih hrest).cons [first]
            (endsInEscape_cons (ne_escape_of_not_delimiter hplain) before)

theorem escapes_escapeValue (h : escapeValue value = before ++ character :: after) :
    Escapes value before character ∨
      before = ['\\'] ∧ (character = ' ' ∨ character = '#') ∧
        ∃ rest, value = character :: rest ∧ after = escapeAfterFirst rest := by
  have hfirst : ∀ {first : Char} {rest : List Char}, first = ' ' ∨ first = '#' →
      '\\' :: first :: escapeAfterFirst rest = before ++ character :: after →
      Escapes (first :: rest) before character ∨ before = ['\\'] ∧
        (character = ' ' ∨ character = '#') ∧
        ∃ others, first :: rest = character :: others ∧
          after = escapeAfterFirst others := by
    intro first rest hspecial h
    match before, h with
    | [], h =>
        exact .inl ⟨fun hends => absurd hends (by decide),
          fun _ _ => (List.cons.inj h).1.symm⟩
    | [_], h =>
        obtain ⟨hescape, hrest⟩ := List.cons.inj h
        obtain ⟨rfl, hafter⟩ := List.cons.inj hrest
        exact .inr ⟨by rw [← hescape], hspecial, rest, rfl, hafter.symm⟩
    | _ :: _ :: before, h =>
        obtain ⟨hescape, hrest⟩ := List.cons.inj h
        rw [← hescape]
        exact .inl
          ((escapes_escapeAfterFirst (List.cons.inj hrest).2).cons ['\\', _] rfl)
  unfold escapeValue at h
  split at h
  · exact hfirst (.inl rfl) h
  · exact hfirst (.inr rfl) h
  · exact .inl (escapes_escapeAfterFirst h)

theorem endsInEscape_of_comma (h : escapeValue value = before ++ ',' :: after) :
    endsInEscape before = true := by
  rcases escapes_escapeValue h with hescapes | ⟨rfl, -, -⟩
  · by_contra hends
    exact absurd (hescapes.free (eq_false_of_ne_true hends) (by decide)) (by decide)
  · rfl

/-! ## Lost spaces -/

/-- The escaped form ends with a space that can be lost without its escape. -/
def Frays (value : List Char) : Prop :=
  value.getLast? = some ' ' ∨ value.head? = some ' ' ∧ AllBlank value

theorem mem_escapeAfterFirst (h : character ∈ value) :
    character ∈ escapeAfterFirst value := by
  induction value using escapeAfterFirst.induct with
  | case1 => exact h
  | case2 => exact List.mem_cons_of_mem _ h
  | case3 first rest hspace hdelimiter ih =>
      rw [escapeAfterFirst_delimiter hdelimiter]
      rcases List.mem_cons.mp h with rfl | hrest
      · simp
      · simp [ih hrest]
  | case4 first rest hspace hplain ih =>
      rw [escapeAfterFirst_plain hplain hspace]
      rcases List.mem_cons.mp h with rfl | hrest
      · simp
      · simp [ih hrest]

theorem frays_of_endsInEscape
    (h : endsInEscape (trimList (escapeValue value)) = true) :
    Frays value := by
  obtain ⟨before, after, hvalue, hbefore, hafter⟩ :=
    Text.exists_blanks_around (escapeValue value)
  have hends := endsInEscape_blanks_append hbefore (trimList (escapeValue value))
  rw [h] at hends
  rw [← List.append_assoc] at hvalue
  cases after with
  | nil =>
      rw [List.append_nil] at hvalue
      rw [← hvalue, endsInEscape_escapeValue] at hends
      contradiction
  | cons first after =>
      rw [AllBlank, List.forall_mem_cons] at hafter
      obtain ⟨hfirst, hafter⟩ := hafter
      rcases escapes_escapeValue hvalue with
        hescapes | ⟨-, hspecial, rest, rfl, rfl⟩
      · have hvisible : delimiters.all (fun delimiter => !isBlank delimiter) =
            true := by decide
        refine .inl ((hescapes.escaped hends).resolve_left fun hdelimiter => ?_)
        have hnot := List.all_eq_true.mp hvisible first hdelimiter
        rw [hfirst] at hnot
        contradiction
      · rcases hspecial with rfl | rfl
        · refine .inr ⟨rfl, ?_⟩
          rw [AllBlank, List.forall_mem_cons]
          exact ⟨hfirst, fun other hother =>
            hafter other (mem_escapeAfterFirst hother)⟩
        · contradiction

/-! ## Lower case -/

theorem isBorder_of_mem_delimiters (h : character ∈ delimiters) :
    IsBorder character := by
  have hall : delimiters.all (fun delimiter => decide (IsBorder delimiter)) =
      true := by decide
  exact of_decide_eq_true (List.all_eq_true.mp hall character h)

theorem nextIsCased_escapeAfterFirst (value : List Char) :
    nextIsCased (escapeAfterFirst value) = nextIsCased value := by
  induction value using escapeAfterFirst.induct with
  | case1 => rfl
  | case2 =>
      rw [escapeAfterFirst, Text.nextIsCased_border_cons (by decide),
        Text.nextIsCased_border_cons (by decide)]
  | case3 first rest hspace hdelimiter ih =>
      rw [escapeAfterFirst_delimiter hdelimiter,
        Text.nextIsCased_border_cons (by decide),
        Text.nextIsCased_border_cons (isBorder_of_mem_delimiters hdelimiter)]
  | case4 first rest hspace hplain ih =>
      rw [escapeAfterFirst_plain hplain hspace, Text.nextIsCased_cons,
        Text.nextIsCased_cons, ih]

theorem escapeAfterFirst_append (h : ∀ character ∈ before, ¬IsBorder character)
    (rest : List Char) : escapeAfterFirst (before ++ rest) =
      before ++ escapeAfterFirst rest := by
  induction before with
  | nil => rfl
  | cons first before ih =>
      rw [List.forall_mem_cons] at h
      have hplain : first ∉ delimiters :=
        fun hmem => h.1 (isBorder_of_mem_delimiters hmem)
      rw [List.cons_append, escapeAfterFirst_plain hplain, ih h.2, List.cons_append]
      rintro rfl
      exact absurd (by decide) h.1

theorem lowerAfter_escapeAfterFirst (before value : List Char) :
    lowerAfter before (escapeAfterFirst value) =
      escapeAfterFirst (lowerAfter before value) := by
  have hescape : IsBorder '\\' := by decide
  have hspace : IsBorder ' ' := by decide
  induction value using escapeAfterFirst.induct generalizing before with
  | case1 => rfl
  | case2 =>
      rw [escapeAfterFirst, Text.lowerAfter_border_cons _ hescape,
        Text.lowerList_border_cons hspace, Text.lowerAfter_border_cons _ hspace]
      rfl
  | case3 first rest hlast hdelimiter ih =>
      have hborder := isBorder_of_mem_delimiters hdelimiter
      have hrest : lowerList (escapeAfterFirst rest) =
          escapeAfterFirst (lowerList rest) := ih []
      rw [escapeAfterFirst_delimiter hdelimiter,
        Text.lowerAfter_border_cons _ hescape, Text.lowerList_border_cons hborder,
        Text.lowerAfter_border_cons _ hborder,
        escapeAfterFirst_delimiter hdelimiter, hrest]
  | case4 first rest hlast hplain ih =>
      rw [escapeAfterFirst_plain hplain hlast]
      by_cases hborder : IsBorder first
      · have hrest : lowerList (escapeAfterFirst rest) =
            escapeAfterFirst (lowerList rest) := ih []
        rw [Text.lowerAfter_border_cons _ hborder,
          Text.lowerAfter_border_cons _ hborder, hrest,
          escapeAfterFirst_plain hplain]
        exact fun heq hnil => hlast heq (Text.lowerAfter_eq_nil_iff.mp hnil)
      · rw [Text.lowerAfter_cons, Text.lowerAfter_cons, ih,
          Text.lowerBetween_congr rfl (nextIsCased_escapeAfterFirst rest),
          escapeAfterFirst_append fun _ =>
            Text.not_border_of_mem_lowerBetween hborder]

theorem lowerList_escapeAfterFirst (value : List Char) :
    lowerList (escapeAfterFirst value) = escapeAfterFirst (lowerList value) :=
  lowerAfter_escapeAfterFirst [] value

theorem Frays.of_lowerList (h : Frays (lowerList value)) : Frays value := by
  have hspace : IsBorder ' ' := by decide
  refine h.imp (Text.getLast?_lowerList_border hspace) fun ⟨hhead, hblank⟩ =>
    ⟨Text.head?_lowerList_border hspace hhead, ?_⟩
  have htrim := (Text.trimList_eq_nil_iff _).mpr hblank
  rw [Text.trimList_lowerList, lowerList, Text.lowerAfter_eq_nil_iff] at htrim
  exact (Text.trimList_eq_nil_iff _).mp htrim

theorem lowerList_escapeValue (value : List Char) :
    lowerList (escapeValue value) = escapeValue (lowerList value) := by
  have hescape : IsBorder '\\' := by decide
  have hspace : IsBorder ' ' := by decide
  have hnumber : IsBorder '#' := by decide
  by_cases hplain : ∀ first, value.head? = some first → first ≠ ' ' ∧ first ≠ '#'
  · have hlower : ∀ first, (lowerList value).head? = some first →
        first ≠ ' ' ∧ first ≠ '#' := by
      intro first hfirst
      constructor
      · rintro rfl
        exact (hplain _ (Text.head?_lowerList_border hspace hfirst)).1 rfl
      · rintro rfl
        exact (hplain _ (Text.head?_lowerList_border hnumber hfirst)).2 rfl
    rw [escapeValue_of_head hplain, escapeValue_of_head hlower,
      lowerList_escapeAfterFirst]
  · unfold escapeValue
    split
    · rw [Text.lowerList_border_cons hescape, Text.lowerList_border_cons hspace,
        Text.lowerList_border_cons hspace, lowerList_escapeAfterFirst]
      rfl
    · rw [Text.lowerList_border_cons hescape, Text.lowerList_border_cons hnumber,
        Text.lowerList_border_cons hnumber, lowerList_escapeAfterFirst]
      rfl
    · rename_i hnotSpace hnotNumber
      refine absurd (fun first hfirst => ?_) hplain
      obtain ⟨rest, rfl⟩ := List.head?_eq_some_iff.mp hfirst
      exact ⟨fun heq => hnotSpace rest (by rw [heq]),
        fun heq => hnotNumber rest (by rw [heq])⟩

end EndpointDiscovery.NameAttribute
