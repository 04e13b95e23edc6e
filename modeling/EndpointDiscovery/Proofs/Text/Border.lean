import EndpointDiscovery.Proofs.Text.LowerCase
import EndpointDiscovery.Proofs.Text.Parts
import EndpointDiscovery.Proofs.Text.Trim

/-!
# Lower case between borders

Blanks and the punctuation of written names have no case, and a capital sigma cannot
look past them.  So the lower-case form of a text can be taken apart at them.
-/

namespace EndpointDiscovery.Text

/-! ## Borders -/

def blankCodes : List Nat :=
  [0x9, 0xA, 0xB, 0xC, 0xD, 0x20, 0x85, 0xA0, 0x1680, 0x2000, 0x2001, 0x2002,
    0x2003, 0x2004, 0x2005, 0x2006, 0x2007, 0x2008, 0x2009, 0x200A, 0x2028, 0x2029,
    0x202F, 0x205F, 0x3000]

/-- The blanks and `"`, `#`, `+`, `,`, `;`, `<`, `=`, `>`, `\`. -/
def borderCodes : List Nat :=
  [0x22, 0x23, 0x2B, 0x2C, 0x3B, 0x3C, 0x3D, 0x3E, 0x5C] ++ blankCodes

def IsBorder (character : Char) : Prop := character.toNat ∈ borderCodes

instance (character : Char) : Decidable (IsBorder character) :=
  inferInstanceAs (Decidable (_ ∈ _))

variable {character : Char}

theorem isBorder_of_isBlank (h : isBlank character = true) :
    IsBorder character := by
  refine List.mem_append_right _ ?_
  simp only [isBlank, Bool.or_eq_true, Bool.and_eq_true, decide_eq_true_eq] at h
  simp only [blankCodes, List.mem_cons, List.not_mem_nil, or_false]
  omega

theorem of_border {P : Char → Prop} (h : ∀ code ∈ borderCodes, P (Char.ofNat code))
    (hborder : IsBorder character) : P character := by
  have hcode := h character.toNat hborder
  rwa [Char.ofNat_toNat] at hcode

theorem lowerChar_border (h : IsBorder character) :
    lowerChar character = [character] :=
  of_border (P := fun character => lowerChar character = [character])
    (by decide +kernel) h

theorem not_cased_border (h : IsBorder character) :
    cased.contains character = false ∧ caseIgnorable.contains character = false :=
  of_border (P := fun character => cased.contains character = false ∧
    caseIgnorable.contains character = false) (by decide +kernel) h

theorem border_outside_runs : ∀ run ∈ lowerRuns, ∀ code ∈ borderCodes,
    code < run.target ∨ run.target + (run.last - run.first) < code := by
  decide +kernel

theorem image_not_mem_borderCodes {run : CaseRun} (hrun : run ∈ lowerRuns)
    {code image : Nat} (himage : run.image? code = some image) :
    image ∉ borderCodes := by
  intro hmem
  have hborder := border_outside_runs run hrun image hmem
  clear hmem
  unfold CaseRun.image? at himage
  split at himage
  · cases himage
    omega
  · contradiction

theorem toNat_ofNat_cases (code : Nat) :
    (Char.ofNat code).toNat = code ∨ (Char.ofNat code).toNat = 0 := by
  by_cases hvalid : code.isValidChar
  · exact .inl (by rw [Char.ofNat, dif_pos hvalid]; rfl)
  · exact .inr (by rw [Char.ofNat, dif_neg hvalid]; rfl)

theorem not_border_of_mem_lowerChar (h : ¬IsBorder character) {lowered : Char}
    (hmem : lowered ∈ lowerChar character) : ¬IsBorder lowered := by
  by_cases hascii : character.toNat < 0x80
  · have hall : ¬IsBorder character →
        (lowerChar character).all (fun lowered => decide ¬IsBorder lowered) =
          true :=
      of_ascii (P := fun character => ¬IsBorder character →
        (lowerChar character).all (fun lowered => decide ¬IsBorder lowered) = true)
        (by decide +kernel) hascii
    exact of_decide_eq_true (List.all_eq_true.mp (hall h) lowered hmem)
  · rw [lowerChar, if_neg hascii] at hmem
    split at hmem
    · simp only [List.mem_cons, List.not_mem_nil, or_false] at hmem
      rcases hmem with rfl | rfl <;> decide
    · split at hmem
      · rename_i code himage
        obtain ⟨run, hrun, hcode⟩ := List.exists_of_findSome?_eq_some himage
        rw [List.mem_singleton.mp hmem]
        rcases toNat_ofNat_cases code with hsame | hzero
        · rw [IsBorder, hsame]
          exact image_not_mem_borderCodes hrun hcode
        · rw [IsBorder, hzero]
          decide
      · rwa [List.mem_singleton.mp hmem]

theorem lowerChar_ne_nil (character : Char) : lowerChar character ≠ [] := by
  unfold lowerChar
  repeat' split
  all_goals exact List.cons_ne_nil _ _

/-! ## Taking texts apart -/

def lowerList (characters : List Char) : List Char := lowerAfter [] characters

theorem lower_eq_lowerList (text : String) :
    lower text = String.ofList (lowerList text.toList) :=
  rfl

/-- The lower-case form of one character between the texts on its two sides. -/
def lowerBetween (before : List Char) (character : Char)
    (after : List Char) : List Char :=
  if character = '\u03A3' then
    [if nextIsCased before && !nextIsCased after then '\u03C2' else '\u03C3']
  else
    lowerChar character

variable {before after other characters : List Char}

theorem lowerAfter_cons (before : List Char) (character : Char)
    (characters : List Char) :
    lowerAfter before (character :: characters) =
      lowerBetween before character characters ++
      lowerAfter (character :: before) characters :=
  rfl

theorem lowerBetween_border (h : IsBorder character) :
    lowerBetween before character after = [character] := by
  have hsigma : character ≠ '\u03A3' := by
    rintro rfl
    revert h
    decide
  rw [lowerBetween, if_neg hsigma, lowerChar_border h]

theorem not_border_of_mem_lowerBetween (h : ¬IsBorder character) {lowered : Char}
    (hmem : lowered ∈ lowerBetween before character after) : ¬IsBorder lowered := by
  unfold lowerBetween at hmem
  split at hmem
  · split at hmem <;> (rw [List.mem_singleton.mp hmem]; decide)
  · exact not_border_of_mem_lowerChar h hmem

theorem lowerBetween_ne_nil (before : List Char) (character : Char)
    (after : List Char) :
    lowerBetween before character after ≠ [] := by
  unfold lowerBetween
  split
  · exact List.cons_ne_nil _ _
  · exact lowerChar_ne_nil character

theorem nextIsCased_cons (character : Char) (characters : List Char) :
    nextIsCased (character :: characters) =
      if caseIgnorable.contains character then nextIsCased characters
      else cased.contains character := by
  unfold nextIsCased
  rw [List.dropWhile_cons]
  by_cases h : caseIgnorable.contains character = true
  · rw [if_pos h, if_pos h]
  · rw [if_neg h, if_neg h]

theorem nextIsCased_border_cons (h : IsBorder character) (characters : List Char) :
    nextIsCased (character :: characters) = false := by
  obtain ⟨hcased, hignorable⟩ := not_cased_border h
  rw [nextIsCased_cons, hignorable, hcased]
  rfl

theorem nextIsCased_append_border (characters after : List Char)
    (h : IsBorder character) :
    nextIsCased (characters ++ character :: after) = nextIsCased characters := by
  induction characters with
  | nil => exact nextIsCased_border_cons h after
  | cons first characters ih =>
      rw [List.cons_append, nextIsCased_cons, nextIsCased_cons, ih]

theorem lowerBetween_congr (hbefore : nextIsCased before = nextIsCased other)
    (hafter : nextIsCased after = nextIsCased characters) :
    lowerBetween before character after =
      lowerBetween other character characters := by
  rw [lowerBetween, lowerBetween, hbefore, hafter]

theorem lowerAfter_congr (h : nextIsCased before = nextIsCased other)
    (characters : List Char) :
    lowerAfter before characters = lowerAfter other characters := by
  induction characters generalizing before other with
  | nil => rfl
  | cons character characters ih =>
      rw [lowerAfter_cons, lowerAfter_cons, lowerBetween_congr h rfl, ih]
      rw [nextIsCased_cons, nextIsCased_cons, h]

theorem lowerAfter_append_border (before characters after : List Char)
    (h : IsBorder character) :
    lowerAfter before (characters ++ character :: after) =
      lowerAfter before characters ++ character :: lowerList after := by
  induction characters generalizing before with
  | nil =>
      have hstart : lowerAfter (character :: before) after = lowerList after :=
        lowerAfter_congr (nextIsCased_border_cons h before) after
      rw [List.nil_append, lowerAfter_cons, lowerBetween_border h, hstart]
      rfl
  | cons first characters ih =>
      rw [List.cons_append, lowerAfter_cons, lowerAfter_cons, ih, List.append_assoc,
        lowerBetween_congr rfl (nextIsCased_append_border characters after h)]

theorem lowerAfter_border_cons (before : List Char) (h : IsBorder character)
    (characters : List Char) :
    lowerAfter before (character :: characters) =
      character :: lowerList characters :=
  lowerAfter_append_border before [] characters h

theorem lowerList_append_border (characters after : List Char)
    (h : IsBorder character) :
    lowerList (characters ++ character :: after) =
      lowerList characters ++ character :: lowerList after :=
  lowerAfter_append_border [] characters after h

theorem lowerList_border_cons (h : IsBorder character) (rest : List Char) :
    lowerList (character :: rest) = character :: lowerList rest :=
  lowerAfter_border_cons [] h rest

theorem head?_lowerList_border (h : IsBorder character)
    (hhead : (lowerList characters).head? = some character) :
    characters.head? = some character := by
  cases characters with
  | nil => exact hhead
  | cons first rest =>
      by_cases hborder : IsBorder first
      · rwa [lowerList_border_cons hborder] at hhead
      · rw [lowerList, lowerAfter_cons,
          List.head?_append_of_ne_nil _
            (lowerBetween_ne_nil [] first rest)] at hhead
        exact absurd h
          (not_border_of_mem_lowerBetween hborder (List.mem_of_mem_head? hhead))

theorem lowerAfter_eq_nil_iff : lowerAfter before characters = [] ↔
    characters = [] := by
  cases characters with
  | nil => simp [lowerAfter]
  | cons character characters => simp [lowerAfter_cons, lowerBetween_ne_nil]

theorem border_mem_lowerAfter_iff (h : IsBorder character) :
    character ∈ lowerAfter before characters ↔ character ∈ characters := by
  induction characters generalizing before with
  | nil => rfl
  | cons first characters ih =>
      rw [lowerAfter_cons, List.mem_append, ih, List.mem_cons]
      refine or_congr ?_ Iff.rfl
      by_cases hfirst : IsBorder first
      · rw [lowerBetween_border hfirst, List.mem_singleton]
      · constructor
        · exact fun hmem => absurd h (not_border_of_mem_lowerBetween hfirst hmem)
        · rintro rfl
          exact absurd h hfirst

theorem length_lowerAfter (before characters : List Char) :
    (lowerAfter before characters).length =
      (characters.flatMap lowerChar).length := by
  induction characters generalizing before with
  | nil => rfl
  | cons character characters ih =>
      have hlength : (lowerBetween before character characters).length =
          (lowerChar character).length := by
        unfold lowerBetween
        split
        · rename_i hsigma
          have hlower : (lowerChar '\u03A3').length = 1 := by decide
          rw [hsigma, hlower, List.length_singleton]
        · rfl
      rw [lowerAfter_cons, List.length_append, ih, hlength, List.flatMap_cons,
        List.length_append]

/-! ## Parts in lower case -/

theorem lowerList_intercalate (h : IsBorder character) (parts : List (List Char)) :
    lowerList (List.intercalate [character] parts) =
      List.intercalate [character] (parts.map lowerList) := by
  induction parts with
  | nil => rfl
  | cons part parts ih =>
      cases parts with
      | nil => simp
      | cons other parts =>
          rw [List.map_cons, List.map_cons, List.intercalate_cons_cons,
            List.append_assoc, List.singleton_append, lowerList,
            lowerAfter_append_border [] part _ h, ih, List.intercalate_cons_cons,
            List.map_cons, List.append_assoc, List.singleton_append]
          rfl

theorem splitOn_lowerList (h : IsBorder character) (characters : List Char) :
    splitOn character (lowerList characters) =
      (splitOn character characters).map lowerList := by
  have hparts := lowerList_intercalate h (splitOn character characters)
  rw [intercalate_splitOn] at hparts
  rw [hparts, splitOn_intercalate]
  · intro part hpart
    obtain ⟨other, hother, rfl⟩ := List.mem_map.mp hpart
    rw [lowerList, border_mem_lowerAfter_iff h]
    exact not_mem_of_mem_splitOn hother
  · simpa using splitOn_ne_nil character characters

/-! ## Ends -/

theorem isBlank_of_mem_lowerBetween (h : isBlank character = false) {lowered : Char}
    (hmem : lowered ∈ lowerBetween before character after) :
    isBlank lowered = false := by
  by_cases hborder : IsBorder character
  · rw [lowerBetween_border hborder, List.mem_singleton] at hmem
    rwa [hmem]
  · refine eq_false_of_ne_true fun hblank => ?_
    exact not_border_of_mem_lowerBetween hborder hmem (isBorder_of_isBlank hblank)

theorem lowerList_blanks_append (h : AllBlank before) (characters : List Char) :
    lowerList (before ++ characters) = before ++ lowerList characters := by
  induction before with
  | nil => rfl
  | cons first before ih =>
      rw [AllBlank, List.forall_mem_cons] at h
      rw [List.cons_append, lowerList_border_cons (isBorder_of_isBlank h.1), ih h.2,
        List.cons_append]

theorem lowerList_append_blanks (characters : List Char) (h : AllBlank after) :
    lowerList (characters ++ after) = lowerList characters ++ after := by
  cases after with
  | nil => rw [List.append_nil, List.append_nil]
  | cons first after =>
      rw [AllBlank, List.forall_mem_cons] at h
      have hrest := lowerList_blanks_append h.2 []
      rw [List.append_nil] at hrest
      rw [lowerList, lowerAfter_append_border [] characters after
        (isBorder_of_isBlank h.1), hrest]
      exact congrArg (lowerList characters ++ first :: ·) (List.append_nil after)

theorem exists_lowerAfter_concat (before characters : List Char)
    (character : Char) :
    ∃ front other, lowerAfter before (characters ++ [character]) =
      front ++ lowerBetween other character [] := by
  induction characters generalizing before with
  | nil =>
      exact ⟨[], before, by rw [List.nil_append, lowerAfter_cons, lowerAfter]; simp⟩
  | cons first characters ih =>
      obtain ⟨front, other, hfront⟩ := ih (first :: before)
      exact ⟨_, other, by
        rw [List.cons_append, lowerAfter_cons, hfront, ← List.append_assoc]⟩

theorem getLast?_lowerList_border (h : IsBorder character)
    (hlast : (lowerList characters).getLast? = some character) :
    characters.getLast? = some character := by
  rcases List.eq_nil_or_concat characters with rfl | ⟨characters, last, rfl⟩
  · exact hlast
  · rw [List.concat_eq_append] at hlast ⊢
    by_cases hborder : IsBorder last
    · rw [lowerList, lowerAfter_append_border [] characters [] hborder, lowerList,
        lowerAfter, List.getLast?_concat] at hlast
      rw [List.getLast?_concat, hlast]
    · obtain ⟨front, other, hfront⟩ := exists_lowerAfter_concat [] characters last
      rw [lowerList, hfront,
        List.getLast?_append_of_ne_nil _
          (lowerBetween_ne_nil other last [])] at hlast
      exact absurd h
        (not_border_of_mem_lowerBetween hborder (List.mem_of_mem_getLast? hlast))

theorem tight_lowerList (h : Tight characters) : Tight (lowerList characters) where
  head := by
    intro lowered hlowered
    cases characters with
    | nil => contradiction
    | cons first characters =>
        rw [lowerList, lowerAfter_cons,
          List.head?_append_of_ne_nil _
            (lowerBetween_ne_nil [] first characters)] at hlowered
        exact isBlank_of_mem_lowerBetween (h.head first rfl)
          (List.mem_of_mem_head? hlowered)
  last := by
    intro lowered hlowered
    rcases List.eq_nil_or_concat characters with rfl | ⟨characters, last, rfl⟩
    · contradiction
    · rw [List.concat_eq_append] at h hlowered
      obtain ⟨front, other, hfront⟩ := exists_lowerAfter_concat [] characters last
      rw [lowerList, hfront,
        List.getLast?_append_of_ne_nil _
          (lowerBetween_ne_nil other last [])] at hlowered
      exact isBlank_of_mem_lowerBetween (h.last last List.getLast?_concat)
        (List.mem_of_mem_getLast? hlowered)

theorem trimList_lowerList (characters : List Char) :
    trimList (lowerList characters) = lowerList (trimList characters) := by
  obtain ⟨before, after, hcharacters, hbefore, hafter⟩ :=
    exists_blanks_around characters
  have htight := tight_lowerList (tight_trimList characters)
  calc trimList (lowerList characters)
      = trimList (before ++ (lowerList (trimList characters) ++ after)) := by
        rw [← lowerList_append_blanks _ hafter, ← lowerList_blanks_append hbefore,
          ← hcharacters]
    _ = lowerList (trimList characters) := by
        rw [trimList_blanks_append hbefore, trimList_append_blanks _ hafter,
          htight.trimList_eq]

/-! ## Characters below the letters -/

theorem letter_le_target : ∀ run ∈ lowerRuns, 0x61 ≤ run.target := by
  decide +kernel

theorem eq_of_mem_lowerChar {character fixed : Char} (hsmall : fixed.toNat < 0x41)
    (hzero : fixed.toNat ≠ 0) (hmem : fixed ∈ lowerChar character) :
    character = fixed := by
  by_cases hascii : character.toNat < 0x80
  · have hall : (lowerChar character).all (fun lowered =>
        decide (lowered.toNat < 0x41 → character = lowered)) = true :=
      of_ascii (P := fun character => (lowerChar character).all (fun lowered =>
        decide (lowered.toNat < 0x41 → character = lowered)) = true)
          (by decide) hascii
    exact of_decide_eq_true (List.all_eq_true.mp hall fixed hmem) hsmall
  · rw [lowerChar, if_neg hascii] at hmem
    split at hmem
    · simp only [List.mem_cons, List.not_mem_nil, or_false] at hmem
      rcases hmem with rfl | rfl
      · exact absurd hsmall (by decide)
      · exact absurd hsmall (by decide)
    · split at hmem
      · rename_i code himage
        obtain ⟨run, hrun, hcode⟩ := List.exists_of_findSome?_eq_some himage
        have htarget := letter_le_target run hrun
        have hgreat : 0x61 ≤ code := by
          unfold CaseRun.image? at hcode
          split at hcode
          · cases hcode
            omega
          · cases hcode
        rw [List.mem_singleton.mp hmem] at hsmall hzero
        rcases toNat_ofNat_cases code with hsame | hnone <;> omega
      · exact (List.mem_singleton.mp hmem).symm

end EndpointDiscovery.Text
