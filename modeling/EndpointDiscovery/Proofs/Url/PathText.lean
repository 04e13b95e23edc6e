import EndpointDiscovery.Proofs.Text.Parts
import EndpointDiscovery.Proofs.Url.EscapedText
import Mathlib.Data.List.Infix

/-!
# Texts of paths

A path is read from its text as the segments that it was written from, unless one of
them is a dot segment.  A path that was read has none, and stays free of them when
other segments are put after it.
-/

namespace EndpointDiscovery.Url

variable {isFile isLast : Bool} {path new items : List String} {segment : String}
  {body : List Char}

/-! ## Segments -/

structure IsSegment (segment : String) : Prop where
  noSlash : '/' ∉ segment.toList
  escaped : ∀ character ∈ segment.toList, pathSet character = false
  notSingle : isSingleDot segment = false
  notDouble : isDoubleDot segment = false

theorem isSegment_empty : IsSegment "" :=
  ⟨by decide, by simp, by decide, by decide⟩

theorem isSegment_drive {letter : Char} (h : isLetter letter = true) :
    IsSegment (String.ofList [letter] ++ ":") := by
  have hascii := ascii_of_isPartChar (isPartChar_iff.mpr (.inl h))
  have hplain : letter ≠ '/' ∧ pathSet letter = false ∧
      isSingleDot (String.ofList [letter] ++ ":") = false ∧
      isDoubleDot (String.ofList [letter] ++ ":") = false :=
    Text.of_ascii (P := fun letter => isLetter letter = true → letter ≠ '/' ∧
      pathSet letter = false ∧ isSingleDot (String.ofList [letter] ++ ":") = false ∧
      isDoubleDot (String.ofList [letter] ++ ":") = false)
        (by decide +kernel) hascii h
  obtain ⟨hslash, hescaped, hsingle, hdouble⟩ := hplain
  have hcolon : pathSet ':' = false := by decide
  refine ⟨?_, ?_, hsingle, hdouble⟩
  · simpa using Ne.symm hslash
  · simp [hescaped, hcolon]

theorem forall_mem_pushSegment (hpath : ∀ item ∈ path, IsSegment item)
    (hslash : '/' ∉ segment.toList)
    (hescaped : ∀ character ∈ segment.toList, pathSet character = false) :
    ∀ item ∈ pushSegment isFile isLast path segment, IsSegment item := by
  have hclosed : ∀ {path : List String}, (∀ item ∈ path, IsSegment item) →
      ∀ item ∈ (if isLast then path ++ [""] else path), IsSegment item := by
    intro path hpath
    split
    · simpa [List.forall_mem_append, or_imp, forall_and]
        using ⟨hpath, isSegment_empty⟩
    · exact hpath
  have hshorten : ∀ item ∈ shorten isFile path, IsSegment item := by
    unfold shorten
    split
    · split
      · exact hpath
      · simp
    · exact fun item hmem => hpath item (List.mem_of_mem_dropLast hmem)
  unfold pushSegment
  dsimp only
  split
  · exact hclosed hshorten
  · rename_i hdouble
    split
    · exact hclosed hpath
    · rename_i hsingle
      split
      · rename_i hdrive
        simp only [Bool.and_eq_true] at hdrive
        rw [List.forall_mem_singleton]
        unfold isDriveLetter at hdrive
        split at hdrive
        · rename_i letter mark heq
          rw [heq]
          exact isSegment_drive (Bool.and_eq_true_iff.mp hdrive.2).1
        · simp at hdrive
      · have hsegment : IsSegment segment :=
          ⟨hslash, hescaped, Bool.eq_false_iff.mpr hsingle,
            Bool.eq_false_iff.mpr hdouble⟩
        simpa [or_imp, forall_and] using ⟨hpath, hsegment⟩

theorem forall_mem_pushSegments {parts : List String}
    (hpath : ∀ item ∈ path, IsSegment item)
    (hparts : ∀ part ∈ parts, '/' ∉ part.toList ∧
      ∀ character ∈ part.toList, pathSet character = false) :
    ∀ item ∈ pushSegments isFile path parts, IsSegment item := by
  induction path, parts using pushSegments.induct isFile with
  | case1 path => exact hpath
  | case2 path part =>
      obtain ⟨hslash, hescaped⟩ := hparts part List.mem_cons_self
      exact forall_mem_pushSegment hpath hslash hescaped
  | case3 path part rest hne ih =>
      rw [List.forall_mem_cons] at hparts
      rw [pushSegments]
      · exact ih (forall_mem_pushSegment hpath hparts.1.1 hparts.1.2) hparts.2
      · exact hne

theorem isSegment_of_mem_segments :
    ∀ item ∈ segments isFile body, IsSegment item := by
  refine forall_mem_pushSegments (by simp) fun part hpart => ?_
  obtain ⟨characters, hcharacters, rfl⟩ := List.mem_map.mp hpart
  refine ⟨fun hmem => ?_, fun character hmem =>
    not_set_of_mem_escape (by decide) hmem⟩
  rcases mem_escape hmem with ⟨hslash, -⟩ | hescape
  · exact Text.not_mem_of_mem_splitOn hcharacters hslash
  · exact absurd hescape (by decide)

theorem dropLeadingEmpty_suffix (path : List String) :
    dropLeadingEmpty path <:+ path := by
  induction path using dropLeadingEmpty.induct with
  | case1 segment rest ih =>
      rw [dropLeadingEmpty]
      exact ih.trans (List.suffix_cons _ _)
  | case2 path hne =>
      rw [dropLeadingEmpty]
      exact hne

theorem head?_dropLeadingEmpty (h : (dropLeadingEmpty path).head? = some "") :
    dropLeadingEmpty path = [""] := by
  induction path using dropLeadingEmpty.induct with
  | case1 segment rest ih =>
      rw [dropLeadingEmpty] at h ⊢
      exact ih h
  | case2 path hne =>
      rw [dropLeadingEmpty] at h ⊢
      · match path, hne, h with
        | [_], _, h => rw [Option.some.inj h]
        | _ :: second :: rest, hne, h =>
            exact (hne second rest (by rw [Option.some.inj h])).elim
      · exact hne
      · exact hne

theorem dropLeadingEmpty_eq_self (h : path.head? ≠ some "") :
    dropLeadingEmpty path = path := by
  rw [dropLeadingEmpty]
  rintro segment rest rfl
  exact h rfl

/-! ## Reading segments -/

/-- A segment that is read as it is, also where a drive may be named. -/
structure IsPlainSegment (segment : String) : Prop extends IsSegment segment where
  noBar : '|' ∉ segment.toList

theorem pushSegment_eq_append (h : IsPlainSegment segment) :
    pushSegment isFile isLast path segment = path ++ [segment] := by
  unfold pushSegment
  simp only [h.notDouble, h.notSingle, Bool.false_eq_true, if_false]
  split
  · -- A drive is written with a colon already.
    rename_i hdrive
    simp only [Bool.and_eq_true, List.isEmpty_iff] at hdrive
    obtain ⟨⟨-, rfl⟩, hdrive⟩ := hdrive
    unfold isDriveLetter at hdrive
    split at hdrive
    · rename_i letter mark heq
      have hbar := h.noBar
      rw [heq] at hbar
      have hmark : mark = ':' := by
        simp only [Bool.and_eq_true, Bool.or_eq_true, decide_eq_true_eq] at hdrive
        rcases hdrive.2 with hcolon | rfl
        · exact hcolon
        · simp at hbar
      have hsegment : String.ofList [letter] ++ ":" = segment := by
        rw [← String.toList_inj, heq, hmark, String.toList_append,
          String.toList_ofList]
        rfl
      rw [heq, List.nil_append, List.take_succ_cons, List.take_zero, hsegment]
    · cases hdrive
  · rfl

theorem pushSegments_eq_append (h : ∀ segment ∈ new, IsPlainSegment segment) :
    pushSegments isFile path new = path ++ new := by
  induction path, new using pushSegments.induct isFile with
  | case1 path => rw [pushSegments, List.append_nil]
  | case2 path segment =>
      rw [pushSegments, pushSegment_eq_append (h segment List.mem_cons_self)]
  | case3 path segment rest hne ih =>
      rw [List.forall_mem_cons] at h
      rw [pushSegments]
      · rw [ih h.2, pushSegment_eq_append h.1, List.append_assoc]
        rfl
      · exact hne

/-! ## Texts -/

def slashed (items : List String) : List Char :=
  items.flatMap fun item => '/' :: item.toList

theorem toList_join_slash (items : List String) :
    (String.join (items.map ("/" ++ ·))).toList = slashed items := by
  simp [slashed, String.toList_join, List.flatMap_map]

theorem slashed_append (first second : List String) :
    slashed (first ++ second) = slashed first ++ slashed second :=
  List.flatMap_append

theorem slashed_cons (first : String) (rest : List String) :
    slashed (first :: rest) =
      '/' :: List.intercalate ['/'] ((first :: rest).map String.toList) := by
  induction rest generalizing first with
  | nil => simp [slashed]
  | cons second rest ih =>
      rw [← List.singleton_append, slashed_append, ih second]
      simp [slashed]

theorem splitOn_afterSlash_slashed (hslash : ∀ item ∈ items, '/' ∉ item.toList)
    (hne : items ≠ []) :
    Text.splitOn '/' (afterSlash (slashed items)) = items.map String.toList := by
  obtain ⟨first, rest, rfl⟩ := List.exists_cons_of_ne_nil hne
  rw [slashed_cons, afterSlash]
  refine Text.splitOn_intercalate ?_ (by simp)
  simpa using hslash

theorem map_escape_toList (h : ∀ item ∈ items, IsPlainSegment item) :
    (items.map String.toList).map (escape pathSet) = items := by
  rw [List.map_map]
  refine (List.map_congr_left fun item hmem => ?_).trans (List.map_id items)
  rw [Function.comp_apply, escape_eq_self (h item hmem).escaped,
    String.ofList_toList]
  rfl

theorem segments_afterSlash_slashed (h : ∀ item ∈ items, IsPlainSegment item)
    (hne : items ≠ []) :
    segments isFile (afterSlash (slashed items)) = items := by
  rw [segments,
    splitOn_afterSlash_slashed (fun item hmem => (h item hmem).noSlash) hne,
    map_escape_toList h, pushSegments_eq_append h, List.nil_append]

theorem segments_dot_slashed (h : ∀ item ∈ items, IsPlainSegment item)
    (hne : items ≠ []) :
    segments isFile ('.' :: slashed items) = items := by
  have hsplit :=
    splitOn_afterSlash_slashed (fun item hmem => (h item hmem).noSlash) hne
  have hescape := map_escape_toList h
  have hdot : pushSegment isFile false [] "." = [] := by cases isFile <;> decide
  have hpush : pushSegments isFile [] items = [] ++ items :=
    pushSegments_eq_append h
  obtain ⟨first, rest, rfl⟩ := List.exists_cons_of_ne_nil hne
  rw [slashed_cons] at hsplit ⊢
  have hparts := Text.splitOn_append_cons '/' ['.']
    (List.intercalate ['/'] ((first :: rest).map String.toList))
  rw [List.singleton_append] at hparts
  rw [afterSlash] at hsplit
  rw [segments, hparts, hsplit, List.map_append, hescape]
  change pushSegments isFile [] ("." :: first :: rest) = _
  rw [pushSegments, hdot, hpush, List.nil_append]
  simp

/-! ## Stems -/

def unclosed (items : List String) : List String :=
  if items.getLast? = some "" then items.dropLast else items

/-- The segments that stay where others are put after them. -/
def kept (hasHost : Bool) (items : List String) : List String :=
  if hasHost && unclosed items = [""] then [] else unclosed items

theorem prefix_pathStem (text : List Char) : pathStem text <+: text := by
  have hshort :
      (if text.getLast? = some '/' then text.dropLast else text) <+: text := by
    split
    · exact List.dropLast_prefix text
    · exact List.prefix_rfl
  unfold pathStem
  generalize (if text.getLast? = some '/' then text.dropLast else text) =
    short at hshort ⊢
  dsimp only
  split
  · exact List.nil_prefix
  · split
    · exact List.nil_prefix
    · exact hshort

theorem slashed_eq_root_iff : slashed items = ['/'] ↔ items = [""] := by
  constructor
  · intro h
    match items, h with
    | first :: rest, h =>
        simp only [slashed, List.flatMap_cons, List.cons_append, List.cons.injEq,
          true_and, List.append_eq_nil_iff, String.toList_eq_nil_iff] at h
        obtain ⟨rfl, hrest⟩ := h
        cases rest with
        | nil => rfl
        | cons second rest => simp at hrest
  · rintro rfl
    rfl

theorem slashed_eq_nil_iff : slashed items = [] ↔ items = [] := by
  cases items <;> simp [slashed]

theorem slashed_concat (front : List String) (last : String) :
    slashed (front ++ [last]) = slashed front ++ '/' :: last.toList := by
  rw [slashed_append]
  simp [slashed]

theorem pathStem_of_not_slash {text : List Char} (hne : text ≠ [])
    (h : text.getLast? ≠ some '/') :
    pathStem text = text := by
  have hroot : text ≠ ['/'] := by
    rintro rfl
    exact h rfl
  simp [pathStem, hne, hroot, h]

theorem pathStem_concat_slash {text : List Char} (hne : text ≠ []) :
    pathStem (text ++ ['/']) = if text = ['/'] then [] else text := by
  simp [pathStem, hne]

theorem head?_pathStem {text : List Char} (hne : text ≠ [])
    (hroot : text.head? ≠ some '/') :
    (pathStem text).head? = text.head? ∧ pathStem text ≠ [] := by
  obtain ⟨short, last, rfl⟩ := (List.eq_nil_or_concat' text).resolve_left hne
  by_cases hlast : last = '/'
  · subst hlast
    have hshort : short ≠ [] := by
      rintro rfl
      exact hroot rfl
    rw [List.head?_append_of_ne_nil _ hshort] at hroot ⊢
    have hslash : short ≠ ['/'] := by
      rintro rfl
      exact hroot rfl
    rw [pathStem_concat_slash hshort, if_neg hslash]
    exact ⟨rfl, hshort⟩
  · rw [pathStem_of_not_slash hne (by simpa using hlast)]
    exact ⟨rfl, hne⟩

theorem getLast?_append_slashed_concat (front : List Char) {last : String}
    (hlast : last ≠ "") (hslash : '/' ∉ last.toList) :
    (front ++ '/' :: last.toList).getLast? ≠ some '/' := by
  have hne : last.toList ≠ [] := mt String.toList_eq_nil_iff.mp hlast
  rw [List.getLast?_append_of_ne_nil _ (List.cons_ne_nil _ _),
    List.getLast?_cons_of_ne_nil hne]
  exact fun h => hslash (List.mem_of_getLast? h)

theorem pathStem_slashed (hslash : ∀ item ∈ items, '/' ∉ item.toList) :
    pathStem (slashed items) = slashed (kept true items) := by
  rcases List.eq_nil_or_concat' items with rfl | ⟨front, last, rfl⟩
  · rfl
  by_cases hlast : last = ""
  · subst hlast
    by_cases hfront : front = []
    · subst hfront
      rfl
    · have hne : slashed front ≠ [] := mt slashed_eq_nil_iff.mp hfront
      rw [slashed_concat, String.toList_empty, pathStem_concat_slash hne]
      simp only [slashed_eq_root_iff, kept, unclosed, List.getLast?_concat, if_true,
        List.dropLast_concat, Bool.true_and, decide_eq_true_eq]
      split <;> rfl
  · have hkept : kept true (front ++ [last]) = front ++ [last] := by
      simp [kept, unclosed, hlast, List.append_eq_singleton_iff]
    rw [hkept, slashed_concat]
    exact pathStem_of_not_slash (by simp) (getLast?_append_slashed_concat _ hlast
      (hslash last (by simp)))

theorem pathStem_dot_slashed (hslash : ∀ item ∈ items, '/' ∉ item.toList)
    (hne : items ≠ []) :
    pathStem (['/', '.'] ++ slashed items) =
      ['/', '.'] ++ slashed (kept false items) := by
  obtain ⟨front, last, rfl⟩ := (List.eq_nil_or_concat' items).resolve_left hne
  by_cases hlast : last = ""
  · subst hlast
    rw [slashed_concat, String.toList_empty, ← List.append_assoc,
      pathStem_concat_slash (by simp)]
    simp [kept, unclosed]
  · have hkept : kept false (front ++ [last]) = front ++ [last] := by
      simp [kept, unclosed, hlast]
    rw [hkept, slashed_concat, ← List.append_assoc]
    exact pathStem_of_not_slash (by simp) (getLast?_append_slashed_concat _ hlast
      (hslash last (by simp)))

theorem prefix_unclosed (items : List String) : unclosed items <+: items := by
  unfold unclosed
  split
  · exact List.dropLast_prefix items
  · exact List.prefix_rfl

theorem prefix_kept (hasHost : Bool) (items : List String) :
    kept hasHost items <+: items := by
  unfold kept
  split
  · exact List.nil_prefix
  · exact prefix_unclosed items

def beginsEmpty (items : List String) : Bool :=
  items.head? = some "" && 1 < items.length

theorem eq_of_not_beginsEmpty (h : beginsEmpty items = false)
    (hhead : items.head? = some "") :
    items = [""] := by
  match items, h, hhead with
  | [_], _, hhead => rw [Option.some.inj hhead]
  | _ :: _ :: _, h, hhead => simp [beginsEmpty, hhead] at h

theorem kept_eq_of_not_beginsEmpty (h : beginsEmpty items = false) :
    kept true items = kept false items := by
  have hroot : unclosed items ≠ [""] := by
    intro hroot
    obtain ⟨rest, hrest⟩ := prefix_unclosed items
    have hhead : items.head? = some "" := by
      rw [← hrest, hroot]
      rfl
    rw [eq_of_not_beginsEmpty h hhead] at hroot
    cases hroot
  simp [kept, hroot]

theorem head?_ne_empty_of_not_beginsEmpty {hasHost : Bool}
    (h : beginsEmpty items = false) (hkept : kept hasHost items ≠ []) :
    items.head? ≠ some "" := by
  intro hhead
  rw [eq_of_not_beginsEmpty h hhead] at hkept
  exact hkept (by cases hasHost <;> rfl)

theorem head?_of_kept_eq_nil {hasHost : Bool} (h : kept hasHost items = []) :
    items.head? = none ∨ items.head? = some "" := by
  unfold kept at h
  split at h
  · rename_i hroot
    simp only [Bool.and_eq_true, decide_eq_true_eq] at hroot
    obtain ⟨rest, hrest⟩ := prefix_unclosed items
    rw [← hrest, hroot.2]
    exact .inr rfl
  · unfold unclosed at h
    split at h
    · rename_i hlast
      match items, h with
      | [], _ => exact .inl rfl
      | [only], _ => exact .inr hlast
    · rw [h]
      exact .inl rfl

theorem head?_kept_append {hasHost : Bool} (hne : kept hasHost items ≠ [])
    (new : List String) :
    (kept hasHost items ++ new).head? = items.head? := by
  obtain ⟨rest, hrest⟩ := prefix_kept hasHost items
  have hhead := congrArg List.head? hrest
  rw [List.head?_append_of_ne_nil _ hne] at hhead ⊢
  exact hhead

/-! ## Suffixes -/

/-- Segments that can be put after every path. -/
structure IsSuffix (new : List String) : Prop where
  plain : ∀ segment ∈ new, IsPlainSegment segment
  chars : ∀ segment ∈ new, ∀ character ∈ segment.toList, isPartChar character = true
  first : ∃ first rest, new = first :: rest ∧ 2 < first.toList.length

theorem IsSuffix.ne_nil (h : IsSuffix new) : new ≠ [] := by
  obtain ⟨first, rest, rfl, -⟩ := h.first
  exact List.cons_ne_nil first rest

theorem IsSuffix.head?_ne_empty (h : IsSuffix new) : new.head? ≠ some "" := by
  obtain ⟨first, rest, rfl, hlong⟩ := h.first
  rintro ⟨⟩
  cases hlong

theorem IsSuffix.drive_kept_append (h : IsSuffix new) (hasHost : Bool)
    (items : List String) :
    (kept hasHost items ++ new).head?.any (isDriveLetter ·.toList) =
      items.head?.any (isDriveLetter ·.toList) := by
  by_cases hkept : kept hasHost items = []
  · obtain ⟨first, rest, rfl, hlong⟩ := h.first
    have hdrive : isDriveLetter first.toList = false := by
      unfold isDriveLetter
      split
      · rename_i heq
        rw [heq] at hlong
        exact absurd hlong (by simp)
      · rfl
    rw [hkept, List.nil_append, List.head?_cons, Option.any_some, hdrive]
    rcases head?_of_kept_eq_nil hkept with hhead | hhead
    · rw [hhead]
      rfl
    · rw [hhead]
      rfl
  · rw [head?_kept_append hkept]

theorem IsSuffix.head?_kept_append_ne_empty (h : IsSuffix new) {hasHost : Bool}
    (hfirst : kept hasHost items ≠ [] → items.head? ≠ some "") :
    (kept hasHost items ++ new).head? ≠ some "" := by
  by_cases hkept : kept hasHost items = []
  · rw [hkept]
    exact h.head?_ne_empty
  · rw [head?_kept_append hkept]
    exact hfirst hkept

theorem IsSuffix.beginsEmpty_kept_append (h : IsSuffix new) (items : List String) :
    beginsEmpty (kept false items ++ new) = beginsEmpty items := by
  cases hbegins : beginsEmpty items with
  | false =>
      have hhead : (kept false items ++ new).head? ≠ some "" :=
        h.head?_kept_append_ne_empty (head?_ne_empty_of_not_beginsEmpty hbegins)
      rw [beginsEmpty, decide_eq_false hhead, Bool.false_and]
  | true =>
      simp only [beginsEmpty, Bool.and_eq_true, decide_eq_true_eq] at hbegins
      obtain ⟨hhead, hlength⟩ := hbegins
      have hkept : kept false items ≠ [] := by
        intro hnil
        simp only [kept, Bool.false_and, Bool.false_eq_true, if_false,
          unclosed] at hnil
        split at hnil
        · have hshort := congrArg List.length hnil
          rw [List.length_dropLast, List.length_nil] at hshort
          omega
        · rw [hnil] at hlength
          cases hlength
      have hlong := List.length_pos_iff.mpr hkept
      have hnew := List.length_pos_iff.mpr h.ne_nil
      simp only [beginsEmpty, head?_kept_append hkept, hhead, List.length_append,
        decide_true, Bool.true_and, decide_eq_true_eq]
      omega

theorem IsSuffix.forall_kept_append (h : IsSuffix new)
    (hitems : ∀ item ∈ items, IsPlainSegment item) (hasHost : Bool) :
    ∀ item ∈ kept hasHost items ++ new, IsPlainSegment item := by
  intro item hmem
  rcases List.mem_append.mp hmem with hmem | hmem
  · exact hitems item ((prefix_kept hasHost items).subset hmem)
  · exact h.plain item hmem

theorem mem_slashed {character : Char} (h : character ∈ slashed items) :
    character = '/' ∨ ∃ item ∈ items, character ∈ item.toList := by
  obtain ⟨item, hitem, hmem⟩ := List.mem_flatMap.mp h
  rcases List.mem_cons.mp hmem with rfl | hmem
  · exact .inl rfl
  · exact .inr ⟨item, hitem, hmem⟩

theorem controlSet_of_pathSet {character : Char} (h : pathSet character = false) :
    controlSet character = false := by
  simp only [pathSet, fragmentSet, Bool.or_eq_false_iff] at h
  exact h.1.1

theorem IsSuffix.not_control (h : IsSuffix new) {character : Char}
    (hmem : character ∈ slashed new) : controlSet character = false := by
  rcases mem_slashed hmem with rfl | ⟨segment, hsegment, hmem⟩
  · decide
  · exact controlSet_of_pathSet ((h.plain segment hsegment).escaped character hmem)

theorem IsSuffix.isPartChar (h : IsSuffix new) {character : Char}
    (hmem : character ∈ slashed new) : isPartChar character = true := by
  rcases mem_slashed hmem with rfl | ⟨segment, hsegment, hmem⟩
  · decide
  · exact h.chars segment hsegment character hmem

end EndpointDiscovery.Url
