import EndpointDiscovery.Text.Split
import Mathlib.Data.List.Infix

/-!
# Where a text is cut

A cut at the first occurrence of a separator undoes putting the separator between
two texts, unless the separator already begins before the place where it was put.
-/

namespace EndpointDiscovery.Text

variable {α : Type} [DecidableEq α]

theorem dropStart?_eq_some_iff {start items rest : List α} :
    dropStart? start items = some rest ↔ items = start ++ rest := by
  induction start generalizing items with
  | nil => simp [dropStart?, eq_comm]
  | cons expected start ih =>
      cases items with
      | nil => simp [dropStart?]
      | cons item items =>
          by_cases h : expected = item
          · simp [dropStart?, h, ih]
          · simp [dropStart?, h, Ne.symm h]

theorem dropStart?_eq_none_iff {start items : List α} :
    dropStart? start items = none ↔ ¬start <+: items := by
  rw [Option.eq_none_iff_forall_ne_some]
  constructor
  · rintro h ⟨rest, rfl⟩
    exact h rest (dropStart?_eq_some_iff.mpr rfl)
  · intro h rest hrest
    exact h ⟨rest, (dropStart?_eq_some_iff.mp hrest).symm⟩

theorem occurs_iff_infix {separator items : List α} :
    occurs separator items = true ↔ separator <:+: items := by
  induction items with
  | nil =>
      cases separator <;> simp [occurs, cutFirst, dropStart?]
  | cons item items ih =>
      rw [List.infix_cons_iff, ← ih, occurs, cutFirst]
      cases hdrop : dropStart? separator (item :: items) with
      | none =>
          have hnot := dropStart?_eq_none_iff.mp hdrop
          simp [hnot, occurs]
      | some rest =>
          have hstart : separator <+: item :: items :=
            ⟨rest, (dropStart?_eq_some_iff.mp hdrop).symm⟩
          simp [hstart]

omit [DecidableEq α] in
theorem isPrefix_append_iff (separator after : List α) {before : List α}
    (hbefore : before ≠ []) :
    separator <+: before ++ (separator ++ after) ↔
      separator <+: before ++ separator.dropLast := by
  have hlength := List.length_pos_iff.mpr hbefore
  have hstart : before ++ separator.dropLast <+:
      before ++ (separator ++ after) := by
    rw [List.prefix_append_right_inj]
    exact (List.dropLast_prefix separator).trans
      (List.prefix_append separator after)
  constructor
  · intro h
    refine List.prefix_of_prefix_length_le h hstart ?_
    rw [List.length_append, List.length_dropLast]
    omega
  · exact fun h => h.trans hstart

theorem cutFirst_append_iff {separator : List α} (before after : List α)
    (hne : separator ≠ []) :
    cutFirst separator (before ++ (separator ++ after)) = some (before, after) ↔
      ¬separator <:+: before ++ separator.dropLast := by
  induction before with
  | nil =>
      have hshort : ¬separator <:+: separator.dropLast := by
        intro h
        have hlength := h.length_le
        have hpos := List.length_pos_iff.mpr hne
        rw [List.length_dropLast] at hlength
        omega
      obtain ⟨first, rest, rfl⟩ := List.exists_cons_of_ne_nil hne
      have hdrop :
          dropStart? (first :: rest) (first :: (rest ++ after)) = some after :=
        dropStart?_eq_some_iff.mpr rfl
      simpa [cutFirst, hdrop] using hshort
  | cons item before ih =>
      have hhead :=
        isPrefix_append_iff separator after (List.cons_ne_nil item before)
      simp only [List.cons_append] at hhead ⊢
      rw [List.infix_cons_iff, ← hhead, cutFirst]
      cases hdrop :
          dropStart? separator (item :: (before ++ (separator ++ after))) with
      | none =>
          have hnot := dropStart?_eq_none_iff.mp hdrop
          simp only [hnot, false_or, ← ih, Option.map_eq_some_iff, Prod.mk.injEq]
          constructor
          · rintro ⟨⟨found, rest⟩, hcut, hitem, rfl⟩
            cases hitem
            exact hcut
          · intro hcut
            exact ⟨(before, after), hcut, rfl, rfl⟩
      | some rest =>
          have hstart : separator <+: item :: (before ++ (separator ++ after)) :=
            ⟨rest, (dropStart?_eq_some_iff.mp hdrop).symm⟩
          simp [hstart]

theorem eq_append_of_cutFirst {separator items before after : List α}
    (h : cutFirst separator items = some (before, after)) :
    items = before ++ (separator ++ after) := by
  induction items generalizing before after with
  | nil =>
      obtain ⟨rest, hrest, heq⟩ := Option.map_eq_some_iff.mp h
      cases heq
      rw [List.nil_append]
      exact dropStart?_eq_some_iff.mp hrest
  | cons item items ih =>
      rw [cutFirst] at h
      cases hdrop : dropStart? separator (item :: items) with
      | none =>
          rw [hdrop] at h
          obtain ⟨⟨found, rest⟩, hcut, heq⟩ := Option.map_eq_some_iff.mp h
          cases heq
          rw [ih hcut, List.cons_append]
      | some rest =>
          rw [hdrop] at h
          cases h
          rw [List.nil_append]
          exact dropStart?_eq_some_iff.mp hdrop

theorem cutFirst_eq_some_iff {separator items before after : List α}
    (hne : separator ≠ []) :
    cutFirst separator items = some (before, after) ↔
      items = before ++ (separator ++ after) ∧
      ¬separator <:+: before ++ separator.dropLast := by
  constructor
  · intro h
    have hitems := eq_append_of_cutFirst h
    rw [hitems, cutFirst_append_iff before after hne] at h
    exact ⟨hitems, h⟩
  · rintro ⟨rfl, hfirst⟩
    exact (cutFirst_append_iff before after hne).mpr hfirst

omit [DecidableEq α] in
theorem infix_dropLast_iff {separator : List α} (before after : List α)
    (hne : separator ≠ []) :
    separator <:+: before ++ separator.dropLast ↔
      ∃ front back, before ++ (separator ++ after) = front ++ (separator ++ back) ∧
        front.length < before.length := by
  have hpos := List.length_pos_iff.mpr hne
  have hfull : before ++ (separator ++ after) =
      before ++ separator.dropLast ++ (separator.getLast hne :: after) := by
    rw [List.append_assoc, ← List.singleton_append,
      ← List.append_assoc separator.dropLast, List.dropLast_concat_getLast]
  constructor
  · rintro ⟨front, back, heq⟩
    refine ⟨front, back ++ (separator.getLast hne :: after), ?_, ?_⟩
    · rw [hfull, ← heq, List.append_assoc, List.append_assoc]
    · have hlength := congrArg List.length heq
      rw [List.length_append, List.length_append, List.length_append,
        List.length_dropLast] at hlength
      omega
  · rintro ⟨front, back, heq, hshort⟩
    have hfront : front ++ separator <+: before ++ (separator ++ after) := by
      rw [heq, ← List.append_assoc]
      exact List.prefix_append _ _
    have hwhole : before ++ separator.dropLast <+:
        before ++ (separator ++ after) := by
      rw [hfull]
      exact List.prefix_append _ _
    have hprefix := List.prefix_of_prefix_length_le hfront hwhole (by
      rw [List.length_append, List.length_append, List.length_dropLast]
      omega)
    exact (List.suffix_append front separator).isInfix.trans hprefix.isInfix

theorem cutFirst_eq_some_iff_least {separator items before after : List α}
    (hne : separator ≠ []) :
    cutFirst separator items = some (before, after) ↔
      items = before ++ (separator ++ after) ∧
        ∀ front back, items = front ++ (separator ++ back) →
          before.length ≤ front.length := by
  rw [cutFirst_eq_some_iff hne]
  refine and_congr_right ?_
  rintro rfl
  rw [infix_dropLast_iff before after hne]
  constructor
  · intro h front back heq
    by_contra hshort
    exact h ⟨front, back, heq, Nat.lt_of_not_le hshort⟩
  · rintro h ⟨front, back, heq, hshort⟩
    exact absurd (h front back heq) (Nat.not_le_of_lt hshort)

theorem cutLast_eq_some_iff {separator items before after : List α}
    (hne : separator ≠ []) :
    cutLast separator items = some (before, after) ↔
      items = before ++ (separator ++ after) ∧
      ¬separator <:+: separator.tail ++ after := by
  have hreverse : separator.reverse ≠ [] := mt List.reverse_eq_nil_iff.mp hne
  have hcut : cutLast separator items = some (before, after) ↔
      cutFirst separator.reverse items.reverse =
        some (after.reverse, before.reverse) := by
    rw [cutLast, Option.map_eq_some_iff]
    constructor
    · rintro ⟨⟨late, early⟩, hfound, heq⟩
      cases heq
      rw [hfound, List.reverse_reverse, List.reverse_reverse]
    · intro hfound
      exact ⟨_, hfound, by simp⟩
  have hitems :
      items.reverse = after.reverse ++ (separator.reverse ++ before.reverse) ↔
      items = before ++ (separator ++ after) := by
    rw [← List.reverse_append, ← List.reverse_append, List.reverse_inj,
      List.append_assoc]
  have htail : after.reverse ++ separator.reverse.dropLast =
      (separator.tail ++ after).reverse := by
    rw [List.reverse_append, List.dropLast_reverse]
  rw [hcut, cutFirst_eq_some_iff hreverse, hitems, htail, List.reverse_infix]

omit [DecidableEq α] in
theorem append_cons_injective {separator : α} {before other after rest : List α}
    (hbefore : separator ∉ before) (hother : separator ∉ other)
    (h : before ++ separator :: after = other ++ separator :: rest) :
    before = other ∧ after = rest := by
  rcases List.append_eq_append_iff.mp h with
    ⟨between, rfl, hafter⟩ | ⟨between, rfl, hafter⟩
  all_goals
    cases between with
    | nil => simp_all
    | cons first between =>
        obtain ⟨rfl, -⟩ := List.cons.inj hafter
        simp at hbefore hother

end EndpointDiscovery.Text
