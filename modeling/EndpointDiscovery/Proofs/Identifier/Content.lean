import EndpointDiscovery.Proofs.Identifier.NormalForm
import Std.Data.HashSet.Lemmas

/-!
# Content of identifiers

Comparison, equality and hashing take the same three parts of an identifier, and the
hashed bytes can be taken apart into them again: the kind has eight bytes, and no
text holds the byte that ends it.  So a hash set holds the first identifier of every
content class, whatever its hash function.
-/

namespace EndpointDiscovery

namespace Identifier

variable {left right : Identifier}

/-! ## Comparison -/

theorem sameContent_iff : left.sameContent right = true ↔
    left.kind = right.kind ∧ left.scheme = right.scheme ∧
      left.normalizedValue = right.normalizedValue := by
  simp [sameContent, and_assoc]

theorem sameContent_refl (identifier : Identifier) :
    identifier.sameContent identifier = true :=
  sameContent_iff.mpr ⟨rfl, rfl, rfl⟩

theorem sameContent_comm (left right : Identifier) :
    left.sameContent right = right.sameContent left := by
  rw [Bool.eq_iff_iff, sameContent_iff, sameContent_iff]
  simp only [eq_comm]

theorem sameContent_left (h : left.sameContent right = true)
    (identifier : Identifier) :
    left.sameContent identifier = right.sameContent identifier := by
  obtain ⟨hkind, hscheme, hvalue⟩ := sameContent_iff.mp h
  rw [sameContent, sameContent, hkind, hscheme, hvalue]

theorem sameContent_right (h : left.sameContent right = true)
    (identifier : Identifier) :
    identifier.sameContent left = identifier.sameContent right := by
  rw [sameContent_comm, sameContent_left h, sameContent_comm]

theorem equivalence_sameContent :
    Equivalence fun left right : Identifier => left.sameContent right = true where
  refl := sameContent_refl
  symm h := by rwa [sameContent_comm]
  trans h hnext := by rwa [sameContent_left h]

instance : EquivBEq Identifier where
  rfl := sameContent_refl _
  symm := equivalence_sameContent.symm
  trans := equivalence_sameContent.trans

/-! ## Hashing -/

theorem length_wordBytes (number : Nat) : (wordBytes number).length = 8 := by
  simp [wordBytes]

theorem wordBytes_index_injective {kind other : IdentifierKind}
    (h : wordBytes kind.index = wordBytes other.index) : kind = other := by
  cases kind <;> cases other <;> first | rfl | exact absurd h (by decide)

theorem hashInput_eq (identifier : Identifier) : identifier.hashInput =
    wordBytes identifier.kind.index ++ (Text.Utf8.encodeString identifier.scheme ++
      0xFF :: (Text.Utf8.encodeString identifier.normalizedValue ++ [0xFF])) := by
  simp [hashInput]

theorem hashInput_eq_iff : left.hashInput = right.hashInput ↔
    left.sameContent right = true := by
  rw [sameContent_iff]
  constructor
  · intro h
    rw [hashInput_eq, hashInput_eq] at h
    obtain ⟨hkind, htexts⟩ := List.append_inj h (by simp only [length_wordBytes])
    obtain ⟨hscheme, hvalue⟩ :=
      Text.append_cons_injective (Text.Utf8.end_not_mem_encode _)
        (Text.Utf8.end_not_mem_encode _) htexts
    exact ⟨wordBytes_index_injective hkind,
      Text.Utf8.encodeString_injective hscheme,
      Text.Utf8.encodeString_injective (List.append_cancel_right hvalue)⟩
  · rintro ⟨hkind, hscheme, hvalue⟩
    rw [hashInput, hashInput, hkind, hscheme, hvalue]

/-! ## Firsts of their class -/

def IsFirst (identifiers : List Identifier) (identifier : Identifier) : Prop :=
  ∃ before after, identifiers = before ++ identifier :: after ∧
    ∀ other ∈ before, other.sameContent identifier = false

/-- What is kept is the first identifier of every content class, once. -/
structure KeepsFirsts (identifiers kept : List Identifier) : Prop where
  apart : kept.Pairwise fun left right => left.sameContent right = false
  mem_iff : ∀ identifier, identifier ∈ kept ↔ IsFirst identifiers identifier

variable {identifiers kept members : List Identifier} {identifier last : Identifier}

theorem isFirst_concat_iff : IsFirst (identifiers ++ [last]) identifier ↔
    IsFirst identifiers identifier ∨
      (identifier = last ∧ ∀ other ∈ identifiers,
        other.sameContent last = false) := by
  constructor
  · rintro ⟨before, after, heq, hfirst⟩
    obtain rfl | ⟨after, final, rfl⟩ := List.eq_nil_or_concat after
    · obtain ⟨rfl, hlast⟩ := List.append_inj' heq rfl
      cases hlast
      exact .inr ⟨rfl, hfirst⟩
    · rw [List.concat_eq_append, ← List.cons_append, ← List.append_assoc] at heq
      exact .inl ⟨before, after, (List.append_inj' heq rfl).1, hfirst⟩
  · rintro (⟨before, after, rfl, hfirst⟩ | ⟨rfl, hfirst⟩)
    · exact ⟨before, after ++ [last], by simp, hfirst⟩
    · exact ⟨identifiers, [], rfl, hfirst⟩

theorem exists_isFirst (h : identifier ∈ identifiers) :
    ∃ first, IsFirst identifiers first ∧ first.sameContent identifier = true := by
  have hthere : (identifiers.find? (·.sameContent identifier)).isSome = true :=
    List.find?_isSome.mpr ⟨identifier, h, sameContent_refl identifier⟩
  obtain ⟨first, hfind⟩ := Option.isSome_iff_exists.mp hthere
  obtain ⟨hsame, before, after, heq, hbefore⟩ :=
    List.find?_eq_some_iff_append.mp hfind
  refine ⟨first, ⟨before, after, heq, fun other hmem => ?_⟩, hsame⟩
  rw [sameContent_right hsame]
  simpa using hbefore other hmem

theorem KeepsFirsts.any_eq (h : KeepsFirsts identifiers kept)
    (identifier : Identifier) :
    kept.any (identifier.sameContent ·) =
      identifiers.any (identifier.sameContent ·) := by
  rw [Bool.eq_iff_iff, List.any_eq_true, List.any_eq_true]
  constructor
  · rintro ⟨member, hmem, hsame⟩
    obtain ⟨before, after, rfl, -⟩ := (h.mem_iff member).mp hmem
    exact ⟨member, by simp, hsame⟩
  · rintro ⟨other, hmem, hsame⟩
    obtain ⟨first, hfirst, hclass⟩ := exists_isFirst hmem
    exact ⟨first, (h.mem_iff first).mpr hfirst, by rwa [sameContent_right hclass]⟩

theorem KeepsFirsts.insertNew (h : KeepsFirsts identifiers kept)
    (last : Identifier) :
    KeepsFirsts (identifiers ++ [last]) (insertNew kept last).1 := by
  have hnew : (∀ other ∈ identifiers, other.sameContent last = false) ↔
      kept.any (last.sameContent ·) = false := by
    rw [h.any_eq, List.any_eq_false]
    simp only [sameContent_comm last, Bool.not_eq_true]
  unfold Identifier.insertNew
  split
  · rename_i hthere
    refine ⟨h.apart, fun identifier => ?_⟩
    rw [h.mem_iff, isFirst_concat_iff, hnew]
    simp [hthere]
  · rename_i habsent
    rw [Bool.not_eq_true] at habsent
    refine ⟨?_, fun identifier => ?_⟩
    · refine List.pairwise_append.mpr ⟨h.apart, List.pairwise_singleton _ _, ?_⟩
      intro member hmem other hother
      rw [List.mem_singleton.mp hother, sameContent_comm]
      exact Bool.eq_false_iff.mpr (List.any_eq_false.mp habsent member hmem)
    · rw [List.mem_append, List.mem_singleton, h.mem_iff, isFirst_concat_iff, hnew]
      simp [habsent]

theorem distinct_concat (identifiers : List Identifier) (last : Identifier) :
    distinct (identifiers ++ [last]) =
      (insertNew (distinct identifiers) last).1 := by
  simp [distinct]

theorem keepsFirsts_distinct (identifiers : List Identifier) :
    KeepsFirsts identifiers (distinct identifiers) := by
  induction identifiers using List.reverseRecOn with
  | nil => exact ⟨.nil, by simp [distinct, IsFirst]⟩
  | append_singleton identifiers last ih =>
      rw [distinct_concat]
      exact ih.insertNew last

theorem KeepsFirsts.perm (h : KeepsFirsts identifiers kept)
    (hperm : members.Perm kept) :
    KeepsFirsts identifiers members where
  apart := (hperm.pairwise_iff fun hapart => by rwa [sameContent_comm]).mpr h.apart
  mem_iff identifier := by rw [hperm.mem_iff, h.mem_iff]

/-! ## Hash sets -/

@[reducible]
def hashedBy (hasher : List UInt8 → UInt64) : Hashable Identifier :=
  ⟨fun identifier => hasher identifier.hashInput⟩

abbrev HashedSet (hasher : List UInt8 → UInt64) : Type :=
  @Std.HashSet Identifier _ (hashedBy hasher)

def hashedSet (hasher : List UInt8 → UInt64)
    (identifiers : List Identifier) : HashedSet hasher :=
  identifiers.foldl (fun members identifier => members.insert identifier) ∅

theorem lawfulHashable_hashedBy (hasher : List UInt8 → UInt64) :
    @LawfulHashable Identifier _ (hashedBy hasher) :=
  @LawfulHashable.mk _ _ (hashedBy hasher) fun _ _ hsame =>
    congrArg hasher (hashInput_eq_iff.mpr hsame)

theorem toList_hashedSet_perm (hasher : List UInt8 → UInt64)
    (identifiers : List Identifier) :
    (hashedSet hasher identifiers).toList.Perm (distinct identifiers) := by
  have hlawful := lawfulHashable_hashedBy hasher
  induction identifiers using List.reverseRecOn with
  | nil => simp [hashedSet, distinct]
  | append_singleton identifiers last ih =>
      have hinsert : hashedSet hasher (identifiers ++ [last]) =
          (hashedSet hasher identifiers).insert last := by
        simp [hashedSet]
      have hmem : last ∈ hashedSet hasher identifiers ↔
          (distinct identifiers).any (last.sameContent ·) = true := by
        rw [Std.HashSet.mem_iff_contains, ← Std.HashSet.contains_toList,
          List.contains_eq_any_beq, List.any_eq_true, List.any_eq_true]
        simp only [ih.mem_iff]
        rfl
      rw [hinsert, distinct_concat]
      refine Std.HashSet.toList_insert_perm.trans ?_
      unfold insertNew
      simp only [hmem]
      split
      · exact ih
      · exact (ih.cons last).trans (List.perm_append_singleton last _).symm

end Identifier

/-! ## Identifiers of one policy -/

def CaseRules.SameValue (rules : CaseRules) (scheme value other : String) : Prop :=
  match rules.rule scheme with
  | .caseSensitive => value = other
  | .caseInsensitive => Text.lower value = Text.lower other

theorem CaseRules.normalize_eq_iff {rules : CaseRules}
    {scheme value other : String} :
    rules.normalize scheme value = rules.normalize scheme other ↔
      rules.SameValue scheme value other := by
  unfold normalize SameValue
  cases rules.rule scheme <;> rfl

namespace IdentifierPolicy

variable {policy : IdentifierPolicy} {left right : Identifier}

theorem Makes.sameContent_iff (hleft : policy.Makes left)
    (hright : policy.Makes right) :
    left.sameContent right = true ↔
      left.kind = right.kind ∧ left.scheme = right.scheme ∧
      policy.caseRules.SameValue left.scheme left.value right.value := by
  rw [Identifier.sameContent_iff, hleft.normalizedValue_eq,
    hright.normalizedValue_eq]
  refine and_congr_right fun _ => and_congr_right fun hscheme => ?_
  rw [← hscheme, CaseRules.normalize_eq_iff]

end IdentifierPolicy

namespace Identifier

/-- Comparison by content is an equivalence, which `==` and the hashed bytes decide
alike, so every hash set holds the firsts of the content classes.  Between the
identifiers of one policy it is comparison of kind, scheme and value under the case
rule of the scheme. -/
theorem content_is_coherent :
    (Equivalence fun left right : Identifier => left.sameContent right = true) ∧
    (∀ left right : Identifier, (left == right) = left.sameContent right ∧
      (left.sameContent right = true ↔ left.hashInput = right.hashInput)) ∧
    (∀ hasher identifiers,
      KeepsFirsts identifiers (hashedSet hasher identifiers).toList) ∧
    ∀ (policy : IdentifierPolicy) (left right : Identifier),
      policy.Makes left → policy.Makes right →
        (left.sameContent right = true ↔
          left.kind = right.kind ∧ left.scheme = right.scheme ∧
          policy.caseRules.SameValue left.scheme left.value right.value) := by
  refine ⟨equivalence_sameContent, fun left right =>
    ⟨rfl, hashInput_eq_iff.symm⟩, ?_, ?_⟩
  · intro hasher identifiers
    exact (keepsFirsts_distinct identifiers).perm
      (toList_hashedSet_perm hasher identifiers)
  · exact fun _ _ _ hleft hright => hleft.sameContent_iff hright

def respelledType : Identifier :=
  ⟨.documentType, Scheme.documentType, "urn:été-Ø##a", "urn:été-ø##a"⟩

theorem content_is_coherent_respelled :
    IdentifierPolicy.Makes {} accentedType ∧
    IdentifierPolicy.Makes {} respelledType ∧
      accentedType.sameContent respelledType = true := by
  have haccented : IdentifierPolicy.Makes {} accentedType := .created
    (show IdentifierPolicy.create
      {} .documentType Scheme.documentType "urn:ÉTÉ-Ø##A" =
      .ok accentedType by rfl)
  have hrespelled : IdentifierPolicy.Makes {} respelledType := .created
    (show IdentifierPolicy.create
      {} .documentType Scheme.documentType "urn:été-Ø##a" =
      .ok respelledType by rfl)
  have hnormal : accentedType.normalizedValue = respelledType.normalizedValue := rfl
  rw [haccented.normalizedValue_eq, hrespelled.normalizedValue_eq] at hnormal
  exact ⟨haccented, hrespelled,
    (content_is_coherent.2.2.2 {} _ _ haccented hrespelled).mpr
    ⟨rfl, rfl, CaseRules.normalize_eq_iff.mp hnormal⟩⟩

end Identifier

end EndpointDiscovery
