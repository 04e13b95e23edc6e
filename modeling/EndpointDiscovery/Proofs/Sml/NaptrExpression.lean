import EndpointDiscovery.Proofs.Text.Parts
import EndpointDiscovery.Sml.Naptr

/-!
# The grammar of substitution expressions

Any character can delimit the parts of an expression in which it does not occur.  An
expression begins with its delimiter, so it can be taken apart in one way only, and
what a record points to is what was put into its expression.
-/

namespace EndpointDiscovery

/-- A substitution that replaces its whole input, and the delimiter that it is
written with. -/
structure Substitution where
  delimiter : Char
  pattern : String
  uri : String
  flags : String
deriving DecidableEq

namespace Substitution

def regexp (substitution : Substitution) : String :=
  String.singleton substitution.delimiter ++ substitution.pattern ++
    String.singleton substitution.delimiter ++ substitution.uri ++
    String.singleton substitution.delimiter ++ substitution.flags

structure IsAdmissible (substitution : Substitution) : Prop where
  pattern : substitution.pattern = "^.*$" ∨ substitution.pattern = ".*"
  flags : substitution.flags = "" ∨ substitution.flags = "i"
  uri : substitution.uri ≠ ""
  free_pattern : substitution.delimiter ∉ substitution.pattern.toList
  free_uri : substitution.delimiter ∉ substitution.uri.toList
  free_flags : substitution.delimiter ∉ substitution.flags.toList

def parts (substitution : Substitution) : List (List Char) :=
  [substitution.pattern.toList, substitution.uri.toList, substitution.flags.toList]

variable {substitution other : Substitution}

theorem toList_regexp (substitution : Substitution) : substitution.regexp.toList =
    substitution.delimiter :: List.intercalate
      [substitution.delimiter] substitution.parts := by
  simp [regexp, parts, List.intercalate_cons_cons]

theorem eq_of_parts (hdelimiter : substitution.delimiter = other.delimiter)
    (hparts : substitution.parts = other.parts) : substitution = other := by
  cases substitution
  cases other
  simp_all [parts, String.toList_inj]

theorem IsAdmissible.splitOn_parts (h : substitution.IsAdmissible) :
    Text.splitOn substitution.delimiter
      (List.intercalate [substitution.delimiter] substitution.parts) =
        substitution.parts := by
  refine Text.splitOn_intercalate ?_ (List.cons_ne_nil _ _)
  simp only [parts, List.forall_mem_cons]
  exact ⟨h.free_pattern, h.free_uri, h.free_flags, List.forall_mem_nil _⟩

theorem IsAdmissible.eq_of_regexp (h : substitution.IsAdmissible)
    (hother : other.IsAdmissible) (hregexp : substitution.regexp = other.regexp) :
    substitution = other := by
  rw [← String.toList_inj, toList_regexp, toList_regexp, List.cons.injEq] at hregexp
  obtain ⟨hdelimiter, hjoined⟩ := hregexp
  refine eq_of_parts hdelimiter ?_
  rw [← h.splitOn_parts, ← hother.splitOn_parts, hjoined, hdelimiter]

end Substitution

namespace NaptrRecord

variable {record : NaptrRecord} {uri : String}

theorem mem_matchAllPatterns_iff {pattern : String} :
    pattern.toList ∈ matchAllPatterns ↔ pattern = "^.*$" ∨ pattern = ".*" := by
  simp [matchAllPatterns, String.toList_inj, -String.reduceToList]

theorem mem_expressionFlags_iff {flags : String} :
    flags.toList ∈ expressionFlags ↔ flags = "" ∨ flags = "i" := by
  change flags.toList ∈ ["".toList, "i".toList] ↔ _
  simp [String.toList_inj, -String.reduceToList]

theorem replacementOf?_eq_some_iff {characters target : List Char} :
    replacementOf? characters = some target ↔ ∃ delimiter rest pattern flags,
      characters = delimiter :: rest ∧
      Text.splitOn delimiter rest = [pattern, target, flags] ∧
        pattern ∈ matchAllPatterns ∧ flags ∈ expressionFlags ∧ target ≠ [] := by
  constructor
  · intro h
    cases characters with
    | nil => cases h
    | cons delimiter rest =>
        rw [replacementOf?] at h
        split at h
        · rename_i pattern found flags hparts
          rw [Option.ite_none_right_eq_some, Option.some.injEq] at h
          obtain ⟨⟨hflags, hpattern, htarget⟩, rfl⟩ := h
          exact ⟨delimiter, rest, pattern, flags, rfl, hparts, hpattern, hflags,
            htarget⟩
        · cases h
  · rintro ⟨delimiter, rest, pattern, flags, rfl, hparts, hpattern, hflags, htarget⟩
    simp only [replacementOf?, hparts]
    exact if_pos ⟨hflags, hpattern, htarget⟩

theorem targetUri?_eq_some_iff : record.targetUri? = some uri ↔
    ∃ substitution : Substitution, substitution.IsAdmissible ∧
      record.regexp = substitution.regexp ∧ substitution.uri = uri := by
  rw [targetUri?, Option.map_eq_some_iff]
  simp only [replacementOf?_eq_some_iff]
  constructor
  · rintro ⟨target,
      ⟨delimiter, rest, pattern, flags, hregexp, hparts, hpattern, hflags, htarget⟩,
      rfl⟩
    obtain ⟨hrest, hfree⟩ := (Text.splitOn_eq_iff (List.cons_ne_nil _ _)).mp hparts
    simp only [List.forall_mem_cons] at hfree
    refine ⟨⟨delimiter, String.ofList pattern, String.ofList target,
      String.ofList flags⟩, ⟨?_, ?_, ?_, ?_, ?_, ?_⟩, ?_, rfl⟩
    · exact mem_matchAllPatterns_iff.mp (by rwa [String.toList_ofList])
    · exact mem_expressionFlags_iff.mp (by rwa [String.toList_ofList])
    · simpa using htarget
    · simpa using hfree.1
    · simpa using hfree.2.1
    · simpa using hfree.2.2.1
    · rw [← String.toList_inj, hregexp, Substitution.toList_regexp, hrest]
      simp [Substitution.parts]
  · rintro ⟨substitution, h, hregexp, rfl⟩
    refine ⟨_,
      ⟨_, _, _, _, ?_, h.splitOn_parts, mem_matchAllPatterns_iff.mpr h.pattern,
        mem_expressionFlags_iff.mpr h.flags, ?_⟩, String.ofList_toList⟩
    · rw [hregexp, Substitution.toList_regexp]
    · simpa using h.uri

end NaptrRecord

/-- A record points to a URI exactly if its expression is an admissible substitution
of that URI, which the expression determines together with the delimiter; all other
records point nowhere. -/
theorem naptr_expressions_are_exact :
    (∀ (record : NaptrRecord) (uri : String), record.targetUri? = some uri ↔
      ∃ substitution : Substitution, substitution.IsAdmissible ∧
        record.regexp = substitution.regexp ∧ substitution.uri = uri) ∧
    (∀ (record : NaptrRecord) (substitution : Substitution),
      substitution.IsAdmissible →
      record.regexp = substitution.regexp →
        record.targetUri? = some substitution.uri ∧
        ∀ other : Substitution, other.IsAdmissible → record.regexp = other.regexp →
          other = substitution) ∧
    ∀ record : NaptrRecord, record.targetUri? = none ↔
      ∀ substitution : Substitution, substitution.IsAdmissible →
        record.regexp ≠ substitution.regexp := by
  refine ⟨fun _ _ => NaptrRecord.targetUri?_eq_some_iff, ?_, ?_⟩
  · intro record substitution h hregexp
    refine ⟨NaptrRecord.targetUri?_eq_some_iff.mpr ⟨substitution, h, hregexp, rfl⟩,
      ?_⟩
    exact fun other hother heq => hother.eq_of_regexp h (heq.symm.trans hregexp)
  · intro record
    simp only [Option.eq_none_iff_forall_ne_some, ne_eq,
      NaptrRecord.targetUri?_eq_some_iff]
    constructor
    · exact fun h substitution hadmissible hregexp =>
        h substitution.uri ⟨substitution, hadmissible, hregexp, rfl⟩
    · rintro h uri ⟨substitution, hadmissible, hregexp, -⟩
      exact h substitution hadmissible hregexp

def euroDelimited : Substitution := ⟨'€', "^.*$", "http://smp.example", "i"⟩

theorem naptr_expressions_are_exact_euro :
    euroDelimited.regexp = "€^.*$€http://smp.example€i" ∧
    euroDelimited.IsAdmissible ∧
      (NaptrRecord.mk 0 0 "U" "Meta:SMP" "€^.*$€http://smp.example€i" "").targetUri?
        = some "http://smp.example" := by
  have hregexp : euroDelimited.regexp = "€^.*$€http://smp.example€i" := by
    decide +kernel
  have hadmissible : euroDelimited.IsAdmissible :=
    ⟨by decide, by decide, by decide, by decide, by decide, by decide⟩
  exact ⟨hregexp, hadmissible,
    (naptr_expressions_are_exact.2.1 _ _ hadmissible hregexp.symm).1⟩

-- A character of one pattern delimits expressions of the other.
example :
    (NaptrRecord.mk 0 0 "U" "Meta:SMP" "^.*^http://smp.example^" "").targetUri? =
      some "http://smp.example" ∧
    (NaptrRecord.mk 0 0 "U" "Meta:SMP" "^^.*$^http://smp.example^" "").targetUri? =
      none := by
  decide +kernel

end EndpointDiscovery
