import EndpointDiscovery.Text.Case

/-!
# Case rules

The table of the schemes whose values are compared in lower case.  Schemes are
looked up exactly; the values of every other scheme are compared as they are.
-/

namespace EndpointDiscovery

namespace Scheme

def participant : String := "iso6523-actorid-upis"
def documentType : String := "busdox-docid-qns"
def documentTypeWildcard : String := "peppol-doctype-wildcard"
def process : String := "cenbii-procid-ubl"

end Scheme

inductive CaseSensitivity where
  | caseSensitive
  | caseInsensitive
deriving DecidableEq, Repr

namespace CaseSensitivity

def all : List CaseSensitivity := [.caseSensitive, .caseInsensitive]

def key : CaseSensitivity → String
  | .caseSensitive => "case_sensitive"
  | .caseInsensitive => "case_insensitive_lowercased"

end CaseSensitivity

def insertAscending (text : String) : List String → List String
  | [] => [text]
  | first :: rest =>
      if text < first then text :: first :: rest
      else if text = first then first :: rest
      else first :: insertAscending text rest

private theorem mem_insertAscending {text : String} {texts : List String}
    {member : String} (h : member ∈ insertAscending text texts) :
    member = text ∨ member ∈ texts := by
  induction texts with
  | nil => simpa [insertAscending] using h
  | cons first rest ih =>
      simp only [insertAscending] at h
      split at h
      · simpa using h
      · split at h
        · exact .inr h
        · rcases List.mem_cons.1 h with rfl | h
          · exact .inr List.mem_cons_self
          · exact (ih h).imp_right (List.mem_cons_of_mem _)

theorem insertAscending_pairwise (text : String) {texts : List String}
    (sorted : texts.Pairwise (· < ·)) :
    (insertAscending text texts).Pairwise (· < ·) := by
  induction texts with
  | nil => simp [insertAscending]
  | cons first rest ih =>
      have ⟨above, tail⟩ := List.pairwise_cons.1 sorted
      simp only [insertAscending]
      split
      · next before =>
          refine List.pairwise_cons.2 ⟨fun member hm => ?_, sorted⟩
          rcases List.mem_cons.1 hm with rfl | hm
          · exact before
          · exact String.lt_trans before (above member hm)
      · next notBefore =>
          split
          · exact sorted
          · next different =>
              refine List.pairwise_cons.2 ⟨fun member hm => ?_, ih tail⟩
              rcases mem_insertAscending hm with rfl | hm
              · refine Decidable.byContradiction fun notAbove => different ?_
                exact String.le_antisymm notAbove notBefore
              · exact above member hm

/-- The schemes with case-insensitive values, in ascending order and each once. -/
structure CaseRules where
  schemes : List String
  sorted : schemes.Pairwise (· < ·)
deriving DecidableEq

namespace CaseRules

def allCaseSensitive : CaseRules := ⟨[], .nil⟩

def insert (rules : CaseRules) (scheme : String) : CaseRules :=
  ⟨insertAscending scheme rules.schemes,
    insertAscending_pairwise scheme rules.sorted⟩

def ofList (schemes : List String) : CaseRules :=
  schemes.foldl insert allCaseSensitive

def peppol : CaseRules :=
  ofList [Scheme.participant, Scheme.documentType, Scheme.documentTypeWildcard,
    Scheme.process]

instance : Inhabited CaseRules := ⟨peppol⟩

def rule (rules : CaseRules) (scheme : String) : CaseSensitivity :=
  if scheme ∈ rules.schemes then .caseInsensitive else .caseSensitive

/-- The form of a value that comparison uses. -/
def normalize (rules : CaseRules) (scheme value : String) : String :=
  match rules.rule scheme with
  | .caseSensitive => value
  | .caseInsensitive => Text.lower value

end CaseRules

end EndpointDiscovery
