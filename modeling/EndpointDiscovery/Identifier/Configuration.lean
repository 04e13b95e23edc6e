import EndpointDiscovery.Identifier.Policy
import EndpointDiscovery.Json.Value

/-!
# Policies as configuration data
-/

namespace EndpointDiscovery

def memberOfKey? {α : Type} (members : List α) (key : α → String)
    (value : Json) : Option α :=
  value.caseName?.bind fun name => members.find? (key · = name)

def IdentifierKind.ofJson? (value : Json) : Option IdentifierKind :=
  memberOfKey? all key value

def CaseSensitivity.ofJson? (value : Json) : Option CaseSensitivity :=
  memberOfKey? all key value

namespace CaseRules

def toJson (rules : CaseRules) : Json :=
  .record [("case_insensitive_schemes", .array (rules.schemes.map .ofString))]

def ofJson? (value : Json) : Option CaseRules := do
  match ← value.fields? ["case_insensitive_schemes"] with
  | [some schemes] => (← schemes.array?).mapM Json.string? |>.map ofList
  | _ => none

end CaseRules

def optionalField? {α : Type} (read : Json → Option α) (default : α) : Option Json →
    Option α
  | none => some default
  | some value => read value

namespace IdentifierPolicy

def fieldNames : List String :=
  ["case_rules", "check_charset", "check_scheme_length"]

def toJson (policy : IdentifierPolicy) : Json :=
  .record [("case_rules", policy.caseRules.toJson),
    ("check_charset", .flag policy.checkCharset),
    ("check_scheme_length", .flag policy.checkSchemeLength)]

/-- Fields that are left out take the values of the default policy. -/
def ofJson? (value : Json) : Option IdentifierPolicy := do
  let standard : IdentifierPolicy := {}
  match ← value.fields? fieldNames with
  | [rules, charset, length] =>
      some {
        caseRules := ← optionalField? CaseRules.ofJson? standard.caseRules rules,
        checkCharset := ← optionalField? Json.bool? standard.checkCharset charset,
        checkSchemeLength :=
          ← optionalField? Json.bool? standard.checkSchemeLength length }
  | _ => none

end IdentifierPolicy

end EndpointDiscovery
