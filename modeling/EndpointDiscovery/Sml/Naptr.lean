import EndpointDiscovery.Text.Split

/-!
# NAPTR records

A record of the SMP service carries a substitution expression whose replacement is
the URI of an SMP.  Only expressions that replace the whole input are understood.
-/

namespace EndpointDiscovery

def smpNaptrService : String := "Meta:SMP"

structure NaptrRecord where
  order : UInt16
  preference : UInt16
  flags : String
  service : String
  regexp : String
  replacement : String
deriving DecidableEq, Repr

def asciiLower (text : String) : List Char :=
  text.toList.map fun character =>
    if 'A' ≤ character ∧ character ≤ 'Z' then
      Char.ofNat (character.toNat + 32)
    else
      character

namespace NaptrRecord

/-- Whether this is a terminal URI rule of the SMP service. -/
def isSmpRecord (record : NaptrRecord) : Bool :=
  asciiLower record.flags == asciiLower "U" &&
    asciiLower record.service == asciiLower smpNaptrService

def matchAllPatterns : List (List Char) := ["^.*$".toList, ".*".toList]

def expressionFlags : List (List Char) := [[], ['i']]

/-- The replacement in an expression; its first character is the delimiter
of the parts. -/
def replacementOf? : List Char → Option (List Char)
  | [] => none
  | delimiter :: rest =>
      match Text.splitOn delimiter rest with
      | [pattern, target, flags] =>
          if flags ∈ expressionFlags ∧ pattern ∈ matchAllPatterns ∧ target ≠ [] then
            some target
          else none
      | _ => none

def targetUri? (record : NaptrRecord) : Option String :=
  (replacementOf? record.regexp.toList).map String.ofList

def before (left right : NaptrRecord) : Bool :=
  left.order < right.order ||
    (left.order == right.order && left.preference ≤ right.preference)

end NaptrRecord

/-- The target of the first usable SMP record by order, preference and position. -/
def selectSmpUri? (records : List NaptrRecord) : Option String :=
  ((records.filter (·.isSmpRecord)).mergeSort NaptrRecord.before).findSome?
    (·.targetUri?)

end EndpointDiscovery
