/-!
# JSON values

The values of a JSON text, and how records, flags, numbers and names are
taken from them.
-/

namespace EndpointDiscovery

/-- A number as far as configuration data looks at it: its sign, its integral part
and whether it was written without a fraction and an exponent. -/
structure JsonNumber where
  negative : Bool
  magnitude : Nat
  integral : Bool
deriving DecidableEq, Repr

/-- A text is `none` if its escapes name a surrogate that is not part of a pair. -/
inductive Json where
  | null
  | flag (value : Bool)
  | number (value : JsonNumber)
  | text (value : Option String)
  | array (items : List Json)
  | object (members : List (Option String × Json))
deriving Repr

namespace Json

def ofString (value : String) : Json := .text (some value)

def ofNat (value : Nat) : Json := .number ⟨false, value, true⟩

def record (members : List (String × Json)) : Json :=
  .object (members.map fun (name, value) => (some name, value))

def string? : Json → Option String
  | .text value => value
  | _ => none

def bool? : Json → Option Bool
  | .flag value => some value
  | _ => none

def word? : Json → Option Nat
  | .number ⟨false, magnitude, true⟩ =>
      if magnitude < UInt64.size then some magnitude else none
  | _ => none

def array? : Json → Option (List Json)
  | .array items => some items
  | _ => none

/-- The fields of a record in the order of `names`, `none` where one is missing.  A
record is an object, in which other members are passed over but a field must not be
repeated, or an array with the first fields in order. -/
def fields? (names : List String) : Json → Option (List (Option Json))
  | .object members => do
      let members ← members.mapM fun (name, value) => name.map (·, value)
      if names.all fun name => (members.filter (·.1 = name)).length ≤ 1 then
        some (names.map fun name => (members.find? (·.1 = name)).map (·.2))
      else
        none
  | .array items =>
      if items.length ≤ names.length then
        some (items.map some ++ List.replicate (names.length - items.length) none)
      else
        none
  | _ => none

/-- The name of a case without data: a text, or an object whose only member is that
name with `null`. -/
def caseName? : Json → Option String
  | .text value => value
  | .object [(name, .null)] => name
  | _ => none

end Json

end EndpointDiscovery
