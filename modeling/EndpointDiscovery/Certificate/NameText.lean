import EndpointDiscovery.Certificate.Name

/-!
# Names as text

A name is written as its attributes, each with its short name and its value, with
commas between them.  The usual text begins with the most specific attribute, which
is the last one of the name.
-/

namespace EndpointDiscovery

/-! ## Values -/

namespace NameAttribute

def delimiters : List Char := [',', '+', '"', '\\', '<', '>', ';']

/-- A space is escaped only at the end. -/
def escapeAfterFirst : List Char → List Char
  | [] => []
  | [' '] => ['\\', ' ']
  | character :: rest =>
      if character ∈ delimiters then '\\' :: character :: escapeAfterFirst rest
      else character :: escapeAfterFirst rest

def escapeValue : List Char → List Char
  | ' ' :: rest => '\\' :: ' ' :: escapeAfterFirst rest
  | '#' :: rest => '\\' :: '#' :: escapeAfterFirst rest
  | value => escapeAfterFirst value

def describe? (entry : NameAttribute) : Option (List Char) :=
  entry.text?.map fun value =>
    (AttributeType.shortName entry.type).toList ++ '=' :: escapeValue value.toList

end NameAttribute

/-! ## Names -/

namespace Name

def descriptions? (name : Name) : Option (List (List Char)) :=
  name.attributes.mapM NameAttribute.describe?

def encodedText? (name : Name) : Option (List Char) :=
  name.descriptions?.map (List.intercalate [','])

/-- The text that begins with the most specific attribute. -/
def text? (name : Name) : Option (List Char) :=
  name.descriptions?.map fun descriptions =>
    List.intercalate [','] descriptions.reverse

end Name

end EndpointDiscovery
