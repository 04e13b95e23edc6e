import EndpointDiscovery.Xml.Node

/-!
# Namespaces

A start tag declares namespaces and uses them.  Names are resolved in the scope that
its own declarations and those of the elements around it make up.
-/

namespace EndpointDiscovery.Xml

structure QualifiedName where
  qualifier : String
  localName : String
deriving DecidableEq, Repr

abbrev Scope := List (Option String × String)

def xmlSpace : String := "http://www.w3.org/XML/1998/namespace"

def xmlnsSpace : String := "http://www.w3.org/2000/xmlns/"

def initialScope : Scope := [(some "xml", xmlSpace)]

def lookup (scope : Scope) (qualifier : Option String) : Option String :=
  (scope.find? (·.1 = qualifier)).map (·.2)

def elementName? (scope : Scope) (name : QualifiedName) : Option Name :=
  if name.qualifier.isEmpty then some ⟨lookup scope none, name.localName⟩
  else (lookup scope (some name.qualifier)).map fun space =>
    ⟨some space, name.localName⟩

/-- The default namespace does not apply to attributes. -/
def attributeName? (scope : Scope) (name : QualifiedName) : Option Name :=
  if name.qualifier.isEmpty then some ⟨none, name.localName⟩
  else if name.qualifier = "xml" then some ⟨some xmlSpace, name.localName⟩
  else (lookup scope (some name.qualifier)).map fun space =>
    ⟨some space, name.localName⟩

/-- The declarations of a start tag.  The two reserved namespaces can only be
declared for the qualifier `xml`, and no qualifier twice. -/
def declarations? : List (QualifiedName × String) → Option Scope
  | [] => some []
  | (name, space) :: rest => do
      let later ← declarations? rest
      if name.qualifier = "xmlns" then
        if space = xmlnsSpace || (name.localName = "xml") ≠ (space = xmlSpace) ||
            later.any (·.1 = some name.localName) then none
        else if space = xmlSpace then some later
        else some ((some name.localName, space) :: later)
      else if name.localName = "xmlns" then
        if space = xmlnsSpace || space = xmlSpace then none
        else some ((none, space) :: later)
      else some later

def isDeclaration (name : QualifiedName) : Bool :=
  name.qualifier = "xmlns" || name.localName = "xmlns"

def attributes? (scope : Scope) (written : List (QualifiedName × String)) :
    Option (List Attribute) := do
  let attributes ← (written.filter (!isDeclaration ·.1)).mapM fun (name, value) =>
    (attributeName? scope name).map (Attribute.mk · value)
  if (attributes.map (·.name)).Nodup then some attributes else none

end EndpointDiscovery.Xml
