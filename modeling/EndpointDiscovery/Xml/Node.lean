/-!
# Document trees

The content of an element is a list of nodes in document order.  Text that is not
interrupted by other markup is one node.
-/

namespace EndpointDiscovery.Xml

structure Name where
  space : Option String
  localName : String
deriving DecidableEq, Repr

structure Attribute where
  name : Name
  value : String
deriving DecidableEq, Repr

inductive Node where
  | element (name : Name) (attributes : List Attribute) (content : List Node)
  | text (content : String)
  | comment (content : String)
  | instruction (target content : String)
deriving Repr

structure Element where
  name : Name
  attributes : List Attribute
  content : List Node
deriving Repr

namespace Node

def element? : Node → Option Element
  | .element name attributes content => some ⟨name, attributes, content⟩
  | _ => none

mutual

/-- The element at a node and all elements below it, in document order. -/
def elements : Node → List Element
  | .element name attributes content =>
      ⟨name, attributes, content⟩ :: elementsOf content
  | _ => []

def elementsOf : List Node → List Element
  | [] => []
  | node :: nodes => elements node ++ elementsOf nodes

end

end Node

namespace Element

def toNode (element : Element) : Node :=
  .element element.name element.attributes element.content

def localName (element : Element) : String := element.name.localName

def children (element : Element) (name : String) : List Element :=
  (element.content.filterMap Node.element?).filter (·.localName = name)

def child? (element : Element) (name : String) : Option Element :=
  (element.children name).head?

def attribute? (element : Element) (name : String) : Option String :=
  (element.attributes.find? (·.name = ⟨none, name⟩)).map (·.value)

/-- The text that the content begins with. -/
def text? (element : Element) : Option String :=
  match element.content with
  | .text content :: _ => some content
  | _ => none

def descendants (element : Element) : List Element :=
  element.toNode.elements

end Element

end EndpointDiscovery.Xml
