import EndpointDiscovery.Xml.Node
import Mathlib.Data.List.Forall2
import Mathlib.Logic.Relation

/-!
# Contents of elements

Comments and processing instructions are marks.  A mark that is put into a
document leaves its elements where they are, and at most cuts the text off that
one of them begins with.
-/

namespace EndpointDiscovery.Xml

/-! ## Equality of trees -/

namespace Node

mutual

def same : Node → Node → Bool
  | .element name attributes content,
      .element otherName otherAttributes otherContent =>
      name = otherName && attributes = otherAttributes &&
      sameAll content otherContent
  | .text content, .text other => content = other
  | .comment content, .comment other => content = other
  | .instruction target content, .instruction otherTarget other =>
      target = otherTarget && content = other
  | _, _ => false

def sameAll : List Node → List Node → Bool
  | [], [] => true
  | node :: nodes, other :: others => same node other && sameAll nodes others
  | _, _ => false

end

mutual

theorem same_iff (node other : Node) : same node other = true ↔ node = other := by
  cases node <;> cases other <;> simp [same, sameAll_iff, and_assoc]

theorem sameAll_iff (nodes others : List Node) : sameAll nodes others = true ↔
    nodes = others := by
  cases nodes <;> cases others <;> simp [sameAll, same_iff, sameAll_iff]

end

instance : DecidableEq Node := fun node other =>
    decidable_of_iff _ (same_iff node other)

end Node

deriving instance DecidableEq for Element

/-! ## Elements of contents -/

def named (content : List Node) (name : String) : List Element :=
  (content.filterMap Node.element?).filter (·.localName = name)

theorem Element.children_eq (element : Element) (name : String) :
    element.children name = named element.content name := rfl

theorem named_append (before after : List Node) (name : String) :
    named (before ++ after) name = named before name ++ named after name := by
  simp [named]

theorem named_cons (node : Node) (after : List Node) (name : String) :
    named (node :: after) name = named [node] name ++ named after name :=
  named_append [node] after name

@[simp]
theorem Element.element?_toNode (element : Element) :
    element.toNode.element? = some element := rfl

theorem Element.descendants_eq (element : Element) :
    element.descendants = element :: Node.elementsOf element.content := rfl

theorem Node.elementsOf_append (before after : List Node) :
    elementsOf (before ++ after) = elementsOf before ++ elementsOf after := by
  induction before with
  | nil => rfl
  | cons node before ih => simp [elementsOf, ih]

theorem Element.mem_descendants_of_mem_children {element child : Element}
    {name : String} (h : child ∈ element.children name) {below : Element}
    (hbelow : below ∈ child.descendants) :
    below ∈ element.descendants := by
  rw [children_eq, named, List.mem_filter, List.mem_filterMap] at h
  obtain ⟨⟨node, hmem, helement⟩, -⟩ := h
  obtain ⟨before, after, hcontent⟩ := List.append_of_mem hmem
  have hnode : node.elements = child.descendants := by
    cases node with
    | element name attributes content =>
        cases helement
        rfl
    | text content => cases helement
    | comment content => cases helement
    | instruction target content => cases helement
  rw [descendants_eq, hcontent, Node.elementsOf_append, Node.elementsOf, hnode]
  simp [hbelow]

/-! ## Marks -/

def Node.isMark : Node → Bool
  | .comment _ => true
  | .instruction _ _ => true
  | _ => false

/-- One more mark: between the nodes of an element, within one of its texts, or
in one of its elements.  Each element around the mark is kept from what it was
in some sense. -/
inductive Marked (keeps : Element → Element → Prop) : Element → Element → Prop where
  | between {name : Name} {attributes : List Attribute} (before after : List Node)
      {mark : Node} (isMark : mark.isMark = true)
      (kept : keeps ⟨name, attributes, before ++ after⟩
        ⟨name, attributes, before ++ mark :: after⟩) :
      Marked keeps ⟨name, attributes, before ++ after⟩
        ⟨name, attributes, before ++ mark :: after⟩
  | within {name : Name} {attributes : List Attribute} (before after : List Node)
      (first second : String) {mark : Node} (isMark : mark.isMark = true)
      (kept : keeps ⟨name, attributes, before ++ .text (first ++ second) :: after⟩
        ⟨name, attributes,
          before ++ .text first :: mark :: .text second :: after⟩) :
      Marked keeps ⟨name, attributes, before ++ .text (first ++ second) :: after⟩
        ⟨name, attributes, before ++ .text first :: mark :: .text second :: after⟩
  | inside {name : Name} {attributes : List Attribute} (before after : List Node)
      {child marked : Element} (childMarked : Marked keeps child marked)
      (kept : keeps ⟨name, attributes, before ++ child.toNode :: after⟩
        ⟨name, attributes, before ++ marked.toNode :: after⟩) :
      Marked keeps ⟨name, attributes, before ++ child.toNode :: after⟩
        ⟨name, attributes, before ++ marked.toNode :: after⟩

section

variable {keeps : Element → Element → Prop} {element marked : Element}

theorem Marked.name_eq (h : Marked keeps element marked) :
    element.name = marked.name := by
  cases h <;> rfl

theorem Marked.attributes_eq (h : Marked keeps element marked) :
    element.attributes = marked.attributes := by
  cases h <;> rfl

theorem Marked.keeps_eq (h : Marked keeps element marked) :
    keeps element marked := by
  cases h <;> assumption

theorem named_of_isMark {mark : Node} (h : mark.isMark = true) (name : String) :
    named [mark] name = [] := by
  cases mark with
  | element name attributes content => cases h
  | text content => cases h
  | comment content => rfl
  | instruction target content => rfl

theorem elements_of_isMark {mark : Node} (h : mark.isMark = true) :
    mark.elements = [] := by
  cases mark with
  | element name attributes content => cases h
  | text content => cases h
  | comment content => rfl
  | instruction target content => rfl

def MarkedOrEqual (keeps : Element → Element → Prop)
    (element marked : Element) : Prop :=
  element = marked ∨ Marked keeps element marked

theorem forall₂_markedOrEqual (elements : List Element) :
    List.Forall₂ (MarkedOrEqual keeps) elements elements :=
  List.forall₂_same.mpr fun _ _ => .inl rfl

theorem MarkedOrEqual.localName_eq (h : MarkedOrEqual keeps element marked) :
    element.localName = marked.localName := by
  obtain rfl | h := h
  · rfl
  · rw [Element.localName, Element.localName, h.name_eq]

theorem MarkedOrEqual.filter {elements others : List Element}
    (h : List.Forall₂ (MarkedOrEqual keeps) elements others) (name : String) :
    List.Forall₂ (fun element other =>
      element.localName = name ∧ MarkedOrEqual keeps element other)
      (elements.filter (·.localName = name))
      (others.filter (·.localName = name)) := by
  induction h with
  | nil => exact .nil
  | cons hhead htail ih =>
      simp only [List.filter_cons, ← hhead.localName_eq, decide_eq_true_eq]
      split
      · exact .cons ⟨‹_›, hhead⟩ ih
      · exact ih

theorem Marked.children (h : Marked keeps element marked) (name : String) :
    List.Forall₂ (MarkedOrEqual keeps) (element.children name)
      (marked.children name) := by
  rw [Element.children_eq, Element.children_eq]
  cases h with
  | between before after isMark =>
      rw [named_append, named_append, named_cons, named_of_isMark isMark]
      exact forall₂_markedOrEqual _
  | within before after first second isMark =>
      rw [named_append, named_append, named_cons, named_cons _ (_ :: _),
        named_cons _ (_ :: after), named_cons _ after, named_of_isMark isMark]
      exact forall₂_markedOrEqual _
  | @inside _ _ before after child marked childMarked =>
      rw [named_append, named_append, named_cons, named_cons _ after]
      refine List.rel_append (forall₂_markedOrEqual _)
        (List.rel_append ?_ (forall₂_markedOrEqual _))
      have hname : marked.localName = child.localName := by
        rw [Element.localName, Element.localName, childMarked.name_eq]
      by_cases hsought : child.localName = name
      · simpa [named, hname, hsought] using .inr childMarked
      · simp [named, hname, hsought]

theorem Marked.descendants (h : Marked keeps element marked) :
    List.Forall₂ (MarkedOrEqual keeps) element.descendants marked.descendants := by
  induction h with
  | between before after isMark kept =>
      refine .cons (.inr (.between before after isMark kept)) ?_
      simp only [Node.elementsOf_append, Node.elementsOf, elements_of_isMark isMark,
        List.nil_append]
      exact forall₂_markedOrEqual _
  | within before after first second isMark kept =>
      refine .cons (.inr (.within before after first second isMark kept)) ?_
      simp only [Node.elementsOf_append, Node.elementsOf, elements_of_isMark isMark,
        Node.elements, List.nil_append]
      exact forall₂_markedOrEqual _
  | inside before after childMarked kept ih =>
      refine .cons (.inr (.inside before after childMarked kept)) ?_
      simp only [Node.elementsOf_append, Node.elementsOf]
      exact List.rel_append (forall₂_markedOrEqual _)
        (List.rel_append ih (forall₂_markedOrEqual _))

def leadingText? : List Node → Option String
  | .text content :: _ => some content
  | _ => none

theorem Element.text?_eq (element : Element) :
    element.text? = leadingText? element.content := by
  rw [Element.text?]
  rfl

theorem Marked.text? (h : Marked keeps element marked) :
    marked.text? = none ∨
      ∃ head rest, element.text? = some (head ++ rest) ∧
        marked.text? = some head := by
  have hsame (node : Node) (old new : List Node) :
      leadingText? (node :: new) = none ∨
      ∃ head rest, leadingText? (node :: old) = some (head ++ rest) ∧
        leadingText? (node :: new) = some head := by
    cases node with
    | text content => exact .inr ⟨content, "", by simp [leadingText?], rfl⟩
    | element name attributes content => exact .inl rfl
    | comment content => exact .inl rfl
    | instruction target content => exact .inl rfl
  rw [Element.text?_eq, Element.text?_eq]
  cases h with
  | @between _ _ before after mark isMark =>
      cases before with
      | nil =>
          left
          cases mark with
          | element name attributes content => cases isMark
          | text content => cases isMark
          | comment content => rfl
          | instruction target content => rfl
      | cons node before => exact hsame node _ _
  | within before after first second =>
      cases before with
      | nil => exact .inr ⟨first, second, rfl, rfl⟩
      | cons node before => exact hsame node _ _
  | inside before after childMarked =>
      cases before with
      | nil => exact .inl rfl
      | cons node before => exact hsame node _ _

theorem text?_of_marks (h : Relation.ReflTransGen (Marked keeps) element marked) :
    marked.text? = none ∨
      ∃ head rest, element.text? = some (head ++ rest) ∧
        marked.text? = some head := by
  induction h with
  | refl =>
      cases element.text? with
      | none => exact .inl rfl
      | some text => exact .inr ⟨text, "", by simp, rfl⟩
  | tail _ hstep ih =>
      obtain hnone | ⟨head, rest, htext, hhead⟩ := hstep.text?
      · exact .inl hnone
      obtain hnone | ⟨longer, other, hbefore, hlonger⟩ := ih
      · rw [hnone] at htext
        cases htext
      · rw [hlonger, Option.some.injEq] at htext
        exact .inr ⟨head, rest ++ other, by
          rw [hbefore, htext, String.append_assoc], hhead⟩

/-! ## Marks all over -/

theorem reflTransGen_inside {name : Name} {attributes : List Attribute}
    (before after : List Node) {child marked : Element}
    (h : Relation.ReflTransGen (Marked fun _ _ => True) child marked) :
    Relation.ReflTransGen (Marked fun _ _ => True)
      ⟨name, attributes, before ++ child.toNode :: after⟩
      ⟨name, attributes, before ++ marked.toNode :: after⟩ :=
  h.lift (fun child => Element.mk name attributes (before ++ child.toNode :: after))
    fun _ _ hmarked => .inside before after hmarked trivial

end

namespace Node

mutual

def commented : Node → Node
  | .element name attributes content =>
      .element name attributes (.comment "" :: commentedAll content)
  | .text content => .text content
  | .comment content => .comment content
  | .instruction target content => .instruction target content

def commentedAll : List Node → List Node
  | [] => []
  | node :: nodes => commented node :: commentedAll nodes

end

mutual

theorem text?_of_mem_elements_commented (node : Node) :
    ∀ element ∈ (commented node).elements, element.text? = none := by
  cases node with
  | element name attributes content =>
      intro element hmem
      simp only [commented, elements, elementsOf, List.nil_append,
        List.mem_cons] at hmem
      obtain rfl | hmem := hmem
      · rfl
      · exact text?_of_mem_elementsOf_commentedAll content element hmem
  | text content => simp [commented, elements]
  | comment content => simp [commented, elements]
  | instruction target content => simp [commented, elements]

theorem text?_of_mem_elementsOf_commentedAll (nodes : List Node) :
    ∀ element ∈ elementsOf (commentedAll nodes), element.text? = none := by
  cases nodes with
  | nil => simp [commentedAll, elementsOf]
  | cons node nodes =>
      intro element hmem
      rw [commentedAll, elementsOf, List.mem_append] at hmem
      obtain hmem | hmem := hmem
      · exact text?_of_mem_elements_commented node element hmem
      · exact text?_of_mem_elementsOf_commentedAll nodes element hmem

end

end Node

namespace Element

def commented (element : Element) : Element :=
  { element with content := .comment "" :: Node.commentedAll element.content }

theorem text?_of_mem_descendants_commented (element : Element) {below : Element}
    (h : below ∈ element.commented.descendants) : below.text? = none :=
  Node.text?_of_mem_elements_commented element.toNode below (by
    simpa [commented, descendants, toNode, Node.commented] using h)

end Element

theorem marked_front (name : Name) (attributes : List Attribute)
    (content : List Node) :
    Marked (fun _ _ => True) ⟨name, attributes, content⟩
      ⟨name, attributes, .comment "" :: content⟩ :=
  .between [] content rfl trivial

mutual

theorem reflTransGen_commented (element : Element) :
    Relation.ReflTransGen (Marked fun _ _ => True) element element.commented := by
  obtain ⟨name, attributes, content⟩ := element
  exact (reflTransGen_commentedAll name attributes [] content).tail
    (marked_front name attributes _)

theorem reflTransGen_commentedAll (name : Name) (attributes : List Attribute)
    (before content : List Node) :
    Relation.ReflTransGen (Marked fun _ _ => True)
      ⟨name, attributes, before ++ content⟩
      ⟨name, attributes, before ++ Node.commentedAll content⟩ := by
  cases content with
  | nil => exact .refl
  | cons node content =>
      have hrest :=
        reflTransGen_commentedAll name attributes
          (before ++ [node.commented]) content
      rw [List.append_assoc, List.append_assoc, List.singleton_append] at hrest
      refine Relation.ReflTransGen.trans ?_ hrest
      cases node with
      | element childName childAttributes children =>
          exact reflTransGen_inside before content
            (reflTransGen_commented ⟨childName, childAttributes, children⟩)
      | text text => exact .refl
      | comment text => exact .refl
      | instruction target text => exact .refl

end

end EndpointDiscovery.Xml
