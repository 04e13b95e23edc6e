import EndpointDiscovery.Proofs.Document.Shape
import EndpointDiscovery.Proofs.Xml.Content

/-!
# Extensions of documents

Documents may be extended in every element that is read for its children, also with
elements that look like others in the wrong place.  The content and the signer of
signed metadata come from separate parts of the document.
-/

namespace EndpointDiscovery.SmpReader

open Xml (Element Node named named_append named_cons)

/-! ## Edits of contents -/

namespace Shape

/-- A change where a reader does not look: of nodes that it does not look up, or of
the order between elements of different local names. -/
inductive Edit : Shape → List Node → List Node → Prop where
  | insert {names : List String} {part : String → Shape} (before after : List Node)
      {node : Node}
      (unread : ∀ element, node.element? = some element →
        element.localName ∉ names) :
      Edit (.parts names part) (before ++ after) (before ++ node :: after)
  | reorder {names : List String} {part : String → Shape} {old new : List Node}
      (moved : old.Perm new) (inOrder : ∀ name, named old name = named new name) :
      Edit (.parts names part) old new
  | inside {names : List String} {part : String → Shape} (before after : List Node)
      (name : Xml.Name) (attributes : List Xml.Attribute) {old new : List Node}
      (read : name.localName ∈ names) (edit : Edit (part name.localName) old new) :
      Edit (.parts names part) (before ++ .element name attributes old :: after)
        (before ++ .element name attributes new :: after)

theorem named_eq_nil_of_unread {node : Node} {sought : String}
    (h : ∀ element, node.element? = some element → element.localName ≠ sought) :
    named [node] sought = [] := by
  cases helement : node.element? with
  | none => simp [named, helement]
  | some element => simp [named, helement, h element helement]

theorem Alike.refl_all (shape : Shape) (elements : List Element) :
    List.Forall₂ shape.Alike elements elements :=
  List.forall₂_same.mpr fun element _ => .refl shape element

theorem Alike.of_named_eq {names : List String} {part : String → Shape}
    {old new : List Node} (h : ∀ sought ∈ names,
      named old sought = named new sought) (name : Xml.Name)
    (attributes : List Xml.Attribute) :
    (parts names part).Alike ⟨name, attributes, old⟩ ⟨name, attributes, new⟩ := by
  refine ⟨rfl, rfl, fun sought hsought => ?_⟩
  change List.Forall₂ _ (named old sought) (named new sought)
  rw [h sought hsought]
  exact Alike.refl_all _ _

theorem Edit.alike {shape : Shape} {old new : List Node} (h : shape.Edit old new)
    (name : Xml.Name) (attributes : List Xml.Attribute) :
    shape.Alike ⟨name, attributes, old⟩ ⟨name, attributes, new⟩ := by
  induction h generalizing name attributes with
  | @insert names part before after node unread =>
      refine Alike.of_named_eq (fun sought hsought => ?_) name attributes
      have hnone : named [node] sought = [] :=
        named_eq_nil_of_unread fun element helement hname =>
          unread element helement (hname ▸ hsought)
      rw [named_append, named_append, named_cons, hnone, List.nil_append]
  | reorder moved inOrder =>
      exact Alike.of_named_eq (fun sought _ => inOrder sought) name attributes
  | @inside names part before after child childAttributes old new read edit ih =>
      refine ⟨rfl, rfl, fun sought hsought => ?_⟩
      change List.Forall₂ _ (named (before ++ _ :: after) sought)
        (named (before ++ _ :: after) sought)
      rw [named_append, named_append, named_cons, named_cons _ after]
      refine List.rel_append (Alike.refl_all _ _)
        (List.rel_append ?_ (Alike.refl_all _ _))
      by_cases hname : child.localName = sought
      · subst hname
        simpa [named, Node.element?, Element.localName]
          using ih child childAttributes
      · simp [named, Node.element?, Element.localName, hname]

theorem eq_of_edits {α : Type} {shape : Shape} (read : List Node → α)
    (hread : ∀ old new, shape.Edit old new → read old = read new)
    {old new : List Node} (h : Relation.EqvGen shape.Edit old new) :
    read old = read new := by
  induction h with
  | rel old new hedit => exact hread old new hedit
  | refl content => rfl
  | symm old new _ ih => exact ih.symm
  | trans old middle new _ _ ih ihNext => exact ih.trans ihNext

end Shape

/-! ## Separation of parts -/

/-- What a document is read from. -/
structure ReadsPartsOnly (policy : IdentifierPolicy) : Prop where
  texts : ∀ text root, Xml.parse? text = some root →
    serviceMetadata policy text = metadataOfRoot policy root ∧
      serviceGroup policy text = groupOfRoot policy root
  metadata : ∀ name attributes old new,
    Relation.EqvGen (metadataShape name.localName).Edit old new →
    metadataOfRoot policy ⟨name, attributes, old⟩ =
      metadataOfRoot policy ⟨name, attributes, new⟩
  group : ∀ name attributes old new, Relation.EqvGen groupShape.Edit old new →
    groupOfRoot policy ⟨name, attributes, old⟩ =
      groupOfRoot policy ⟨name, attributes, new⟩
  content : ∀ first second read other,
    first.localName = "SignedServiceMetadata" →
      second.localName = "SignedServiceMetadata" →
    metadataOfRoot policy first = .ok read →
      metadataOfRoot policy second = .ok other →
    first.child? "ServiceMetadata" = second.child? "ServiceMetadata" →
    read.content = other.content
  signer : ∀ first second read other,
    metadataOfRoot policy first = .ok read →
      metadataOfRoot policy second = .ok other →
    first.children "Signature" = second.children "Signature" →
      read.signer? = other.signer?

theorem reads_parts_only (policy : IdentifierPolicy) : ReadsPartsOnly policy where
  texts _ _ hparse := ⟨document_of_parse? _ hparse, document_of_parse? _ hparse⟩
  metadata name attributes old new hedits := by
    refine Shape.eq_of_edits
      (fun content => metadataOfRoot policy ⟨name, attributes, content⟩)
      (fun old new hedit => ?_) hedits
    exact metadataOfRoot_congr policy (hedit.alike name attributes)
  group name attributes old new hedits := by
    refine Shape.eq_of_edits
      (fun content => groupOfRoot policy ⟨name, attributes, content⟩)
      (fun old new hedit => ?_) hedits
    exact groupOfRoot_congr policy (hedit.alike name attributes)
  content first second read other hfirst hsecond hread hother hchild := by
    obtain ⟨-, ⟨metadata, hmetadata, hcontent⟩, -⟩ :=
      metadataOfRoot_eq_ok_iff.mp hread
    obtain ⟨-, ⟨changed, hchanged, hotherContent⟩, -⟩ :=
      metadataOfRoot_eq_ok_iff.mp hother
    have hsame : metadataElement? first = metadataElement? second := by
      simp [metadataElement?, hfirst, hsecond, hchild]
    rw [hmetadata, hchanged] at hsame
    cases hsame
    rw [hcontent] at hotherContent
    exact Except.ok.inj hotherContent
  signer first second read other hread hother hsignatures := by
    obtain ⟨-, -, hsigner⟩ := metadataOfRoot_eq_ok_iff.mp hread
    obtain ⟨-, -, hotherSigner⟩ := metadataOfRoot_eq_ok_iff.mp hother
    have hsame : signer? first = signer? second := by
      rw [signer?, signer?, hsignatures]
    rw [hsigner, hotherSigner] at hsame
    exact Except.ok.inj hsame

end EndpointDiscovery.SmpReader
