import EndpointDiscovery.Proofs.Discovery.Redirect
import EndpointDiscovery.Proofs.Document.Extension

/-!
# Comments in documents

A reader takes the text that an element begins with for the whole of its text.  So a
mark in a document makes no difference unless it is put into, or in front of, a text
that is read: there the text ends.
-/

namespace EndpointDiscovery.SmpReader

open Xml (Element Marked MarkedOrEqual Node)

/-! ## Marks besides the texts -/

def readTexts : List String :=
  ["ParticipantIdentifier", "DocumentIdentifier", "ProcessIdentifier",
    "CertificateUID", "Address", "X509Certificate"] ++ endpointTexts

def KeepsText (element marked : Element) : Prop :=
  element.localName ∈ readTexts → element.text? = marked.text?

namespace Shape

def TextsIn (texts : List String) : Shape → Prop
  | .text => True
  | .texts name => name ∈ texts
  | .parts names part =>
      ∀ name ∈ names, (part name = .text → name ∈ texts) ∧ (part name).TextsIn texts

end Shape

theorem text?_of_marked {element marked : Element}
    (h : MarkedOrEqual KeepsText element marked)
    (hread : element.localName ∈ readTexts) :
    element.text? = marked.text? := by
  obtain rfl | h := h
  · rfl
  · exact h.keeps_eq hread

theorem textsBelow_of_marked {name : String} (hname : name ∈ readTexts)
    {element marked : Element} (h : Marked KeepsText element marked) :
    textsBelow name element = textsBelow name marked := by
  have hbelow := MarkedOrEqual.filter h.descendants name
  unfold textsBelow
  generalize element.descendants.filter _ = elements,
    marked.descendants.filter _ = others at hbelow
  induction hbelow with
  | nil => rfl
  | cons hhead htail ih =>
      rw [List.map_cons, List.map_cons,
        text?_of_marked hhead.2 (hhead.1 ▸ hname), ih]

theorem alike_of_marked {shape : Shape} (hshape : shape.TextsIn readTexts)
    {element marked : Element} (h : MarkedOrEqual KeepsText element marked)
    (htext : shape = .text → element.localName ∈ readTexts) :
    shape.Alike element marked := by
  obtain rfl | h := h
  · exact .refl shape element
  induction shape generalizing element marked with
  | text => exact ⟨h.name_eq, h.attributes_eq, h.keeps_eq (htext rfl)⟩
  | texts name => exact textsBelow_of_marked hshape h
  | parts names part ih =>
      refine ⟨h.name_eq, h.attributes_eq, fun name hname => ?_⟩
      obtain ⟨hleaf, hbelow⟩ := hshape name hname
      have hnamed : ∀ child ∈ element.children name, child.localName = name := by
        intro child hmem
        simpa using (List.mem_filter.mp hmem).2
      have hchildren := (List.forall₂_and_left _ _).mpr ⟨hnamed, h.children name⟩
      refine hchildren.imp fun child other ⟨hchild, hmarked⟩ => ?_
      obtain rfl | hmarked := hmarked
      · exact .refl _ child
      · exact ih name hbelow (fun htext => hchild ▸ hleaf htext) hmarked

theorem textsIn_endpointShape : endpointShape.TextsIn readTexts := by
  intro name hname
  obtain rfl | hmem := List.mem_cons.mp hname
  · simp [Shape.TextsIn, readTexts]
  · refine ⟨fun _ => List.mem_append_right _ hmem, ?_⟩
    have hother : name ≠ "EndpointReference" := by
      rintro rfl
      simp [endpointTexts] at hmem
    simp only [if_neg hother]
    trivial

theorem textsIn_informationShape : informationShape.TextsIn readTexts := by
  have hleaf : endpointShape ≠ .text := nofun
  simpa [informationShape, processShape, Shape.TextsIn, readTexts, hleaf]
    using textsIn_endpointShape

theorem textsIn_metadataShape (rootName : String) :
    (metadataShape rootName).TextsIn readTexts := by
  have hleaf : informationShape ≠ .text := nofun
  unfold metadataShape
  split <;>
  simpa [contentShape, redirectShape, signatureShape, Shape.TextsIn,
    readTexts, hleaf] using textsIn_informationShape

theorem textsIn_groupShape : groupShape.TextsIn readTexts := by
  simp [groupShape, Shape.TextsIn, readTexts]

section

variable {policy : IdentifierPolicy} {root marked : Element}

theorem metadataOfRoot_marked
    (h : Relation.ReflTransGen (Marked KeepsText) root marked) :
    metadataOfRoot policy marked = metadataOfRoot policy root := by
  induction h with
  | refl => rfl
  | @tail middle marked _ hmarked ih =>
      have halike : (metadataShape middle.localName).Alike middle marked := by
        refine alike_of_marked (textsIn_metadataShape _) (.inr hmarked)
          fun htext => ?_
        unfold metadataShape at htext
        split at htext <;> cases htext
      rw [← ih, metadataOfRoot_congr policy halike]

theorem groupOfRoot_marked
    (h : Relation.ReflTransGen (Marked KeepsText) root marked) :
    groupOfRoot policy marked = groupOfRoot policy root := by
  induction h with
  | refl => rfl
  | @tail middle marked _ hmarked ih =>
      have halike : groupShape.Alike middle marked :=
        alike_of_marked textsIn_groupShape (.inr hmarked) nofun
      rw [← ih, groupOfRoot_congr policy halike]

end

/-! ## Marks in the texts -/

/-- What is read of a document stays the same whatever marks are put into it. -/
def IgnoresMarks {α : Type} (read : Element → α) (root : Element) : Prop :=
  ∀ marked, Relation.ReflTransGen (Marked fun _ _ => True) root marked →
    read marked = read root

section

variable {policy : IdentifierPolicy} {element root : Element}

/-! ### Documents without texts -/

def HasNoTexts (root : Element) : Prop :=
  ∀ below ∈ root.descendants, below.text? = none

theorem HasNoTexts.child (h : HasNoTexts root) {name : String} {child : Element}
    (hchild : root.child? name = some child) : HasNoTexts child := by
  intro below hbelow
  apply h
  exact Element.mem_descendants_of_mem_children
    (List.mem_of_mem_head? hchild) hbelow

theorem HasNoTexts.text? (h : HasNoTexts root) : root.text? = none :=
  h root (by simp [Element.descendants_eq])

theorem identifier_ne_ok (h : element.text? = none) (kind : IdentifierKind)
    (read : Identifier) :
    identifier policy element kind ≠ .ok read := by
  have hvalue : Text.trim "" = "" := by decide
  intro hread
  obtain ⟨scheme, -, hcreated⟩ := bind_eq_ok_iff.mp hread
  rw [h, Option.getD_none, hvalue] at hcreated
  have hempty : policy.valueFlaw? kind "" = some .emptyValue := rfl
  cases hscheme : policy.schemeFlaw? scheme <;>
    simp [IdentifierPolicy.create, hscheme, hempty] at hcreated

theorem HasNoTexts.serviceInformation_ne_ok (h : HasNoTexts element)
    (read : ServiceInformation) : serviceInformation policy element ≠ .ok read := by
  intro hread
  obtain ⟨child, hchild, hrest⟩ := bind_eq_ok_iff.mp hread
  obtain ⟨participant, hparticipant, -⟩ := bind_eq_ok_iff.mp hrest
  exact identifier_ne_ok (h.child (requiredChild_eq_ok_iff.mp hchild)).text? _ _
    hparticipant

theorem HasNoTexts.groupOfRoot_ne_ok (h : HasNoTexts root) (read : ServiceGroup) :
    groupOfRoot policy root ≠ .ok read := by
  intro hread
  obtain ⟨checked, -, hrest⟩ := bind_eq_ok_iff.mp hread
  obtain ⟨child, hchild, hrest⟩ := bind_eq_ok_iff.mp hrest
  obtain ⟨participant, hparticipant, -⟩ := bind_eq_ok_iff.mp hrest
  exact identifier_ne_ok (h.child (requiredChild_eq_ok_iff.mp hchild)).text? _ _
    hparticipant

theorem HasNoTexts.redirect_eq_ok (h : HasNoTexts element) {read : Redirect}
    (hread : redirect element = .ok read) : read.certificateUid = "" := by
  obtain ⟨href, -, hrest⟩ := bind_eq_ok_iff.mp hread
  cases hrest
  cases huid : element.child? "CertificateUID" with
  | none => rfl
  | some child => simp [(h.child huid).text?]

theorem HasNoTexts.metadataContent_eq_ok (h : HasNoTexts element)
    {read : MetadataContent} (hread : metadataContent policy element = .ok read) :
    ∃ href, read = .redirect ⟨href, ""⟩ := by
  unfold metadataContent at hread
  split at hread
  · rename_i child hchild
    cases hredirect : redirect child with
    | error fault => simp [hredirect, Except.map] at hread
    | ok found =>
        simp only [hredirect, Except.map, Except.ok.injEq] at hread
        refine ⟨found.href, ?_⟩
        rw [← hread, ← (h.child hchild).redirect_eq_ok hredirect]
  · obtain ⟨information, hinformation, hrest⟩ := bind_eq_ok_iff.mp hread
    have hsilent := h.child (requiredChild_eq_ok_iff.mp hinformation)
    cases hfound : serviceInformation policy information with
    | error fault => simp [hfound, Except.map] at hrest
    | ok found => exact absurd hfound (hsilent.serviceInformation_ne_ok found)

theorem HasNoTexts.signer? (h : HasNoTexts root) :
    SmpReader.signer? root = .ok none := by
  have hnone : ∀ text? ∈ (root.children "Signature").flatMap
      (textsBelow "X509Certificate"), text? = none := by
    intro text? hmem
    obtain ⟨signature, hsignature, hbelow⟩ := List.mem_flatMap.mp hmem
    obtain ⟨certificate, hcertificate, rfl⟩ := List.mem_map.mp hbelow
    exact h certificate
      (Element.mem_descendants_of_mem_children hsignature
        (List.mem_of_mem_filter hcertificate))
  simp only [SmpReader.signer?, signerContent_eq]
  cases hhead :
      ((root.children "Signature").flatMap
        (textsBelow "X509Certificate")).head? with
  | none => rfl
  | some text? =>
      obtain rfl := hnone text? (List.mem_of_mem_head? hhead)
      rfl

theorem HasNoTexts.metadataOfRoot_eq_ok (h : HasNoTexts root)
    {read : ServiceMetadata} (hread : metadataOfRoot policy root = .ok read) :
    read.signer? = none ∧ ∃ href, read.content = .redirect ⟨href, ""⟩ := by
  obtain ⟨-, ⟨metadata, hmetadata, hcontent⟩, hsigner⟩ :=
    metadataOfRoot_eq_ok_iff.mp hread
  rw [h.signer?] at hsigner
  have hsilent : HasNoTexts metadata := by
    unfold metadataElement? at hmetadata
    split at hmetadata
    · cases hmetadata
      exact h
    · exact h.child hmetadata
  exact ⟨(Except.ok.inj hsigner).symm, hsilent.metadataContent_eq_ok hcontent⟩

theorem hasNoTexts_commented (root : Element) : HasNoTexts root.commented :=
  fun _ hmem => root.text?_of_mem_descendants_commented hmem

/-! ### Redirects without an identifier -/

variable {keeps : Element → Element → Prop} {marked : Element}

theorem child?_marked (h : MarkedOrEqual keeps root marked) (name : String) :
    Option.Rel (MarkedOrEqual keeps) (root.child? name) (marked.child? name) := by
  obtain rfl | h := h
  · cases root.child? name with
    | none => exact .none
    | some child => exact .some (.inl rfl)
  · exact child?_rel (h.children name)

theorem text?_getD_marked (h : MarkedOrEqual keeps element marked)
    (hempty : element.text?.getD "" = "") : marked.text?.getD "" = "" := by
  obtain rfl | h := h
  · exact hempty
  obtain hnone | ⟨head, rest, htext, hhead⟩ := h.text?
  · rw [hnone, Option.getD_none]
  · rw [htext, Option.getD_some] at hempty
    rw [hhead, Option.getD_some]
    simp_all

theorem content?_marked (h : MarkedOrEqual keeps element marked)
    (hnone : content? element = none) : content? marked = none := by
  obtain rfl | h := h
  · exact hnone
  obtain hsilent | ⟨head, rest, htext, hhead⟩ := h.text?
  · simp [content?, hsilent]
  · have hblank : (Text.trim (head ++ rest)).isEmpty = true := by
      simpa [content?, htext] using hnone
    rw [Text.isEmpty_trim_iff, String.toList_append] at hblank
    have htrimmed : (Text.trim head).isEmpty = true :=
      (Text.isEmpty_trim_iff head).mpr fun character hmem =>
        hblank character (List.mem_append_left _ hmem)
    simpa [content?, hhead] using htrimmed

theorem redirect_marked (h : MarkedOrEqual keeps element marked) {href : String}
    (hread : redirect element = .ok ⟨href, ""⟩) :
    redirect marked = .ok ⟨href, ""⟩ := by
  have hattributes : element.attributes = marked.attributes := by
    obtain rfl | h := h
    · rfl
    · exact h.attributes_eq
  obtain ⟨found, hfound, hrest⟩ := bind_eq_ok_iff.mp hread
  have huid : ((element.child? "CertificateUID").bind (·.text?)).getD "" = "" :=
    congrArg Redirect.certificateUid (Except.ok.inj hrest)
  have hmarkedUid :
      ((marked.child? "CertificateUID").bind (·.text?)).getD "" = "" := by
    have hrel := child?_marked h "CertificateUID"
    generalize element.child? "CertificateUID" = child?,
      marked.child? "CertificateUID" = other? at hrel huid ⊢
    cases hrel with
    | none => rfl
    | some hchild => exact text?_getD_marked hchild huid
  rw [← hread]
  simp only [redirect, attribute?_congr hattributes, huid, hmarkedUid]

theorem metadataContent_marked (h : MarkedOrEqual keeps element marked)
    {href : String}
    (hread : metadataContent policy element = .ok (.redirect ⟨href, ""⟩)) :
    metadataContent policy marked = .ok (.redirect ⟨href, ""⟩) := by
  have hrel := child?_marked h "Redirect"
  unfold metadataContent at hread ⊢
  generalize element.child? "Redirect" = child?,
    marked.child? "Redirect" = other? at hrel hread ⊢
  cases hrel with
  | none =>
      obtain ⟨information, -, hrest⟩ := bind_eq_ok_iff.mp hread
      cases hfound : serviceInformation policy information <;>
        simp [hfound, Except.map] at hrest
  | @some child other hchild =>
      dsimp only at hread ⊢
      cases hredirect : redirect child with
      | error fault => simp [hredirect, Except.map] at hread
      | ok found =>
          obtain rfl : found = ⟨href, ""⟩ := by
            simpa [hredirect, Except.map] using hread
          rw [redirect_marked hchild hredirect]
          rfl

theorem descendants_marked (h : MarkedOrEqual keeps element marked) :
    List.Forall₂ (MarkedOrEqual keeps) element.descendants marked.descendants := by
  obtain rfl | h := h
  · exact Xml.forall₂_markedOrEqual _
  · exact h.descendants

theorem signer?_eq_none_iff : signer? root = .ok none ↔
    (((root.children "Signature").flatMap (·.descendants)).filter
      (·.localName = "X509Certificate")).head?.bind content? = none := by
  unfold signer?
  dsimp only
  cases (((root.children "Signature").flatMap (·.descendants)).filter
      (·.localName = "X509Certificate")).head?.bind content? with
  | none => simp
  | some text => cases hpublished : publishedCertificate text <;>
    simp [Except.map, hpublished]

theorem signer?_marked (h : Marked keeps root marked)
    (hread : signer? root = .ok none) :
    signer? marked = .ok none := by
  rw [signer?_eq_none_iff] at hread ⊢
  have hbelow : List.Forall₂ (MarkedOrEqual keeps)
      ((root.children "Signature").flatMap (·.descendants))
      ((marked.children "Signature").flatMap (·.descendants)) :=
    List.rel_flatMap (h.children "Signature") fun _ _ => descendants_marked
  have hcertificates := MarkedOrEqual.filter hbelow "X509Certificate"
  generalize ((root.children "Signature").flatMap (·.descendants)).filter _ =
    certificates,
    ((marked.children "Signature").flatMap (·.descendants)).filter _ = others
    at hcertificates hread ⊢
  cases hcertificates with
  | nil => rfl
  | cons hhead htail => exact content?_marked hhead.2 hread

theorem metadataOfRoot_of_marked (h : Marked keeps root marked) {href : String}
    (hread : metadataOfRoot policy root = .ok ⟨.redirect ⟨href, ""⟩, none⟩) :
    metadataOfRoot policy marked = .ok ⟨.redirect ⟨href, ""⟩, none⟩ := by
  obtain ⟨hchecked, ⟨metadata, hmetadata, hcontent⟩, hsigner⟩ :=
    metadataOfRoot_eq_ok_iff.mp hread
  refine metadataOfRoot_eq_ok_iff.mpr ⟨?_, ?_, signer?_marked h hsigner⟩
  · rw [← checkRoot_congr h.name_eq, hchecked]
  · have hrel : Option.Rel (MarkedOrEqual keeps) (metadataElement? root)
        (metadataElement? marked) := by
      unfold metadataElement? Element.localName
      rw [h.name_eq]
      split
      · exact .some (.inr h)
      · exact child?_marked (.inr h) _
    rw [hmetadata] at hrel
    generalize metadataElement? marked = other? at hrel ⊢
    cases hrel with
    | some hmarked => exact ⟨_, rfl, metadataContent_marked hmarked hcontent⟩

/-! ### What marks make of a document -/

/-- What marks make of documents that are read under a policy. -/
structure ReadsUpToMarks (policy : IdentifierPolicy) : Prop where
  texts : ∀ text root, Xml.parse? text = some root →
    serviceMetadata policy text = metadataOfRoot policy root ∧
      serviceGroup policy text = groupOfRoot policy root
  metadataAside : ∀ root marked,
    Relation.ReflTransGen (Marked KeepsText) root marked →
    metadataOfRoot policy marked = metadataOfRoot policy root
  groupAside : ∀ root marked, Relation.ReflTransGen (Marked KeepsText) root marked →
    groupOfRoot policy marked = groupOfRoot policy root
  shortens : ∀ element marked,
    Relation.ReflTransGen (Marked fun _ _ => True) element marked →
    marked.text? = none ∨
      ∃ head rest, element.text? = some (head ++ rest) ∧ marked.text? = some head
  metadata : ∀ root read, metadataOfRoot policy root = .ok read →
    (IgnoresMarks (metadataOfRoot policy) root ↔
      read.signer? = none ∧ ∃ href, read.content = .redirect ⟨href, ""⟩)
  group : ∀ root read, groupOfRoot policy root = .ok read →
    ¬IgnoresMarks (groupOfRoot policy) root

theorem reads_up_to_marks (policy : IdentifierPolicy) : ReadsUpToMarks policy where
  texts _ _ hparse := ⟨document_of_parse? _ hparse, document_of_parse? _ hparse⟩
  metadataAside _ _ h := metadataOfRoot_marked h
  groupAside _ _ h := groupOfRoot_marked h
  shortens _ _ h := Xml.text?_of_marks h
  metadata root read hread := by
    constructor
    · intro hignores
      have hcommented := hignores root.commented (Xml.reflTransGen_commented root)
      rw [hread] at hcommented
      exact (hasNoTexts_commented root).metadataOfRoot_eq_ok hcommented
    · rintro ⟨hsigner, href, hcontent⟩ marked hmarked
      obtain rfl : read = ⟨.redirect ⟨href, ""⟩, none⟩ := by
        rw [← hsigner, ← hcontent]
      rw [hread]
      induction hmarked with
      | refl => exact hread
      | tail _ hmarked ih => exact metadataOfRoot_of_marked hmarked ih
  group root read hread hignores := by
    have hcommented := hignores root.commented (Xml.reflTransGen_commented root)
    rw [hread] at hcommented
    exact (hasNoTexts_commented root).groupOfRoot_ne_ok read hcommented

end

/-! ### A comment in an identifier -/

def participantPage (spelling : String) : List Char :=
  "<ServiceMetadata xmlns='http://busdox.org/serviceMetadata/publishing/1.0/'>".toList ++
    "<ServiceInformation><ParticipantIdentifier scheme='a'>".toList ++
    spelling.toList ++
    "</ParticipantIdentifier>".toList ++
    "<DocumentIdentifier scheme='a'>d</DocumentIdentifier>".toList ++
    "<ProcessList/></ServiceInformation></ServiceMetadata>".toList

def participantElement (content : List Node) : Element :=
  ⟨⟨some peppolSmpNamespace, "ParticipantIdentifier"⟩, [⟨⟨none, "scheme"⟩, "a"⟩],
    content⟩

def participantRoot (content : List Node) : Element :=
  let documentType : Element :=
    ⟨⟨some peppolSmpNamespace, "DocumentIdentifier"⟩, [⟨⟨none, "scheme"⟩, "a"⟩],
      [.text "d"]⟩
  let processList : Element := ⟨⟨some peppolSmpNamespace, "ProcessList"⟩, [], []⟩
  let information : Element := ⟨⟨some peppolSmpNamespace, "ServiceInformation"⟩, [],
    [(participantElement content).toNode, documentType.toNode, processList.toNode]⟩
  ⟨⟨some peppolSmpNamespace, "ServiceMetadata"⟩, [], [information.toNode]⟩

theorem parse?_participantPage_plain :
    Xml.parse? (String.ofList (participantPage "bc")) =
      some (participantRoot [.text "bc"]) := by
  rw [Xml.parse?, String.toList_ofList]
  decide +kernel

theorem parse?_participantPage_commented :
    Xml.parse? (String.ofList (participantPage "b<!---->c")) =
      some (participantRoot [.text "b", .comment "", .text "c"]) := by
  rw [Xml.parse?, String.toList_ofList]
  decide +kernel

theorem marked_participantRoot :
    Marked (fun _ _ => True) (participantRoot [.text "bc"])
      (participantRoot [.text "b", .comment "", .text "c"]) := by
  refine .inside [] [] (.inside [] _ ?_ trivial) trivial
  exact .within [] [] "b" "c"
    (show (Node.comment "").isMark = true from rfl) trivial

def participantOf? (read : Except DiscoveryFault ServiceMetadata) : Option String :=
  read.toOption.bind fun metadata =>
    match metadata.content with
    | .information information => some information.participant.value
    | .redirect _ => none

/-- With a comment in its identifier, the participant is another one. -/
theorem not_ignoresMarks_participantPage :
    ∃ root marked, Xml.parse? (String.ofList (participantPage "bc")) = some root ∧
      Xml.parse? (String.ofList (participantPage "b<!---->c")) = some marked ∧
      Marked (fun _ _ => True) root marked ∧
      participantOf? (serviceMetadata {} (String.ofList (participantPage "bc"))) =
        some "bc" ∧
      participantOf?
        (serviceMetadata {} (String.ofList (participantPage "b<!---->c"))) =
        some "b" ∧
      ¬IgnoresMarks (metadataOfRoot {}) root := by
  have hreads := reads_up_to_marks {}
  have hplain : participantOf? (metadataOfRoot {} (participantRoot [.text "bc"])) =
      some "bc" := by
    decide +kernel
  refine ⟨_, _, parse?_participantPage_plain, parse?_participantPage_commented,
    marked_participantRoot, ?_, ?_, fun hignores => ?_⟩
  · rwa [(hreads.texts _ _ parse?_participantPage_plain).1]
  · rw [(hreads.texts _ _ parse?_participantPage_commented).1]
    decide +kernel
  · cases hread : metadataOfRoot {} (participantRoot [.text "bc"]) with
    | error fault =>
        rw [hread] at hplain
        cases hplain
    | ok read =>
        obtain ⟨-, href, hcontent⟩ := (hreads.metadata _ read hread).mp hignores
        rw [hread] at hplain
        simp [participantOf?, Except.toOption, hcontent] at hplain

end EndpointDiscovery.SmpReader
