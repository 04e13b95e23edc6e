import EndpointDiscovery.Proofs.Url.Extension
import EndpointDiscovery.Smp.Client

/-!
# Query URLs

A query puts one segment after the path of the SMP, or three of them if it is about
a document type.  The segments are read as they are written, and the identifiers can
be told from them; no other component depends on the identifiers.
-/

namespace EndpointDiscovery

/-! ## Encoded segments -/

namespace Percent

open Url (isPartChar pathSet)

theorem char_of_mem_encode {text : String} {character : Char}
    (h : character ∈ (encode text).toList) :
    isPartChar character = true ∧ pathSet character = false ∧ character ≠ '/' ∧
      character ≠ '|' := by
  have hpart : isPartChar character = true := by
    rcases (escaped_encode text).mem h with hunreserved | rfl
    · exact Url.isPartChar_of_isPathChar
        (.inl (Url.isPathChar_of_isUnreserved hunreserved))
    · decide
  refine ⟨hpart, ?_⟩
  have hascii := Url.ascii_of_isPartChar hpart
  rcases (escaped_encode text).mem h with hunreserved | rfl
  · exact Text.of_ascii (P := fun character => Url.isUnreserved character = true →
      pathSet character = false ∧ character ≠ '/' ∧ character ≠ '|')
        (by decide) hascii hunreserved
  · decide

theorem encode_append (first second : String) :
    encode (first ++ second) = encode first ++ encode second := by
  rw [← String.toList_inj]
  simp [encode, Text.Utf8.encodeString, Text.Utf8.encode_append]

end Percent

namespace Identifier

variable (identifier : Identifier)

theorem percentEncodedUri_eq : identifier.percentEncodedUri =
    Percent.encode identifier.scheme ++ "%3A%3A" ++
    Percent.encode identifier.value := by
  have hseparator : Percent.encode schemeSeparator = "%3A%3A" := by decide
  rw [percentEncodedUri, uri, Percent.encode_append, Percent.encode_append,
    hseparator]

theorem three_mem_lower :
    '3' ∈ (Text.lower identifier.percentEncodedUri).toList := by
  have hascii : ∀ character ∈ identifier.percentEncodedUri.toList,
      character.toNat < 0x80 :=
    fun character hmem =>
      Url.ascii_of_isPartChar (Percent.char_of_mem_encode hmem).1
  have hthree : '3' ∈ identifier.percentEncodedUri.toList := by
    rw [percentEncodedUri_eq]
    simp
  rw [Text.toList_lower_of_ascii hascii]
  exact List.mem_flatMap.mpr ⟨'3', hthree, by decide⟩

theorem isPlainSegment : Url.IsPlainSegment identifier.percentEncodedUri := by
  have hdots : ∀ dots : List String, dots.all (!·.toList.contains '3') = true →
      dots.contains (Text.lower identifier.percentEncodedUri) = false := by
    intro dots hdots
    refine Bool.eq_false_iff.mpr fun hmem => ?_
    have hnot := List.all_eq_true.mp hdots _ (List.contains_iff_mem.mp hmem)
    have hthree := identifier.three_mem_lower
    simp only [Bool.not_eq_true', ← Bool.not_eq_true, List.contains_iff_mem] at hnot
    exact hnot hthree
  exact {
    noSlash := fun hmem => (Percent.char_of_mem_encode hmem).2.2.1 rfl
    escaped := fun character hmem => (Percent.char_of_mem_encode hmem).2.1
    notSingle := hdots _ (by decide)
    notDouble := hdots _ (by decide)
    noBar := fun hmem => (Percent.char_of_mem_encode hmem).2.2.2 rfl }

end Identifier

namespace DiscoveryClient

variable {base first second url : Url} {participant other : Identifier}
  {documentType? otherType? : Option Identifier}

/-! ## Segments of a query -/

def querySegments (participant : Identifier) : Option Identifier → List String
  | none => [participant.percentEncodedUri]
  | some documentType =>
      [participant.percentEncodedUri, "services", documentType.percentEncodedUri]

theorem queryPath_eq (participant : Identifier)
    (documentType? : Option Identifier) :
    queryPath participant documentType? =
      String.ofList (Url.slashed (querySegments participant documentType?)) := by
  rw [← String.toList_inj, String.toList_ofList]
  cases documentType? with
  | none => simp [queryPath, querySegments, Url.slashed]
  | some documentType =>
      have hmark : SmpReader.servicesMark.toList =
          '/' :: ("services".toList ++ ['/']) := by decide
      simp [queryPath, querySegments, Url.slashed, hmark]

theorem isSuffix_querySegments (participant : Identifier)
    (documentType? : Option Identifier) :
    Url.IsSuffix (querySegments participant documentType?) := by
  have hchars : "services".toList.all (fun character =>
      Url.isPartChar character && !Url.pathSet character) = true := by decide
  simp only [List.all_eq_true, Bool.and_eq_true, Bool.not_eq_true'] at hchars
  have hservices : Url.IsPlainSegment "services" :=
    { noSlash := by decide, escaped := fun character hmem =>
      (hchars character hmem).2,
      notSingle := by decide, notDouble := by decide, noBar := by decide }
  have hlong : 2 < participant.percentEncodedUri.toList.length := by
    rw [participant.percentEncodedUri_eq]
    simp
    omega
  cases documentType? with
  | none =>
      refine ⟨?_, ?_, _, _, rfl, hlong⟩
      · simpa [querySegments] using participant.isPlainSegment
      · simp only [querySegments, List.forall_mem_singleton]
        exact fun _ hmem => (Percent.char_of_mem_encode hmem).1
  | some documentType =>
      refine ⟨?_, ?_, _, _, rfl, hlong⟩
      · simpa [querySegments] using
          ⟨participant.isPlainSegment, hservices, documentType.isPlainSegment⟩
      · simp only [querySegments, List.forall_mem_cons]
        exact ⟨fun _ hmem => (Percent.char_of_mem_encode hmem).1,
          fun character hmem => (hchars character hmem).1,
          fun _ hmem => (Percent.char_of_mem_encode hmem).1, by simp⟩

theorem querySegments_eq_iff :
    querySegments participant documentType? = querySegments other otherType? ↔
      participant.uri = other.uri ∧
        documentType?.map Identifier.uri = otherType?.map Identifier.uri := by
  have hencode : ∀ {left right : Identifier},
      left.percentEncodedUri = right.percentEncodedUri ↔ left.uri = right.uri :=
    ⟨fun h => Percent.encode_injective h, fun h => congrArg Percent.encode h⟩
  cases documentType? <;> cases otherType? <;> simp [querySegments, hencode]

theorem slashed_querySegments_injective
    (h : Url.slashed (querySegments participant documentType?) =
      Url.slashed (querySegments other otherType?)) :
    querySegments participant documentType? = querySegments other otherType? := by
  have hfirst := isSuffix_querySegments participant documentType?
  have hsecond := isSuffix_querySegments other otherType?
  have hread : Url.segments false (Url.afterSlash (Url.slashed
      (querySegments participant documentType?))) =
        querySegments participant documentType? :=
    Url.segments_afterSlash_slashed hfirst.plain hfirst.ne_nil
  rw [← hread, h, Url.segments_afterSlash_slashed hsecond.plain hsecond.ne_nil]

def queryTexts (participant : Identifier) : Option Identifier → List String
  | none => [participant.uri]
  | some documentType => [participant.uri, "services", documentType.uri]

theorem map_decode_querySegments (participant : Identifier)
    (documentType? : Option Identifier) :
    (querySegments participant documentType?).map Percent.decode =
      (queryTexts participant documentType?).map .ok := by
  have hdecode : ∀ identifier : Identifier,
      Percent.decode identifier.percentEncodedUri = .ok identifier.uri :=
    fun identifier => Percent.decode_encode identifier.uri
  have hservices : Percent.decode "services" = .ok "services" := by decide +kernel
  cases documentType? <;> simp [querySegments, queryTexts, hdecode, hservices]

/-! ## Query URLs -/

/-- A URL that a query yields where the SMP is found at some base URL. -/
def IsQueryUrl (base : Url) (participant : Identifier)
    (documentType? : Option Identifier) (url : Url) : Prop :=
  ∃ (client : DiscoveryClient) (session : Session),
    (client.locator.locate participant client.config.zone).result = .ok base ∧
      ((client.queryUrl participant documentType?).run session).2 = .ok url

theorem run_queryUrl_of_located {client : DiscoveryClient} (session : Session)
    (hlocated : (client.locator.locate participant client.config.zone).result =
      .ok base) :
    ((client.queryUrl participant documentType?).run session).2 =
      extendBase base (queryPath participant documentType?) := by
  simp only [queryUrl, Discovery.run_bind, locate, hlocated]
  rfl

theorem isQueryUrl_iff (hnormal : base.IsNormal) :
    IsQueryUrl base participant documentType? url ↔
      base.isStrict = true ∧
      url = base.withSegments (querySegments participant documentType?) := by
  have hextended : extendBase base (queryPath participant documentType?) = .ok url ↔
      base.isStrict = true ∧
      url = base.withSegments (querySegments participant documentType?) := by
    rw [queryPath_eq, extendBase,
      Url.extendPath?_eq hnormal (isSuffix_querySegments _ _)]
    cases base.isStrict with
    | true => simp [eq_comm]
    | false => simp
  rw [← hextended]
  constructor
  · rintro ⟨client, session, hlocated, hresult⟩
    rwa [run_queryUrl_of_located session hlocated] at hresult
  · intro hresult
    refine ⟨{ locator := .explicit base, web := fun _ _ => {} }, {}, rfl, ?_⟩
    rwa [run_queryUrl_of_located {} rfl]

/-- The URLs of two queries to one SMP are the same, and are requested as the same,
exactly if both or neither are about a document type and the texts of the
identifiers are the same.  A query URL is the base URL with one or three segments
after its path; none of them is a dot segment or has a slash, and decoding them
yields the texts of the identifiers. -/
theorem queryUrls_unambiguous (hbase : ∃ written, Url.parse? written = some base)
    (hfirst : IsQueryUrl base participant documentType? first)
    (hsecond : IsQueryUrl base other otherType? second) :
    (first = second ↔ participant.uri = other.uri ∧
        documentType?.map Identifier.uri = otherType?.map Identifier.uri) ∧
      (first.toText = second.toText ↔ first = second) ∧
      Url.Lengthens base (querySegments participant documentType?) first ∧
      (querySegments participant documentType?).length =
        (if documentType?.isSome then 3 else 1) ∧
      (∀ segment ∈ querySegments participant documentType?,
        Url.IsPlainSegment segment) ∧
      (querySegments participant documentType?).map Percent.decode =
        (queryTexts participant documentType?).map .ok := by
  obtain ⟨written, hwritten⟩ := hbase
  have hnormal := Url.isNormal_of_parse? hwritten
  obtain ⟨hstrict, rfl⟩ := (isQueryUrl_iff hnormal).mp hfirst
  obtain ⟨-, rfl⟩ := (isQueryUrl_iff hnormal).mp hsecond
  have hnew := isSuffix_querySegments participant documentType?
  have hother := isSuffix_querySegments other otherType?
  have htold :
      (base.withSegments (querySegments participant documentType?)).toText =
      (base.withSegments (querySegments other otherType?)).toText →
        querySegments participant documentType? = querySegments other otherType? :=
    fun h => slashed_querySegments_injective
      (Url.slashed_eq_of_toText hnormal.body hnew hother h)
  refine ⟨⟨fun h => querySegments_eq_iff.mp (htold (congrArg Url.toText h)),
    fun h => ?_⟩, ⟨fun h => ?_, congrArg Url.toText⟩,
      hnormal.lengthens_withSegments hstrict hnew, ?_, hnew.plain,
      map_decode_querySegments participant documentType?⟩
  · rw [querySegments_eq_iff.mpr h]
  · rw [htold h]
  · cases documentType? <;> rfl

/-! ### Identifiers that look like paths -/

def pathLikeBase : Url where
  scheme := "https"
  host := some (.domain "smp.example")
  path := .segments ["a", ""]
  query := some "b"

def pathLikeParticipant : Identifier := ⟨.participant, "../x", "#y?z%2F", "#y?z%2F"⟩

def pathLikeType : Identifier := ⟨.documentType, "..", "/", "/"⟩

def pathLikeUrl (segments : List String) : Url :=
  { pathLikeBase with path := .segments ("a" :: segments) }

theorem queryUrls_unambiguous_pathLike :
    IdentifierPolicy.create {} .participant "../x" "#y?z%2F" =
      .ok pathLikeParticipant ∧
      IdentifierPolicy.create {} .documentType ".." "/" = .ok pathLikeType ∧
      Url.parse? "https://smp.example/a/?b" = some pathLikeBase ∧
      IsQueryUrl pathLikeBase pathLikeParticipant none
        (pathLikeUrl ["..%2Fx%3A%3A%23y%3Fz%252F"]) ∧
      IsQueryUrl pathLikeBase pathLikeParticipant (some pathLikeType)
        (pathLikeUrl ["..%2Fx%3A%3A%23y%3Fz%252F", "services", "..%3A%3A%2F"]) ∧
      (pathLikeUrl ["..%2Fx%3A%3A%23y%3Fz%252F"]).toText ≠
        (pathLikeUrl
          ["..%2Fx%3A%3A%23y%3Fz%252F", "services", "..%3A%3A%2F"]).toText := by
  have hbase : Url.parse? "https://smp.example/a/?b" = some pathLikeBase := by
    decide +kernel
  have hnormal := Url.isNormal_of_parse? hbase
  have hstrict : pathLikeBase.isStrict = true := by decide +kernel
  have hfirst : IsQueryUrl pathLikeBase pathLikeParticipant none
      (pathLikeUrl ["..%2Fx%3A%3A%23y%3Fz%252F"]) :=
    (isQueryUrl_iff hnormal).mpr ⟨hstrict, by decide +kernel⟩
  have hsecond : IsQueryUrl pathLikeBase pathLikeParticipant (some pathLikeType)
      (pathLikeUrl ["..%2Fx%3A%3A%23y%3Fz%252F", "services", "..%3A%3A%2F"]) :=
    (isQueryUrl_iff hnormal).mpr ⟨hstrict, by decide +kernel⟩
  obtain ⟨hsame, htext, -⟩ := queryUrls_unambiguous ⟨_, hbase⟩ hfirst hsecond
  refine ⟨by rfl, by rfl, hbase, hfirst, hsecond, fun h => ?_⟩
  have huris := hsame.mp (htext.mp h)
  cases huris.2

end DiscoveryClient

end EndpointDiscovery
