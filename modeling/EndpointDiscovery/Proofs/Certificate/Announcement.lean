import EndpointDiscovery.Proofs.Certificate.SubjectClash
import EndpointDiscovery.Proofs.Text.AsciiCase

/-!
# Announced certificates

A redirect may announce a certificate by the name of its subject in either order, by
a common name or serial number in it, or by a fingerprint.  The certificate is
recognized in each of these forms, whatever blanks stand beside separators and at
the ends, wherever colons divide a fingerprint, and in either case of ASCII letters.
-/

namespace EndpointDiscovery

open NameAttribute (escapeValue lowerAscii)
open Text (AllBlank IsBorder Padded SameUpToCase lowerChar lowerList trimList)

/-! ## Forms -/

/-- An attribute with blanks around its equals sign and at its ends. -/
inductive NameAttribute.Spaced (entry : NameAttribute) : List Char → Prop
  | intro {value : String} {name padded : List Char}
      (hvalue : entry.text? = some value)
      (hname : Padded (AttributeType.shortName entry.type).toList name)
      (hpadded : Padded (escapeValue value.toList) padded) :
      Spaced entry (name ++ '=' :: padded)

/-- The forms in which a certificate may be announced.  The text of a value ends
before the first NUL. -/
inductive Certificate.Announces (certificate : Certificate) : List Char → Prop
  | name {order : List NameAttribute} {attributes : List (List Char)}
      (horder : order = certificate.subject.attributes ∨
        order = certificate.subject.attributes.reverse)
      (hspaced : List.Forall₂ NameAttribute.Spaced order attributes) :
      Announces certificate (List.intercalate [','] attributes)
  | value {entry : NameAttribute} {value : String} {padded : List Char}
      (hentry : entry ∈ certificate.subject.attributes)
      (htype : entry.type = AttributeType.commonName ∨
        entry.type = AttributeType.serialNumber)
      (hvalue : entry.text? = some value) (hpadded : Padded value.toList padded) :
      Announces certificate padded
  | fingerprint {divided padded : List Char} {digits : String}
      (hdigits : digits = Bytes.hex (Sha256.digest certificate.der) ∨
        digits = Bytes.hex (Sha1.digest certificate.der))
      (hdivided : divided.filter (· ≠ ':') = digits.toList)
      (hpadded : Padded divided padded) :
      Announces certificate padded

/-! ## Names -/

theorem Text.Padded.lowerList {characters padded : List Char}
    (h : Padded characters padded) :
    Padded (lowerList characters) (lowerList padded) := by
  obtain ⟨before, after, hbefore, hafter, rfl⟩ := h
  refine ⟨before, after, hbefore, hafter, ?_⟩
  rw [Text.lowerList_blanks_append hbefore, Text.lowerList_append_blanks _ hafter]

theorem nameParts_padded {name value paddedName paddedValue : List Char}
    (hname : Padded name paddedName) (hvalue : Padded value paddedValue) :
    nameParts (paddedName ++ '=' :: paddedValue) =
      nameParts (name ++ '=' :: value) := by
  obtain ⟨before, left, hbefore, hleft, rfl⟩ := hname
  obtain ⟨right, after, hright, hafter, rfl⟩ := hvalue
  calc nameParts ((before ++ (name ++ left)) ++ '=' :: (right ++ (value ++ after)))
      = nameParts
        (before ++ ((name ++ (left ++ '=' :: (right ++ value))) ++ after)) := by
        simp only [List.append_assoc, List.cons_append]
    _ = nameParts (name ++ (left ++ '=' :: (right ++ value))) := by
        rw [nameParts_blanks_append hbefore, nameParts_append_blanks _ hafter]
    _ = nameParts (name ++ '=' :: value) :=
        nameParts_separator_blanks (.inr rfl) hleft hright name value

theorem NameAttribute.Spaced.exists_describe? {entry : NameAttribute}
    {spaced : List Char} (h : entry.Spaced spaced) : ∃ plain,
    entry.describe? = some plain ∧
      nameParts (lowerList spaced) = nameParts (lowerList plain) := by
  have hequals : IsBorder '=' := by decide
  obtain ⟨hvalue, hname, hpadded⟩ := h
  refine ⟨_, by rw [describe?, hvalue, Option.map_some], ?_⟩
  rw [Text.lowerList_append_border _ _ hequals,
    Text.lowerList_append_border _ _ hequals,
    nameParts_padded hname.lowerList hpadded.lowerList]

theorem exists_descriptions {order : List NameAttribute}
    {attributes : List (List Char)}
    (h : List.Forall₂ NameAttribute.Spaced order attributes) :
    ∃ plain, order.mapM NameAttribute.describe? = some plain ∧
      List.Forall₂ (fun spaced text =>
        nameParts (lowerList spaced) = nameParts (lowerList text))
        attributes plain := by
  induction h with
  | nil => exact ⟨[], rfl, .nil⟩
  | cons hfirst hrest ih =>
      obtain ⟨first, hdescribe, hparts⟩ := hfirst.exists_describe?
      obtain ⟨rest, hdescriptions, hsame⟩ := ih
      exact ⟨first :: rest, by rw [List.mapM_cons, hdescribe, hdescriptions]; rfl,
        .cons hparts hsame⟩

theorem normalName_intercalate_congr {attributes plain : List (List Char)}
    (h : List.Forall₂
      (fun spaced text => nameParts (lowerList spaced) = nameParts (lowerList text))
      attributes plain) :
    CertificateUid.normalName (List.intercalate [','] attributes) =
      CertificateUid.normalName (List.intercalate [','] plain) := by
  have hcomma : IsBorder ',' := by decide
  rw [CertificateUid.normalName_eq_iff, Text.lowerList_intercalate hcomma,
    Text.lowerList_intercalate hcomma]
  cases h with
  | nil => rfl
  | cons hfirst hrest =>
      rw [nameParts_intercalate (by simp), nameParts_intercalate (by simp),
        List.flatMap_map, List.flatMap_map, List.flatMap_cons,
        List.flatMap_cons, hfirst]
      congr 1
      induction hrest with
      | nil => rfl
      | cons hnext _ ih => rw [List.flatMap_cons, List.flatMap_cons, hnext, ih]

theorem isNameOf_of_spaced {certificate : Certificate} {order : List NameAttribute}
    {attributes : List (List Char)}
    (horder : order = certificate.subject.attributes ∨
      order = certificate.subject.attributes.reverse)
    (hspaced : List.Forall₂ NameAttribute.Spaced order attributes) {uid : String}
    (huid : CertificateUid.normalName uid.toList =
      CertificateUid.normalName (List.intercalate [','] attributes)) :
    CertificateUid.isNameOf uid certificate = true := by
  simp only [CertificateUid.isNameOf, Bool.or_eq_true, Option.any_eq_true,
    decide_eq_true_eq]
  rcases horder with rfl | rfl
  · obtain ⟨plain, hplain, hsame⟩ := exists_descriptions hspaced
    refine .inr ⟨List.intercalate [','] plain, ?_, ?_⟩
    · rw [Name.encodedText?, Name.descriptions?, hplain, Option.map_some]
    · rw [huid, normalName_intercalate_congr hsame]
  · rw [← List.forall₂_reverse_iff, List.reverse_reverse] at hspaced
    obtain ⟨plain, hplain, hsame⟩ := exists_descriptions hspaced
    rw [← List.forall₂_reverse_iff, List.reverse_reverse] at hsame
    refine .inl ⟨List.intercalate [','] plain.reverse, ?_, ?_⟩
    · rw [Name.text?, Name.descriptions?, hplain, Option.map_some]
    · rw [huid, normalName_intercalate_congr hsame]

/-! ## Values and fingerprints -/

namespace CertificateUid

def normalList (characters : List Char) : List Char :=
  ((trimList characters).filter (· ≠ ':')).flatMap lowerChar

theorem normalText_eq (text : String) :
    normalText text = String.ofList (normalList text.toList) := by
  rw [normalText, Text.lowerEach, String.toList_ofList, normalList]

theorem normalList_padded {characters padded : List Char}
    (h : Padded characters padded) :
    normalList padded = normalList characters := by
  rw [normalList, h.trimList_eq, normalList]

theorem normalList_congr {text other : List Char} (h : SameUpToCase text other) :
    normalList text = normalList other :=
  (h.trimList.filter_ne (Text.lowerAscii_eq_iff (by decide))).flatMap_lowerChar_eq

theorem isTextOf_of_normalList {certificate : Certificate} {entry : NameAttribute}
    {value uid : String} (hentry : entry ∈ certificate.subject.attributes)
    (htype : entry.type = AttributeType.commonName ∨
      entry.type = AttributeType.serialNumber)
    (hvalue : entry.text? = some value)
    (huid : normalList uid.toList = normalList value.toList) :
    isTextOf uid certificate = true := by
  have hmem : value ∈ subjectTexts certificate := by
    refine List.mem_filterMap.mpr ⟨entry, ?_, hvalue⟩
    rw [List.mem_append, Name.values, Name.values, List.mem_filter, List.mem_filter]
    exact htype.imp (⟨hentry, decide_eq_true ·⟩) (⟨hentry, decide_eq_true ·⟩)
  refine List.any_eq_true.mpr ⟨value, hmem, decide_eq_true ?_⟩
  rw [normalText_eq, normalText_eq, huid]

theorem hexDigit_plain {digit : Char} {bytes : List UInt8}
    (h : digit ∈ (Bytes.hex bytes).toList) :
    lowerChar digit = [digit] ∧ Text.isBlank digit = false ∧ digit ≠ ':' := by
  have hdigit : ∀ number < 16, lowerChar (Bytes.lowerHexDigit number) =
      [Bytes.lowerHexDigit number] ∧
      Text.isBlank (Bytes.lowerHexDigit number) = false ∧
        Bytes.lowerHexDigit number ≠ ':' := by decide
  rw [Bytes.hex, String.toList_ofList, List.mem_flatMap] at h
  obtain ⟨byte, -, hmem⟩ := h
  have hbyte := byte.toNat_lt
  simp only [List.mem_cons, List.not_mem_nil, or_false] at hmem
  rcases hmem with rfl | rfl
  · exact hdigit _ (by omega)
  · exact hdigit _ (by omega)

theorem normalList_divided {divided : List Char} {bytes : List UInt8}
    (h : divided.filter (· ≠ ':') = (Bytes.hex bytes).toList) :
    normalList divided = (Bytes.hex bytes).toList := by
  have hvisible : ∀ character ∈ divided, Text.isBlank character = false := by
    intro character hmem
    by_cases hcolon : character = ':'
    · rw [hcolon]
      decide
    · have hdigit : character ∈ (Bytes.hex bytes).toList := by
        rw [← h, List.mem_filter]
        exact ⟨hmem, decide_eq_true hcolon⟩
      exact (hexDigit_plain hdigit).2.1
  have hlower : (Bytes.hex bytes).toList.flatMap lowerChar =
      (Bytes.hex bytes).toList := by
    conv_rhs => rw [← List.flatMap_singleton' (Bytes.hex bytes).toList]
    exact List.flatMap_congr fun digit hdigit => (hexDigit_plain hdigit).1
  rw [normalList, (Text.tight_of_forall hvisible).trimList_eq, h, hlower]

theorem isFingerprintOf_of_normalList {certificate : Certificate}
    {digits uid : String}
    (hdigits : digits = Bytes.hex (Sha256.digest certificate.der) ∨
      digits = Bytes.hex (Sha1.digest certificate.der))
    (huid : normalList uid.toList = digits.toList) :
    isFingerprintOf uid certificate = true := by
  rw [isFingerprintOf, List.contains_iff_mem, normalText_eq, huid,
    String.ofList_toList]
  rcases hdigits with rfl | rfl <;> simp [fingerprints]

end CertificateUid

/-! ## Recognition -/

/-- A certificate is recognized in every form in which it may be announced, in
either case of the ASCII letters. -/
theorem Certificate.Announces.is_recognized {certificate : Certificate}
    {form : List Char} (h : certificate.Announces form) {uid : String}
    (huid : SameUpToCase uid.toList form) :
    CertificateUid.identifies uid certificate = true := by
  simp only [CertificateUid.identifies, Bool.or_eq_true]
  cases h with
  | name horder hspaced =>
      refine .inl (.inl (isNameOf_of_spaced horder hspaced ?_))
      rw [CertificateUid.normalName_eq, CertificateUid.normalName_eq,
        huid.lowerList_eq]
  | value hentry htype hvalue hpadded =>
      refine .inl
        (.inr (CertificateUid.isTextOf_of_normalList hentry htype hvalue ?_))
      rw [CertificateUid.normalList_congr huid,
        CertificateUid.normalList_padded hpadded]
  | fingerprint hdigits hdivided hpadded =>
      refine .inr (CertificateUid.isFingerprintOf_of_normalList hdigits ?_)
      rw [CertificateUid.normalList_congr huid,
        CertificateUid.normalList_padded hpadded]
      rcases hdigits with rfl | rfl <;>
        exact CertificateUid.normalList_divided hdivided

def announcedSubject : List NameEntry :=
  [⟨[2, 5, 4, 6], "HR"⟩, ⟨[2, 5, 4, 3], "Leaf, d.o.o. "⟩]

theorem is_recognized_announcedSubject :
    (Certificate.withSubject (.numbered 1) announcedSubject).Announces
        " CN\t=Leaf\\, d.o.o.\\  ,C = HR".toList ∧
      SameUpToCase " cn\t=LEAF\\, D.O.O.\\  ,c = hr".toList
        " CN\t=Leaf\\, d.o.o.\\  ,C = HR".toList ∧
      CertificateUid.identifies " cn\t=LEAF\\, D.O.O.\\  ,c = hr"
        (.withSubject (.numbered 1) announcedSubject) = true := by
  have hform : (Certificate.withSubject (.numbered 1) announcedSubject).Announces
      " CN\t=Leaf\\, d.o.o.\\  ,C = HR".toList := by
    refine @Certificate.Announces.name _ _
      [" CN\t=Leaf\\, d.o.o.\\  ".toList, "C = HR".toList]
      (.inr rfl) (.cons ?_ (.cons ?_ .nil))
    · exact @NameAttribute.Spaced.intro _ "Leaf, d.o.o. " _ _ (by decide)
        ⟨[' '], ['\t'], by decide, by decide, rfl⟩
        ⟨[], [' '], by decide, by decide, rfl⟩
    · exact @NameAttribute.Spaced.intro _ "HR" _ _ (by decide)
        ⟨[], [' '], by decide, by decide, rfl⟩
        ⟨[' '], [], by decide, by decide, rfl⟩
  have hcase : SameUpToCase " cn\t=LEAF\\, D.O.O.\\  ,c = hr".toList
      " CN\t=Leaf\\, d.o.o.\\  ,C = HR".toList := by decide
  exact ⟨hform, hcase, hform.is_recognized hcase⟩

end EndpointDiscovery
