import EndpointDiscovery.Proofs.Certificate.PemText
import EndpointDiscovery.Proofs.Certificate.Reencoding
import EndpointDiscovery.Proofs.Discovery.Resolution
import EndpointDiscovery.Proofs.Document.Rejection
import EndpointDiscovery.Proofs.Text.Trim

/-!
# The forms of published certificates

Whichever form a certificate is published in, and whatever blanks the form is spread
with, the same certificate is read.
-/

namespace EndpointDiscovery

variable {certificate : Certificate} {bytes : List UInt8} {text : String}

/-! ## Base64 -/

theorem publishedCertificate_of_inked
    (h : Certificate.ofDer? bytes = some certificate)
    (htext : Text.inked text.toList = Base64.encode bytes) :
    publishedCertificate text = .ok certificate := by
  have hfilter : (Text.trimList text.toList).filter (!Text.isBlank ·) =
      Base64.encode bytes :=
    (Text.inked_trimList text.toList).trans htext
  -- Base64 has no hyphen, so that it is not taken for a block.
  have hstart :
      Text.dropStart? blockStart.toList (Text.trimList text.toList) = none := by
    rw [Text.dropStart?_eq_none_iff]
    intro hbegins
    have hmem : '-' ∈ (Text.trimList text.toList).filter (!Text.isBlank ·) :=
      List.mem_filter.mpr ⟨hbegins.subset (by decide), by decide +kernel⟩
    rw [hfilter] at hmem
    exact Base64.ne_hyphen_of_mem_encode bytes '-' hmem rfl
  unfold publishedCertificate
  simp [hstart, hfilter, Base64.block?_encode, h]

theorem inked_encode (bytes : List UInt8) :
    Text.inked (Base64.encode bytes) = Base64.encode bytes := by
  rw [Text.inked, List.filter_eq_self]
  intro character hmem
  simp [Base64.isBlank_of_mem_encode bytes character hmem]

/-! ## Blocks -/

theorem exists_core (certificate : Certificate) :
    ∃ between, Pem.core certificate = blockStart.toList ++ (between ++ ['-']) := by
  have hbegin : "-----BEGIN CERTIFICATE-----\n".toList =
      blockStart.toList ++ " CERTIFICATE-----\n".toList := by decide +kernel
  have hend : "-----END CERTIFICATE-----".toList =
      "-----END CERTIFICATE----".toList ++ ['-'] := by
    decide +kernel
  refine ⟨" CERTIFICATE-----\n".toList ++
    (Pem.wrap (Base64.encode certificate.der).length
    (Base64.encode certificate.der) ++ "-----END CERTIFICATE----".toList), ?_⟩
  unfold Pem.core
  dsimp only
  rw [hbegin, hend]
  simp only [List.append_assoc]

theorem tight_core (certificate : Certificate) :
    Text.Tight (Pem.core certificate) := by
  obtain ⟨between, hcore⟩ := exists_core certificate
  rw [hcore]
  constructor
  · intro first hfirst
    have hhead : blockStart.toList.head? = some '-' := by decide +kernel
    rw [List.head?_append, hhead, Option.some_or, Option.some.injEq] at hfirst
    rw [← hfirst]
    decide
  · intro last hlast
    rw [← List.append_assoc, List.getLast?_concat, Option.some.injEq] at hlast
    rw [← hlast]
    decide

theorem publishedCertificate_of_padded
    (h : Certificate.ofDer? certificate.der = some certificate)
    (htext : Text.Padded (Pem.encode certificate).toList text.toList) :
    publishedCertificate text = .ok certificate := by
  have htrim : Text.trimList text.toList = Pem.core certificate := by
    rw [htext.trimList_eq, Pem.toList_encode,
      Text.trimList_concat_blank _ (by decide),
      (tight_core certificate).trimList_eq]
  obtain ⟨between, hcore⟩ := exists_core certificate
  have hstart := Text.dropStart?_eq_some_iff.mpr hcore
  unfold publishedCertificate
  simp [htrim, hstart, Pem.certificate?_core h]

theorem exists_of_publishedCertificate
    (h : publishedCertificate text = .ok certificate) :
    ∃ bytes, Certificate.ofDer? bytes = some certificate := by
  unfold publishedCertificate at h
  dsimp only at h
  split at h
  · split at h
    · rename_i read hread
      cases h
      exact Pem.exists_of_certificate? hread
    · cases h
  · split at h
    · cases h
    · split at h
      · rename_i read hread
        cases h
        exact ⟨_, hread⟩
      · cases h

/-! ## All forms -/

/-- A certificate that was read, and whose encoding is not longer than the length of
an element can say.  No longer bytes fit in memory. -/
structure Certificate.IsRead (certificate : Certificate) : Prop where
  exists_bytes : ∃ bytes, ofDer? bytes = some certificate
  length : certificate.der.length < 2 ^ 63

theorem Certificate.IsRead.ofDer?_eq (h : certificate.IsRead) :
    ofDer? certificate.der = some certificate := by
  obtain ⟨bytes, hbytes⟩ := h.exists_bytes
  exact ofDer?_der hbytes h.length

/-- Each form of a certificate is read as that certificate, and no text makes
anything fail but the response. -/
structure PublishedFormsAgree : Prop where
  base64 : ∀ (certificate : Certificate) (text : String), certificate.IsRead →
    Text.Spaced (Base64.encode certificate.der) text.toList →
    publishedCertificate text = .ok certificate
  block : ∀ (certificate : Certificate) (text : String), certificate.IsRead →
    Text.Padded (Pem.encode certificate).toList text.toList →
    publishedCertificate text = .ok certificate
  endpoint : ∀ (client : DiscoveryClient) (checker : Checker) (now : Instant)
    (query : EndpointQuery) (session : Session) (endpoint : ResolvedEndpoint),
    ((client.resolve checker now query).run session).2 = .ok endpoint →
    endpoint.certificate.der.length < 2 ^ 63 →
    publishedCertificate endpoint.certificatePem = .ok endpoint.certificate
  other : ∀ text : String,
    (∃ certificate bytes, publishedCertificate text = .ok certificate ∧
      Certificate.ofDer? bytes = some certificate) ∨
    ∃ fault flaw, publishedCertificate text = .error fault ∧
      fault.cause = .malformedResponse flaw

theorem published_forms_agree : PublishedFormsAgree := by
  have hblock : ∀ (certificate : Certificate) (text : String), certificate.IsRead →
      Text.Padded (Pem.encode certificate).toList text.toList →
      publishedCertificate text = .ok certificate :=
    fun _ _ hread htext => publishedCertificate_of_padded hread.ofDer?_eq htext
  refine ⟨?_, hblock, ?_, ?_⟩
  · intro certificate text hread htext
    exact publishedCertificate_of_inked hread.ofDer?_eq
      (htext.inked_eq.trans (inked_encode _))
  · intro client checker now query session endpoint hresolved hlength
    obtain ⟨record, -, -, hcertificate, -⟩ :=
      DiscoveryClient.resolve_eq_ok_iff.mp hresolved
    have hread := exists_of_publishedCertificate hcertificate
    exact hblock _ _ ⟨hread, hlength⟩ (Text.Padded.refl _)
  · intro text
    cases hresult : publishedCertificate text with
    | ok certificate =>
        obtain ⟨bytes, hbytes⟩ := exists_of_publishedCertificate hresult
        exact .inl ⟨certificate, bytes, rfl, hbytes⟩
    | error fault =>
        obtain ⟨flaw, hflaw⟩ :=
          blamesResponse_publishedCertificate text fault hresult
        exact .inr ⟨fault, flaw, rfl, hflaw⟩

def smallestDer : List UInt8 :=
  [0x30, 0x43, 0x30, 0x38, 0x02, 0x01, 0x01, 0x30, 0x04, 0x06, 0x02, 0x2A, 0x03,
    0x30, 0x00, 0x30, 0x1E, 0x17, 0x0D, 0x37, 0x30, 0x30, 0x31, 0x30, 0x31, 0x30,
    0x30, 0x30, 0x30, 0x30, 0x30, 0x5A, 0x17, 0x0D, 0x34, 0x39, 0x31, 0x32, 0x33,
    0x31, 0x32, 0x33, 0x35, 0x39, 0x35, 0x39, 0x5A, 0x30, 0x00, 0x30, 0x09, 0x30,
    0x04, 0x06, 0x02, 0x2A, 0x03, 0x03, 0x01, 0x00, 0x30, 0x04, 0x06, 0x02, 0x2A,
    0x03, 0x03, 0x01, 0x00]

def wrappedText : String :=
  "MEMwOAIBATAEBgIqAzAAMB4XDTcwMDEw\r\n\tMTAwMDAwMFoXDTQ5\u2003MTIzMTIzNTk1\n" ++
    "OVowADAJMAQGAioDAwEA\n MAQGAioDAwEA\n"

theorem published_forms_agree_smallest : ∃ certificate : Certificate,
    certificate.IsRead ∧ publishedCertificate wrappedText = .ok certificate ∧
    publishedCertificate ("\u3000\n" ++ Pem.encode certificate ++ "\r\n") =
      .ok certificate := by
  have hsome : (Certificate.ofDer? smallestDer).isSome = true := by decide +kernel
  have hall : ∀ read ∈ Certificate.ofDer? smallestDer, read.der = smallestDer := by
    decide +kernel
  obtain ⟨certificate, hcertificate⟩ := Option.isSome_iff_exists.mp hsome
  have hder := hall certificate hcertificate
  have hread : certificate.IsRead :=
    ⟨⟨smallestDer, hcertificate⟩, by rw [hder]; decide⟩
  refine ⟨certificate, hread, ?_, ?_⟩
  · have hinked : Text.inked wrappedText.toList =
        Base64.encode smallestDer := by decide +kernel
    refine published_forms_agree.base64 certificate _ hread ?_
    rw [hder, ← hinked]
    exact Text.spaced_inked _
  · refine published_forms_agree.block certificate _ hread
      ⟨['\u3000', '\n'], ['\r', '\n'], by decide, by decide, ?_⟩
    rw [String.toList_append, String.toList_append, List.append_assoc]
    rfl

end EndpointDiscovery
