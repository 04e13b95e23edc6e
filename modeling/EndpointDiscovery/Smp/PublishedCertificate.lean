import EndpointDiscovery.Certificate.Pem
import EndpointDiscovery.Smp.Error
import EndpointDiscovery.Text.Blank

/-!
# Published certificates

A certificate is published as base64 with any blanks in it, or in the
text form of blocks.
-/

namespace EndpointDiscovery

def blockStart : String := "-----BEGIN"

def publishedCertificate (text : String) : Except DiscoveryFault Certificate :=
  let characters := Text.trimList text.toList
  let invalid (remark : String) : DiscoveryFault :=
    (DiscoveryFault.external (.malformedResponse .invalidCertificate)).addContext
      remark
  if (Text.dropStart? blockStart.toList characters).isSome then
    match Pem.certificate? (Text.Utf8.encode characters) with
    | some certificate => .ok certificate
    | none => .error (.external (.malformedResponse .invalidPemCertificate))
  else
    match Base64.block? (characters.filter (!Text.isBlank ·)) with
    | none => .error (invalid "invalid base64")
    | some bytes =>
        match Certificate.ofDer? bytes with
        | some certificate => .ok certificate
        | none => .error (invalid "invalid DER")

end EndpointDiscovery
