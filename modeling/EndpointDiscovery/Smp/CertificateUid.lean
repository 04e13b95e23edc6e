import EndpointDiscovery.Certificate.Basic
import EndpointDiscovery.Certificate.NameText
import EndpointDiscovery.Crypto.Sha1
import EndpointDiscovery.Smp.Error
import EndpointDiscovery.Text.Blank
import EndpointDiscovery.Text.Case
import EndpointDiscovery.Text.Split

/-!
# Certificate identifiers of redirects

A redirect tells which certificate the other SMP signs with.  It may give the
name of the subject, a common name or serial number in it, or a fingerprint.
Case does not matter, nor do blanks beside the separators of a name and colons
in anything else.
-/

namespace EndpointDiscovery.CertificateUid

/-- An identifier must be visible and must not hold control characters. -/
def check (uid : String) : Except DiscoveryFault Unit :=
  if (Text.trim uid).isEmpty then .error (.malformed .redirectWithoutUid)
  else if uid.toList.any Text.isControl then
    .error (.malformed .redirectUidWithControls)
  else .ok ()

/-! ## Names -/

def normalAttribute (entry : List Char) : List Char :=
  List.intercalate ['='] ((Text.splitOn '=' entry).map Text.trimList)

def normalName (name : List Char) : String :=
  Text.lower <| String.ofList <|
    List.intercalate [','] ((Text.splitOn ',' name).map normalAttribute)

/-- A name may be given in either order. -/
def isNameOf (uid : String) (certificate : Certificate) : Bool :=
  let agrees (text : List Char) : Bool := normalName text = normalName uid.toList
  certificate.subject.text?.any agrees ||
  certificate.subject.encodedText?.any agrees

/-! ## Other forms -/

def normalText (text : String) : String :=
  Text.lowerEach (String.ofList ((Text.trimList text.toList).filter (· ≠ ':')))

def subjectTexts (certificate : Certificate) : List String :=
  (certificate.subject.values AttributeType.commonName ++
    certificate.subject.values AttributeType.serialNumber).filterMap
      NameAttribute.text?

def isTextOf (uid : String) (certificate : Certificate) : Bool :=
  (subjectTexts certificate).any fun text => normalText text = normalText uid

def fingerprints (certificate : Certificate) : List String :=
  [Bytes.hex (Sha256.digest certificate.der),
    Bytes.hex (Sha1.digest certificate.der)]

def isFingerprintOf (uid : String) (certificate : Certificate) : Bool :=
  (fingerprints certificate).contains (normalText uid)

/-! ## Identification -/

/-- Whether an identifier tells a certificate. -/
def identifies (uid : String) (certificate : Certificate) : Bool :=
  isNameOf uid certificate || isTextOf uid certificate ||
  isFingerprintOf uid certificate

end EndpointDiscovery.CertificateUid
