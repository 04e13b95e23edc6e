import EndpointDiscovery.Certificate.Signature
import EndpointDiscovery.Crypto.Aes
import EndpointDiscovery.Crypto.Hmac
import EndpointDiscovery.Trust.CaSet

/-!
# Key stores

A key store is a file of bags with certificates and keys, some of them encrypted
under a password, which also authenticates the whole.  The certificates are read; a
key only decides which of them comes first.

Of the algorithms, PBES2 with AES-CBC and digests by SHA-1 or SHA-256 are known.  A
store that needs another one (RC2, triple DES, the other digests of the SHA-2
family) is refused.
-/

namespace EndpointDiscovery.KeyStore

open Asn1 (Element Oid)

/-! ## Object identifiers -/

def plainData : Oid := [1, 2, 840, 113549, 1, 7, 1]
def encryptedData : Oid := [1, 2, 840, 113549, 1, 7, 6]
def keyBag : Oid := [1, 2, 840, 113549, 1, 12, 10, 1, 1]
def shroudedKeyBag : Oid := [1, 2, 840, 113549, 1, 12, 10, 1, 2]
def certificateBag : Oid := [1, 2, 840, 113549, 1, 12, 10, 1, 3]
def nestedBags : Oid := [1, 2, 840, 113549, 1, 12, 10, 1, 6]
def x509Certificate : Oid := [1, 2, 840, 113549, 1, 9, 22, 1]
def passwordScheme : Oid := [1, 2, 840, 113549, 1, 5, 13]
def passwordDerivation : Oid := [1, 2, 840, 113549, 1, 5, 12]

def digestOfOid? : Oid → Option DigestFunction
  | [1, 3, 14, 3, 2, 26] | [1, 2, 840, 113549, 2, 7] => some Sha1.digest
  | [2, 16, 840, 1, 101, 3, 4, 2, 1] | [1, 2, 840, 113549, 2, 9] =>
      some Sha256.digest
  | _ => none

def keySizeOfOid? : Oid → Option Nat
  | [2, 16, 840, 1, 101, 3, 4, 1, 2] => some 16
  | [2, 16, 840, 1, 101, 3, 4, 1, 22] => some 24
  | [2, 16, 840, 1, 101, 3, 4, 1, 42] => some 32
  | _ => none

/-! ## Passwords -/

def units (character : Char) : List Nat :=
  let code := character.toNat
  if code < 0x10000 then [code]
  else [0xD800 + (code - 0x10000) / 0x400, 0xDC00 + (code - 0x10000) % 0x400]

def widePassword (password : String) : List UInt8 :=
  ((password.toList.flatMap units) ++ [0]).flatMap (Bytes.bigEndian 2)

/-! ## Encryption -/

structure Derivation where
  salt : List UInt8
  iterations : Nat
  length? : Option Int
  digest : DigestFunction

def derivation? (algorithm : Algorithm) : Option Derivation := do
  let parameters ←
    if algorithm.oid = passwordDerivation then algorithm.parameters else none
  match ← Asn1.sequence? parameters with
  | salt :: iterations :: fields => do
      let (length?, fields) ← Asn1.optional? (.universal 2) Asn1.integer? fields
      let (function?, fields) ←
        Asn1.optional? (.universal 16) Algorithm.ofElement? fields
      let digest ←
        digestOfOid? ((function?.map (·.oid)).getD [1, 2, 840, 113549, 2, 7])
      let count ← Asn1.integer? iterations
      if fields.isEmpty ∧ 1 ≤ count then
        some ⟨← Asn1.octetString? salt, count.toNat, length?, digest⟩
      else none
  | _ => none

def decrypt? (algorithm : Algorithm) (password : String) (text : List UInt8) :
    Option (List UInt8) := do
  let parameters ←
    if algorithm.oid = passwordScheme then algorithm.parameters else none
  match ← Asn1.sequence? parameters with
  | [derivation, cipher] => do
      let derivation ← derivation? (← Algorithm.ofElement? derivation)
      let cipher ← Algorithm.ofElement? cipher
      let size ← keySizeOfOid? cipher.oid
      let start ← Asn1.octetString? (← cipher.parameters)
      if start.length = 16 ∧ (derivation.length?.getD size) = size then
        let key := Pbkdf2.derive derivation.digest (Text.Utf8.encodeString password)
          derivation.salt derivation.iterations size
        Aes.decrypt? key start text
      else none
  | _ => none

def sealed? (element : Element) : Option (Algorithm × List UInt8) := do
  match ← Asn1.sequence? element with
  | [algorithm, content] =>
      some (← Algorithm.ofElement? algorithm, ← Asn1.octetString? content)
  | _ => none

/-! ## Private keys -/

def curvePublicKey? (bytes : List UInt8) : Option PublicKey := do
  let (element, _) ← Asn1.element? bytes
  match ← Asn1.sequence? element with
  | version :: secret :: fields => do
      let _ ← Asn1.integer? version
      let secret ← Asn1.octetString? secret
      let (_, fields) ←
        Asn1.optional? (.contextual 0) (Asn1.explicit? Asn1.any?) fields
      let (point, fields) ←
        Asn1.optional? (.contextual 1)
          (Asn1.explicit? (Asn1.bitString? (.universal 3))) fields
      if fields.isEmpty then
        match point with
        | some bits => (Curve.pointOf? bits.bytes).map .curve
        | none => some (.curve (Curve.generator.multiply (Bytes.toNat secret)))
      else none
  | _ => none

def rsaPublicKey? (bytes : List UInt8) : Option PublicKey := do
  let (element, _) ← Asn1.element? bytes
  match ← (← Asn1.sequence? element).mapM PublicKey.natural? with
  | _ :: modulus :: exponent :: _ :: _ :: _ :: _ :: _ :: _ :: _ =>
      some (.rsa ⟨modulus, exponent⟩)
  | _ => none

def publicKey? (element : Element) : Option PublicKey := do
  match ← Asn1.sequence? element with
  | version :: algorithm :: secret :: _ => do
      let _ ← Asn1.integer? version
      let algorithm ← Algorithm.ofElement? algorithm
      let secret ← Asn1.octetString? secret
      if algorithm.oid = PublicKey.curveOid then
        if algorithm.parameters.bind Asn1.oid? = some PublicKey.p256Oid then
          curvePublicKey? secret
        else none
      else if algorithm.oid = PublicKey.rsaOid then rsaPublicKey? secret
      else none
  | _ => none

def sameKey : PublicKey → PublicKey → Bool
  | .curve left, .curve right => left.same right
  | .rsa left, .rsa right => left = right
  | _, _ => false

/-! ## Bags -/

structure Content where
  key? : Option PublicKey := none
  certificates : List Certificate := []

def inner? (value : Element) : Option Element :=
  if value.tag = .contextual 0 then Asn1.explicit? some value else none

def addCertificate? (content : Content) (element : Element) : Option Content := do
  match ← Asn1.sequence? element with
  | [type, value] =>
      if (← Asn1.oid? type) = x509Certificate then do
        let certificate ← Certificate.ofDer? (← Asn1.octetString? (← inner? value))
        some { content with certificates := content.certificates ++ [certificate] }
      else some content
  | _ => none

/-- Only the first key counts. -/
def addKey? (content : Content) (key? : Option PublicKey) : Option Content :=
  if content.key?.isSome then some content
  else key?.map fun key => { content with key? := some key }

def addBag? (password : String) : Nat → Content → Element → Option Content
  | 0, _, _ => none
  | depth + 1, content, bag => do
      match ← Asn1.sequence? bag with
      | type :: value :: _ => do
          let type ← Asn1.oid? type
          let inner ← inner? value
          if type = certificateBag then addCertificate? content inner
          else if type = keyBag then addKey? content (publicKey? inner)
          else if type = shroudedKeyBag then do
            let (algorithm, text) ← sealed? inner
            addKey? content do
              let (element, _) ← Asn1.element? (← decrypt? algorithm password text)
              publicKey? element
          else if type = nestedBags then do
            let bags ← Asn1.sequenceOf? some inner
            bags.foldlM (addBag? password depth) content
          else some content
      | _ => none

def bagDepth : Nat := 8

def addBags? (password : String) (content : Content) (bytes : List UInt8) :
    Option Content := do
  let (element, _) ← Asn1.element? bytes
  let bags ← Asn1.sequenceOf? some element
  bags.foldlM (addBag? password bagDepth) content

/-! ## The whole store -/

def part? (element : Element) : Option (Oid × Option Element) := do
  match ← Asn1.sequence? element with
  | [type] => some (← Asn1.oid? type, none)
  | [type, value] => some (← Asn1.oid? type, some (← inner? value))
  | _ => none

def encryptedBytes? (element : Element) (password : String) :
    Option (List UInt8) := do
  match ← Asn1.sequence? element with
  | [version, content] => do
      let _ ← Asn1.integer? version
      match ← Asn1.sequence? content with
      | [type, algorithm, text] => do
          let _ ← Asn1.oid? type
          let text ← Asn1.string? (.contextual 0) text
          decrypt? (← Algorithm.ofElement? algorithm) password text
      | _ => none
  | _ => none

def addPart? (password : String) (content : Content) (element : Element) :
    Option Content := do
  let (type, value?) ← part? element
  if type = plainData then do
    addBags? password content (← Asn1.octetString? (← value?))
  else if type = encryptedData then do
    addBags? password content (← encryptedBytes? (← value?) password)
  else some content

def isAuthentic (element : Element) (content : List UInt8)
    (password : String) : Bool :=
  let read : Option Bool := do
    match ← Asn1.sequence? element with
    | digestInfo :: salt :: fields => do
        let (algorithm, expected) ← sealed? digestInfo
        let salt ← Asn1.octetString? salt
        let (iterations, fields) ←
          Asn1.optional? (.universal 2) Asn1.integer? fields
        let digest ← digestOfOid? algorithm.oid
        let matchesUnder (password : List UInt8) : Bool :=
          hmac digest
            (StoreKey.derive digest 3 password salt (iterations.getD 1).toNat)
            content == expected
        some (fields.isEmpty && (matchesUnder (widePassword password) ||
          (password.isEmpty && matchesUnder [])))
    | _ => none
  read.getD false

def content? (bytes : List UInt8) (password : String) : Option Content := do
  let (element, _) ← Asn1.element? bytes
  match ← Asn1.sequence? element with
  | version :: store :: code => do
      let _ ← Asn1.integer? version
      let (type, value?) ← part? store
      let content ← Asn1.octetString? (← value?)
      let isAccepted : Bool := match code with
        | [] => true
        | [code] => isAuthentic code content password
        | _ => false
      if type = plainData ∧ isAccepted then do
        let (element, _) ← Asn1.element? content
        let parts ← Asn1.sequenceOf? some element
        parts.foldlM (addPart? password) {}
      else none
  | _ => none

def belongsTo (key : PublicKey) (certificate : Certificate) : Bool :=
  certificate.publicKey?.any (sameKey key)

/-- The certificate that belongs to the key comes first, then the
others in order. -/
def certificates (content : Content) : List Certificate :=
  match content.key? with
  | none => content.certificates
  | some key =>
      match content.certificates.find? (belongsTo key) with
      | none => content.certificates
      | some own => own :: content.certificates.eraseP (belongsTo key)

end EndpointDiscovery.KeyStore

namespace EndpointDiscovery.CaSet

def ofKeyStore (name : String) (store : List UInt8) (password : String) :
    Except TrustFault CaSet :=
  match KeyStore.content? store password with
  | some content => create name (KeyStore.certificates content)
  | none =>
      .error ((Fault.foreign (.caSetLoading name)).addContext
        "invalid PKCS#12 key store or password")

end EndpointDiscovery.CaSet
