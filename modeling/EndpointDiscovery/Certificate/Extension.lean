import EndpointDiscovery.Certificate.Basic

/-!
# Extensions

The extensions that bear on who may issue a certificate.  A certificate whose
extensions break their rules, or of which one occurs twice, neither issues
certificates nor is issued.
-/

namespace EndpointDiscovery

open Asn1 (BitString Element Oid Tag)

/-! ## Names in extensions -/

/-- Of the names that an extension may hold only those of directory entries
are told apart. -/
inductive GeneralName where
  | directory (name : Name)
  | other
deriving DecidableEq, Repr

namespace GeneralName

def directoryTextTypes : List Nat := [12, 19, 20, 28, 30]

def directoryText? (element : Element) : Option Element :=
  if element.tag.tagClass = .universal ∧
    element.tag.number ∈ directoryTextTypes then
    Asn1.any? element
  else none

def members? (element : Element) : Option (List Element) :=
  if element.constructed then Asn1.elements? element.content else none

def isOtherName (element : Element) : Bool :=
  match members? element with
  | some [type, value] =>
      (Asn1.oid? type).isSome && value.tag = .contextual 0 &&
        (Asn1.explicit? Asn1.any? value).isSome
  | _ => false

def isPartyName (element : Element) : Bool :=
  let read : Option Unit := do
    let fields ← members? element
    let (_, fields) ←
      Asn1.optional? (.contextual 0) (Asn1.explicit? directoryText?) fields
    let (party, fields) ←
      Asn1.optional? (.contextual 1) (Asn1.explicit? directoryText?) fields
    if party.isSome ∧ fields.isEmpty then some () else none
  read.isSome

def ofElement? (element : Element) : Option GeneralName :=
  let other (isValid : Bool) : Option GeneralName :=
    if isValid then some .other else none
  if element.tag.tagClass = .contextual then
    match element.tag.number with
    | 0 => other (isOtherName element)
    | 1 | 2 | 6 | 7 => other (Asn1.stringContent? Asn1.stringDepth element).isSome
    | 3 => other element.constructed
    | 4 => (Asn1.explicit? Name.ofElement? element).map .directory
    | 5 => other (isPartyName element)
    | 8 => other (!element.constructed && (Asn1.oidContent? element.content).isSome)
    | _ => none
  else none

def listOf? (tag : Tag) (element : Element) : Option (List GeneralName) :=
  Asn1.listOf? tag ofElement? element

end GeneralName

/-! ## Single extensions -/

structure AuthorityKey where
  keyId : Option (List UInt8)
  issuer : List GeneralName
  serialNumber : Option Int
deriving Repr

namespace Extension

def basicConstraints : Oid := [2, 5, 29, 19]
def keyUsage : Oid := [2, 5, 29, 15]
def extendedKeyUsage : Oid := [2, 5, 29, 37]
def netscapeType : Oid := [2, 16, 840, 1, 113730, 1, 1]
def subjectKey : Oid := [2, 5, 29, 14]
def authorityKey : Oid := [2, 5, 29, 35]
def subjectNames : Oid := [2, 5, 29, 17]
def issuerNames : Oid := [2, 5, 29, 18]
def nameConstraints : Oid := [2, 5, 29, 30]
def revocationLists : Oid := [2, 5, 29, 31]
def proxyInformation : Oid := [1, 3, 6, 1, 5, 5, 7, 1, 14]

def contextInteger? (number : Nat) : Element → Option Int :=
  Asn1.primitive? (.contextual number) Asn1.integerContent?

def authorityKey? (element : Element) : Option AuthorityKey := do
  let fields ← Asn1.sequence? element
  let (keyId, fields) ←
    Asn1.optional? (.contextual 0) (Asn1.string? (.contextual 0)) fields
  let (issuer, fields) ←
    Asn1.optional? (.contextual 1) (GeneralName.listOf? (.contextual 1)) fields
  let (serialNumber, fields) ←
    Asn1.optional? (.contextual 2) (contextInteger? 2) fields
  if fields.isEmpty then some ⟨keyId, issuer.getD [], serialNumber⟩ else none

def basicConstraints? (element : Element) : Option Bool := do
  let fields ← Asn1.sequence? element
  let (isAuthority, fields) ← Asn1.optional? (.universal 1) Asn1.boolean? fields
  let (limit, fields) ← Asn1.optional? (.universal 2) Asn1.integer? fields
  if fields.isEmpty ∧ 0 ≤ limit.getD 0 then some (isAuthority.getD false) else none

def keyUsage? (element : Element) : Option (List UInt8) := do
  let bits ← Asn1.bitString? (.universal 3) element
  if (bits.bytes.take 2).any (· ≠ 0) then some bits.bytes else none

def subtree? (element : Element) : Option Unit := do
  match ← Asn1.sequence? element with
  | base :: fields => do
      let _ ← GeneralName.ofElement? base
      let (_, fields) ← Asn1.optional? (.contextual 0) (contextInteger? 0) fields
      let (_, fields) ← Asn1.optional? (.contextual 1) (contextInteger? 1) fields
      if fields.isEmpty then some () else none
  | [] => none

def nameConstraints? (element : Element) : Option Unit := do
  let fields ← Asn1.sequence? element
  let (_, fields) ←
    Asn1.optional? (.contextual 0) (Asn1.listOf? (.contextual 0) subtree?) fields
  let (_, fields) ←
    Asn1.optional? (.contextual 1) (Asn1.listOf? (.contextual 1) subtree?) fields
  if fields.isEmpty then some () else none

def pointName? (element : Element) : Option Unit :=
  if element.tag = .contextual 0 then
    (GeneralName.listOf? element.tag element).map fun _ => ()
  else if element.tag = .contextual 1 then
    (Asn1.listOf? element.tag NameAttribute.ofElement? element).map fun _ => ()
  else none

def distributionPoint? (element : Element) : Option Unit := do
  let fields ← Asn1.sequence? element
  let (_, fields) ←
    Asn1.optional? (.contextual 0) (Asn1.explicit? pointName?) fields
  let (_, fields) ←
    Asn1.optional? (.contextual 1) (Asn1.bitString? (.contextual 1)) fields
  let (_, fields) ←
    Asn1.optional? (.contextual 2) (GeneralName.listOf? (.contextual 2)) fields
  if fields.isEmpty then some () else none

def proxyPolicy? (element : Element) : Option Unit := do
  match ← Asn1.sequence? element with
  | [language] => (Asn1.oid? language).map fun _ => ()
  | [language, policy] => do
      let _ ← Asn1.oid? language
      (Asn1.octetString? policy).map fun _ => ()
  | _ => none

def proxyInformation? (element : Element) : Option Unit := do
  let fields ← Asn1.sequence? element
  let (_, fields) ← Asn1.optional? (.universal 2) Asn1.integer? fields
  match fields with
  | [policy] => proxyPolicy? policy
  | _ => none

end Extension

/-! ## All of them together -/

structure IssuingFacts where
  keyUsage : Option (List UInt8)
  subjectKey : Option (List UInt8)
  authorityKey : Option AuthorityKey
  isProxy : Bool

namespace Certificate

/-- The value of an extension that may occur once; what follows the value
is passed over. -/
def extension? {α : Type} (certificate : Certificate) (oid : Oid)
    (read : Element → Option α) :
    Option (Option α) :=
  match certificate.extensions.filter (·.oid = oid) with
  | [] => some none
  | [extension] => do
      let (element, _) ← Asn1.element? extension.value
      (read element).map some
  | _ => none

def hasExtension (certificate : Certificate) (oid : Oid) : Bool :=
  certificate.extensions.any (·.oid = oid)

/-- A proxy is no authority and has no other names. -/
def mayBeProxy (certificate : Certificate) (isAuthority : Bool) : Bool :=
  !isAuthority && !certificate.hasExtension Extension.subjectNames &&
    !certificate.hasExtension Extension.issuerNames

def issuingFacts? (certificate : Certificate) : Option IssuingFacts := do
  let isAuthority ←
    certificate.extension? Extension.basicConstraints Extension.basicConstraints?
  let proxy ←
    certificate.extension? Extension.proxyInformation Extension.proxyInformation?
  let keyUsage ← certificate.extension? Extension.keyUsage Extension.keyUsage?
  let _ ← certificate.extension? Extension.extendedKeyUsage
    (Asn1.sequenceOf? Asn1.oid?)
  let _ ← certificate.extension? Extension.netscapeType
    (Asn1.bitString? (.universal 3))
  let subjectKey ← certificate.extension? Extension.subjectKey Asn1.octetString?
  let authorityKey ←
    certificate.extension? Extension.authorityKey Extension.authorityKey?
  let _ ← certificate.extension? Extension.subjectNames
    (GeneralName.listOf? (.universal 16))
  let _ ←
    certificate.extension? Extension.nameConstraints Extension.nameConstraints?
  let _ ← certificate.extension? Extension.revocationLists
    (Asn1.sequenceOf? Extension.distributionPoint?)
  if proxy.isNone ∨ certificate.mayBeProxy (isAuthority.getD false) then
    some ⟨keyUsage, subjectKey, authorityKey, proxy.isSome⟩
  else none

end Certificate

end EndpointDiscovery
