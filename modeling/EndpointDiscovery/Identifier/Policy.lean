import EndpointDiscovery.Identifier.Basic
import EndpointDiscovery.Identifier.CaseRules
import EndpointDiscovery.Identifier.Error
import EndpointDiscovery.Text.Split

/-!
# Accepting identifiers

A policy holds the case rules and says which of the optional checks are made.
`create` is the only way to an identifier; it reports the first violated rule, of
the scheme before the value.
-/

namespace EndpointDiscovery

def schemeMaxLength : Nat := 25

structure IdentifierPolicy where
  caseRules : CaseRules := .peppol
  checkCharset : Bool := true
  checkSchemeLength : Bool := true
deriving DecidableEq

namespace IdentifierPolicy

instance : Inhabited IdentifierPolicy := ⟨{}⟩

def schemeFlaw? (policy : IdentifierPolicy) (scheme : String) : Option FormatFlaw :=
  if Text.occurs schemeSeparator.toList scheme.toList then some .separatorInScheme
  else if scheme.isEmpty then some .emptyScheme
  else if policy.checkSchemeLength && schemeMaxLength < scheme.length then
    some (.schemeTooLong scheme.length schemeMaxLength)
  else none

def valueFlaw? (policy : IdentifierPolicy) (kind : IdentifierKind)
    (value : String) :
    Option FormatFlaw :=
  if value.isEmpty then some .emptyValue
  else if kind.maxValueLength < value.length then
    some (.valueTooLong value.length kind.maxValueLength)
  else if policy.checkCharset then
    (value.toList.find? (!kind.charset.contains ·)).map
      (.unrepresentable · kind.charset)
  else none

def isValidScheme (policy : IdentifierPolicy) (scheme : String) : Bool :=
  (policy.schemeFlaw? scheme).isNone

def isValidValue (policy : IdentifierPolicy) (kind : IdentifierKind)
    (value : String) : Bool :=
  (policy.valueFlaw? kind value).isNone

private def invalid (kind : IdentifierKind) (flaw : FormatFlaw) : IdentifierFault :=
  .root (.invalidFormat kind flaw)

def create (policy : IdentifierPolicy) (kind : IdentifierKind)
    (scheme value : String) :
    Except IdentifierFault Identifier :=
  match policy.schemeFlaw? scheme with
  | some flaw => .error ((invalid kind flaw).addContext s!"scheme: {scheme}")
  | none =>
      match policy.valueFlaw? kind value with
      | some flaw => .error ((invalid kind flaw).addContext s!"value: {value}")
      | none => .ok ⟨kind, scheme, value, policy.caseRules.normalize scheme value⟩

/-- Reads the written form, which is cut at the first separator. -/
def parse (policy : IdentifierPolicy) (kind : IdentifierKind) (text : String) :
    Except IdentifierFault Identifier :=
  match Text.cutFirst schemeSeparator.toList text.toList with
  | none => .error (invalid kind .missingSeparator)
  | some (scheme, value) =>
      policy.create kind (String.ofList scheme) (String.ofList value)

def parsePercentEncoded (policy : IdentifierPolicy) (kind : IdentifierKind)
    (text : String) :
    Except IdentifierFault Identifier :=
  match Percent.decode text with
  | .error (.malformedEscape position) =>
      .error (invalid kind (.malformedEscape position))
  | .error .notUtf8 =>
      .error ((Fault.foreign (.invalidFormat kind .notUtf8)).addContext text)
  | .ok decoded =>
      withContext s!"percent-encoded input: {text}" (policy.parse kind decoded)

def participant (policy : IdentifierPolicy) (scheme value : String) :
    Except IdentifierFault Identifier :=
  policy.create .participant scheme value

def documentType (policy : IdentifierPolicy) (scheme value : String) :
    Except IdentifierFault Identifier :=
  policy.create .documentType scheme value

def process (policy : IdentifierPolicy) (scheme value : String) :
    Except IdentifierFault Identifier :=
  policy.create .process scheme value

def peppolParticipant (policy : IdentifierPolicy) (value : String) :
    Except IdentifierFault Identifier :=
  policy.participant Scheme.participant value

def peppolDocumentType (policy : IdentifierPolicy) (value : String) :
    Except IdentifierFault Identifier :=
  policy.documentType Scheme.documentType value

def peppolProcess (policy : IdentifierPolicy) (value : String) :
    Except IdentifierFault Identifier :=
  policy.process Scheme.process value

end IdentifierPolicy

end EndpointDiscovery
