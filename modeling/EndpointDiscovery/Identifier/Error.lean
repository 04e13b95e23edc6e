import EndpointDiscovery.Fault
import EndpointDiscovery.Identifier.Kind
import EndpointDiscovery.Text.Quoted

/-!
# Invalid identifiers

Every way in which a scheme, a value or a written identifier can violate
the syntax rules.
-/

namespace EndpointDiscovery

inductive FormatFlaw where
  | missingSeparator
  | malformedEscape (position : Nat)
  | notUtf8
  | separatorInScheme
  | emptyScheme
  | schemeTooLong (length limit : Nat)
  | emptyValue
  | valueTooLong (length limit : Nat)
  | unrepresentable (character : Char) (charset : Charset)
deriving DecidableEq, Repr

def FormatFlaw.message : FormatFlaw → String
  | .missingSeparator => "missing `::` separator"
  | .malformedEscape position => s!"malformed percent escape at position {position}"
  | .notUtf8 => "percent-decoded value is not UTF-8"
  | .separatorInScheme => "scheme must not contain `::`"
  | .emptyScheme => "scheme is empty"
  | .schemeTooLong length limit =>
      s!"scheme has {length} characters, at most {limit} are allowed"
  | .emptyValue => "value is empty"
  | .valueTooLong length limit =>
      s!"value has {length} characters, at most {limit} are allowed"
  | .unrepresentable character charset =>
      s!"character {Text.quoteChar character} is not representable in {charset.name}"

inductive IdentifierError where
  | invalidFormat (kind : IdentifierKind) (flaw : FormatFlaw)
deriving DecidableEq, Repr

namespace IdentifierError

def name : IdentifierError → String
  | .invalidFormat .. => "InvalidFormat"

def message : IdentifierError → String
  | .invalidFormat kind flaw =>
      s!"Invalid {kind.display} identifier format: {flaw.message}"

end IdentifierError

abbrev IdentifierFault := Fault IdentifierError Foreign

end EndpointDiscovery
