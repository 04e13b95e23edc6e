import EndpointDiscovery.Asn1.Element
import EndpointDiscovery.Asn1.Primitive
import EndpointDiscovery.Asn1.Time
import EndpointDiscovery.Bytes.Base32
import EndpointDiscovery.Bytes.Base64
import EndpointDiscovery.Bytes.Hex
import EndpointDiscovery.Bytes.Words
import EndpointDiscovery.Certificate.AttributeType
import EndpointDiscovery.Certificate.Basic
import EndpointDiscovery.Certificate.Extension
import EndpointDiscovery.Certificate.Issuer
import EndpointDiscovery.Certificate.Name
import EndpointDiscovery.Certificate.NameText
import EndpointDiscovery.Certificate.Pem
import EndpointDiscovery.Certificate.Signature
import EndpointDiscovery.Crypto.Aes
import EndpointDiscovery.Crypto.Curve
import EndpointDiscovery.Crypto.Hmac
import EndpointDiscovery.Crypto.Md5
import EndpointDiscovery.Crypto.Residue
import EndpointDiscovery.Crypto.Rsa
import EndpointDiscovery.Crypto.Sha1
import EndpointDiscovery.Crypto.Sha2
import EndpointDiscovery.Fault
import EndpointDiscovery.Http.ContentType
import EndpointDiscovery.Http.Status
import EndpointDiscovery.Http.Web
import EndpointDiscovery.Identifier.Basic
import EndpointDiscovery.Identifier.CaseRules
import EndpointDiscovery.Identifier.Configuration
import EndpointDiscovery.Identifier.Error
import EndpointDiscovery.Identifier.Kind
import EndpointDiscovery.Identifier.Percent
import EndpointDiscovery.Identifier.Policy
import EndpointDiscovery.Json.Reader
import EndpointDiscovery.Json.Value
import EndpointDiscovery.Json.Writer
import EndpointDiscovery.Sml.Configuration
import EndpointDiscovery.Sml.Error
import EndpointDiscovery.Sml.HostName
import EndpointDiscovery.Sml.Locator
import EndpointDiscovery.Sml.Naptr
import EndpointDiscovery.Sml.Zone
import EndpointDiscovery.Smp.CertificateUid
import EndpointDiscovery.Smp.Client
import EndpointDiscovery.Smp.Configuration
import EndpointDiscovery.Smp.Document
import EndpointDiscovery.Smp.Error
import EndpointDiscovery.Smp.PublishedCertificate
import EndpointDiscovery.Smp.Reader
import EndpointDiscovery.Smp.ResolvedEndpoint
import EndpointDiscovery.Smp.Session
import EndpointDiscovery.Text.Blank
import EndpointDiscovery.Text.Case
import EndpointDiscovery.Text.CaseTable
import EndpointDiscovery.Text.CodePage
import EndpointDiscovery.Text.CodeRange
import EndpointDiscovery.Text.Encoding
import EndpointDiscovery.Text.PrintTable
import EndpointDiscovery.Text.Quoted
import EndpointDiscovery.Text.Split
import EndpointDiscovery.Text.Utf16
import EndpointDiscovery.Text.Utf8
import EndpointDiscovery.Time.Civil
import EndpointDiscovery.Time.DateText
import EndpointDiscovery.Time.Duration
import EndpointDiscovery.Time.Instant
import EndpointDiscovery.Trust.CaSet
import EndpointDiscovery.Trust.Checker
import EndpointDiscovery.Trust.Decision
import EndpointDiscovery.Trust.Error
import EndpointDiscovery.Trust.KeyStore
import EndpointDiscovery.Trust.RevocationCache
import EndpointDiscovery.Trust.Timeline
import EndpointDiscovery.Url.Basic
import EndpointDiscovery.Url.Escape
import EndpointDiscovery.Url.Host
import EndpointDiscovery.Url.Parser
import EndpointDiscovery.Url.Punycode
import EndpointDiscovery.Url.Strict
import EndpointDiscovery.Xml.Character
import EndpointDiscovery.Xml.Namespace
import EndpointDiscovery.Xml.Node
import EndpointDiscovery.Xml.Parser
import EndpointDiscovery.Xml.Text
import EndpointDiscovery.Proofs.Text.Cut
import EndpointDiscovery.Proofs.Text.LowerCase
import EndpointDiscovery.Proofs.Text.Utf8RoundTrip
import EndpointDiscovery.Proofs.Identifier.PercentRoundTrip
import EndpointDiscovery.Proofs.Identifier.UriRoundTrip
import EndpointDiscovery.Proofs.Url.HostName
import EndpointDiscovery.Proofs.Url.PlainHost
import EndpointDiscovery.Proofs.Sml.ClassicUrl
import EndpointDiscovery.Proofs.Revocation.Consistency
import EndpointDiscovery.Proofs.Revocation.Change
import EndpointDiscovery.Proofs.Revocation.Preservation
import EndpointDiscovery.Proofs.Revocation.Query
import EndpointDiscovery.Proofs.Revocation.SingleFlight
import EndpointDiscovery.Proofs.Revocation.WriteOnce
import EndpointDiscovery.Proofs.Asn1.ElementCodec
import EndpointDiscovery.Proofs.Certificate.SerialText
import EndpointDiscovery.Proofs.Revocation.CheckerRun
import EndpointDiscovery.Proofs.Revocation.SerialClash
import EndpointDiscovery.Proofs.Discovery.Agreement
import EndpointDiscovery.Proofs.Discovery.Redirect
import EndpointDiscovery.Proofs.Discovery.Resolution
import EndpointDiscovery.Proofs.Discovery.Names
import EndpointDiscovery.Proofs.Discovery.Failures
import EndpointDiscovery.Proofs.Document.Comments
import EndpointDiscovery.Proofs.Revocation.Effect
import EndpointDiscovery.Proofs.Revocation.Failure
import EndpointDiscovery.Proofs.Revocation.Restriction
import EndpointDiscovery.Proofs.Revocation.Separation
import EndpointDiscovery.Proofs.Document.References
import EndpointDiscovery.Proofs.Text.Border
import EndpointDiscovery.Proofs.Certificate.EscapedValue
import EndpointDiscovery.Proofs.Certificate.NameParts
import EndpointDiscovery.Proofs.Certificate.SubjectName
import EndpointDiscovery.Proofs.Certificate.SubjectClash
import EndpointDiscovery.Proofs.Certificate.Announcement
import EndpointDiscovery.Proofs.Document.Faithfulness
import EndpointDiscovery.Proofs.Time.DayCount
import EndpointDiscovery.Proofs.Time.SchemaDate
import EndpointDiscovery.Proofs.Trust.IssuerSearch
import EndpointDiscovery.Proofs.Text.Utf8Validity
import EndpointDiscovery.Proofs.Identifier.PercentCodec
import EndpointDiscovery.Proofs.Identifier.Grammar
import EndpointDiscovery.Proofs.Bytes.Digits
import EndpointDiscovery.Proofs.Sml.HostNames
import EndpointDiscovery.Proofs.Url.EscapedText
import EndpointDiscovery.Proofs.Url.Address
import EndpointDiscovery.Proofs.Url.HostText
import EndpointDiscovery.Proofs.Url.AuthorityText
import EndpointDiscovery.Proofs.Url.PathText
import EndpointDiscovery.Proofs.Url.NormalForm
import EndpointDiscovery.Proofs.Url.Extension
import EndpointDiscovery.Proofs.Discovery.QueryUrl
import EndpointDiscovery.Proofs.Text.SmallLetters
import EndpointDiscovery.Proofs.Identifier.NormalForm
import EndpointDiscovery.Proofs.Identifier.Content
import EndpointDiscovery.Proofs.Sml.NaptrExpression
import EndpointDiscovery.Proofs.Sml.NaptrSelection
import EndpointDiscovery.Proofs.Discovery.EndpointSelection
import EndpointDiscovery.Proofs.Time.YearOfDay
import EndpointDiscovery.Proofs.Time.WrittenTime
import EndpointDiscovery.Proofs.Trust.Validity
import EndpointDiscovery.Proofs.Json.RoundTrip
import EndpointDiscovery.Proofs.Configuration.RoundTrip
import EndpointDiscovery.Proofs.Certificate.Reencoding
import EndpointDiscovery.Proofs.Bytes.Base64RoundTrip
import EndpointDiscovery.Proofs.Certificate.PemText
import EndpointDiscovery.Proofs.Discovery.PublishedForms
import EndpointDiscovery.Proofs.Certificate.UidForms
import EndpointDiscovery.Proofs.Identifier.Rules
import EndpointDiscovery.Proofs.Document.Identifiers
import EndpointDiscovery.Proofs.Revocation.Leftover
