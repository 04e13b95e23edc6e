import EndpointDiscovery.Text.CodePage
import EndpointDiscovery.Text.Utf16
import EndpointDiscovery.Text.Utf8

/-!
# Encodings by label

A label names the encoding of a text, whatever its case and the blanks around it.  A
byte order mark at the beginning of the text tells more than any label.

The encodings are those of the WHATWG standard with one byte to a character, UTF-8
and UTF-16.  The others (Shift_JIS, EUC-JP, ISO-2022-JP, EUC-KR, Big5, GBK and
gb18030) are left out: their labels are unknown here, and a text under an unknown
label is read as UTF-8.
-/

namespace EndpointDiscovery.Text

inductive Encoding where
  | utf8
  | utf16 (order : Utf16.ByteOrder)
  | page (codePage : CodePage)
  | refused
deriving DecidableEq, Repr

namespace Encoding

/-! ## Labels -/

def labels : List (Encoding × List String) := [
  (.utf8, ["unicode-1-1-utf-8", "unicode11utf8", "unicode20utf8", "utf-8", "utf8",
    "x-unicode20utf8"]),
  (.utf16 .bigEndian, ["unicodefffe", "utf-16be"]),
  (.utf16 .littleEndian,
    ["csunicode", "iso-10646-ucs-2", "ucs-2", "unicode", "unicodefeff", "utf-16",
      "utf-16le"]),
  (.page .windows1252,
    ["ansi_x3.4-1968", "ascii", "cp1252", "cp819", "csisolatin1", "ibm819",
      "iso-8859-1", "iso-ir-100", "iso8859-1", "iso88591", "iso_8859-1",
      "iso_8859-1:1987", "l1", "latin1", "us-ascii", "windows-1252", "x-cp1252"]),
  (.page .latin2,
    ["csisolatin2", "iso-8859-2", "iso-ir-101", "iso8859-2", "iso88592",
      "iso_8859-2", "iso_8859-2:1987", "l2", "latin2"]),
  (.page .latin3,
    ["csisolatin3", "iso-8859-3", "iso-ir-109", "iso8859-3", "iso88593",
      "iso_8859-3", "iso_8859-3:1988", "l3", "latin3"]),
  (.page .latin4,
    ["csisolatin4", "iso-8859-4", "iso-ir-110", "iso8859-4", "iso88594",
      "iso_8859-4", "iso_8859-4:1988", "l4", "latin4"]),
  (.page .isoCyrillic,
    ["csisolatincyrillic", "cyrillic", "iso-8859-5", "iso-ir-144", "iso8859-5",
      "iso88595", "iso_8859-5", "iso_8859-5:1988"]),
  (.page .isoArabic,
    ["arabic", "asmo-708", "csiso88596e", "csiso88596i", "csisolatinarabic",
      "ecma-114", "iso-8859-6", "iso-8859-6-e", "iso-8859-6-i", "iso-ir-127",
      "iso8859-6", "iso88596", "iso_8859-6", "iso_8859-6:1987"]),
  (.page .isoGreek,
    ["csisolatingreek", "ecma-118", "elot_928", "greek", "greek8", "iso-8859-7",
      "iso-ir-126", "iso8859-7", "iso88597", "iso_8859-7", "iso_8859-7:1987",
      "sun_eu_greek"]),
  (.page .isoHebrew,
    ["csiso88598e", "csisolatinhebrew", "hebrew", "iso-8859-8", "iso-8859-8-e",
      "iso-ir-138", "iso8859-8", "iso88598", "iso_8859-8", "iso_8859-8:1988",
      "visual", "csiso88598i", "iso-8859-8-i", "logical"]),
  (.page .latin6,
    ["csisolatin6", "iso-8859-10", "iso-ir-157", "iso8859-10", "iso885910", "l6",
      "latin6"]),
  (.page .latin7, ["iso-8859-13", "iso8859-13", "iso885913"]),
  (.page .latin8, ["iso-8859-14", "iso8859-14", "iso885914"]),
  (.page .latin9,
    ["csisolatin9", "iso-8859-15", "iso8859-15", "iso885915", "iso_8859-15", "l9"]),
    (.page .latin10, ["iso-8859-16"]),
    (.page .ibm866, ["866", "cp866", "csibm866", "ibm866"]),
    (.page .koi8r, ["cskoi8r", "koi", "koi8", "koi8-r", "koi8_r"]),
    (.page .koi8u, ["koi8-ru", "koi8-u"]),
    (.page .macRoman, ["csmacintosh", "mac", "macintosh", "x-mac-roman"]),
    (.page .macCyrillic, ["x-mac-cyrillic", "x-mac-ukrainian"]),
    (.page .windows874,
      ["dos-874", "iso-8859-11", "iso8859-11", "iso885911", "tis-620",
        "windows-874"]),
  (.page .windows1250, ["cp1250", "windows-1250", "x-cp1250"]),
  (.page .windows1251, ["cp1251", "windows-1251", "x-cp1251"]),
  (.page .windows1253, ["cp1253", "windows-1253", "x-cp1253"]),
  (.page .windows1254,
    ["cp1254", "csisolatin5", "iso-8859-9", "iso-ir-148", "iso8859-9", "iso88599",
      "iso_8859-9", "iso_8859-9:1989", "l5", "latin5", "windows-1254", "x-cp1254"]),
  (.page .windows1255, ["cp1255", "windows-1255", "x-cp1255"]),
  (.page .windows1256, ["cp1256", "windows-1256", "x-cp1256"]),
  (.page .windows1257, ["cp1257", "windows-1257", "x-cp1257"]),
  (.page .windows1258, ["cp1258", "windows-1258", "x-cp1258"]),
  (.page .privateUse, ["x-user-defined"]),
  (.refused,
    ["csiso2022kr", "hz-gb-2312", "iso-2022-cn", "iso-2022-cn-ext", "iso-2022-kr",
      "replacement"])]

def isLabelBlank (character : Char) : Bool :=
  "\t\n\x0c\r ".toList.contains character

def labelName (label : String) : String :=
  let inner :=
    ((label.toList.dropWhile isLabelBlank).reverse.dropWhile isLabelBlank).reverse
  String.ofList (inner.map Char.toLower)

def ofLabel? (label : String) : Option Encoding :=
  (labels.find? (·.2.contains (labelName label))).map (·.1)

/-! ## Decoding -/

def afterMark? : List UInt8 → Option (Encoding × List UInt8)
  | 0xEF :: 0xBB :: 0xBF :: rest => some (.utf8, rest)
  | 0xFE :: 0xFF :: rest => some (.utf16 .bigEndian, rest)
  | 0xFF :: 0xFE :: rest => some (.utf16 .littleEndian, rest)
  | _ => none

/-- Decodes every byte sequence; malformed parts become the
replacement character. -/
def characters : Encoding → List UInt8 → List Char
  | .utf8, bytes => Utf8.decodeLenient bytes
  | .utf16 order, bytes => Utf16.decode order bytes
  | .page codePage, bytes => codePage.decode bytes
  | .refused, [] => []
  | .refused, _ => ['\uFFFD']

def decode (encoding : Encoding) (bytes : List UInt8) : String :=
  match afterMark? bytes with
  | some (marked, rest) => String.ofList (marked.characters rest)
  | none => String.ofList (encoding.characters bytes)

end Encoding

end EndpointDiscovery.Text
