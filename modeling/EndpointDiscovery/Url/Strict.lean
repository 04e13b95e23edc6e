import EndpointDiscovery.Url.Parser

/-!
# The generic URI syntax, and longer paths

The normal form of a URL may hold characters that the generic URI syntax has no
place for.  A path is extended only if the URL obeys that syntax, and the result is
read as a URL again.

Which URLs are refused, and what becomes of a slash at the end of the path, follows
`add_path_suffix` of the `bh_uri_utils` library, whose source is not at hand: it is
what the library was seen to do.
-/

namespace EndpointDiscovery.Url

def isUnreserved (character : Char) : Bool :=
  isLetter character || isDigit character || "-._~".toList.contains character

def isSubDelimiter (character : Char) : Bool :=
  "!$&'()*+,;=".toList.contains character

def isHexDigit (character : Char) : Bool :=
  (Host.digitOf? 16 character).isSome

def consistsOf (allowed : Char → Bool) : List Char → Bool
  | [] => true
  | '%' :: high :: low :: rest =>
      isHexDigit high && isHexDigit low && consistsOf allowed rest
  | character :: rest => character ≠ '%' && allowed character &&
        consistsOf allowed rest

def isUserinfoChar (character : Char) : Bool :=
  isUnreserved character || isSubDelimiter character || character = ':'

def isNameChar (character : Char) : Bool :=
  isUnreserved character || isSubDelimiter character

def isPathChar (character : Char) : Bool :=
  isUnreserved character || isSubDelimiter character ||
  ":@/".toList.contains character

def isQueryChar (character : Char) : Bool :=
  isPathChar character || character = '?'

def Host.isStrict : Host → Bool
  | .domain name => consistsOf isNameChar name.toList
  | .ipv4 _ | .ipv6 _ => true

def isStrict (url : Url) : Bool :=
  consistsOf isUserinfoChar url.username.toList &&
    url.password.all (fun text => consistsOf isUserinfoChar text.toList) &&
    url.host.all Host.isStrict &&
    consistsOf isPathChar url.pathText.toList &&
    url.query.all (fun text => consistsOf isQueryChar text.toList) &&
    url.fragment.all (fun text => consistsOf isQueryChar text.toList)

/-- A path that a suffix can be put after: without its last slash, and empty rather
than the root. -/
def pathStem (path : List Char) : List Char :=
  let isRoot (path : List Char) : Bool := path = [] || path = ['/']
  if isRoot path then []
  else
    let shortened := if path.getLast? = some '/' then path.dropLast else path
    if isRoot shortened then [] else shortened

def extendedText (url : Url) (suffix : String) : String :=
  url.scheme ++ ":" ++ url.authorityText ++
  String.ofList (pathStem url.pathText.toList) ++
    suffix ++ url.queryText ++ url.fragmentText

def extendPath? (url : Url) (suffix : String) : Option Url :=
  if url.isStrict then parse? (url.extendedText suffix) else none

end EndpointDiscovery.Url
