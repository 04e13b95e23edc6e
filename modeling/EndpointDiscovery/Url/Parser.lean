import EndpointDiscovery.Url.Basic

/-!
# Reading URLs

A text is cut into scheme, authority, path, query and fragment, and each part is
brought into its normal form.  Only absolute URLs are read.
-/

namespace EndpointDiscovery.Url

/-! ## Cutting -/

/-- Control characters and blanks at the ends, and line breaks and tabs anywhere,
do not count. -/
def clean (text : List Char) : List Char :=
  let outer (character : Char) : Bool := character.toNat ≤ 0x20
  let trimmed := ((text.dropWhile outer).reverse.dropWhile outer).reverse
  trimmed.filter fun character =>
    character ≠ '\t' && character ≠ '\n' && character ≠ '\r'

def isLetter (character : Char) : Bool :=
  ('a' ≤ character && character ≤ 'z') || ('A' ≤ character && character ≤ 'Z')

def isDigit (character : Char) : Bool :=
  '0' ≤ character && character ≤ '9'

def isSchemeChar (character : Char) : Bool :=
  isLetter character || isDigit character || "+-.".toList.contains character

def scheme? (text : List Char) : Option (String × List Char) :=
  match text.head?, text.dropWhile isSchemeChar with
  | some first, ':' :: rest =>
      if isLetter first then
        some (Text.lower (String.ofList (text.takeWhile isSchemeChar)), rest)
      else none
  | _, _ => none

def cutMark (mark : Char) (text : List Char) : List Char × Option (List Char) :=
  match text.dropWhile (· ≠ mark) with
  | _ :: after => (text.takeWhile (· ≠ mark), some after)
  | [] => (text, none)

/-! ## Paths -/

def isSingleDot (segment : String) : Bool :=
  [".", "%2e"].contains (Text.lower segment)

def isDoubleDot (segment : String) : Bool :=
  ["..", "%2e.", ".%2e", "%2e%2e"].contains (Text.lower segment)

def isDriveLetter (segment : List Char) : Bool :=
  match segment with
  | [letter, mark] => isLetter letter && (mark = ':' || mark = '|')
  | _ => false

def shorten (isFile : Bool) (path : List String) : List String :=
  match path with
  | [segment] =>
      if isFile && isDriveLetter segment.toList && segment.endsWith ":" then
        path
      else
        []
  | _ => path.dropLast

/-- Appends one segment to a path; dots move within it, and a last dot segment
leaves an empty segment behind. -/
def pushSegment (isFile isLast : Bool) (path : List String)
    (segment : String) : List String :=
  let closed (path : List String) : List String :=
    if isLast then path ++ [""] else path
  if isDoubleDot segment then closed (shorten isFile path)
  else if isSingleDot segment then closed path
  else if isFile && path.isEmpty && isDriveLetter segment.toList then
    [String.ofList (segment.toList.take 1) ++ ":"]
  else path ++ [segment]

def pushSegments (isFile : Bool) : List String → List String → List String
  | path, [] => path
  | path, [segment] => pushSegment isFile true path segment
  | path, segment :: rest =>
      pushSegments isFile (pushSegment isFile false path segment) rest

def segments (isFile : Bool) (body : List Char) : List String :=
  pushSegments isFile [] ((Text.splitOn '/' body).map (escape pathSet))

def afterSlash (text : List Char) : List Char :=
  match text with
  | '/' :: body => body
  | body => body

def dropLeadingEmpty : List String → List String
  | "" :: segment :: rest => dropLeadingEmpty (segment :: rest)
  | path => path

/-! ## Authorities -/

def port? (scheme : String) (text : List Char) : Option (Option Nat × List Char) :=
  let digits := text.takeWhile isDigit
  let number := digits.foldl (fun sum digit => sum * 10 + (digit.toNat - 0x30)) 0
  let rest := text.dropWhile isDigit
  if 65535 < number then none
  else if rest.head?.any (· ≠ '\\') then none
  else if digits.isEmpty || defaultPort? scheme = some number then some (none, rest)
  else some (some number, rest)

def cutPort (inside : Bool) : List Char → List Char × Option (List Char)
  | [] => ([], none)
  | ':' :: rest =>
      if inside then
        let (host, port) := cutPort inside rest
        (':' :: host, port)
      else ([], some rest)
  | character :: rest =>
      let within :=
        if character = '[' then true else if character = ']' then false else inside
      let (host, port) := cutPort within rest
      (character :: host, port)

def userinfo (text : List Char) : String × Option String :=
  let (name, password) := cutMark ':' text
  match password with
  | none | some [] => (escape userinfoSet name, none)
  | some password => (escape userinfoSet name, some (escape userinfoSet password))

/-- Reads an authority into a URL; also returns what of it belongs to the path. -/
def authority? (scheme : String) (text : List Char) : Option (Url × List Char) := do
  let isSpecial := isSpecialScheme scheme
  let (credentials, place) :=
    match Text.cutLast ['@'] text with
    | some (credentials, place) => (some credentials, place)
    | none => (none, text)
  let (hostText, portText) := cutPort false place
  let host ← if isSpecial then Host.ofSpecial? hostText else Host.ofOther? hostText
  let (username, password) := userinfo (credentials.getD [])
  let isAnnounced :=
    credentials = some [] || portText.isSome || !username.isEmpty || password.isSome
  if hostText.isEmpty && isAnnounced then none
  else
    let (port, rest) ← match portText with
      | some text => port? scheme text
      | none => some (none, [])
    some ({ scheme, username, password, host := some host, port }, rest)

/-! ## URLs -/

def isSlash (character : Char) : Bool := character = '/'

def hierarchical? (scheme : String) (text : List Char) : Option Url := do
  let (url, rest) ← authority? scheme (text.takeWhile (!isSlash ·))
  let pathPart := rest ++ text.dropWhile (!isSlash ·)
  if pathPart.isEmpty && !isSpecialScheme scheme then some url
  else some { url with path := .segments (segments false (afterSlash pathPart)) }

/-- A file URL; the local host and the host before a drive letter are left out. -/
def file? (text : List Char) : Option Url := do
  let (hostText, pathPart) := match text with
    | '/' :: '/' :: rest =>
        let host := rest.takeWhile (!isSlash ·)
        if isDriveLetter host then
          ([], rest)
        else
          (host, rest.dropWhile (!isSlash ·))
    | rest => ([], rest)
  let host ← if hostText.isEmpty then some (.domain "")
    else Host.ofSpecial? hostText
  let path := segments true (afterSlash pathPart)
  let hasDrive := path.head?.any (isDriveLetter ·.toList)
  let host := if hasDrive || host = .domain "localhost" then .domain "" else host
  some { scheme := "file", host := some host,
         path := .segments (dropLeadingEmpty path) }

/-- The URL that a text spells, if it is an absolute one. -/
def parse? (text : String) : Option Url := do
  let (scheme, rest) ← scheme? (clean text.toList)
  let isSpecial := isSpecialScheme scheme
  let (rest, fragment) := cutMark '#' rest
  let (rest, query) := cutMark '?' rest
  let rest :=
    if isSpecial then rest.map fun c => if c = '\\' then '/' else c else rest
  let url ←
    if scheme = "file" then file? rest
    else if isSpecial then hierarchical? scheme (rest.dropWhile isSlash)
    else match rest with
      | '/' :: '/' :: rest => hierarchical? scheme rest
      | '/' :: body => some { scheme, path := .segments (segments false body) }
      | rest => some { scheme, path := .plain (escape controlSet rest) }
  some { url with
    query := query.map (escape (if isSpecial then specialQuerySet else querySet)),
    fragment := fragment.map (escape fragmentSet) }

end EndpointDiscovery.Url
