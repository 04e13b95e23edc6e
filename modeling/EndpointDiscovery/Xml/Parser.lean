import EndpointDiscovery.Text.Split
import EndpointDiscovery.Xml.Namespace
import EndpointDiscovery.Xml.Text

/-!
# Reading documents

A reader for documents without a document type declaration.  Each function takes the
characters from its starting point on and returns what it read together with the
rest.  `fuel` bounds the number of nodes and attributes and is taken from the length
of the document.
-/

namespace EndpointDiscovery.Xml.Parser

abbrev Rest := List Char

/-! ## Small pieces -/

def skipSpace (input : Rest) : Rest := input.dropWhile isSpace

def startsWithSpace (input : Rest) : Bool := input.head?.any isSpace

def skip? (expected : String) (input : Rest) : Option Rest :=
  Text.dropStart? expected.toList input

def until? (mark : String) (input : Rest) : Option (List Char × Rest) := do
  let (content, rest) ← Text.cutFirst mark.toList input
  if content.all isAllowed then some (content, rest) else none

def while? (condition : Char → Bool) (input : Rest) : Option (List Char × Rest) :=
  let content := input.takeWhile condition
  if content.all isAllowed then some (content, input.dropWhile condition) else none

def startsName (characters : List Char) : Bool := characters.head?.any isNameStart

def qualifiedName? (input : Rest) : Option (QualifiedName × Rest) :=
  let written := input.takeWhile isNameChar
  let rest := input.dropWhile isNameChar
  match Text.splitOn ':' written with
  | [name] =>
      if startsName name then some (⟨"", String.ofList name⟩, rest) else none
  | [qualifier, name] =>
      if (qualifier.isEmpty || startsName qualifier) && startsName name then
        some (⟨String.ofList qualifier, String.ofList name⟩, rest)
      else none
  | _ => none

def equals? (input : Rest) : Option Rest :=
  (skip? "=" (skipSpace input)).map skipSpace

def writtenAttribute? (input : Rest) :
    Option ((QualifiedName × List Char) × Rest) := do
  let (name, rest) ← qualifiedName? input
  match ← equals? rest with
  | quote :: rest =>
      if quote = '"' ∨ quote = '\'' then do
        let (value, rest) ← while? (fun c => c ≠ quote && c ≠ '<') rest
        let rest ← skip? quote.toString rest
        some ((name, value), rest)
      else none
  | [] => none

def attribute? (input : Rest) : Option ((QualifiedName × String) × Rest) := do
  let ((name, written), rest) ← writtenAttribute? input
  let value ← valueOf? written
  some ((name, value), rest)

/-! ## Markup that is no element -/

def comment? (input : Rest) : Option (Node × Rest) := do
  let rest ← skip? "<!--" input
  let (content, rest) ← until? "-->" rest
  if Text.occurs ['-', '-'] content || content.getLast? = some '-' then none
  else some (.comment (String.ofList content), rest)

/-- A processing instruction; it must not look like a second declaration. -/
def instruction? (input : Rest) : Option (Node × Rest) :=
  if (skip? "<?xml " input).isSome then none
  else do
    let rest ← skip? "<?" input
    let target := rest.takeWhile isNameChar
    if startsName target then do
      let (content, rest) ← until? "?>" (skipSpace (rest.dropWhile isNameChar))
      some (.instruction (String.ofList target) (String.ofList content), rest)
    else none

def section? (input : Rest) : Option (String × Rest) := do
  let rest ← skip? "<![CDATA[" input
  let (content, rest) ← until? "]]>" rest
  some (sectionText content, rest)

def characterData? (input : Rest) : Option (String × Rest) := do
  let (content, rest) ← while? (· ≠ '<') input
  if Text.occurs "]]>".toList content then none
  else (textOf? content).map (·, rest)

/-- Adds text to nodes that are held backwards; adjacent text is one node. -/
def pushText (before : List Node) (content : String) : List Node :=
  match before with
  | .text earlier :: nodes => .text (earlier ++ content) :: nodes
  | _ => .text content :: before

/-! ## Elements -/

def tagEnd? : Nat → Rest → Option (List (QualifiedName × String) × Bool × Rest)
  | 0, _ => none
  | fuel + 1, input =>
      match skipSpace input with
      | '/' :: '>' :: rest => some ([], false, rest)
      | '>' :: rest => some ([], true, rest)
      | start =>
          if startsWithSpace input then do
            let (entry, rest) ← attribute? start
            let (entries, isOpen, rest) ← tagEnd? fuel rest
            some (entry :: entries, isOpen, rest)
          else none

mutual

def element? (fuel : Nat) (scope : Scope) (input : Rest) : Option (Node × Rest) :=
  match fuel with
  | 0 => none
  | fuel + 1 => do
      let rest ← skip? "<" input
      let (written, rest) ← qualifiedName? rest
      let (entries, isOpen, rest) ← tagEnd? fuel rest
      let declared ← declarations? entries
      let scope := declared ++ scope
      let name ← if written.qualifier = "xmlns" then none
        else elementName? scope written
      let attributes ← attributes? scope entries
      if isOpen then do
        let (content, rest) ← content? fuel scope written [] rest
        some (.element name attributes content, rest)
      else
        some (.element name attributes [], rest)

/-- The content of an element and its end tag; `before` holds the nodes read so
far backwards. -/
def content? (fuel : Nat) (scope : Scope) (written : QualifiedName)
    (before : List Node) (input : Rest) : Option (List Node × Rest) :=
  match fuel with
  | 0 => none
  | fuel + 1 =>
      match input with
      | [] => none
      | '<' :: '/' :: rest => do
          let (closed, rest) ← qualifiedName? rest
          let rest ← skip? ">" (skipSpace rest)
          if closed = written then some (before.reverse, rest) else none
      | '<' :: '?' :: _ => do
          let (node, rest) ← instruction? input
          content? fuel scope written (node :: before) rest
      | '<' :: '!' :: '-' :: _ => do
          let (node, rest) ← comment? input
          content? fuel scope written (node :: before) rest
      | '<' :: '!' :: _ => do
          let (content, rest) ← section? input
          content? fuel scope written (pushText before content) rest
      | '<' :: _ => do
          let (node, rest) ← element? fuel scope input
          content? fuel scope written (node :: before) rest
      | _ => do
          let (content, rest) ← characterData? input
          content? fuel scope written (pushText before content) rest

end

/-! ## Documents -/

def declarationGap? (input : Rest) : Option Rest :=
  if startsWithSpace input then some (skipSpace input)
  else if (skip? "?>" input).isSome then some input
  else none

def optionalEntry? (name : String) (input : Rest) : Option Rest :=
  if (skip? name input).isSome then
    (writtenAttribute? input).map (·.2)
  else
    some input

def declaration? (input : Rest) : Option Rest :=
  match skip? "<?xml " input with
  | none => some input
  | some rest => do
      let rest := skipSpace rest
      let _ ← skip? "version" rest
      let (_, rest) ← writtenAttribute? rest
      let rest ← declarationGap? rest
      let hasEncoding := (skip? "encoding" rest).isSome
      let rest ← optionalEntry? "encoding" rest
      let rest ← if hasEncoding then declarationGap? rest else some rest
      let rest ← optionalEntry? "standalone" rest
      skip? "?>" (skipSpace rest)

def skipMisc? : Nat → Rest → Option Rest
  | 0, _ => none
  | fuel + 1, input =>
      let rest := skipSpace input
      if (skip? "<!--" rest).isSome then do
        let (_, rest) ← comment? rest
        skipMisc? fuel rest
      else if (skip? "<?" rest).isSome then do
        let (_, rest) ← instruction? rest
        skipMisc? fuel rest
      else some rest

def document? (input : Rest) : Option Element := do
  let input := match input with
    | '\uFEFF' :: rest => rest
    | _ => input
  let fuel := input.length + 1
  let rest ← declaration? input
  let rest ← skipMisc? fuel rest
  let (root, rest) ← element? fuel initialScope rest
  let rest ← skipMisc? fuel rest
  if rest.isEmpty then root.element? else none

end EndpointDiscovery.Xml.Parser

namespace EndpointDiscovery.Xml

def parse? (text : String) : Option Element := Parser.document? text.toList

end EndpointDiscovery.Xml
