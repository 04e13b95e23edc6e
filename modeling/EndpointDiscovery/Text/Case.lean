import EndpointDiscovery.Text.CaseTable

/-!
# Lower case

Characters are mapped one by one, with one rule that looks at the text around it: a
capital sigma at the end of a word becomes the final form of the letter.
-/

namespace EndpointDiscovery.Text

/-- The lower-case form of a single character; only the dotted capital I has
two characters. -/
def lowerChar (character : Char) : List Char :=
  if character.toNat < 0x80 then
    [if 'A' ≤ character ∧ character ≤ 'Z' then Char.ofNat (character.toNat + 32)
      else character]
  else if character = '\u0130' then
    ['i', '\u0307']
  else
    match lowerRuns.findSome? (·.image? character.toNat) with
    | some code => [Char.ofNat code]
    | none => [character]

def nextIsCased (characters : List Char) : Bool :=
  match characters.dropWhile caseIgnorable.contains with
  | character :: _ => cased.contains character
  | [] => false

/-- `before` is the text left of the rest, nearest character first. -/
def lowerAfter (before : List Char) : List Char → List Char
  | [] => []
  | character :: rest =>
      let mapped :=
        if character = '\u03A3' then
          [if nextIsCased before && !nextIsCased rest then '\u03C2' else '\u03C3']
        else
          lowerChar character
      mapped ++ lowerAfter (character :: before) rest

def lower (text : String) : String :=
  String.ofList (lowerAfter [] text.toList)

/-- Every character on its own, so that a capital sigma never takes
the final form. -/
def lowerEach (text : String) : String :=
  String.ofList (text.toList.flatMap lowerChar)

end EndpointDiscovery.Text
