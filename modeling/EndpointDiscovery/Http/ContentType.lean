import EndpointDiscovery.Text.Encoding

/-!
# The type of a content

A content type is two tokens with a slash between them, and parameters after
semicolons.  One that cannot be read has no parameters.
-/

namespace EndpointDiscovery.Http

structure Parameter where
  name : String
  value : String
deriving DecidableEq, Repr

namespace ContentType

def isTokenChar (character : Char) : Bool :=
  character.isAlphanum || "!#$%&'*+-.^_`|~".toList.contains character

def isPrintable (character : Char) : Bool :=
  ' ' ≤ character && character ≤ '~'

def dropSpaces (characters : List Char) : List Char :=
  characters.dropWhile (· = ' ')

/-! ## Values -/

/-- The value at the beginning, and the parameters after it.  A quoted value has at
least one character, which may be a quote. -/
def value? : List Char → Option (List Char × Option (List Char))
  | '"' :: first :: rest =>
      match rest.dropWhile (· ≠ '"') with
      | _ :: after =>
          let value := first :: rest.takeWhile (· ≠ '"')
          match dropSpaces after with
          | [] => some (value, none)
          | ';' :: parameters => some (value, some parameters)
          | _ => none
      | [] => none
  | characters =>
      let value := characters.takeWhile isTokenChar
      match characters.dropWhile isTokenChar with
      | [] => some (value, none)
      | ';' :: parameters => if value.isEmpty then none
            else some (value, some parameters)
      | _ => none

/-! ## Parameters -/

def parametersWithin? (fuel : Nat) (characters : List Char) :
    Option (List Parameter) :=
  match fuel, dropSpaces characters with
  | _, [] => some []
  | 0, _ => none
  | fuel + 1, characters => do
      let name := characters.takeWhile isTokenChar
      match name, characters.dropWhile isTokenChar with
      | _ :: _, '=' :: rest =>
          let (value, more?) ← value? rest
          let others ← match more? with
            | some more => parametersWithin? fuel more
            | none => some []
          some (⟨String.ofList name, String.ofList value⟩ :: others)
      | _, _ => none

def parameters? (text : String) : Option (List Parameter) :=
  let characters := text.toList
  if characters.all isPrintable then
    match characters.takeWhile isTokenChar, characters.dropWhile isTokenChar with
    | _ :: _, '/' :: rest =>
        match rest.takeWhile isTokenChar, rest.dropWhile isTokenChar with
        | _, [] => some []
        | _ :: _, ';' :: parameters =>
            parametersWithin? characters.length parameters
        | _, _ => none
    | _, _ => none
  else
    none

def parameter? (name text : String) : Option String :=
  ((parameters? text).getD []).findSome? fun parameter =>
    if parameter.name.toList.map Char.toLower = name.toList then
      some parameter.value
    else
      none

/-- The encoding that a content type names; otherwise the text is in UTF-8. -/
def encoding (text : String) : Text.Encoding :=
  ((parameter? "charset" text).bind Text.Encoding.ofLabel?).getD .utf8

end ContentType

end EndpointDiscovery.Http
