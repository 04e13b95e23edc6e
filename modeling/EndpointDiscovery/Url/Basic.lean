import EndpointDiscovery.Url.Host

/-!
# URLs

A URL is kept in its parts and written out from them.
-/

namespace EndpointDiscovery

namespace Url

/-- A path is a list of segments, or a text that nothing can be resolved against. -/
inductive Path where
  | segments (items : List String)
  | plain (text : String)
deriving DecidableEq, Repr

end Url

structure Url where
  scheme : String
  username : String := ""
  password : Option String := none
  host : Option Url.Host := none
  port : Option Nat := none
  path : Url.Path := .segments []
  query : Option String := none
  fragment : Option String := none
deriving DecidableEq, Repr

namespace Url

def specialSchemes : List String := ["http", "https", "ws", "wss", "ftp", "file"]

def isSpecialScheme (scheme : String) : Bool := specialSchemes.contains scheme

def defaultPort? (scheme : String) : Option Nat :=
  if scheme = "http" ∨ scheme = "ws" then some 80
  else if scheme = "https" ∨ scheme = "wss" then some 443
  else if scheme = "ftp" then some 21
  else none

def userinfoText (url : Url) : String :=
  match url.password with
  | some password => url.username ++ ":" ++ password ++ "@"
  | none => if url.username.isEmpty then "" else url.username ++ "@"

def portText (url : Url) : String :=
  match url.port with
  | some port => ":" ++ toString port
  | none => ""

def authorityText (url : Url) : String :=
  match url.host with
  | some host => "//" ++ url.userinfoText ++ host.toText ++ url.portText
  | none => ""

/-- The path; without a host it must not begin like an authority. -/
def pathText (url : Url) : String :=
  match url.path with
  | .plain text => text
  | .segments items =>
      let joined := String.join (items.map ("/" ++ ·))
      if url.host.isNone && items.head? = some "" && 1 < items.length then
        "/." ++ joined
      else joined

def queryText (url : Url) : String :=
  match url.query with
  | some query => "?" ++ query
  | none => ""

def fragmentText (url : Url) : String :=
  match url.fragment with
  | some fragment => "#" ++ fragment
  | none => ""

def toText (url : Url) : String :=
  url.scheme ++ ":" ++ url.authorityText ++ url.pathText ++ url.queryText ++
  url.fragmentText

end Url

end EndpointDiscovery
