import AliasSync.Duration
import AliasSync.Http.Status
import AliasSync.Text.Base64
import AliasSync.Text.Utf8
import AliasSync.Url.Basic
import AliasSync.Url.Percent

/-! Requests, responses and the network between them. -/

namespace AliasSync.Http

open AliasSync.Text (base64 decode? utf8)

inductive Method where
  | get
  | post
  deriving DecidableEq, Repr

def Method.name : Method → String
  | get => "GET"
  | post => "POST"

structure Credentials where
  username : String
  password : String
  deriving DecidableEq, Repr

namespace Credentials

def header (credentials : Credentials) : String :=
  let pair := credentials.username ++ ":" ++ credentials.password
  "Basic " ++ String.ofList (base64 (utf8 pair.toList))

/-- Configured credentials go with a request only if there is a name. -/
def headers (credentials : Credentials) : List String :=
  if credentials.username.isEmpty then [] else [credentials.header]

/-- The text of a part of a URL without percent signs, if its bytes are one. -/
def partText? (part : String) : Option String :=
  (decode? (Url.percentDecode part.toList)).map String.ofList

/-- The credentials that a URL holds. A name that is no text is not one, and a password that is no text
is left out. -/
def ofUrl? (url : Url) : Option Credentials := do
  let username ← partText? url.username
  let password := (partText? url.password).getD ""
  guard (!(username.isEmpty && password.isEmpty))
  pure ⟨username, password⟩

end Credentials

/-- A request as it goes out. Credentials of its URL travel in a header. -/
structure Request where
  method : Method
  url : Url
  authorizations : List String
  /-- A body in JSON. -/
  body : Option String
  /-- How long to wait for the whole reply. -/
  timeout : Duration
  verifyTls : Bool
  deriving DecidableEq, Repr

def Request.headers (request : Request) : List (String × String) :=
  [("accept", "application/json")] ++ request.authorizations.map (("authorization", ·)) ++
    (request.body.map fun _ => ("content-type", "application/json")).toList

/-- The last reply to a request, redirects having been followed. -/
structure Response where
  /-- Where the reply came from. -/
  url : String
  status : Status
  /-- The bytes of the body, unless it broke off. -/
  body : Option (List UInt8)
  deriving DecidableEq, Repr

/-- A network answers a request or does not, and either may depend on all that happened before. -/
abbrev Network (σ : Type) := σ → Request → Option Response × σ

def Network.silent : Network σ := fun state _ => (none, state)

end AliasSync.Http
