import AliasSync.Http.Endpoint
import AliasSync.Http.Message

/-! Calls of a service: a request together with the reading of its reply. -/

namespace AliasSync.Http

open AliasSync.Text (decode? decodeLossy takeBytes)

/-- A service to call: where it is, as whom to call it, and with how much patience. -/
structure Service where
  base : Url
  credentials : Credentials
  timeout : Duration
  verifyTls : Bool
  deriving DecidableEq, Repr

/-- A call: a method at a URL with a body, and what a body that comes back says. A body is missing where
it broke off. -/
structure Call (α : Type) where
  method : Method
  url : Url
  body : Option String
  read : Option (List UInt8) → Option α

/-- The most bytes of the body of a refusal that are kept. -/
def snippetLimit : Nat := 4096

/-- What is kept of the body of a refusal: its beginning, without a byte order mark. -/
def snippet (body : Option (List UInt8)) : String :=
  let text := decodeLossy (body.getD [])
  let marked := if text.head? = some '\ufeff' then text.drop 1 else text
  String.ofList (takeBytes snippetLimit marked)

namespace Call

def json (method : Method) (url : Url) (body : Option String) (parse : String → Option α) : Call α where
  method := method
  url := url
  body := body
  read received := do
    let text ← decode? (← received)
    parse (String.ofList text)

def plain (method : Method) (url : Url) : Call Unit where
  method := method
  url := url
  body := none
  read _ := some ()

/-- The URL without the credentials that it holds. -/
def address (call : Call α) : Url :=
  if (Credentials.ofUrl? call.url).isSome then { call.url with username := "", password := "" }
  else call.url

def request (call : Call α) (service : Service) : Request where
  method := call.method
  url := call.address
  authorizations :=
    ((Credentials.ofUrl? call.url).map Credentials.header).toList ++ service.credentials.headers
  body := call.body
  timeout := service.timeout
  verifyTls := service.verifyTls

/-- The host can stand in a request, where some marks of URLs have no place. -/
def hostFits (call : Call α) : Bool :=
  match call.url.host with
  | some (.domain name) => !name.toList.any "\"\x60\x7b\x7d".toList.contains
  | _ => true

def targetLimit : Nat := 65534

/-- There are ways to call the scheme, and the URL can stand in a request. -/
def isCallable (call : Call α) : Bool :=
  (call.url.scheme == "http" || call.url.scheme == "https") && call.hostFits &&
    decide (call.address.text.utf8ByteSize ≤ targetLimit)

def failure (call : Call α) (reason : String) : HttpError :=
  .request call.url.text (reason ++ " for url (" ++ call.address.text ++ ")")

/-- What a reply comes to. Every status but one of success is an error. -/
def settle (call : Call α) : Option Response → Except HttpError α
  | none => .error (call.failure "error sending request")
  | some response =>
    if response.status.isSuccess then
      match call.read response.body with
      | some value => .ok value
      | none => .error (.decode response.url "error decoding response body")
    else .error (.status response.status call.url.text (snippet response.body))

def perform (call : Call α) (service : Service) (network : Network σ) (state : σ) :
    Except HttpError α × σ :=
  if call.isCallable then
    let (reply, state) := network state (call.request service)
    (call.settle reply, state)
  else (.error (call.failure "builder error"), state)

end Call

namespace Service

def call (service : Service) (path : String) (make : Url → Call α) (network : Network σ) (state : σ) :
    Except HttpError α × σ :=
  match endpoint service.base path with
  | .error cause => (.error cause, state)
  | .ok url => (make url).perform service network state

end Service

end AliasSync.Http
