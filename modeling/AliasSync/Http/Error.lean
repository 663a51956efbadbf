import AliasSync.Http.Status
import AliasSync.Text.Quoted
import AliasSync.Url.Error

/-! How a call to a service over HTTP can fail. -/

namespace AliasSync.Http

open AliasSync.Text (quoteString)

inductive HttpError where
  | invalidUrl (url : String) (cause : Url.ParseError)
  | request (url cause : String)
  | status (code : Status) (url snippet : String)
  | decode (url cause : String)
  deriving DecidableEq, Repr

def HttpError.message : HttpError → String
  | .invalidUrl url cause => "invalid url " ++ quoteString url ++ ": " ++ cause.message
  | .request url cause => "request to " ++ url ++ " failed: " ++ cause
  | .status code url snippet =>
    "http " ++ code.text ++ " from " ++ url ++ ": " ++ quoteString snippet
  | .decode url cause => "invalid response body from " ++ url ++ ": " ++ cause

end AliasSync.Http
