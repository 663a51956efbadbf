import AliasSync.Url.Host

/-! URLs as data, and their one written form. -/

namespace AliasSync

/-- The way to a resource: a text that only the scheme understands, or segments. -/
inductive Url.Path where
  | plain (text : String)
  | segments (segments : List String)
  deriving DecidableEq, Repr

structure Url where
  scheme : String
  username : String
  password : String
  host : Option Url.Host
  port : Option Nat
  path : Url.Path
  query : Option String
  fragment : Option String
  deriving DecidableEq, Repr

namespace Url

def credentials (url : Url) : String :=
  if url.username.isEmpty && url.password.isEmpty then ""
  else url.username ++ (if url.password.isEmpty then "" else ":" ++ url.password) ++ "@"

def authority (url : Url) : String :=
  match url.host with
  | none => if url.scheme == "file" then "//" else ""
  | some host =>
    "//" ++ url.credentials ++ host.text ++
      (match url.port with
        | none => ""
        | some port => ":" ++ toString port)

/-- The path as written. Without a host a path may not begin like an authority. -/
def pathText (url : Url) : String :=
  match url.path with
  | .plain text => text
  | .segments segments =>
    let text := String.join (segments.map ("/" ++ ·))
    if url.authority.isEmpty && 1 < segments.length && segments.head? == some "" then "/." ++ text
    else text

def text (url : Url) : String :=
  url.scheme ++ ":" ++ url.authority ++ url.pathText ++
    (match url.query with
      | none => ""
      | some query => "?" ++ query) ++
    (match url.fragment with
      | none => ""
      | some fragment => "#" ++ fragment)

end Url

end AliasSync
