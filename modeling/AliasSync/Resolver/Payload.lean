import AliasSync.Alias
import AliasSync.Json.Decode
import AliasSync.Json.Parser
import AliasSync.Json.Value

/-! What the resolver is told and what it answers. -/

namespace AliasSync.Resolver

/-- A row of a search: a host override or an alias. -/
structure Row where
  uuid : String
  hostname : String
  domain : String
  description : String
  deriving DecidableEq, Repr

def row? (json : Json) : Option Row := do
  match ← json.record? ["uuid", "hostname", "domain", "description"] with
  | [uuid, hostname, domain, description] =>
    pure
      { uuid := ← Json.orDefault "" Json.text? uuid
        hostname := ← Json.orDefault "" Json.text? hostname
        domain := ← Json.orDefault "" Json.text? domain
        description := ← Json.orDefault "" Json.text? description }
  | _ => none

def rows? (text : String) : Option (List Row) := do
  match ← (← Json.parse? text).record? ["rows"] with
  | [rows] => Json.orDefault [] (fun list => do (← list.items?).mapM row?) rows
  | _ => none

/-- The reply to the order to add an alias. The complaints are kept as text. -/
structure Added where
  result : String
  uuid : Option String
  validations : Option String
  deriving DecidableEq, Repr

def added? (text : String) : Option Added := do
  match ← (← Json.parse? text).record? ["result", "uuid", "validations"] with
  | [result, uuid, validations] =>
    pure
      { result := ← Json.orDefault "" Json.text? result
        uuid := ← Json.orNull Json.text? uuid
        validations := ← Json.orNull (Json.compact? (Json.maxDepth - 1)) validations }
  | _ => none

def addBody (entry : HostAlias) (parent : String) : String :=
  let members := [("enabled", "1"), ("host", parent), ("hostname", entry.hostname),
    ("domain", entry.domain), ("description", entry.description)]
  let written := members.map fun (name, value) => Json.quote name ++ ":" ++ Json.quote value
  "\x7b" ++ Json.quote "alias" ++ ":\x7b" ++ ",".intercalate written ++ "\x7d\x7d"

end AliasSync.Resolver
