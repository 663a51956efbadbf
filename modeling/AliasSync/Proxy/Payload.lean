import AliasSync.Json.Decode
import AliasSync.Json.Parser
import AliasSync.Router

/-! What the proxy says of its routers. -/

namespace AliasSync.Proxy

def router? (json : Json) : Option Router := do
  match ← json.record? ["name", "provider", "entryPoints", "rule"] with
  | [name, provider, entryPoints, rule] =>
    pure
      { name := ← Json.orDefault "" Json.text? name
        provider := ← Json.orDefault "" Json.text? provider
        entryPoints := ← Json.orDefault [] (fun list => do (← list.items?).mapM Json.text?) entryPoints
        rule := ← Json.orDefault "" Json.text? rule }
  | _ => none

def routers? (text : String) : Option (List Router) := do
  (← (← Json.parse? text).items?).mapM router?

end AliasSync.Proxy
