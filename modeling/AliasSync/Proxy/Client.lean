import AliasSync.Http.Call
import AliasSync.Log
import AliasSync.Proxy.Payload

/-! Asking the proxy for its routers. -/

namespace AliasSync.Proxy

open AliasSync.Http

def routersPath : String := "/api/http/routers"

def routers (service : Service) (network : Network σ) (state : σ) :
    Except HttpError (List Router) × σ :=
  service.call routersPath (Call.json .get · none routers?) network state

def fetchedRecord (routers : List Router) : Log.Record :=
  .debug .proxy "fetched routers from Traefik" [("count", .number routers.length)]

end AliasSync.Proxy
