import AliasSync.Http.Call
import AliasSync.Resolver.Payload
import AliasSync.Store.Error

/-! The alias store behind the API of the resolver. -/

namespace AliasSync.Resolver

open AliasSync.Http

def searchOverridesPath : String := "/api/unbound/settings/search_host_override/"

def searchAliasesPath : String := "/api/unbound/settings/search_host_alias/"

def addAliasPath : String := "/api/unbound/settings/add_host_alias/"

def deleteAliasPath : String := "/api/unbound/settings/del_host_alias/"

def reconfigurePath : String := "/api/unbound/service/reconfigure/"

namespace Row

def name (row : Row) : String := row.hostname ++ "." ++ row.domain

/-- The row has this name, whatever the case of its ASCII letters. -/
def isNamed (fqdn : String) (row : Row) : Bool :=
  row.name.toList.map Char.toLower == fqdn.toList.map Char.toLower

def entry (row : Row) : HostAlias := ⟨some row.uuid, row.hostname, row.domain, row.description⟩

end Row

/-- What comes of the reply to an order to add an alias: its id if it was saved. -/
def Added.outcome (added : Added) (entry : HostAlias) : Except StoreError String :=
  let rejected : StoreError := .rejected entry.key added.result (added.validations.getD "")
  match added.uuid with
  | some uuid => if added.result = "saved" then .ok uuid else .error rejected
  | none => .error rejected

def andThen (reply : Except HttpError α × σ) (next : α → Except StoreError β) :
    Except StoreError β × σ :=
  match reply with
  | (.error cause, state) => (.error (.http cause), state)
  | (.ok value, state) => (next value, state)

def search (service : Service) (path : String) (network : Network σ) (state : σ) :
    Except HttpError (List Row) × σ :=
  service.call path (Call.json .get · none rows?) network state

/-- The id of the first host override of a name. -/
def findOverride (service : Service) (fqdn : String) (network : Network σ) (state : σ) :
    Except StoreError (Option String) × σ :=
  andThen (search service searchOverridesPath network state) fun rows =>
    .ok ((rows.find? (Row.isNamed fqdn)).map Row.uuid)

def aliases (service : Service) (parent : String) (network : Network σ) (state : σ) :
    Except StoreError (List HostAlias) × σ :=
  andThen (search service (searchAliasesPath ++ parent) network state) fun rows =>
    .ok (rows.map Row.entry)

def create (service : Service) (entry : HostAlias) (parent : String) (network : Network σ)
    (state : σ) : Except StoreError String × σ :=
  andThen (service.call addAliasPath (Call.json .post · (some (addBody entry parent)) added?)
    network state) fun added => added.outcome entry

def delete (service : Service) (entry : HostAlias) (network : Network σ) (state : σ) :
    Except StoreError Unit × σ :=
  match entry.id with
  | none => (.error (.missingId entry.key), state)
  | some id => andThen (service.call (deleteAliasPath ++ id) (Call.plain .post) network state) .ok

def apply (service : Service) (network : Network σ) (state : σ) : Except StoreError Unit × σ :=
  andThen (service.call reconfigurePath (Call.plain .post) network state) .ok

end AliasSync.Resolver
