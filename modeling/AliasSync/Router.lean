/-! The routers of the reverse proxy, and the choice of those that take part. -/

namespace AliasSync

structure Router where
  name : String
  provider : String
  entryPoints : List String
  rule : String
  deriving DecidableEq, Repr

/-- Which routers take part. An empty list of entries to include imposes nothing. -/
structure RouterFilter where
  includeEntryPoints : List String
  includeProviders : List String
  ignoreProviders : List String
  ignoreRouters : List String
  deriving DecidableEq, Repr

namespace RouterFilter

def isEmpty (filter : RouterFilter) : Bool :=
  filter.includeEntryPoints.isEmpty && filter.includeProviders.isEmpty &&
    filter.ignoreProviders.isEmpty && filter.ignoreRouters.isEmpty

/-- Names are compared exactly, the provider suffix of a router's name included. -/
def accepts (filter : RouterFilter) (router : Router) : Bool :=
  (filter.includeEntryPoints.isEmpty || router.entryPoints.any (· ∈ filter.includeEntryPoints)) &&
    (filter.includeProviders.isEmpty || router.provider ∈ filter.includeProviders) &&
    router.provider ∉ filter.ignoreProviders && router.name ∉ filter.ignoreRouters

end RouterFilter

end AliasSync
