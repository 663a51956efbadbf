import AliasSync.Alias.Diff
import AliasSync.Sync.Expansion

/-! Plans: the changes that bring the managed aliases of the store in line with the routers. An alias
is managed when its description is the marker, and no other alias is ever touched. -/

namespace AliasSync.Sync

open AliasSync.Rule (Candidate)

/-- What plans are computed with. Only the cache changes over time. -/
structure Planner where
  filter : RouterFilter
  marker : String
  limit : Nat
  cache : ExpansionCache

/-- A plan, what had to be left out of it, and the sizes of its two sides. -/
structure Plan where
  operations : List Operation
  issues : List Issue
  desired : Nat
  managed : Nat
  deriving Repr

structure Harvest where
  desired : AliasTable
  issues : List Issue
  cache : ExpansionCache

namespace Harvest

def start (cache : ExpansionCache) : Harvest := ⟨∅, [], cache⟩

def addError (router : Router) (candidate : Candidate) (harvest : Harvest)
    (error : ExpansionError) : Program Harvest := do
  Program.log (.warn .planner "Skipping domain candidate"
    [("router", .plain router.name), ("candidate", .plain candidate.value),
     ("error", .plain error.message)])
  match error with
  | .generation _ _ => Program.measure .generationFailure
  | .malformed _ => pure ()
  pure { harvest with issues := harvest.issues ++ [.expansion router.name error] }

/-- Adds the alias of a host name. Of two with one key the later stays. -/
def addHost (marker : String) (router : Router) (harvest : Harvest) (host : HostName) :
    Program Harvest := do
  let entry := HostAlias.ofHostName host marker
  if harvest.desired.contains entry.key then
    Program.log (.debug .planner "Alias already desired by an earlier router, keeping the latest"
      [("router", .plain router.name), ("alias", .plain entry.key)])
  pure { harvest with desired := harvest.desired.insert entry.key entry }

/-- Adds what a candidate of a router expands to: its errors, then its hosts. -/
def addCandidate (planner : Planner) (router : Router) (harvest : Harvest)
    (candidate : Candidate) : Program Harvest := do
  let (expanded, cache) ← expand planner.limit harvest.cache candidate
  let harvest ← expanded.errors.foldlM (addError router candidate) { harvest with cache := cache }
  expanded.hosts.foldlM (addHost planner.marker router) harvest

/-- Adds what the rule of a router names. A rule that cannot be read contributes nothing. -/
def addRouter (planner : Planner) (harvest : Harvest) (router : Router) : Program Harvest := do
  match Rule.candidates router.rule with
  | .ok candidates => candidates.foldlM (addCandidate planner router) harvest
  | .error cause =>
    Program.log (.warn .planner "Failed to parse router rule, router contributes no aliases"
      [("router", .plain router.name), ("rule", .plain router.rule),
       ("error", .plain cause.message)])
    Program.measure .ruleParseFailure
    pure { harvest with issues := harvest.issues ++ [.rule router.name cause] }

end Harvest

namespace Planner

def harvest (planner : Planner) (routers : List Router) : Program Harvest :=
  (routers.filter planner.filter.accepts).foldlM (Harvest.addRouter planner)
    (.start planner.cache)

def managed (planner : Planner) (aliases : List HostAlias) : AliasTable :=
  .ofList (aliases.filter (·.description == planner.marker))

/-- The plan for the two snapshots, and the planner afterwards. -/
def plan (planner : Planner) (routers : List Router) (aliases : List HostAlias) :
    Program (Plan × Planner) := do
  let harvest ← planner.harvest routers
  let current := planner.managed aliases
  let operations := diff harvest.desired current
  (Metric.plan harvest.desired.size current.size operations.length).forM Program.measure
  pure (⟨operations, harvest.issues, harvest.desired.size, current.size⟩,
    { planner with cache := harvest.cache })

end Planner

end AliasSync.Sync
