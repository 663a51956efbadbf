import AliasSync.Rule.Parser
import AliasSync.Rule.Predicate
import Std.Data.TreeMap

/-! The host candidates of a rule: the values its positive host calls name and its negative ones do
not, each once, in the order of first mention. -/

namespace AliasSync.Rule

/-- The values met so far, in the order of first mention, and the kind of each. -/
structure Sightings where
  order : List String
  kinds : Std.TreeMap String HostKind

namespace Sightings

def empty : Sightings := ⟨[], ∅⟩

/-- Takes note of a value. One that has been met before keeps its place, and becomes a pattern when it
is met as one. -/
def note (seen : Sightings) (host : Candidate) : Sightings :=
  match seen.kinds[host.value]?, host.kind with
  | some _, .pattern => { seen with kinds := seen.kinds.insert host.value .pattern }
  | some _, .literal => seen
  | none, kind => ⟨seen.order ++ [host.value], seen.kinds.insert host.value kind⟩

def ofHosts (hosts : List Candidate) : Sightings := hosts.foldl note empty

end Sightings

/-- The distinct positive values that are not excluded. -/
def HostValues.candidates (hosts : HostValues) : List Candidate :=
  let seen := Sightings.ofHosts hosts.positive
  (seen.order.filter (· ∉ hosts.negative)).filterMap fun value =>
    seen.kinds[value]?.map fun kind => ⟨value, kind⟩

def candidates (rule : String) : Except RuleError (List Candidate) :=
  (parse rule).map fun expr => (Predicate.ofExpr expr).hostValues.candidates

end AliasSync.Rule
