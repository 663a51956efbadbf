import AliasSync.Expansion.Cache
import AliasSync.Rule.Candidates
import AliasSync.Sync.Program

/-! From candidates to host names. A literal is a name as it stands; a pattern is expanded by the
generator once and from the cache ever after. -/

namespace AliasSync.Sync

open AliasSync.Rule (Candidate)

/-- The host names of a candidate, and what kept others from being one. -/
structure Expanded where
  hosts : List HostName
  errors : List ExpansionError
  deriving DecidableEq, Repr

namespace Expanded

/-- Splits every name; those that cannot be split are reported. -/
def ofNames (names : List String) : Expanded where
  hosts := names.filterMap HostName.ofText?
  errors := (names.filter fun name => (HostName.ofText? name).isNone).map .malformed

def ofFailure (pattern : String) (cause : GeneratorError) : Expanded :=
  ⟨[], [.generation pattern cause]⟩

end Expanded

/-- The names that a pattern stands for, at most `limit` of them when the generator keeps to it, and
the cache afterwards. -/
def expandPattern (limit : Nat) (cache : ExpansionCache) (pattern : String) :
    Program (Except GeneratorError (List String) × ExpansionCache) := do
  match cache.get? pattern with
  | some names =>
    Program.log (.trace .expansion "pattern expansion served from cache" [("pattern", .freeText pattern)])
    pure (.ok names, cache)
  | none =>
    match ← Program.request (.generate pattern limit) with
    | .error cause => pure (.error cause, cache)
    | .ok names =>
      Program.log (.debug .expansion "expanded host pattern"
        [("pattern", .freeText pattern), ("generated", .number names.length)])
      pure (.ok names, cache.insert pattern names)

def expand (limit : Nat) (cache : ExpansionCache) (candidate : Candidate) :
    Program (Expanded × ExpansionCache) := do
  match candidate.kind with
  | .literal => pure (.ofNames [candidate.value], cache)
  | .pattern =>
    match ← expandPattern limit cache candidate.value with
    | (.ok names, cache) => pure (.ofNames names, cache)
    | (.error cause, cache) => pure (.ofFailure candidate.value cause, cache)

end AliasSync.Sync
