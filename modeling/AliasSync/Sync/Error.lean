import AliasSync.Expansion.Generator
import AliasSync.Rule.Error
import AliasSync.Store.Error

/-! What can go wrong in a cycle: problems that leave something out of the plan, and errors that end
the cycle or are left over from it. -/

namespace AliasSync.Sync

open AliasSync.Text (quoteString)

inductive ExpansionError where
  | generation (pattern : String) (cause : GeneratorError)
  | malformed (name : String)
  deriving DecidableEq, Repr

def ExpansionError.message : ExpansionError → String
  | generation pattern cause =>
    "failed to generate domains from regex " ++ quoteString pattern ++ ": " ++ cause.message
  | malformed name =>
    "invalid domain " ++ quoteString name ++ ": expected <hostname>.<domain>"

/-- Something of a router that the plan had to leave out. -/
inductive Issue where
  | rule (router : String) (cause : Rule.RuleError)
  | expansion (router : String) (cause : ExpansionError)
  deriving DecidableEq, Repr

namespace Issue

def router : Issue → String
  | rule router _ => router
  | expansion router _ => router

def message : Issue → String
  | rule router cause => "router " ++ router ++ ": invalid rule: " ++ cause.message
  | expansion router cause => "router " ++ router ++ ": " ++ cause.message

end Issue

inductive CycleError where
  | routes (cause : Http.HttpError)
  | store (cause : StoreError)
  | overrideLookup (fqdn : String) (cause : StoreError)
  | overrideNotFound (fqdn : String)
  | incomplete (failed attempted : Nat)
  deriving DecidableEq, Repr

namespace CycleError

def message : CycleError → String
  | routes cause => "failed to fetch routers from Traefik: " ++ cause.message
  | store cause => "failed to read aliases from OPNsense: " ++ cause.message
  | overrideLookup fqdn cause =>
    "failed to look up host override " ++ quoteString fqdn ++ " in OPNsense: " ++ cause.message
  | overrideNotFound fqdn =>
    "host override " ++ quoteString fqdn ++
      " not found in OPNsense Unbound, see the setup instructions"
  | incomplete failed attempted =>
    toString failed ++ " of " ++ toString attempted ++ " changes failed"

/-- The cycle ended before it asked for any change. -/
def isTransport : CycleError → Bool
  | incomplete _ _ => false
  | _ => true

end CycleError

end AliasSync.Sync
