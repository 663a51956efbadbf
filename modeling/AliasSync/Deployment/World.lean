import AliasSync.Deployment
import AliasSync.Proxy.Client
import AliasSync.Resolver.Client

/-! The world of a synchronizer that works with real services: each request becomes a call over the
network or a run of the generator. -/

namespace AliasSync.Deployment

open AliasSync.Sync (Request Step World)

/-- All that lies outside the synchronizer, in terms of a state that only it knows. -/
structure Outside (σ : Type) where
  network : Http.Network σ
  machine : σ → Machine
  wait : σ → Request → Nat
  elapse : Nat → Nat → σ → σ

/-- Does something that concerns only the network. -/
def overNetwork (state : σ × Exrex) (exchange : σ → α × σ) : α × (σ × Exrex) :=
  let (reply, outside) := exchange state.1
  (reply, outside, state.2)

def answer (deployment : Deployment) (outside : Outside σ) (state : σ × Exrex) :
    (request : Request) → request.Reply × (σ × Exrex)
  | .lookup fqdn =>
    overNetwork state (Resolver.findOverride deployment.resolver fqdn outside.network)
  | .aliases parent =>
    overNetwork state (Resolver.aliases deployment.resolver parent outside.network)
  | .routers => overNetwork state (Proxy.routers deployment.proxy outside.network)
  | .create entry parent =>
    overNetwork state (Resolver.create deployment.resolver entry parent outside.network)
  | .delete entry =>
    overNetwork state (Resolver.delete deployment.resolver entry outside.network)
  | .apply => overNetwork state (Resolver.apply deployment.resolver outside.network)
  | .generate pattern limit =>
    let (names, exrex) := state.2.generate (outside.machine state.1) pattern limit
    (names, state.1, exrex)

def world (deployment : Deployment) (outside : Outside σ) : World (σ × Exrex) where
  wait state request := outside.wait state.1 request
  answer := deployment.answer outside
  elapse now moment state := (outside.elapse now moment state.1, state.2)

/-- Runs the synchronizer, up to the first shutdown if one comes. -/
def run (deployment : Deployment) (outside : Outside σ) (stop : Option Nat) (once : Bool) (state : σ) :
    Sync.Run (σ × Exrex) Sync.Ending :=
  deployment.reconciler.run (deployment.world outside) stop once 0 (state, deployment.exrex)

def stepRecords : Step → List Log.Record
  | .note (.log record) => [record]
  | .note (.metric _) => []
  | .call .routers (.ok routers) => [Proxy.fetchedRecord routers]
  | .call _ _ => []

end AliasSync.Deployment
