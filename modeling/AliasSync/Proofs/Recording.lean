import AliasSync.Deployment.World
import AliasSync.Proofs.Exchanges

/-! Keeping a record of what goes over the wire changes nothing about a run. That holds of everything that a world may
know besides: a world in which each request comes to the same as in another has the same runs. -/

namespace AliasSync

open Http

variable {σ τ α β : Type}

namespace Sync

def Run.through (view : τ → σ) (run : Run τ α) : Run σ α := ⟨run.result, run.ended, view run.state, run.steps⟩

namespace World

/-- A world works like the one that a view of it shows. -/
structure Shows (world : World τ) (view : τ → σ) (shown : World σ) : Prop where
  wait : ∀ state request, world.wait state request = shown.wait (view state) request
  answer : ∀ state request, (world.answer state request).map id view = shown.answer (view state) request
  elapse : ∀ first last state, view (world.elapse first last state) = shown.elapse first last (view state)

namespace Shows

variable {world : World τ} {view : τ → σ} {shown : World σ} {stop : Option Nat}

private theorem call (shows : world.Shows view shown) {request : Request} {due now : Nat} {state : τ}
    {next : request.Reply → Nat → τ → Run τ α} {seen : request.Reply → Nat → σ → Run σ α}
    (each : ∀ reply moment later, (next reply moment later).through view = seen reply moment (view later)) :
    (world.call stop request due now state next).through view = shown.call stop request due now (view state) seen := by
  unfold World.call
  cases stop.filter (· < due) with
  | some shutdown => exact congrArg (Run.mk none shutdown · []) (shows.elapse now shutdown state)
  | none =>
    have answer := shows.answer (world.elapse now due state) request
    rw [shows.elapse] at answer
    rw [← answer]
    exact congrArg (Run.after due _) (each _ due _)

private theorem callSnapshots (shows : world.Shows view shown) {parent : String} {now : Nat} {state : τ}
    {next : Except CycleError Snapshots → Nat → τ → Run τ α}
    {seen : Except CycleError Snapshots → Nat → σ → Run σ α}
    (each : ∀ reply moment later, (next reply moment later).through view = seen reply moment (view later)) :
    (world.callSnapshots stop parent now state next).through view =
      shown.callSnapshots stop parent now (view state) seen := by
  unfold World.callSnapshots
  simp only [shows.wait]
  split
  · refine shows.call fun reply moment later => ?_
    cases reply with
    | error cause => exact each _ _ _
    | ok listed => exact shows.call fun reply moment later => by cases reply <;> exact each _ _ _
  · refine shows.call fun reply moment later => ?_
    cases reply with
    | error cause => exact each _ _ _
    | ok served => exact shows.call fun reply moment later => by cases reply <;> exact each _ _ _

/-- Every run looks like a run of the world that is shown. -/
theorem run (shows : world.Shows view shown) (stop : Option Nat) (program : Program α) (now : Nat) (state : τ) :
    (world.run stop program now state).through view = shown.run stop program now (view state) := by
  induction program generalizing now state with
  | done value => rfl
  | note note rest ih => exact congrArg (Run.after now _) (ih now state)
  | ask request next ih =>
    unfold World.run
    rw [shows.wait]
    exact shows.call fun reply moment later => ih reply moment later
  | snapshots parent next ih => exact shows.callSnapshots fun reply moment later => ih reply moment later

end Shows

end World

end Sync

namespace Http

private theorem Service.call_unrecorded (service : Service) (path : String) (make : Url → Call α) (network : Network σ)
    (before : σ × List Exchange) :
    (service.call path make network.recorded before).map id Prod.fst = service.call path make network before.1 := by
  unfold Service.call
  cases endpoint service.base path with
  | error cause => rfl
  | ok url =>
    simp only [Call.perform]
    split <;> rfl

end Http

private theorem Proxy.routers_unrecorded (service : Service) (network : Network σ) (before : σ × List Exchange) :
    (routers service network.recorded before).map id Prod.fst = routers service network before.1 :=
  service.call_unrecorded ..

namespace Resolver

variable (service : Service) (network : Network σ) (before : σ × List Exchange)

private theorem andThen_map {reply : Except HttpError α × τ} {seen : Except HttpError α × σ} {view : τ → σ}
    (same : reply.map id view = seen) (next : α → Except StoreError β) :
    (andThen reply next).map id view = andThen seen next := by
  subst same
  obtain ⟨result, state⟩ := reply
  cases result <;> rfl

private theorem findOverride_unrecorded (fqdn : String) :
    (findOverride service fqdn network.recorded before).map id Prod.fst = findOverride service fqdn network before.1 :=
  andThen_map (service.call_unrecorded ..) _

private theorem aliases_unrecorded (parent : String) :
    (aliases service parent network.recorded before).map id Prod.fst = aliases service parent network before.1 :=
  andThen_map (service.call_unrecorded ..) _

private theorem create_unrecorded (entry : HostAlias) (parent : String) :
    (create service entry parent network.recorded before).map id Prod.fst =
      create service entry parent network before.1 :=
  andThen_map (service.call_unrecorded ..) _

private theorem delete_unrecorded (entry : HostAlias) :
    (delete service entry network.recorded before).map id Prod.fst = delete service entry network before.1 := by
  unfold delete
  cases entry.id with
  | none => rfl
  | some id => exact andThen_map (service.call_unrecorded ..) _

private theorem apply_unrecorded :
    (apply service network.recorded before).map id Prod.fst = apply service network before.1 :=
  andThen_map (service.call_unrecorded ..) _

end Resolver

namespace Deployment

def Outside.recorded (outside : Outside σ) : Outside (σ × List Exchange) where
  network := outside.network.recorded
  machine state := outside.machine state.1
  wait state := outside.wait state.1
  elapse now moment state := (outside.elapse now moment state.1, state.2)

def unrecorded (state : (σ × List Exchange) × Exrex) : σ × Exrex := (state.1.1, state.2)

private theorem overNetwork_unrecorded {state : (σ × List Exchange) × Exrex}
    {exchange : σ × List Exchange → α × (σ × List Exchange)} {plain : σ → α × σ}
    (same : (exchange state.1).map id Prod.fst = plain state.1.1) :
    (overNetwork state exchange).map id unrecorded = overNetwork (unrecorded state) plain := by
  unfold overNetwork unrecorded
  rw [← same]
  rfl

private theorem answer_unrecorded (deployment : Deployment) (outside : Outside σ) (state : (σ × List Exchange) × Exrex)
    (request : Sync.Request) :
    (deployment.answer outside.recorded state request).map id unrecorded =
      deployment.answer outside (unrecorded state) request := by
  unfold answer
  cases request with
  | lookup fqdn => exact overNetwork_unrecorded (Resolver.findOverride_unrecorded ..)
  | aliases parent => exact overNetwork_unrecorded (Resolver.aliases_unrecorded ..)
  | routers => exact overNetwork_unrecorded (Proxy.routers_unrecorded ..)
  | create entry parent => exact overNetwork_unrecorded (Resolver.create_unrecorded ..)
  | delete entry => exact overNetwork_unrecorded (Resolver.delete_unrecorded ..)
  | apply => exact overNetwork_unrecorded (Resolver.apply_unrecorded ..)
  | generate pattern limit => rfl

private theorem recorded_shows (deployment : Deployment) (outside : Outside σ) :
    (deployment.world outside.recorded).Shows unrecorded (deployment.world outside) where
  wait _ _ := rfl
  elapse _ _ _ := rfl
  answer := deployment.answer_unrecorded outside

/-- Whatever is run, keeping a record of the exchanges changes nothing about it. -/
theorem run_recorded (deployment : Deployment) (outside : Outside σ) (stop : Option Nat) (program : Sync.Program α)
    (now : Nat) (state : (σ × List Exchange) × Exrex) :
    ((deployment.world outside.recorded).run stop program now state).through unrecorded =
      (deployment.world outside).run stop program now (unrecorded state) :=
  (deployment.recorded_shows outside).run stop program now state

end Deployment

end AliasSync
