import AliasSync.Sync.Execution
import AliasSync.Sync.Plan

/-! One cycle: look up the host override, take both snapshots, plan, and carry out the plan. -/

namespace AliasSync.Sync

/-- What cycles run with. The planner carries its cache from one cycle to the next. -/
structure Syncer where
  planner : Planner
  hostOverride : String
  dryRun : Bool

structure Summary where
  desired : Nat
  managed : Nat
  planned : Nat
  created : Nat
  deleted : Nat
  failed : Nat
  skipped : Nat
  dryRun : Bool
  deriving DecidableEq, Repr

namespace Summary

def ofPlan (plan : Plan) (dryRun : Bool) : Summary where
  desired := plan.desired
  managed := plan.managed
  planned := plan.operations.length
  created := 0
  deleted := 0
  failed := 0
  skipped := plan.issues.length
  dryRun := dryRun

def addExecution (summary : Summary) (execution : Execution) : Summary :=
  { summary with
    created := execution.created
    deleted := execution.deleted
    failed := execution.failed }

end Summary

def announce (operation : Operation) : Program Unit :=
  Program.log (.info .cycle ("[" ++ operation.kind.name ++ "] alias: " ++ operation.key)
    [("dry_run", .truth true)])

/-- Acts on a plan: shows it in a dry run, and else carries it out. -/
def act (parent : String) (dryRun : Bool) (plan : Plan) : Program (Except CycleError Summary) := do
  let summary := Summary.ofPlan plan dryRun
  if plan.operations.isEmpty then
    Program.log (.debug .cycle "Aliases already in sync"
      [("desired", .number summary.desired), ("managed", .number summary.managed)])
    pure (.ok summary)
  else if dryRun then
    plan.operations.forM announce
    pure (.ok summary)
  else
    let execution ← execute parent plan.operations
    if execution.isSuccess then pure (.ok (summary.addExecution execution))
    else pure (.error (.incomplete execution.failed summary.planned))

namespace Syncer

/-- Runs one cycle; afterwards the syncer remembers what was expanded. -/
def cycle (syncer : Syncer) : Program (Except CycleError Summary × Syncer) := do
  match ← Program.request (.lookup syncer.hostOverride) with
  | .error cause => pure (.error (.overrideLookup syncer.hostOverride cause), syncer)
  | .ok none => pure (.error (.overrideNotFound syncer.hostOverride), syncer)
  | .ok (some parent) =>
    match ← Program.fetchSnapshots parent with
    | .error cause => pure (.error cause, syncer)
    | .ok (aliases, routers) =>
      let (plan, planner) ← syncer.planner.plan routers aliases
      let result ← act parent syncer.dryRun plan
      pure (result, { syncer with planner := planner })

end Syncer

end AliasSync.Sync
