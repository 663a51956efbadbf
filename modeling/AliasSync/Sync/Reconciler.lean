import AliasSync.Sync.Cycle
import AliasSync.Sync.Run
import AliasSync.Sync.Ticker

/-! Reconciliation: one sync at the start, then one at every tick until a shutdown comes. A shutdown
ends the run at once, wherever it is. -/

namespace AliasSync.Sync

structure Reconciler where
  syncer : Syncer
  /-- Milliseconds between the starts of two cycles. -/
  interval : Nat

/-- How a run of the reconciler ends. Without a shutdown the loop has no end; what it does up to any
moment is what the run stopped at that moment does. -/
inductive Ending where
  | completed
  | failed (cause : CycleError)
  | crashed (fault : TickerFault)
  | endless
  deriving DecidableEq, Repr

namespace Ending

def ofResult : Except CycleError Summary → Ending
  | .ok _ => completed
  | .error cause => failed cause

end Ending

def cycleRecord : Except CycleError Summary → Log.Record
  | .ok summary =>
    if 0 < summary.created + summary.deleted then
      .info .scheduler "Sync complete"
        [("created", .number summary.created), ("deleted", .number summary.deleted),
         ("skipped", .number summary.skipped)]
    else
      .debug .scheduler "Sync complete"
        [("planned", .number summary.planned), ("skipped", .number summary.skipped),
         ("dry_run", .truth summary.dryRun)]
  | .error cause => .error .scheduler "Sync failed" [("error", .plain cause.message)]

def reportedCycle (syncer : Syncer) : Program (Except CycleError Summary × Syncer) := do
  let (result, syncer) ← syncer.cycle
  Program.measure (.cycle result.toBool)
  Program.log (cycleRecord result)
  pure (result, syncer)

namespace Run

/-- Ends a run with last log records, made at the moment it ended. -/
def conclude (run : Run σ α) (ending : Ending) (records : List Log.Record) : Run σ Ending where
  result := some ending
  ended := run.ended
  state := run.state
  steps := run.steps ++ records.map fun record => (run.ended, .note (.log record))

end Run

/-- Syncs at every tick from now on, until the shutdown. -/
def syncLoop (world : World σ) (stop : Nat) (ticker : Ticker) (syncer : Syncer) (now : Nat)
    (state : σ) : Run σ Ending :=
  let tick := ticker.nextTick now
  if _tooLate : stop < tick then
    (world.cutOff (α := Unit) stop now state).conclude .completed
      [.info .scheduler "Shutdown signal received, stopping sync loop" []]
  else
    let run := world.run (some stop) (reportedCycle syncer) tick (world.elapse now tick state)
    match run.result with
    | none =>
      run.conclude .completed [.info .scheduler "Shutdown signal received, abandoning in-flight sync" []]
    | some (_, later) =>
      (syncLoop world stop (ticker.fired tick) later run.ended run.state).continuing run.steps
termination_by stop + 1 - ticker.nextTick now
decreasing_by exact ticker.remaining_fired _tooLate

namespace Reconciler

def isSingle (reconciler : Reconciler) (once : Bool) : Bool := once || reconciler.syncer.dryRun

/-- Runs the reconciler from a moment and a state of the world, up to the first shutdown if one
comes. -/
def run (reconciler : Reconciler) (world : World σ) (stop : Option Nat) (once : Bool) (now : Nat)
    (state : σ) : Run σ Ending :=
  let opening := Program.log (.info .scheduler "Running initial sync" [])
  let first := world.run stop (opening >>= fun _ => reportedCycle reconciler.syncer) now state
  match first.result with
  | none => first.conclude .completed [.info .scheduler "Shutdown signal received during initial sync" []]
  | some (result, syncer) =>
    if reconciler.syncer.dryRun then
      first.conclude (.ofResult result)
        [.info .scheduler "Dry run enabled, executed a single sync and exiting" []]
    else if once then first.conclude (.ofResult result) []
    else
      let opened : List Log.Record :=
        [.info .scheduler "Initial sync complete, starting sync loop"
          [("interval_secs", .number (reconciler.interval / 1000))],
         .info .scheduler "No more output will be shown until changes are detected" []]
      match Ticker.start first.ended reconciler.interval, stop with
      | .error fault, _ => first.conclude (.crashed fault) opened
      | .ok _, none => first.conclude .endless opened
      | .ok ticker, some stop =>
        (syncLoop world stop ticker syncer first.ended first.state).continuing
          (first.conclude .endless opened).steps

end Reconciler

end AliasSync.Sync
