import AliasSync.Proofs.CycleCourse
import AliasSync.Proofs.TimedRun
import AliasSync.Sync.Reconciler

/-! Turns: the cycles that are run one after the other, each from a moment and a state of the world. What the
reconciler asks of the world is what its turns ask. -/

namespace AliasSync.Sync

variable {σ : Type}

def Run.calls (run : Run σ α) : List Step := run.trace.filter Step.isCall

def Run.timedCalls (run : Run σ α) : List (Nat × Step) := run.steps.filter (·.2.isCall)

/-- A cycle and when, from which state of the world and up to which shutdown it is run. -/
structure Turn (σ : Type) where
  syncer : Syncer
  stop : Option Nat
  began : Nat
  state : σ

namespace Turn

def run (world : World σ) (turn : Turn σ) : Run σ (Except CycleError Summary × Syncer) :=
  world.run turn.stop turn.syncer.cycle turn.began turn.state

def calls (world : World σ) (turn : Turn σ) : List Step := (turn.run world).calls

def timedCalls (world : World σ) (turn : Turn σ) : List (Nat × Step) := (turn.run world).timedCalls

def next (world : World σ) (pause : Nat) (turn : Turn σ) : Turn σ :=
  let run := turn.run world
  { turn with
    syncer := (run.result.map Prod.snd).getD turn.syncer
    began := run.ended + pause
    state := world.elapse run.ended (run.ended + pause) run.state }

def nth (world : World σ) (pauses : Nat → Nat) (first : Turn σ) : Nat → Turn σ
  | 0 => first
  | count + 1 => (nth world pauses first count).next world (pauses count)

end Turn

def loopTurns (world : World σ) (stop : Nat) (ticker : Ticker) (syncer : Syncer) (now : Nat) (state : σ) :
    List (Turn σ) :=
  let tick := ticker.nextTick now
  if _tooLate : stop < tick then []
  else
    let turn : Turn σ := ⟨syncer, some stop, tick, world.elapse now tick state⟩
    let run := turn.run world
    match run.result with
    | none => [turn]
    | some (_, later) => turn :: loopTurns world stop (ticker.fired tick) later run.ended run.state
termination_by stop + 1 - ticker.nextTick now
decreasing_by exact ticker.remaining_fired _tooLate

def Reconciler.turns (reconciler : Reconciler) (world : World σ) (stop : Option Nat) (once : Bool) (now : Nat)
    (state : σ) : List (Turn σ) :=
  let first : Turn σ := ⟨reconciler.syncer, stop, now, state⟩
  let run := first.run world
  match run.result with
  | none => [first]
  | some (_, syncer) =>
    if reconciler.isSingle once then [first]
    else match Ticker.start run.ended reconciler.interval, stop with
      | .ok ticker, some shutdown => first :: loopTurns world shutdown ticker syncer run.ended run.state
      | _, _ => [first]

variable {world : World σ}

namespace Run

@[simp] theorem calls_conclude (run : Run σ α) (ending : Ending) (records : List Log.Record) :
    (run.conclude ending records).calls = run.calls := by
  simp [calls, trace, conclude, List.filter_eq_nil_iff]

@[simp] theorem calls_continuing (steps : List (Nat × Step)) (run : Run σ α) :
    (run.continuing steps).calls = (steps.map Prod.snd).filter Step.isCall ++ run.calls := by
  rw [calls, continuing_trace, List.filter_append, calls]

theorem calls_after_call (moment : Nat) (request : Request) (reply : request.Reply) (run : Run σ α) :
    (run.after moment (.call request reply)).calls = .call request reply :: run.calls := rfl

theorem calls_after_note (moment : Nat) (note : Note) (run : Run σ α) :
    (run.after moment (.note note)).calls = run.calls := rfl

private theorem calls_eq_timedCalls (run : Run σ α) : run.calls = run.timedCalls.map Prod.snd := List.filter_map

@[simp] theorem timedCalls_continuing (steps : List (Nat × Step)) (run : Run σ α) :
    (run.continuing steps).timedCalls = steps.filter (·.2.isCall) ++ run.timedCalls :=
  List.filter_append ..

@[simp] theorem timedCalls_conclude (run : Run σ α) (ending : Ending) (records : List Log.Record) :
    (run.conclude ending records).timedCalls = run.timedCalls := by
  simp [timedCalls, conclude, List.filter_eq_nil_iff]

end Run

theorem Turn.course (turn : Turn σ) (drifts : σ → σ → Prop)
    (within : world.DriftsWithin drifts turn.began (turn.run world).ended) :
    turn.syncer.CycleCourse world drifts turn.state (turn.run world).trace (turn.run world).result
      (turn.run world).state :=
  cycle_course (world.run_course turn.stop turn.syncer.cycle turn.began turn.state drifts within)

/-- A turn is a course in a world that may drift anyhow. -/
theorem Turn.free_course (world : World σ) (turn : Turn σ) :
    turn.syncer.CycleCourse world (fun _ _ => True) turn.state (turn.run world).trace (turn.run world).result
      (turn.run world).state :=
  turn.course _ fun _ _ _ _ _ => trivial

private theorem Turn.later {turn : Turn σ} {reply : Except CycleError Summary} {later : Syncer}
    (finished : (turn.run world).result = some (reply, later)) :
    ∃ cache, later = turn.syncer.withCache cache := by
  have course := turn.free_course world
  rw [finished] at course
  exact course.later

/-- A cycle with its report is run like the cycle alone, except for two notes at its end. -/
theorem run_reportedCycle (world : World σ) (stop : Option Nat) (syncer : Syncer) (now : Nat) (state : σ) :
    let run := world.run stop syncer.cycle now state
    let reported := world.run stop (reportedCycle syncer) now state
    reported.result = run.result ∧ reported.ended = run.ended ∧ reported.state = run.state ∧
      reported.timedCalls = run.timedCalls := by
  intro run reported
  have whole : reported = run.andThen fun value => world.run stop
      (Program.measure (.cycle value.1.toBool) >>= fun _ => Program.log (cycleRecord value.1) >>= fun _ =>
        pure value) := world.run_bind stop syncer.cycle _ now state
  rw [whole]
  unfold Run.andThen
  cases finished : run.result with
  | none => exact ⟨rfl, rfl, rfl, rfl⟩
  | some value => exact ⟨rfl, rfl, rfl, by rw [Run.timedCalls_continuing]; exact List.append_nil _⟩

section Loop

variable {stop : Nat} {ticker : Ticker} {syncer : Syncer} {now : Nat} {state : σ}

theorem syncLoop_late (world : World σ) (syncer : Syncer) (state : σ) (tooLate : stop < ticker.nextTick now) :
    syncLoop world stop ticker syncer now state = (world.cutOff (α := Unit) stop now state).conclude .completed
      [.info .scheduler "Shutdown signal received, stopping sync loop" []] := by
  rw [syncLoop, dif_pos tooLate]

theorem syncLoop_abandoned {run : Run σ (Except CycleError Summary × Syncer)} (inTime : ¬ stop < ticker.nextTick now)
    (same : world.run (some stop) (reportedCycle syncer) (ticker.nextTick now)
      (world.elapse now (ticker.nextTick now) state) = run) (cut : run.result = none) :
    syncLoop world stop ticker syncer now state = run.conclude .completed
      [.info .scheduler "Shutdown signal received, abandoning in-flight sync" []] := by
  rw [syncLoop, dif_neg inTime]
  simp only [same, cut]

theorem syncLoop_continued {run : Run σ (Except CycleError Summary × Syncer)} {reply : Except CycleError Summary}
    {later : Syncer} (inTime : ¬ stop < ticker.nextTick now)
    (same : world.run (some stop) (reportedCycle syncer) (ticker.nextTick now)
      (world.elapse now (ticker.nextTick now) state) = run) (finished : run.result = some (reply, later)) :
    syncLoop world stop ticker syncer now state =
      (syncLoop world stop (ticker.fired (ticker.nextTick now)) later run.ended run.state).continuing run.steps := by
  rw [syncLoop, dif_neg inTime]
  simp only [same, finished]

end Loop

/-- What time and every cycle under the settings keep, the loop keeps. -/
theorem syncLoop_keeps {kept : σ → Prop} {stop : Nat} {ticker : Ticker} {syncer : Syncer} {now : Nat} {state : σ}
    (time : ∀ first last state, kept state → kept (world.elapse first last state))
    (cycle : ∀ turn : Turn σ, (∃ cache, turn.syncer = syncer.withCache cache) → kept turn.state →
      kept (turn.run world).state)
    (begins : kept state) : kept (syncLoop world stop ticker syncer now state).state := by
  fun_induction syncLoop world stop ticker syncer now state with
  | case1 ticker syncer now state tick tooLate => exact time _ _ _ begins
  | case2 ticker syncer now state tick inTime run cut =>
    obtain ⟨-, -, final, -⟩ := run_reportedCycle world (some stop) syncer tick (world.elapse now tick state)
    have turned := cycle ⟨syncer, some stop, tick, world.elapse now tick state⟩ ⟨_, rfl⟩ (time _ _ _ begins)
    exact final ▸ turned
  | case3 ticker syncer now state tick inTime run reply later finished ih =>
    obtain ⟨result, -, final, -⟩ := run_reportedCycle world (some stop) syncer tick (world.elapse now tick state)
    have turned := cycle ⟨syncer, some stop, tick, world.elapse now tick state⟩ ⟨_, rfl⟩ (time _ _ _ begins)
    have answered : (Turn.run world ⟨syncer, some stop, tick, world.elapse now tick state⟩).result =
      some (reply, later) := result.symm.trans finished
    obtain ⟨cache, rfl⟩ := Turn.later answered
    exact ih cycle (final ▸ turned)

/-- What time and every cycle under its settings keep, the reconciler keeps. -/
theorem Reconciler.run_keeps {reconciler : Reconciler} {kept : σ → Prop} {stop : Option Nat} {once : Bool} {now : Nat}
    {state : σ} (time : ∀ first last state, kept state → kept (world.elapse first last state))
    (cycle : ∀ turn : Turn σ, (∃ cache, turn.syncer = reconciler.syncer.withCache cache) → kept turn.state →
      kept (turn.run world).state)
    (begins : kept state) : kept (reconciler.run world stop once now state).state := by
  obtain ⟨result, -, final, -⟩ := run_reportedCycle world stop reconciler.syncer now state
  have first : kept (world.run stop (reportedCycle reconciler.syncer) now state).state :=
    final ▸ cycle ⟨reconciler.syncer, stop, now, state⟩ ⟨_, rfl⟩ begins
  simp only [run, Program.log, Program.bind_eq, Program.bind, World.run, Run.after_result]
  split
  case h_1 => exact first
  case h_2 reply later finished =>
    have answered : (Turn.run world ⟨reconciler.syncer, stop, now, state⟩).result = some (reply, later) :=
      result.symm.trans finished
    obtain ⟨cache, rfl⟩ := Turn.later answered
    split
    case isTrue => exact first
    split
    case isTrue => exact first
    split
    case h_1 | h_2 => exact first
    case h_3 => exact syncLoop_keeps time cycle first

private theorem syncLoop_timedCalls (world : World σ) (stop : Nat) (ticker : Ticker) (syncer : Syncer) (now : Nat)
    (state : σ) :
    (syncLoop world stop ticker syncer now state).timedCalls =
      (loopTurns world stop ticker syncer now state).flatMap (Turn.timedCalls world) := by
  fun_induction loopTurns world stop ticker syncer now state with
  | case1 ticker syncer now state tick tooLate =>
    rw [syncLoop_late world syncer state tooLate]
    rfl
  | case2 ticker syncer now state tick inTime turn run cut =>
    obtain ⟨result, -, -, calls⟩ := run_reportedCycle world (some stop) syncer tick (world.elapse now tick state)
    rw [syncLoop_abandoned inTime rfl (result.trans cut), Run.timedCalls_conclude, calls]
    exact (List.append_nil _).symm
  | case3 ticker syncer now state tick inTime turn run reply later finished ih =>
    obtain ⟨result, ended, final, calls⟩ :=
      run_reportedCycle world (some stop) syncer tick (world.elapse now tick state)
    rw [syncLoop_continued inTime rfl (result.trans finished), Run.timedCalls_continuing, ended, final,
      List.flatMap_cons, ← ih]
    exact congrArg (· ++ _) calls

theorem Reconciler.run_timedCalls (reconciler : Reconciler) (world : World σ) (stop : Option Nat) (once : Bool)
    (now : Nat) (state : σ) :
    (reconciler.run world stop once now state).timedCalls =
      (reconciler.turns world stop once now state).flatMap (Turn.timedCalls world) := by
  have reported := run_reportedCycle world stop reconciler.syncer now state
  generalize reporting : world.run stop (reportedCycle reconciler.syncer) now state = loud at reported
  obtain ⟨result, ended, final, calls⟩ := reported
  have single : loud.timedCalls = [(⟨reconciler.syncer, stop, now, state⟩ : Turn σ)].flatMap (Turn.timedCalls world) :=
    calls.trans (List.append_nil _).symm
  have answered : (Turn.run world ⟨reconciler.syncer, stop, now, state⟩).result = loud.result := result.symm
  have finished : (Turn.run world ⟨reconciler.syncer, stop, now, state⟩).ended = loud.ended := ended.symm
  have left : (Turn.run world ⟨reconciler.syncer, stop, now, state⟩).state = loud.state := final.symm
  simp only [run, turns, Program.log, Program.bind_eq, Program.bind, World.run, reporting, Run.after_result,
    answered, finished, left, isSingle]
  cases ending : loud.result with
  | none => exact (Run.timedCalls_conclude ..).trans single
  | some value =>
    cases dry : reconciler.syncer.dryRun
    case true =>
      simp only [Bool.or_true, ↓reduceIte]
      exact (Run.timedCalls_conclude ..).trans single
    cases once
    case true => exact (Run.timedCalls_conclude ..).trans single
    simp only [Bool.or_self, Bool.false_eq_true, ↓reduceIte, Run.after_ended]
    cases Ticker.start loud.ended reconciler.interval with
    | error fault => exact (Run.timedCalls_conclude ..).trans single
    | ok ticker =>
      cases stop with
      | none => exact (Run.timedCalls_conclude ..).trans single
      | some shutdown =>
        simp only [Run.timedCalls_continuing, Run.after_state, syncLoop_timedCalls]
        rw [List.flatMap_cons]
        refine congrArg (· ++ _) ?_
        exact (Run.timedCalls_conclude (loud.after now _) .endless _).trans calls

theorem Reconciler.run_calls (reconciler : Reconciler) (world : World σ) (stop : Option Nat) (once : Bool)
    (now : Nat) (state : σ) :
    (reconciler.run world stop once now state).calls =
      (reconciler.turns world stop once now state).flatMap (Turn.calls world) := by
  have single : Turn.calls world = fun turn => (turn.timedCalls world).map Prod.snd :=
    funext fun turn => Run.calls_eq_timedCalls _
  rw [Run.calls_eq_timedCalls, reconciler.run_timedCalls, List.map_flatMap, single]

private theorem loopTurns_settings {stop : Nat} {ticker : Ticker} {syncer : Syncer} {now : Nat} {state : σ} :
    ∀ turn ∈ loopTurns world stop ticker syncer now state, ∃ cache, turn.syncer = syncer.withCache cache := by
  fun_induction loopTurns world stop ticker syncer now state with
  | case1 ticker syncer now state tick tooLate => simp
  | case2 ticker syncer now state tick inTime turn run cut =>
    intro other member
    obtain rfl := List.mem_singleton.mp member
    exact ⟨syncer.planner.cache, rfl⟩
  | case3 ticker syncer now state tick inTime turn run reply later finished ih =>
    intro other member
    obtain rfl | further := List.mem_cons.mp member
    · exact ⟨syncer.planner.cache, rfl⟩
    · obtain ⟨first, rfl⟩ := Turn.later finished
      obtain ⟨cache, same⟩ := ih other further
      exact ⟨cache, same⟩

/-- The reconciler runs all its turns with the settings that it was started with. -/
theorem Reconciler.turns_settings {reconciler : Reconciler} {stop : Option Nat} {once : Bool} {now : Nat}
    {state : σ} :
    ∀ turn ∈ reconciler.turns world stop once now state,
      ∃ cache, turn.syncer = reconciler.syncer.withCache cache := by
  have alone : ∀ turn ∈ [(⟨reconciler.syncer, stop, now, state⟩ : Turn σ)],
      ∃ cache, turn.syncer = reconciler.syncer.withCache cache := by
    intro turn member
    obtain rfl := List.mem_singleton.mp member
    exact ⟨reconciler.syncer.planner.cache, rfl⟩
  simp only [turns]
  split
  case h_1 => exact alone
  case h_2 reply later finished =>
    split
    case isTrue => exact alone
    case isFalse =>
      split
      case h_1 =>
        intro turn member
        obtain first | further := List.mem_cons.mp member
        · exact alone turn (List.mem_singleton.mpr first)
        · obtain ⟨first, rfl⟩ := Turn.later finished
          obtain ⟨cache, same⟩ := loopTurns_settings turn further
          exact ⟨cache, same⟩
      case h_2 => exact alone

end AliasSync.Sync
