import AliasSync.Proofs.AbortedCycle

/-! What a run does to the world. It is a sequence of calls, each at its moment, and others change the world in
between; a call that is cut off while it waits leaves nothing behind. -/

namespace AliasSync.Sync

variable {σ : Type} {world : World σ} {stop : Option Nat}

namespace World

/-- Time can be let pass in pieces. -/
def Flows (world : World σ) : Prop :=
  ∀ first middle last state, first ≤ middle → middle ≤ last →
    world.elapse middle last (world.elapse first middle state) = world.elapse first last state

/-- The calls, each answered at its moment, and what others do before, between and after them lead from a state at a
moment to another state at a later one. -/
inductive Effect (world : World σ) : Nat → σ → List (Nat × Step) → Nat → σ → Prop where
  | passes {now finish state} (later : now ≤ finish) :
      Effect world now state [] finish (world.elapse now finish state)
  | call {now due finish state request reply middle calls after} (later : now ≤ due)
      (answered : world.Answers state now due request reply middle)
      (rest : Effect world due middle calls finish after) :
      Effect world now state ((due, .call request reply) :: calls) finish after

private theorem Effect.earlier {earlier now finish : Nat} {state after : σ} {calls : List (Nat × Step)}
    (flows : world.Flows)
    (waits : earlier ≤ now) (effect : world.Effect now (world.elapse earlier now state) calls finish after) :
    world.Effect earlier state calls finish after := by
  cases effect with
  | passes later =>
    rw [flows earlier now finish state waits later]
    exact .passes (Nat.le_trans waits later)
  | @call _ due _ _ _ _ _ _ _ later answered rest =>
    apply Effect.call (Nat.le_trans waits later) _ rest
    rwa [Answers, ← flows earlier now due state waits later]

inductive Unfolds (world : World σ) (stop : Option Nat) : Nat → σ → Run σ α → Prop where
  | done {now state} (value : α) : Unfolds world stop now state ⟨some value, now, state, []⟩
  | cut {now state shutdown} (stops : stop = some shutdown) (waits : now ≤ shutdown) :
      Unfolds world stop now state (world.cutOff shutdown now state)
  | note {now state run} (note : Note) (rest : Unfolds world stop now state run) :
      Unfolds world stop now state (run.after now (.note note))
  | call {now due state request reply middle run} (waits : now ≤ due) (inTime : Reaches stop due)
      (answered : world.Answers state now due request reply middle) (rest : Unfolds world stop due middle run) :
      Unfolds world stop now state (run.after due (.call request reply))

namespace Unfolds

variable {request : Request} {due now : Nat} {state : σ} {run : Run σ α}

theorem of_call {next : request.Reply → Nat → σ → Run σ α} (begun : Reaches stop now) (waits : now ≤ due)
    (each : ∀ reply middle, Reaches stop due → world.Unfolds stop due middle (next reply due middle)) :
    world.Unfolds stop now state (world.call stop request due now state next) := by
  obtain ⟨shutdown, stops, cut⟩ | ⟨inTime, reply, middle, answered, called⟩ :=
    world.call_cases stop request due now state next
  · rw [cut]
    exact .cut stops (begun shutdown stops)
  · rw [called]
    exact .call waits inTime answered (each reply middle inTime)

private theorem of_snapshots {parent : String} {next : Except CycleError Snapshots → Nat → σ → Run σ α}
    (begun : Reaches stop now)
    (each : ∀ reply moment middle, Reaches stop moment → world.Unfolds stop moment middle (next reply moment middle)) :
    world.Unfolds stop now state (world.callSnapshots stop parent now state next) := by
  by_cases order : now + world.wait state (.aliases parent) ≤ now + world.wait state .routers
  · simp only [callSnapshots, order, ↓reduceIte]
    apply of_call begun (Nat.le_add_right ..)
    intro reply middle reached
    cases reply with
    | error cause => exact each _ _ _ reached
    | ok listed =>
      apply of_call reached order
      intro reply last arrived
      cases reply <;> exact each _ _ _ arrived
  · simp only [callSnapshots, order, ↓reduceIte]
    apply of_call begun (Nat.le_add_right ..)
    intro reply middle reached
    cases reply with
    | error cause => exact each _ _ _ reached
    | ok served =>
      apply of_call reached (Nat.le_of_not_le order)
      intro reply last arrived
      cases reply <;> exact each _ _ _ arrived

theorem later (unfolds : world.Unfolds stop now state run) : now ≤ run.ended := by
  induction unfolds with
  | done value => exact Nat.le_refl _
  | cut stops waits => exact waits
  | note note rest ih => exact ih
  | call waits inTime answered rest ih => exact Nat.le_trans waits ih

theorem inTime (unfolds : world.Unfolds stop now state run) (begun : Reaches stop now) : Reaches stop run.ended := by
  induction unfolds with
  | done value => exact begun
  | cut stops waits =>
    intro shutdown same
    cases stops.symm.trans same
    exact Nat.le_refl _
  | note note rest ih => exact ih begun
  | call waits reached answered rest ih => exact ih reached

theorem stopped (unfolds : world.Unfolds stop now state run) (cut : run.result = none) : stop = some run.ended := by
  induction unfolds with
  | done value => cases cut
  | cut stops waits => exact stops
  | note note rest ih => exact ih cut
  | call waits inTime answered rest ih => exact ih cut

/-- The steps lie between the beginning and the end of the run. -/
theorem between (unfolds : world.Unfolds stop now state run) :
    ∀ step ∈ run.steps, now ≤ step.1 ∧ step.1 ≤ run.ended := by
  induction unfolds with
  | done value => simp
  | cut stops waits => simp [cutOff]
  | note note rest ih =>
    intro step member
    obtain rfl | member := List.mem_cons.mp member
    · exact ⟨Nat.le_refl _, rest.later⟩
    · exact ih step member
  | call waits inTime answered rest ih =>
    intro step member
    obtain rfl | member := List.mem_cons.mp member
    · exact ⟨waits, rest.later⟩
    · obtain ⟨after, before⟩ := ih step member
      exact ⟨Nat.le_trans waits after, before⟩

/-- A run that was cut off has had the effect of its calls. -/
theorem effect (unfolds : world.Unfolds stop now state run) (cut : run.result = none) :
    world.Effect now state run.timedCalls run.ended run.state := by
  induction unfolds with
  | done value => cases cut
  | cut stops waits => exact .passes waits
  | note note rest ih => exact ih cut
  | call waits inTime answered rest ih => exact .call waits answered (ih cut)

/-- What follows a run that came to its end follows the effect of its calls. -/
theorem effect_append (unfolds : world.Unfolds stop now state run) (finished : run.result ≠ none)
    {calls : List (Nat × Step)} {finish : Nat} {after : σ}
    (further : world.Effect run.ended run.state calls finish after) :
    world.Effect now state (run.timedCalls ++ calls) finish after := by
  induction unfolds with
  | done value => exact further
  | cut stops waits => exact absurd rfl finished
  | note note rest ih => exact ih finished further
  | call waits inTime answered rest ih => exact .call waits answered (ih finished further)

end Unfolds

theorem run_unfolds (world : World σ) (stop : Option Nat) (program : Program α) (now : Nat) (state : σ)
    (begun : Reaches stop now) : world.Unfolds stop now state (world.run stop program now state) := by
  induction program generalizing now state with
  | done value => exact .done value
  | note note rest ih => exact .note note (ih now state begun)
  | ask request next ih => exact .of_call begun (Nat.le_add_right ..) fun reply middle => ih reply _ middle
  | snapshots parent next ih => exact .of_snapshots begun fun reply => ih reply

theorem reaches_some {shutdown moment : Nat} : Reaches (some shutdown) moment ↔ moment ≤ shutdown := by
  constructor
  · intro reached
    exact reached shutdown rfl
  · intro early last same
    cases same
    exact early

end World

open World (reaches_some)

section Loop

variable {shutdown : Nat} {ticker : Ticker} {syncer : Syncer} {now : Nat} {state : σ}

/-- A cycle of the loop, with its report. -/
theorem tick_unfolds (world : World σ) (syncer : Syncer) (state : σ) {tick : Nat} (inTime : ¬ shutdown < tick) :
    world.Unfolds (some shutdown) tick state (world.run (some shutdown) (reportedCycle syncer) tick state) :=
  world.run_unfolds _ _ _ _ (reaches_some.mpr (Nat.le_of_not_lt inTime))

/-- The loop goes on until the shutdown, whatever its cycles come to. -/
theorem syncLoop_ends (world : World σ) (shutdown : Nat) (ticker : Ticker) (syncer : Syncer) (now : Nat) (state : σ) :
    (syncLoop world shutdown ticker syncer now state).result = some .completed ∧
      (syncLoop world shutdown ticker syncer now state).ended = shutdown := by
  fun_induction syncLoop world shutdown ticker syncer now state with
  | case1 ticker syncer now state tick tooLate => exact ⟨rfl, rfl⟩
  | case2 ticker syncer now state tick inTime run cut =>
    have stopped := (tick_unfolds world syncer (world.elapse now tick state) inTime).stopped cut
    exact ⟨rfl, (Option.some.inj stopped).symm⟩
  | case3 ticker syncer now state tick inTime run reply later finished ih => exact ih

theorem syncLoop_begins (world : World σ) (shutdown : Nat) (ticker : Ticker) (syncer : Syncer) (now : Nat)
    (state : σ) :
    ∀ step ∈ (syncLoop world shutdown ticker syncer now state).steps, min shutdown (ticker.nextTick now) ≤ step.1 := by
  fun_induction syncLoop world shutdown ticker syncer now state with
  | case1 ticker syncer now state tick tooLate =>
    intro step member
    obtain rfl := List.mem_singleton.mp member
    exact Nat.min_le_left ..
  | case2 ticker syncer now state tick inTime run cut =>
    have unfolds := tick_unfolds world syncer (world.elapse now tick state) inTime
    intro step member
    apply Nat.le_trans (Nat.min_le_right ..)
    obtain member | member := List.mem_append.mp member
    · exact (unfolds.between step member).1
    · obtain rfl := List.mem_singleton.mp member
      exact unfolds.later
  | case3 ticker syncer now state tick inTime run reply later finished ih =>
    have unfolds := tick_unfolds world syncer (world.elapse now tick state) inTime
    intro step member
    obtain member | member := List.mem_append.mp member
    · exact Nat.le_trans (Nat.min_le_right ..) (unfolds.between step member).1
    · have next := ticker.nextTick_fired tick run.ended
      have bound := ih step member
      omega

/-- What follows a cycle of the loop comes after it. -/
theorem syncLoop_steps {run : Run σ (Except CycleError Summary × Syncer)} (inTime : ¬ shutdown < ticker.nextTick now)
    (same : world.run (some shutdown) (reportedCycle syncer) (ticker.nextTick now)
      (world.elapse now (ticker.nextTick now) state) = run) :
    ∃ further, (syncLoop world shutdown ticker syncer now state).steps = run.steps ++ further ∧
      ∀ step ∈ further, run.ended ≤ step.1 := by
  cases finished : run.result with
  | none =>
    rw [syncLoop_abandoned inTime same finished]
    refine ⟨_, rfl, ?_⟩
    intro step member
    obtain rfl := List.mem_singleton.mp member
    exact Nat.le_refl _
  | some answer =>
    rw [syncLoop_continued inTime same finished]
    refine ⟨_, rfl, ?_⟩
    intro step member
    have unfolds := tick_unfolds world syncer (world.elapse now (ticker.nextTick now) state) inTime
    rw [same] at unfolds
    have reached := reaches_some.mp (unfolds.inTime (reaches_some.mpr (Nat.le_of_not_lt inTime)))
    have bound := syncLoop_begins _ _ _ _ _ _ step member
    have waited : run.ended ≤ (ticker.fired (ticker.nextTick now)).nextTick run.ended := Nat.le_max_right ..
    omega

theorem syncLoop_effect (flows : world.Flows) (begun : now ≤ shutdown) :
    world.Effect now state (syncLoop world shutdown ticker syncer now state).timedCalls shutdown
      (syncLoop world shutdown ticker syncer now state).state := by
  fun_induction syncLoop world shutdown ticker syncer now state with
  | case1 ticker syncer now state tick tooLate =>
    rw [Run.timedCalls_conclude]
    exact .passes begun
  | case2 ticker syncer now state tick inTime run cut =>
    have unfolds := tick_unfolds world syncer (world.elapse now tick state) inTime
    have effect := unfolds.effect cut
    rw [← Option.some.inj (unfolds.stopped cut)] at effect
    rw [Run.timedCalls_conclude]
    exact effect.earlier flows (Nat.le_max_right ..)
  | case3 ticker syncer now state tick inTime run reply later finished ih =>
    have unfolds := tick_unfolds world syncer (world.elapse now tick state) inTime
    have reached := unfolds.inTime (reaches_some.mpr (Nat.le_of_not_lt inTime))
    have further := ih (reaches_some.mp reached)
    have effect := unfolds.effect_append (finished ▸ Option.some_ne_none _) further
    rw [Run.timedCalls_continuing]
    exact effect.earlier flows (Nat.le_max_right ..)

end Loop

namespace Reconciler

variable {reconciler : Reconciler} {once : Bool} {now : Nat} {state : σ} {reply : Except CycleError Summary}
  {later : Syncer}

def opening (reconciler : Reconciler) (world : World σ) (stop : Option Nat) (now : Nat) (state : σ) :
    Run σ (Except CycleError Summary × Syncer) :=
  world.run stop (Program.log (.info .scheduler "Running initial sync" []) >>= fun _ => reportedCycle reconciler.syncer)
    now state

theorem opening_unfolds (reconciler : Reconciler) (world : World σ) {shutdown now : Nat} (state : σ)
    (begun : now ≤ shutdown) :
    world.Unfolds (some shutdown) now state (reconciler.opening world (some shutdown) now state) :=
  world.run_unfolds _ _ _ _ (reaches_some.mpr begun)

def farewell (reconciler : Reconciler) : List Log.Record :=
  if reconciler.syncer.dryRun then [.info .scheduler "Dry run enabled, executed a single sync and exiting" []] else []

def loopRecords (reconciler : Reconciler) : List Log.Record :=
  [.info .scheduler "Initial sync complete, starting sync loop"
    [("interval_secs", .number (reconciler.interval / 1000))],
   .info .scheduler "No more output will be shown until changes are detected" []]

theorem run_interrupted (cut : (reconciler.opening world stop now state).result = none) :
    reconciler.run world stop once now state = (reconciler.opening world stop now state).conclude .completed
      [.info .scheduler "Shutdown signal received during initial sync" []] := by
  rw [opening] at cut
  simp only [run, cut]
  rfl

theorem run_single (finished : (reconciler.opening world stop now state).result = some (reply, later))
    (single : reconciler.isSingle once = true) :
    reconciler.run world stop once now state =
      (reconciler.opening world stop now state).conclude (.ofResult reply) reconciler.farewell := by
  rw [opening] at finished
  simp only [isSingle, Bool.or_eq_true] at single
  simp only [run, finished, farewell]
  cases dry : reconciler.syncer.dryRun with
  | true => rfl
  | false =>
    obtain once | impossible := single
    · rw [if_neg Bool.false_ne_true, if_pos once]
      rfl
    · rw [dry] at impossible
      cases impossible

theorem run_crashed (finished : (reconciler.opening world stop now state).result = some (reply, later))
    (looping : reconciler.isSingle once = false) {fault : TickerFault}
    (crashed : Ticker.start (reconciler.opening world stop now state).ended reconciler.interval = .error fault) :
    reconciler.run world stop once now state =
      (reconciler.opening world stop now state).conclude (.crashed fault) reconciler.loopRecords := by
  rw [opening] at finished crashed
  obtain ⟨notOnce, live⟩ := Bool.or_eq_false_iff.mp looping
  simp only [run, finished, crashed, live, notOnce, Bool.false_eq_true, ↓reduceIte]
  rfl

theorem run_looping {shutdown : Nat} {ticker : Ticker}
    (finished : (reconciler.opening world (some shutdown) now state).result = some (reply, later))
    (looping : reconciler.isSingle once = false)
    (started : Ticker.start (reconciler.opening world (some shutdown) now state).ended reconciler.interval =
      .ok ticker) :
    let first := reconciler.opening world (some shutdown) now state
    reconciler.run world (some shutdown) once now state =
      (syncLoop world shutdown ticker later first.ended first.state).continuing
        (first.conclude .endless reconciler.loopRecords).steps := by
  rw [opening] at finished started
  obtain ⟨notOnce, live⟩ := Bool.or_eq_false_iff.mp looping
  simp only [run, finished, started, live, notOnce, Bool.false_eq_true, ↓reduceIte]
  rfl

/-- What follows the first cycle comes after it. -/
theorem run_steps (reconciler : Reconciler) (world : World σ) {shutdown : Nat} (once : Bool) {now : Nat} (state : σ)
    (begun : now ≤ shutdown) :
    let first := reconciler.opening world (some shutdown) now state
    ∃ further, (reconciler.run world (some shutdown) once now state).steps = first.steps ++ further ∧
      ∀ step ∈ further, first.ended ≤ step.1 := by
  intro first
  have concluded (ending : Ending) (records : List Log.Record) :
      ∀ step ∈ records.map fun record => (first.ended, Step.note (.log record)), first.ended ≤ step.1 := by
    intro step member
    obtain ⟨record, -, rfl⟩ := List.mem_map.mp member
    exact Nat.le_refl _
  cases finished : first.result with
  | none => exact ⟨_, congrArg Run.steps (run_interrupted finished), concluded .completed _⟩
  | some answer =>
    cases single : reconciler.isSingle once with
    | true => exact ⟨_, congrArg Run.steps (run_single finished single), concluded (.ofResult answer.1) _⟩
    | false =>
      cases started : Ticker.start first.ended reconciler.interval with
      | error fault => exact ⟨_, congrArg Run.steps (run_crashed finished single started), concluded (.crashed fault) _⟩
      | ok ticker =>
        refine ⟨_, (congrArg Run.steps (run_looping finished single started)).trans (List.append_assoc ..), ?_⟩
        have unfolds := reconciler.opening_unfolds world state begun
        have reached := reaches_some.mp (unfolds.inTime (reaches_some.mpr begun))
        intro step member
        obtain member | member := List.mem_append.mp member
        · exact concluded .endless _ step member
        · have waited : first.ended ≤ ticker.nextTick first.ended := Nat.le_max_right ..
          exact Nat.le_trans (Nat.le_min.mpr ⟨reached, waited⟩) (syncLoop_begins _ _ _ _ _ _ step member)

end Reconciler

end AliasSync.Sync

namespace AliasSync.Rehearsal

namespace Scene

private theorem plant_upcoming (scene : Scene) (script : List (Nat × Change)) (seed : Seed) :
    { scene with upcoming := script }.plant seed = { scene.plant seed with upcoming := script } := by
  unfold plant
  split <;> rfl

private theorem change_upcoming (scene : Scene) (script : List (Nat × Change)) (change : Change) :
    { scene with upcoming := script }.change change = { scene.change change with upcoming := script } := by
  cases change with
  | seed seeds =>
    simp only [Scene.change]
    induction seeds generalizing scene with
    | nil => rfl
    | cons seed rest ih => rw [List.foldl_cons, List.foldl_cons, plant_upcoming, ih]
  | routers | clear | failKeys | overrideFqdn | generator | faults => rfl

def happen (scene : Scene) (events : List (Nat × Change)) : Scene :=
  events.foldl (fun scene event => scene.change event.2) scene

/-- What happens does not depend on what is still to come. -/
theorem happen_upcoming (events : List (Nat × Change)) (scene : Scene) (script : List (Nat × Change)) :
    { scene with upcoming := script }.happen events = { scene.happen events with upcoming := script } := by
  induction events generalizing scene with
  | nil => rfl
  | cons event rest ih =>
    simp only [happen, List.foldl_cons] at ih ⊢
    rw [change_upcoming, ih]

private theorem elapse_eq (scene : Scene) (now : Nat) :
    scene.elapse now = { scene.happen (scene.upcoming.takeWhile (·.1 ≤ now)) with
      upcoming := scene.upcoming.dropWhile (·.1 ≤ now) } := by
  have parts : scene.upcoming.takeWhile (·.1 ≤ now) ++ scene.upcoming.dropWhile (·.1 ≤ now) = scene.upcoming :=
    List.takeWhile_append_dropWhile
  have rest := (congrArg (List.drop (scene.upcoming.takeWhile (·.1 ≤ now)).length) parts).symm.trans List.drop_left
  rw [← rest, ← happen_upcoming]
  rfl

private theorem elapse_elapse (scene : Scene) {middle last : Nat} (later : middle ≤ last) :
    (scene.elapse middle).elapse last = scene.elapse last := by
  have early : ∀ event ∈ scene.upcoming.takeWhile (·.1 ≤ middle), decide (event.1 ≤ last) = true := by
    intro event member
    have before := List.all_eq_true.mp List.all_takeWhile event member
    exact decide_eq_true (Nat.le_trans (of_decide_eq_true before) later)
  have parts : scene.upcoming.takeWhile (·.1 ≤ middle) ++ scene.upcoming.dropWhile (·.1 ≤ middle) = scene.upcoming :=
    List.takeWhile_append_dropWhile
  have due : scene.upcoming.takeWhile (·.1 ≤ last) = scene.upcoming.takeWhile (·.1 ≤ middle) ++
      (scene.upcoming.dropWhile (·.1 ≤ middle)).takeWhile (·.1 ≤ last) :=
    (congrArg (List.takeWhile _) parts).symm.trans (List.takeWhile_append_of_pos early)
  have rest : scene.upcoming.dropWhile (·.1 ≤ last) =
      (scene.upcoming.dropWhile (·.1 ≤ middle)).dropWhile (·.1 ≤ last) :=
    (congrArg (List.dropWhile _) parts).symm.trans (List.dropWhile_append_of_pos early)
  rw [elapse_eq, elapse_eq scene middle, elapse_eq scene last, happen_upcoming, due, rest]
  simp only [happen, List.foldl_append]

end Scene

theorem world_flows : world.Flows := by
  intro first middle last scene _ later
  exact scene.elapse_elapse later

end AliasSync.Rehearsal
