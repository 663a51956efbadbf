import AliasSync.Proofs.PlannedTurn
import AliasSync.Proofs.RunEffects
import AliasSync.Shutdown

/-! A shutdown only truncates a run. Up to an earlier shutdown, a run does what it does when it is stopped later, and
then it ends: what it was waiting for never happens, and of a plan it has carried out the first operations. -/

namespace AliasSync

namespace Shutdown

def heardAt (triggers : List Nat) (moment : Nat) : Signal := (hear (triggers.countP (· ≤ moment)) 0).1

private theorem heardAt_ne_empty {triggers : List Nat} {moment : Nat} :
    heardAt triggers moment ≠ .empty ↔ ∃ trigger ∈ triggers, trigger ≤ moment := by
  have counted : 0 < triggers.countP (· ≤ moment) ↔ ∃ trigger ∈ triggers, trigger ≤ moment := by
    simp only [List.countP_pos_iff, decide_eq_true_eq]
  rw [← counted, heardAt, hear]
  split
  case isTrue none => simp only [ne_eq, not_true_eq_false, false_iff]; omega
  case isFalse some =>
    refine iff_of_true ?_ (by omega)
    split <;> exact nofun

/-- The moment from which on a trigger is heard, and not before. -/
structure FirstHeard (triggers : List Nat) (moment : Nat) : Prop where
  heard : heardAt triggers moment ≠ .empty
  silent : ∀ before < moment, heardAt triggers before = .empty

private theorem firstHeard_iff {triggers : List Nat} {moment : Nat} :
    FirstHeard triggers moment ↔ triggers.min? = some moment := by
  rw [List.min?_eq_some_iff]
  constructor
  · intro first
    obtain ⟨trigger, member, early⟩ := heardAt_ne_empty.mp first.heard
    have least : ∀ other ∈ triggers, moment ≤ other := by
      intro other present
      apply Nat.le_of_not_lt
      intro before
      exact heardAt_ne_empty.mpr ⟨other, present, Nat.le_refl _⟩ (first.silent other before)
    obtain rfl : trigger = moment := Nat.le_antisymm early (least trigger member)
    exact ⟨member, least⟩
  · intro ⟨member, least⟩
    refine ⟨heardAt_ne_empty.mpr ⟨moment, member, Nat.le_refl _⟩, ?_⟩
    intro before early
    apply Classical.byContradiction
    intro heard
    obtain ⟨trigger, present, reached⟩ := heardAt_ne_empty.mp heard
    exact Nat.lt_irrefl _ (Nat.lt_of_lt_of_le early (Nat.le_trans (least trigger present) reached))

end Shutdown

namespace Sync

variable {σ : Type} {world : World σ} {stop : Nat} {bound : Option Nat}

/-- The longer run is over by the earlier shutdown, or the shorter one is as much of it as there was until then. -/
inductive Run.Truncates (stop : Nat) (long short : Run σ α) : Prop where
  | whole (inTime : long.ended ≤ stop) (finished : long.result ≠ none) (same : short = long)
  | cut (rest : List (Nat × Step)) (late : stop < long.ended) (stopped : short.result = none)
      (ended : short.ended = stop) (parts : long.steps = short.steps ++ rest)
      (past : ∀ step ∈ short.steps, step.1 ≤ stop) (future : ∀ step ∈ rest, stop < step.1)

private theorem Run.Truncates.after {long short : Run σ α} {moment : Nat} {step : Step} (early : moment ≤ stop)
    (truncates : Truncates stop long short) : Truncates stop (long.after moment step) (short.after moment step) := by
  cases truncates with
  | whole inTime finished same => exact .whole inTime finished (congrArg (Run.after moment step) same)
  | cut rest late stopped ended parts past future =>
    refine .cut rest late stopped ended (congrArg (List.cons _) parts) ?_ future
    intro other member
    obtain rfl | member := List.mem_cons.mp member
    · exact early
    · exact past other member

namespace World

private theorem call_of_reaches {due : Nat} (reached : Reaches bound due) (request : Request) (now : Nat) (state : σ)
    (next : request.Reply → Nat → σ → Run σ α) : ∃ reply middle, world.Answers state now due request reply middle ∧
      world.call bound request due now state next = (next reply due middle).after due (.call request reply) := by
  refine ⟨_, _, rfl, ?_⟩
  cases bound with
  | none => rfl
  | some shutdown =>
    have inTime : ¬ shutdown < due := Nat.not_lt.mpr (reached shutdown rfl)
    simp only [call, Option.filter_some, decide_eq_true_eq, inTime, ↓reduceIte]

private theorem call_of_lt {request : Request} {due now : Nat} {state : σ} {next : request.Reply → Nat → σ → Run σ α}
    (early : stop < due) : world.call (some stop) request due now state next = world.cutOff stop now state := by
  simp only [call, Option.filter_some, decide_eq_true_eq, early, ↓reduceIte]

private theorem Reaches.of_le {moment : Nat} (beyond : Reaches bound (stop + 1)) (early : moment ≤ stop) :
    Reaches bound moment := by
  intro shutdown same
  have after := beyond shutdown same
  omega

end World

open World (Reaches reaches_some)

namespace Run.Truncates

variable {request : Request} {due now : Nat} {state : σ}

private theorem of_call {long short : request.Reply → Nat → σ → Run σ α} (beyond : Reaches bound (stop + 1))
    (unfolds : ∀ reply middle, Reaches bound due → world.Unfolds bound due middle (long reply due middle))
    (each : ∀ reply middle, due ≤ stop → Truncates stop (long reply due middle) (short reply due middle)) :
    Truncates stop (world.call bound request due now state long)
      (world.call (some stop) request due now state short) := by
  by_cases early : due ≤ stop
  · obtain ⟨reply, middle, answered, called⟩ :=
      world.call_of_reaches (beyond.of_le early) request now state long
    obtain ⟨again, same, repeated, recalled⟩ :=
      world.call_of_reaches (reaches_some.mpr early) request now state short
    cases answered.symm.trans repeated
    rw [called, recalled]
    exact (each reply middle early).after early
  · -- the shorter run is cut off while it waits; whether the longer one is, too, depends on its bound
    have late := Nat.lt_of_not_le early
    rw [World.call_of_lt late]
    obtain ⟨shutdown, stops, cut⟩ | ⟨inTime, reply, middle, answered, called⟩ :=
      world.call_cases bound request due now state long
    · rw [cut]
      exact .cut [] (beyond shutdown stops) rfl rfl rfl (List.forall_mem_nil _) (List.forall_mem_nil _)
    · rw [called]
      have rest := unfolds reply middle inTime
      refine .cut _ (Nat.lt_of_lt_of_le late rest.later) rfl rfl rfl (List.forall_mem_nil _) ?_
      intro step member
      obtain rfl | member := List.mem_cons.mp member
      · exact late
      · exact Nat.lt_of_lt_of_le late (rest.between step member).1

private theorem of_snapshots {parent : String} {long short : Except CycleError Snapshots → Nat → σ → Run σ α}
    (beyond : Reaches bound (stop + 1))
    (unfolds : ∀ reply moment middle, Reaches bound moment →
      world.Unfolds bound moment middle (long reply moment middle))
    (each : ∀ reply moment middle, moment ≤ stop →
      Truncates stop (long reply moment middle) (short reply moment middle)) :
    Truncates stop (world.callSnapshots bound parent now state long)
      (world.callSnapshots (some stop) parent now state short) := by
  by_cases order : now + world.wait state (.aliases parent) ≤ now + world.wait state .routers
  · simp only [World.callSnapshots, order, ↓reduceIte]
    apply of_call beyond
    · intro reply middle reached
      cases reply with
      | error cause => exact unfolds _ _ _ reached
      | ok listed =>
        apply World.Unfolds.of_call reached order
        intro reply last arrived
        cases reply <;> exact unfolds _ _ _ arrived
    · intro reply middle early
      cases reply with
      | error cause => exact each _ _ _ early
      | ok listed =>
        apply of_call beyond
        · intro reply last arrived
          cases reply <;> exact unfolds _ _ _ arrived
        · intro reply last inTime
          cases reply <;> exact each _ _ _ inTime
  · simp only [World.callSnapshots, order, ↓reduceIte]
    apply of_call beyond
    · intro reply middle reached
      cases reply with
      | error cause => exact unfolds _ _ _ reached
      | ok served =>
        apply World.Unfolds.of_call reached (Nat.le_of_not_le order)
        intro reply last arrived
        cases reply <;> exact unfolds _ _ _ arrived
    · intro reply middle early
      cases reply with
      | error cause => exact each _ _ _ early
      | ok served =>
        apply of_call beyond
        · intro reply last arrived
          cases reply <;> exact unfolds _ _ _ arrived
        · intro reply last inTime
          cases reply <;> exact each _ _ _ inTime

end Run.Truncates

theorem World.run_truncates (world : World σ) (beyond : Reaches bound (stop + 1)) (program : Program α) (now : Nat)
    (state : σ) (begun : now ≤ stop) :
    Run.Truncates stop (world.run bound program now state) (world.run (some stop) program now state) := by
  induction program generalizing now state with
  | done value => exact .whole begun (Option.some_ne_none value) rfl
  | note note rest ih => exact (ih now state begun).after begun
  | ask request next ih =>
    apply Run.Truncates.of_call beyond
    · exact fun reply middle => world.run_unfolds bound (next reply) _ middle
    · exact fun reply middle => ih reply _ middle
  | snapshots parent next ih =>
    apply Run.Truncates.of_snapshots beyond
    · exact fun reply => world.run_unfolds bound (next reply)
    · exact ih

/-- The longer run goes on where the shorter one only notes the shutdown. -/
def Breaks (stop : Nat) (long short : List (Nat × Step)) : Prop :=
  ∃ shared rest record, long = shared ++ rest ∧ short = shared ++ [(stop, .note (.log record))] ∧
    (∀ step ∈ shared, step.1 ≤ stop) ∧ ∀ step ∈ rest, stop < step.1

private theorem Run.conclude_steps {run : Run σ α} (ended : run.ended = stop) (ending : Ending) (record : Log.Record) :
    (run.conclude ending [record]).steps = run.steps ++ [(stop, .note (.log record))] := by
  rw [← ended]
  rfl

private theorem Breaks.append {long short first : List (Nat × Step)} (breaks : Breaks stop long short)
    (past : ∀ step ∈ first, step.1 ≤ stop) : Breaks stop (first ++ long) (first ++ short) := by
  obtain ⟨shared, rest, record, rfl, rfl, also, future⟩ := breaks
  refine ⟨first ++ shared, rest, record, (List.append_assoc ..).symm, (List.append_assoc ..).symm, ?_, future⟩
  intro step member
  obtain member | member := List.mem_append.mp member
  · exact past step member
  · exact also step member

/-- Where the shorter run is cut off, what follows the longer one is beyond the shutdown, too. -/
theorem Run.Truncates.breaks {long short : Run σ α} {further : List (Nat × Step)}
    (truncates : Truncates stop long short) (cut : short.result = none)
    (after : ∀ step ∈ further, long.ended ≤ step.1) (ending : Ending) (record : Log.Record) :
    Breaks stop (long.steps ++ further) (short.conclude ending [record]).steps := by
  cases truncates with
  | whole _ finished same => exact absurd (same ▸ cut) finished
  | cut rest late _ ended parts past future =>
    refine ⟨short.steps, rest ++ further, _, ?_, Run.conclude_steps ended .., past, ?_⟩
    · rw [parts, List.append_assoc]
    · intro step member
      obtain member | member := List.mem_append.mp member
      · exact future step member
      · exact Nat.lt_of_lt_of_le late (after step member)

private theorem Run.Truncates.eq_of_finished {long short : Run σ α} (truncates : Truncates stop long short)
    (finished : short.result ≠ none) : short = long ∧ long.ended ≤ stop := by
  cases truncates with
  | whole inTime _ same => exact ⟨same, inTime⟩
  | cut _ _ stopped => exact absurd stopped finished

private theorem syncLoop_breaks {last : Nat} {ticker : Ticker} {syncer : Syncer} {now : Nat} {state : σ}
    (earlier : stop < last) :
    Breaks stop (syncLoop world last ticker syncer now state).steps
      (syncLoop world stop ticker syncer now state).steps := by
  -- a cycle of the loop, when it is cut off at the earlier shutdown and when it is cut off at the later one
  have truncates (syncer : Syncer) {tick : Nat} (state : σ) (inTime : ¬ stop < tick) : Run.Truncates stop
      (world.run (some last) (reportedCycle syncer) tick state)
      (world.run (some stop) (reportedCycle syncer) tick state) :=
    world.run_truncates (reaches_some.mpr earlier) (reportedCycle syncer) tick state (Nat.le_of_not_lt inTime)
  fun_induction syncLoop world stop ticker syncer now state with
  | case1 ticker syncer now state tick tooLate =>
    refine ⟨[], _, _, rfl, rfl, List.forall_mem_nil _, ?_⟩
    intro step member
    exact Nat.lt_of_lt_of_le (Nat.lt_min.mpr ⟨earlier, tooLate⟩) (syncLoop_begins _ _ _ _ _ _ step member)
  | case2 ticker syncer now state tick inTime run cut =>
    have onTime : ¬ last < tick := by omega
    obtain ⟨further, whole, after⟩ := syncLoop_steps onTime rfl
    rw [whole]
    exact (truncates syncer _ inTime).breaks cut after ..
  | case3 ticker syncer now state tick inTime run reply later finished ih =>
    have onTime : ¬ last < tick := by omega
    obtain ⟨same, early⟩ := (truncates syncer _ inTime).eq_of_finished (finished ▸ Option.some_ne_none _)
    rw [syncLoop_continued onTime same.symm finished]
    refine ih.append ?_
    have unfolds := tick_unfolds world syncer (world.elapse now tick state) inTime
    intro step member
    exact Nat.le_trans (unfolds.between step member).2 (same ▸ early)

namespace Reconciler

variable {reconciler : Reconciler} {once : Bool} {now : Nat} {state : σ}

/-- The shutdown is what the run ends by: it comes in the first cycle or in the loop. -/
inductive Endures (reconciler : Reconciler) (world : World σ) (stop : Nat) (once : Bool) (now : Nat) (state : σ) :
    Prop where
  | opening (cut : (reconciler.opening world (some stop) now state).result = none)
  | loop {reply : Except CycleError Summary} {later : Syncer} {ticker : Ticker}
      (finished : (reconciler.opening world (some stop) now state).result = some (reply, later))
      (looping : reconciler.isSingle once = false)
      (started : Ticker.start (reconciler.opening world (some stop) now state).ended reconciler.interval = .ok ticker)

private theorem Endures.ends (endures : reconciler.Endures world stop once now state) (begun : now ≤ stop) :
    (reconciler.run world (some stop) once now state).result = some .completed ∧
      (reconciler.run world (some stop) once now state).ended = stop := by
  cases endures with
  | opening cut =>
    have stopped := (reconciler.opening_unfolds world state begun).stopped cut
    rw [run_interrupted cut]
    exact ⟨rfl, (Option.some.inj stopped).symm⟩
  | loop finished looping started =>
    rw [run_looping finished looping started]
    exact syncLoop_ends ..

private theorem Endures.effect (endures : reconciler.Endures world stop once now state) (flows : world.Flows)
    (begun : now ≤ stop) :
    world.Effect now state (reconciler.run world (some stop) once now state).timedCalls stop
      (reconciler.run world (some stop) once now state).state := by
  have unfolds := reconciler.opening_unfolds world state begun
  cases endures with
  | opening cut =>
    have effect := unfolds.effect cut
    rw [← Option.some.inj (unfolds.stopped cut)] at effect
    rw [run_interrupted cut, Run.timedCalls_conclude]
    exact effect
  | loop finished looping started =>
    have reached := reaches_some.mp (unfolds.inTime (reaches_some.mpr begun))
    rw [run_looping finished looping started, Run.timedCalls_continuing]
    rw [show List.filter _ _ = _ from Run.timedCalls_conclude ..]
    exact unfolds.effect_append (finished ▸ Option.some_ne_none _) (syncLoop_effect flows reached)

/-- A run that goes on beyond an earlier shutdown would have been ended by it, and up to it both are the same. -/
theorem run_breaks {last : Nat} (begun : now ≤ stop) (earlier : stop < last)
    (going : stop < (reconciler.run world (some last) once now state).ended) :
    reconciler.Endures world stop once now state ∧
      Breaks stop (reconciler.run world (some last) once now state).steps
        (reconciler.run world (some stop) once now state).steps := by
  have truncates : Run.Truncates stop (reconciler.opening world (some last) now state)
      (reconciler.opening world (some stop) now state) :=
    world.run_truncates (reaches_some.mpr earlier) _ now state begun
  have inLonger : now ≤ last := Nat.le_of_lt (Nat.lt_of_le_of_lt begun earlier)
  cases again : (reconciler.opening world (some stop) now state).result with
  | none =>
    obtain ⟨further, whole, after⟩ := reconciler.run_steps world once state inLonger
    rw [run_interrupted again, whole]
    exact ⟨.opening again, truncates.breaks again after ..⟩
  | some answer =>
    obtain ⟨repeats, inTime⟩ := truncates.eq_of_finished (again ▸ Option.some_ne_none _)
    have overdue := Nat.not_lt.mpr inTime
    have answered := again
    rw [repeats] at answered
    -- the first cycle is over by the earlier shutdown, so only a loop is still going
    cases single : reconciler.isSingle once with
    | true =>
      rw [run_single answered single] at going
      exact absurd going overdue
    | false =>
      cases started : Ticker.start (reconciler.opening world (some last) now state).ended reconciler.interval with
      | error fault =>
        rw [run_crashed answered single started] at going
        exact absurd going overdue
      | ok ticker =>
        have restarted := started
        rw [← repeats] at restarted
        refine ⟨.loop again single restarted, ?_⟩
        rw [run_looping answered single started, run_looping again single restarted, repeats]
        refine (syncLoop_breaks earlier).append ?_
        have unfolds := reconciler.opening_unfolds world state inLonger
        intro step member
        obtain member | member := List.mem_append.mp member
        · exact Nat.le_trans (unfolds.between step member).2 inTime
        · obtain ⟨record, -, rfl⟩ := List.mem_map.mp member
          exact inTime

end Reconciler

private theorem Breaks.timedCalls {long short : Run σ α} (breaks : Breaks stop long.steps short.steps)
    (apart : ∀ call ∈ long.timedCalls, call.1 ≠ stop) :
    short.timedCalls = long.timedCalls.filter (·.1 < stop) := by
  obtain ⟨shared, rest, record, whole, first, past, future⟩ := breaks
  simp only [Run.timedCalls, whole, first, List.filter_append] at apart ⊢
  have kept : (shared.filter (·.2.isCall)).filter (·.1 < stop) = shared.filter (·.2.isCall) := by
    apply List.filter_eq_self.mpr
    intro call member
    have early := past call (List.mem_filter.mp member).1
    have off := apart call (List.mem_append_left _ member)
    exact decide_eq_true (Nat.lt_of_le_of_ne early off)
  have dropped : (rest.filter (·.2.isCall)).filter (·.1 < stop) = [] := by
    apply List.filter_eq_nil_iff.mpr
    intro call member early
    have late := future call (List.mem_filter.mp member).1
    exact Nat.lt_asymm late (of_decide_eq_true early)
  rw [kept, dropped]
  rfl

/-- A run of a single cycle comes to what the cycle comes to, unless the shutdown comes first. -/
def Turn.Decides (world : World σ) (turn : Turn σ) (stop : Nat) (run : Run σ Ending) : Prop :=
  match (turn.run world).result with
  | none => run.result = some .completed ∧ run.ended = stop
  | some (reply, _) => run.result = some (.ofResult reply) ∧ run.ended = (turn.run world).ended

/-- Whatever the cycles come to, the loop goes on until the shutdown, if its clock can be started. -/
def Turn.OpensLoop (world : World σ) (turn : Turn σ) (interval stop : Nat) (run : Run σ Ending) : Prop :=
  match (turn.run world).result, Ticker.start (turn.run world).ended interval with
  | some _, .error fault => run.result = some (.crashed fault)
  | _, _ => run.result = some .completed ∧ run.ended = stop

namespace Reconciler

variable {reconciler : Reconciler} {once : Bool} {now : Nat} {state : σ}

private theorem opening_turn (reconciler : Reconciler) (world : World σ) (bound : Option Nat) (now : Nat) (state : σ) :
    let first : Turn σ := ⟨reconciler.syncer, bound, now, state⟩
    (reconciler.opening world bound now state).result = (first.run world).result ∧
      (reconciler.opening world bound now state).ended = (first.run world).ended := by
  obtain ⟨result, ended, -⟩ := run_reportedCycle world bound reconciler.syncer now state
  exact ⟨result, ended⟩

private theorem run_decides (single : reconciler.isSingle once = true) (begun : now ≤ stop) :
    let first : Turn σ := ⟨reconciler.syncer, some stop, now, state⟩
    reconciler.turns world (some stop) once now state = [first] ∧
      first.Decides world stop (reconciler.run world (some stop) once now state) := by
  intro first
  obtain ⟨result, ended⟩ := reconciler.opening_turn world (some stop) now state
  constructor
  · simp only [turns, single, ↓reduceIte]
    split <;> rfl
  · unfold Turn.Decides
    split
    case h_1 cut => exact Endures.ends (.opening (result.trans cut)) begun
    case h_2 reply later finished =>
      rw [run_single (result.trans finished) single]
      exact ⟨rfl, ended⟩

private theorem run_opensLoop (looping : reconciler.isSingle once = false) (begun : now ≤ stop) :
    let first : Turn σ := ⟨reconciler.syncer, some stop, now, state⟩
    first.OpensLoop world reconciler.interval stop (reconciler.run world (some stop) once now state) := by
  intro first
  obtain ⟨result, ended⟩ := reconciler.opening_turn world (some stop) now state
  unfold Turn.OpensLoop
  cases finished : (first.run world).result with
  | none => exact Endures.ends (.opening (result.trans finished)) begun
  | some answer =>
    rw [← ended]
    cases started : Ticker.start (reconciler.opening world (some stop) now state).ended reconciler.interval with
    | error fault =>
      dsimp only
      rw [run_crashed (result.trans finished) looping started]
      rfl
    | ok ticker => exact Endures.ends (.loop (result.trans finished) looping started) begun

end Reconciler

/-- A run that is still going at the first of some triggers is ended by it. It has made the calls that the run with
later triggers makes before, at the same moments, and the world is as these have left it. Every cycle has attempted the
first operations of its plan. Errors of cycles do not end the loop, and a single cycle is what its run comes to. -/
theorem shutdown_only_truncates (world : World σ) (flows : world.Flows) (reconciler : Reconciler) (once : Bool)
    (now : Nat) (state : σ) {triggers laterTriggers : List Nat} {stop last : Nat}
    (first : Shutdown.FirstHeard triggers stop) (second : Shutdown.FirstHeard laterTriggers last) (begun : now ≤ stop)
    (earlier : stop < last) :
    let long := reconciler.run world laterTriggers.min? once now state
    let short := reconciler.run world triggers.min? once now state
    let turns := reconciler.turns world triggers.min? once now state
    let opening : Turn σ := ⟨reconciler.syncer, triggers.min?, now, state⟩
    (stop < long.ended → (∀ call ∈ long.timedCalls, call.1 ≠ stop) →
      short.result = some .completed ∧ short.ended = stop ∧
        short.timedCalls = long.timedCalls.filter (·.1 < stop) ∧
        world.Effect now state short.timedCalls stop short.state) ∧
      short.calls = turns.flatMap (Turn.calls world) ∧
      (∀ turn ∈ turns, (turn.calls world).filterMap Step.attempted <+: turn.planned world) ∧
      (reconciler.isSingle once = false → opening.OpensLoop world reconciler.interval stop short) ∧
      (reconciler.isSingle once = true → turns = [opening] ∧ opening.Decides world stop short) := by
  rw [Shutdown.firstHeard_iff.mp first, Shutdown.firstHeard_iff.mp second]
  intro long short turns opening
  refine ⟨?_, reconciler.run_calls world (some stop) once now state, fun turn _ => turn.attempted_planned world, ?_, ?_⟩
  · intro going apart
    obtain ⟨endures, breaks⟩ := Reconciler.run_breaks begun earlier going
    obtain ⟨completed, ended⟩ := endures.ends begun
    exact ⟨completed, ended, breaks.timedCalls apart, endures.effect flows begun⟩
  · intro looping
    exact Reconciler.run_opensLoop looping begun
  · intro single
    exact Reconciler.run_decides single begun

/-- The first of two triggers comes while the creation of a plan waits, after the deletion and a change by others. -/
theorem shutdown_only_truncates_rehearsed :
    let routers : List Router := [⟨"plain", "file", [], "Host(`a.b`) || Host(`c.d`)"⟩]
    let stored : List HostAlias := [⟨some "1", "old", "b", "managed"⟩, ⟨some "2", "a", "b", "managed"⟩]
    let scene : Rehearsal.Scene := { Rehearsal.Scene.calm "dns.lan" routers stored [] with
      waits := ⟨0, 0, 0, 100, 100⟩
      failKeys := ["c.d"]
      upcoming := [(120, .seed [⟨⟨some "3", "own", "b", "other"⟩, false⟩]), (1500, .failKeys [])] }
    let reconciler : Reconciler := ⟨⟨⟨⟨[], [], [], []⟩, "managed", 10, .empty⟩, "dns.lan", false⟩, 1000⟩
    let long := reconciler.run Rehearsal.world [5000, 3350].min? false 0 scene
    let short := reconciler.run Rehearsal.world [900, 150].min? false 0 scene
    short.result = some .completed ∧ short.ended = 150 ∧ short.timedCalls = long.timedCalls.filter (·.1 < 150) ∧
      Rehearsal.world.Effect 0 scene short.timedCalls 150 short.state ∧
      short.calls.filterMap Step.attempted = [.delete ⟨some "1", "old", "b", "managed"⟩] ∧
      short.state.aliases = [⟨some "2", "a", "b", "managed"⟩, ⟨some "3", "own", "b", "other"⟩] := by
  intro routers stored scene reconciler long short
  obtain ⟨truncated, -⟩ := shutdown_only_truncates Rehearsal.world Rehearsal.world_flows reconciler false 0 scene
    (Shutdown.firstHeard_iff.mpr (by decide : [900, 150].min? = some 150))
    (Shutdown.firstHeard_iff.mpr (by decide : [5000, 3350].min? = some 3350)) (by decide) (by decide)
  obtain ⟨completed, ended, calls, effect⟩ := truncated (by decide +kernel) (by decide +kernel)
  exact ⟨completed, ended, calls, effect, by decide +kernel, by decide +kernel⟩

end Sync

end AliasSync
