import AliasSync.Proofs.Truncation
import Mathlib.Data.List.Chain

/-! The cadence of the loop. A cycle begins when its tick fires: a period after the tick before it or, if it was missed
by then, as soon as the cycle before it is over. So cycles never overlap, and the calls of each form a block. -/

namespace AliasSync.Sync

variable {σ : Type} {world : World σ} {drifts : σ → σ → Prop} {before after : σ} {steps : List Step}
  {parent : String} {plan : Plan} {planner : Planner} {operations : List Operation}

def Step.request : Step → Option Request
  | .call request _ => some request
  | .note _ => none

/-- The calls of a cycle with these operations in its plan: the lookup, both snapshots, what the generator is asked,
the operations in the order of the plan, and one order to apply them if any succeeded. They end early with the lookup or
a snapshot that fails. -/
inductive Block (world : World σ) (syncer : Syncer) (planned : List Operation) :
    List Step → Except CycleError Summary → Prop where
  | unfound {answer cause} (failed : cause.isTransport = true) (missing : ∀ parent, answer ≠ .ok (some parent)) :
      Block world syncer planned [.call (.lookup syncer.hostOverride) answer] (.error cause)
  | unread {parent first fetching cause last} (failed : cause.isTransport = true)
      (fetch : world.Fetch (fun _ _ => True) parent first fetching (some (.error cause)) last) :
      Block world syncer planned (.call (.lookup syncer.hostOverride) (.ok (some parent)) :: fetching) (.error cause)
  | whole {parent first fetching snapshots last generating orders reply} {applied : Option Request.apply.Reply}
      (fetch : world.Fetch (fun _ _ => True) parent first fetching (some (.ok snapshots)) last)
      (generated : ∀ step ∈ generating, step.generates = true)
      (ordered : orders.map Step.request = planned.map fun operation => some (operation.request parent))
      (due : applied.isSome = true ↔ ∃ step ∈ orders, step.accomplished.isSome = true)
      (finished : ∀ cause, reply = .error cause → cause.isTransport = false) :
      Block world syncer planned (.call (.lookup syncer.hostOverride) (.ok (some parent)) ::
        (fetching ++ generating ++ orders ++ applied.toList.map (Step.call .apply))) reply

private theorem Planner.plan_generates {routers : List Router} {aliases : List HostAlias}
    {planned : Option (Plan × Planner)}
    (course : world.Course drifts (planner.plan routers aliases) before steps planned after) :
    ∀ step ∈ steps.filter Step.isCall, step.generates = true := by
  intro step member
  obtain ⟨seen, called⟩ := List.mem_filter.mp member
  cases step with
  | note note => cases called
  | call request reply =>
    obtain ⟨pattern, rfl⟩ := course.call_allowed (planner.plan_uses routers aliases) seen
    rfl

private theorem Performs.requests {calls : List Step} {outcomes : List OperationOutcome}
    (performs : Performs world drifts parent operations before calls outcomes after) :
    calls.map Step.request = operations.map fun operation => some (operation.request parent) := by
  induction performs with
  | nil => rfl
  | cons reacts later ih => exact congrArg (List.cons _) ih

private theorem Performs.accomplishes {calls : List Step} {outcomes : List OperationOutcome}
    (performs : Performs world drifts parent operations before calls outcomes after) :
    (∃ outcome ∈ outcomes, outcome.succeeded = true) ↔ ∃ step ∈ calls, step.accomplished.isSome = true := by
  induction performs with
  | nil => simp
  | @cons operation _ _ reply _ _ _ _ reacts later ih =>
    have same : OperationOutcome.succeeded ⟨operation, operation.verdict parent reply⟩ =
        (Step.call (operation.request parent) reply).accomplished.isSome := by
      cases operation <;> cases reply <;> rfl
    simp only [List.exists_mem_cons_iff, ih, same]

/-- To act on a plan orders its operations, and to apply them if any succeeded. -/
theorem act_orders {reply : Except CycleError Summary}
    (course : world.Course drifts (act parent false plan) before steps (some reply) after) :
    ∃ (orders : List Step) (applied : Option Request.apply.Reply),
      steps.filter Step.isCall = orders ++ applied.toList.map (Step.call .apply) ∧
      orders.map Step.request = plan.operations.map (fun operation => some (operation.request parent)) ∧
      (applied.isSome = true ↔ ∃ step ∈ orders, step.accomplished.isSome = true) := by
  by_cases idle : plan.operations = []
  · obtain ⟨-, silent, -⟩ := act_idle_course (.inl idle) course
    exact ⟨[], none, silent, by rw [idle]; rfl, by simp⟩
  · rw [act_of_due idle] at course
    obtain ⟨execution, first, _, _, rfl, executing, rfl, -⟩ := World.course_bind_some.mp course
    obtain ⟨calls, middle, performs, ending⟩ := execute_result executing
    rw [List.append_nil]
    obtain ⟨failed, -, called, -⟩ | ⟨succeeded, applied, -, -, called⟩ := ending
    · refine ⟨calls, none, called.trans (List.append_nil _).symm, performs.requests, ?_⟩
      rw [← performs.accomplishes]
      simpa using failed
    · refine ⟨calls, some applied, called, performs.requests, ?_⟩
      rw [← performs.accomplishes]
      exact iff_of_true rfl succeeded

namespace Turn

/-- A turn that comes to its end has made the calls of a block. -/
theorem block {turn : Turn σ} {reply : Except CycleError Summary} {later : Syncer} (live : turn.syncer.dryRun = false)
    (finished : (turn.run world).result = some (reply, later)) :
    Block world turn.syncer (turn.planned world) (turn.calls world) reply := by
  have preparing := turn.preparation_course world
  cases turn.parts world with
  | interrupted cut whole =>
    rw [whole] at finished
    cases finished
  | aborted cause failed whole =>
    rw [whole] at finished
    cases finished
    rw [failed] at preparing
    have transport := Planner.prepare_error preparing
    have calls : turn.calls world = (turn.preparation world).trace.filter Step.isCall := by
      rw [Turn.calls, whole]
      rfl
    rw [calls]
    obtain ⟨answer, missing, called⟩ | ⟨parent, first, fetching, last, fetch, called⟩ :=
      Planner.prepare_aborted preparing
    · rw [called]
      exact .unfound transport missing
    · rw [called]
      exact .unread transport fetch
  | planned ready prepared whole =>
    have acting := turn.acting_course world ready
    rw [whole] at finished
    obtain ⟨_, acted, same⟩ := Option.map_eq_some_iff.mp finished
    cases same
    rw [prepared] at preparing
    rw [acted, live] at acting
    obtain ⟨first, fetching, listed, served, last, planning, fetch, computes, parts⟩ :=
      Planner.prepare_planned preparing
    obtain ⟨orders, applied, ordering, ordered, due⟩ := act_orders acting
    have called : (turn.preparation world).calls =
        .call (.lookup turn.syncer.hostOverride) (.ok (some ready.parent)) ::
          (fetching ++ planning.filter Step.isCall) := by
      rw [Run.calls, parts, List.filter_cons_of_pos rfl, List.filter_append, fetch.calls]
    rw [calls_of_prepared prepared, called, Run.calls, ordering, planned, prepared, List.cons_append,
      ← List.append_assoc]
    refine .whole fetch (Planner.plan_generates computes) ordered due ?_
    intro cause failed
    rw [failed] at acting
    exact (act_failed acting).1

def unstopped (turn : Turn σ) : Turn σ := { turn with stop := none }

end Turn

namespace Turn

/-- When the turn after this one is due, if this one is the turn with the given number. -/
def dueNext (world : World σ) (interval : Nat) : Nat → Turn σ → Nat
  | 0, turn => (turn.run world).ended + interval
  | _ + 1, turn => max (turn.began + interval) (turn.run world).ended

/-- A turn comes to its end, and when it is due the other one begins with what it leaves. -/
structure Precedes (world : World σ) (interval number : Nat) (turn following : Turn σ) : Prop where
  finished : (turn.run world).result ≠ none
  begins : following.began = turn.dueNext world interval number
  next : following = turn.next world (following.began - (turn.run world).ended)

private theorem next_of_finished {turn : Turn σ} {reply : Except CycleError Summary} {later : Syncer} {moment : Nat}
    (finished : (turn.run world).result = some (reply, later)) (inTime : (turn.run world).ended ≤ moment) :
    turn.next world (moment - (turn.run world).ended) =
      ⟨later, turn.stop, moment, world.elapse (turn.run world).ended moment (turn.run world).state⟩ := by
  have whole : (turn.run world).ended + (moment - (turn.run world).ended) = moment := Nat.add_sub_cancel' inTime
  simp only [next, whole, finished]
  rfl

/-- The turn was cut off, or the next one would come too late. -/
def EndsLoop (world : World σ) (interval stop number : Nat) (turn : Turn σ) : Prop :=
  (turn.run world).result = none ∧ (turn.run world).ended = stop ∨ stop < turn.dueNext world interval number

private theorem ended_of_cut {turn : Turn σ} {stop : Nat} (stops : turn.stop = some stop) (early : turn.began ≤ stop)
    (cut : (turn.run world).result = none) : (turn.run world).ended = stop := by
  have unfolds := world.run_unfolds turn.stop turn.syncer.cycle turn.began turn.state
    (stops ▸ World.reaches_some.mpr early)
  have stopped := stops.symm.trans (unfolds.stopped cut)
  exact (Option.some.inj stopped).symm

/-- A turn is over when the other one begins, and at least a period lies between the beginnings of both. -/
def Apart (world : World σ) (interval : Nat) (turn other : Turn σ) : Prop :=
  (turn.run world).ended ≤ other.began ∧ turn.began + interval ≤ other.began

private theorem Precedes.apart {interval number : Nat} {turn following : Turn σ}
    (precedes : turn.Precedes world interval number following) (begun : turn.began ≤ (turn.run world).ended) :
    turn.Apart world interval following := by
  rw [Apart, precedes.begins]
  cases number with
  | zero => exact ⟨Nat.le_add_right .., Nat.add_le_add_right begun interval⟩
  | succ number => exact ⟨Nat.le_max_right .., Nat.le_max_left ..⟩

instance (world : World σ) (interval : Nat) :
    Trans (Apart world interval) (Apart world interval) (Apart world interval) where
  trans := by
    intro first middle last ⟨before, early⟩ ⟨after, late⟩
    exact ⟨by omega, by omega⟩

end Turn

/-- Turns of the loop, the first of which has the given number. -/
structure Paced (world : World σ) (interval stop number : Nat) (turns : List (Turn σ)) : Prop where
  stops : ∀ turn ∈ turns, turn.stop = some stop ∧ turn.began ≤ stop
  chain : ∀ index (inside : index + 1 < turns.length),
    turns[index].Precedes world interval (number + index) turns[index + 1]
  last : ∀ turn ∈ turns.getLast?, turn.EndsLoop world interval stop (number + turns.length - 1)

namespace Paced

variable {interval stop number : Nat} {turn following : Turn σ} {rest : List (Turn σ)}

private theorem single (stops : turn.stop = some stop) (early : turn.began ≤ stop)
    (ends : turn.EndsLoop world interval stop number) : Paced world interval stop number [turn] where
  stops other member := by
    obtain rfl := List.mem_singleton.mp member
    exact ⟨stops, early⟩
  chain index inside := absurd (Nat.lt_of_succ_lt_succ inside) (Nat.not_lt_zero index)
  last other same := by
    cases same
    exact ends

private theorem cons (stops : turn.stop = some stop) (early : turn.began ≤ stop)
    (precedes : turn.Precedes world interval number following)
    (paced : Paced world interval stop (number + 1) (following :: rest)) :
    Paced world interval stop number (turn :: following :: rest) where
  stops other member := by
    obtain rfl | member := List.mem_cons.mp member
    · exact ⟨stops, early⟩
    · exact paced.stops other member
  chain index inside := by
    cases index with
    | zero => exact precedes
    | succ index =>
      have further := paced.chain index (Nat.lt_of_succ_lt_succ inside)
      rwa [Nat.add_right_comm] at further
  last other same := by
    rw [List.getLast?_cons_cons] at same
    have ends := paced.last other same
    rwa [Nat.add_right_comm] at ends

end Paced

section Loop

variable {stop : Nat} {ticker : Ticker} {syncer : Syncer} {now : Nat} {state : σ}

/-- There is a turn at the next tick unless the shutdown comes before. -/
theorem loopTurns_cases (world : World σ) (stop : Nat) (ticker : Ticker) (syncer : Syncer) (now : Nat) (state : σ) :
    stop < ticker.nextTick now ∧ loopTurns world stop ticker syncer now state = [] ∨
      ∃ rest, loopTurns world stop ticker syncer now state =
        ⟨syncer, some stop, ticker.nextTick now, world.elapse now (ticker.nextTick now) state⟩ :: rest := by
  unfold loopTurns
  by_cases tooLate : stop < ticker.nextTick now
  · exact .inl ⟨tooLate, dif_pos tooLate⟩
  · simp only [tooLate, ↓reduceDIte]
    split <;> exact .inr ⟨_, rfl⟩

private theorem loopTurns_paced (number : Nat) (going : loopTurns world stop ticker syncer now state ≠ []) :
    Paced world ticker.period stop (number + 1) (loopTurns world stop ticker syncer now state) := by
  fun_induction loopTurns world stop ticker syncer now state generalizing number with
  | case1 ticker syncer now state tick tooLate => exact absurd rfl going
  | case2 ticker syncer now state tick inTime turn run cut =>
    have early : turn.began ≤ stop := Nat.le_of_not_lt inTime
    exact .single rfl early (.inl ⟨cut, turn.ended_of_cut rfl early cut⟩)
  | case3 ticker syncer now state tick inTime turn run reply later finished ih =>
    have early : turn.began ≤ stop := Nat.le_of_not_lt inTime
    obtain ⟨tooLate, nothing⟩ | ⟨rest, same⟩ := loopTurns_cases world stop (ticker.fired tick) later run.ended run.state
    · rw [nothing]
      exact .single rfl early (.inr tooLate)
    · have paced := ih (number + 1) (same ▸ List.cons_ne_nil _ _)
      rw [same] at paced ⊢
      refine .cons rfl early ⟨finished ▸ Option.some_ne_none _, rfl, ?_⟩ paced
      exact (Turn.next_of_finished finished (Nat.le_max_right ..)).symm

end Loop

namespace Reconciler

variable {reconciler : Reconciler} {stop now : Nat} {state : σ}

/-- The turns keep the pace of the loop, unless the first tick cannot be represented. -/
theorem turns_paced (world : World σ) (live : reconciler.syncer.dryRun = false) (positive : 0 < reconciler.interval)
    (begun : now ≤ stop) (state : σ) :
    let first : Turn σ := ⟨reconciler.syncer, some stop, now, state⟩
    let turns := reconciler.turns world (some stop) false now state
    turns.head? = some first ∧ (Paced world reconciler.interval stop 0 turns ∨
      turns = [first] ∧ lastMoment < (first.run world).ended + reconciler.interval) := by
  intro first turns
  have looping : reconciler.isSingle false = false := live
  cases finished : (first.run world).result with
  | none =>
    have alone : turns = [first] := by simp only [turns, Reconciler.turns, first, finished]
    rw [alone]
    exact ⟨rfl, .inl (.single rfl begun (.inl ⟨finished, first.ended_of_cut rfl begun finished⟩))⟩
  | some answer =>
    -- the clock of the loop is started where the first cycle ends, and its first tick has to be a moment
    by_cases early : (first.run world).ended + reconciler.interval ≤ lastMoment
    · have started : Ticker.start (first.run world).ended reconciler.interval =
          .ok ⟨reconciler.interval, (first.run world).ended + reconciler.interval, positive⟩ := by
        simp only [Ticker.start, positive, early, ↓reduceDIte, ↓reduceIte]
      generalize ticks : Ticker.mk .. = ticker at started
      have parts : turns = first :: loopTurns world stop ticker answer.2 (first.run world).ended
          (first.run world).state := by
        simp only [turns, Reconciler.turns, first, finished, looping, started]
        rfl
      have period : ticker.period = reconciler.interval := ticks ▸ rfl
      have due : ticker.nextTick (first.run world).ended = (first.run world).ended + reconciler.interval := by
        rw [← ticks]
        exact Nat.max_eq_left (Nat.le_add_right ..)
      refine ⟨congrArg List.head? parts, .inl ?_⟩
      rw [parts]
      obtain ⟨tooLate, nothing⟩ | ⟨rest, same⟩ := loopTurns_cases world stop ticker answer.2 (first.run world).ended
          (first.run world).state
      · rw [nothing]
        rw [due] at tooLate
        exact .single rfl begun (.inr tooLate)
      · have paced : Paced world ticker.period stop 1 _ := loopTurns_paced 0 (same ▸ List.cons_ne_nil _ _)
        rw [same, period] at paced
        rw [same]
        refine .cons rfl begun ⟨finished ▸ Option.some_ne_none _, due, ?_⟩ paced
        exact (Turn.next_of_finished finished (Nat.le_max_right ..)).symm
    · have failed : Ticker.start (first.run world).ended reconciler.interval = .error .unrepresentableDeadline := by
        simp only [Ticker.start, positive, early, ↓reduceDIte, ↓reduceIte]
      have alone : turns = [first] := by
        simp only [turns, Reconciler.turns, first, finished, looping, failed]
        rfl
      exact ⟨congrArg List.head? alone, .inr ⟨alone, Nat.lt_of_not_le early⟩⟩

end Reconciler

private theorem Paced.apart {interval stop number : Nat} {turns : List (Turn σ)}
    (paced : Paced world interval stop number turns) : turns.Pairwise (Turn.Apart world interval) := by
  apply List.isChain_iff_pairwise.mp
  apply List.isChain_iff_getElem.mpr
  intro index inside
  obtain ⟨stops, early⟩ := paced.stops _ (List.getElem_mem (Nat.lt_of_succ_lt inside))
  apply (paced.chain index inside).apart
  exact (world.run_unfolds _ _ _ _ (stops ▸ World.reaches_some.mpr early)).later

/-- The loop runs its cycles one at a time. The first tick is due a period after the end of the first cycle, and every
other one a period after the tick before it or, if that is over by then, at the end of the cycle; so after a cycle that
took less than a period the loop waits, however long the ones before it took. The calls are the blocks of the cycles,
and only a shutdown cuts one off. -/
theorem cycles_keep_cadence (world : World σ) (reconciler : Reconciler) (live : reconciler.syncer.dryRun = false)
    (positive : 0 < reconciler.interval) {now stop : Nat} (begun : now ≤ stop) (state : σ) :
    let run := reconciler.run world (some stop) false now state
    let turns := reconciler.turns world (some stop) false now state
    let first : Turn σ := ⟨reconciler.syncer, some stop, now, state⟩
    run.timedCalls = turns.flatMap (Turn.timedCalls world) ∧ turns.head? = some first ∧
      (Paced world reconciler.interval stop 0 turns ∨
        turns = [first] ∧ lastMoment < (first.run world).ended + reconciler.interval) ∧
      turns.Pairwise (Turn.Apart world reconciler.interval) ∧
      (∀ number (inside : number + 2 < turns.length),
        (turns[number + 1].run world).ended < turns[number + 1].began + reconciler.interval →
          turns[number + 2].began = turns[number + 1].began + reconciler.interval) ∧
      ∀ turn ∈ turns, ∃ reply later, (turn.unstopped.run world).result = some (reply, later) ∧
        Block world turn.syncer (turn.unstopped.planned world) (turn.unstopped.calls world) reply ∧
        Run.Truncates stop (turn.unstopped.run world) (turn.run world) := by
  intro run turns first
  obtain ⟨head, pace⟩ := Reconciler.turns_paced world live positive begun state
  refine ⟨reconciler.run_timedCalls world _ false now state, head, pace, ?_, ?_, ?_⟩
  · obtain paced | ⟨alone, -⟩ := pace
    · exact paced.apart
    · rw [show turns = [first] from alone]
      exact List.pairwise_singleton ..
  · intro number inside brief
    obtain paced | ⟨alone, -⟩ := pace
    · have begins := (paced.chain (number + 1) inside).begins
      rw [← Nat.add_assoc] at begins
      exact begins.trans (Nat.max_eq_left (Nat.le_of_lt brief))
    · have single : turns.length = 1 := congrArg List.length alone
      omega
  · intro turn member
    have stops : turn.stop = some stop ∧ turn.began ≤ stop := by
      obtain paced | ⟨alone, -⟩ := pace
      · exact paced.stops turn member
      · rw [show turns = [first] from alone] at member
        obtain rfl := List.mem_singleton.mp member
        exact ⟨rfl, begun⟩
    obtain ⟨cache, same⟩ := Reconciler.turns_settings turn member
    have lively : turn.unstopped.syncer.dryRun = false := by
      rw [Turn.unstopped, same]
      exact live
    obtain ⟨⟨reply, later⟩, finished⟩ := world.run_completes turn.syncer.cycle turn.began turn.state
    refine ⟨reply, later, finished, Turn.block lively finished, ?_⟩
    rw [Turn.run, Turn.run, stops.1]
    exact world.run_truncates (.never _) turn.syncer.cycle turn.began turn.state stops.2

/-- Both operations are refused after more than half a period, so the third and the fourth cycle begin at the end of the
one before; the shutdown cuts the fourth one off. -/
theorem cycles_keep_cadence_rehearsed :
    let routers : List Router := [⟨"plain", "file", [], "Host(`a.b`) || Host(`c.d`)"⟩]
    let stored : List HostAlias := [⟨some "1", "old", "b", "managed"⟩, ⟨some "2", "a", "b", "managed"⟩]
    let scene : Rehearsal.Scene := { Rehearsal.Scene.calm "dns.lan" routers stored [] with
      waits := ⟨0, 0, 0, 600, 600⟩
      failKeys := ["old.b", "c.d"] }
    let reconciler : Reconciler := ⟨⟨⟨⟨[], [], [], []⟩, "managed", 10, .empty⟩, "dns.lan", false⟩, 1000⟩
    let turns := reconciler.turns Rehearsal.world (some 5000) false 0 scene
    turns.map Turn.began = [0, 2200, 3400, 4600] ∧ Paced Rehearsal.world 1000 5000 0 turns ∧
      turns.Pairwise (Turn.Apart Rehearsal.world 1000) ∧
      ∀ turn ∈ turns, ∃ reply, Block Rehearsal.world turn.syncer (turn.unstopped.planned Rehearsal.world)
        (turn.unstopped.calls Rehearsal.world) reply := by
  intro routers stored scene reconciler turns
  have moments : turns.map Turn.began = [0, 2200, 3400, 4600] := by decide +kernel
  obtain ⟨-, -, pace, apart, -, blocks⟩ :=
    cycles_keep_cadence Rehearsal.world reconciler rfl (by decide) (Nat.zero_le 5000) scene
  refine ⟨moments, ?_, apart, ?_⟩
  · obtain paced | ⟨alone, -⟩ := pace
    · exact paced
    · have single : turns.map Turn.began = [0] := congrArg (List.map Turn.began) alone
      cases moments.symm.trans single
  · intro turn member
    obtain ⟨reply, later, -, block, -⟩ := blocks turn member
    exact ⟨reply, block⟩

end AliasSync.Sync
