import AliasSync.Proofs.RehearsalStore
import AliasSync.Proofs.Turn

/-! A cycle aborts when its host override or one of its snapshots cannot be had. It has only read by then, and it
leaves the syncer as it was. A cycle that ends in any other error has ordered a change. -/

namespace AliasSync.Sync

variable {σ : Type} {world : World σ} {drifts : σ → σ → Prop} {before after : σ} {steps : List Step}
  {parent : String} {plan : Plan} {dryRun : Bool} {syncer later : Syncer} {cause : CycleError}

def Step.reads : Step → Bool
  | .call (.lookup _) _ | .call (.aliases _) _ | .call .routers _ => true
  | _ => false

private theorem readOnly_of_reads (reads : ∀ step ∈ steps, step.reads = true) : ReadOnly steps := by
  intro request reply seen
  have reading := reads _ seen
  cases request with
  | create | delete | apply => cases reading
  | lookup | aliases | routers | generate => rfl

private theorem World.Fetch.reads {fetched : Option (Except CycleError Snapshots)}
    (fetch : world.Fetch drifts parent before steps fetched after) : ∀ step ∈ steps, step.reads = true := by
  cases fetch <;> simp [Step.reads]

private theorem isTransport_of_map {reply : Except ε α} {wrap : ε → CycleError} {pair : α → Snapshots}
    (transport : ∀ fault, (wrap fault).isTransport = true)
    (failed : (reply.mapError wrap).map pair = .error cause) : cause.isTransport = true := by
  cases reply with
  | error fault =>
    cases failed
    exact transport fault
  | ok value => cases failed

theorem World.Fetch.isTransport {fetched : Option (Except CycleError Snapshots)}
    (fetch : world.Fetch drifts parent before steps fetched after) (failed : fetched = some (.error cause)) :
    cause.isTransport = true := by
  cases fetch with
  | interrupted | aliasesOnly | routersOnly => cases failed
  | aliasesFail | routersFail =>
    cases failed
    rfl
  | routersLast | aliasesLast => exact isTransport_of_map (fun _ => rfl) (Option.some.inj failed)

private theorem Performs.not_readOnly {operations : List Operation} {calls : List Step}
    {outcomes : List OperationOutcome}
    (performs : Performs world drifts parent operations before calls outcomes after) (due : operations ≠ []) :
    ¬ ReadOnly calls := by
  intro readOnly
  cases performs with
  | nil => exact due rfl
  | @cons operation =>
    have reading := readOnly _ _ List.mem_cons_self
    cases operation <;> cases reading

/-- To act on a plan ends in an error only after a change has been called for. -/
theorem act_failed (course : world.Course drifts (act parent dryRun plan) before steps (some (.error cause)) after) :
    cause.isTransport = false ∧ ¬ ReadOnly steps := by
  by_cases idle : plan.operations = [] ∨ dryRun = true
  · obtain ⟨finished, -⟩ := act_idle_course idle course
    cases finished
  · obtain ⟨due, live⟩ := not_or.mp idle
    rw [eq_false_of_ne_true live, act_of_due due] at course
    obtain ⟨execution, first, _, _, rfl, executing, rfl, finished, -⟩ := World.course_bind_some.mp course
    obtain ⟨calls, middle, performs, ending⟩ := execute_result executing
    -- applying comes after the operations, so their calls are among those of the execution either way
    have seen : ∀ step ∈ calls, step ∈ first := by
      intro step member
      have called : step ∈ first.filter Step.isCall := by
        rcases ending with ⟨-, -, called, -⟩ | ⟨-, reply, -, -, called⟩
        · rw [called]
          exact member
        · rw [called]
          exact List.mem_append_left _ member
      exact (List.mem_filter.mp called).1
    constructor
    · unfold Execution.verdict at finished
      split at finished <;> cases finished
      rfl
    · intro readOnly
      apply performs.not_readOnly due
      intro request reply member
      exact readOnly request reply (List.mem_append_left _ (seen _ member))

/-- A cycle with an error came no further than the snapshots, or it has called for a change. -/
theorem Syncer.CycleCourse.failed
    (course : syncer.CycleCourse world drifts before steps (some (.error cause, later)) after) :
    cause.isTransport = true ∧ later = syncer ∧ (∀ step ∈ steps, step.reads = true) ∨
      cause.isTransport = false ∧ ¬ ReadOnly steps := by
  generalize failed : some (Except.error cause, later) = result at course
  cases course with
  | lookupWaits | snapshotsWait | planWaits => cases failed
  | lookupFails | overrideMissing =>
    cases failed
    exact .inl ⟨rfl, rfl, by simp [Step.reads]⟩
  | snapshotsFail found fetch =>
    cases failed
    refine .inl ⟨fetch.isTransport rfl, rfl, ?_⟩
    intro step member
    rcases List.mem_cons.mp member with rfl | member
    · rfl
    · exact fetch.reads step member
  | acts found fetch computes carries =>
    obtain ⟨reply, rfl, same⟩ := Option.map_eq_some_iff.mp failed.symm
    cases same
    obtain ⟨partly, changes⟩ := act_failed carries
    refine .inr ⟨partly, fun readOnly => changes ?_⟩
    intro request reply member
    exact readOnly request reply (List.mem_cons_of_mem _ (List.mem_append_right _ member))

/-- What the world says to a request that is due at a moment, and the state in which it is then. -/
def World.Answers (world : World σ) (state : σ) (now due : Nat) (request : Request) (reply : request.Reply)
    (after : σ) : Prop :=
  world.answer (world.elapse now due state) request = (reply, after)

/-- How the two snapshots settle, with what is seen of them and when. The one that is due first settles both if it
fails, and the aliases come first when neither is waited for. -/
inductive Settles (world : World σ) (parent : String) (began aliasesDue routersDue : Nat) (state : σ) :
    List (Nat × Step) → Except CycleError Snapshots → Prop where
  | aliasesFail {fault after}
      (aliases : world.Answers state began aliasesDue (.aliases parent) (.error fault) after)
      (first : aliasesDue ≤ routersDue) :
      Settles world parent began aliasesDue routersDue state [(aliasesDue, .call (.aliases parent) (.error fault))]
        (.error (.store fault))
  | routersFail {fault after}
      (routers : world.Answers state began routersDue .routers (.error fault) after)
      (first : routersDue ≤ aliasesDue) (waited : began < aliasesDue) :
      Settles world parent began aliasesDue routersDue state [(routersDue, .call .routers (.error fault))]
        (.error (.routes fault))
  | routersLast {listed middle reply after}
      (aliases : world.Answers state began aliasesDue (.aliases parent) (.ok listed) middle)
      (routers : world.Answers middle aliasesDue routersDue .routers reply after) (first : aliasesDue ≤ routersDue) :
      Settles world parent began aliasesDue routersDue state
        [(aliasesDue, .call (.aliases parent) (.ok listed)), (routersDue, .call .routers reply)]
        ((reply.mapError .routes).map fun served => (listed, served))
  | aliasesLast {served middle reply after}
      (routers : world.Answers state began routersDue .routers (.ok served) middle)
      (aliases : world.Answers middle routersDue aliasesDue (.aliases parent) reply after)
      (first : routersDue ≤ aliasesDue) (waited : began < aliasesDue) :
      Settles world parent began aliasesDue routersDue state
        [(routersDue, .call .routers (.ok served)), (aliasesDue, .call (.aliases parent) reply)]
        ((reply.mapError .store).map fun listed => (listed, served))

theorem World.call_none (world : World σ) (request : Request) (due now : Nat) (state : σ) :
    ∃ reply middle, world.Answers state now due request reply middle ∧
      ∀ next : request.Reply → Nat → σ → Run σ α,
        world.call none request due now state next = (next reply due middle).after due (.call request reply) :=
  ⟨_, _, rfl, fun _ => rfl⟩

private theorem World.callSnapshots_settles (world : World σ) (parent : String) (now : Nat) (state : σ)
    (next : Except CycleError Snapshots → Nat → σ → Run σ α) :
    ∃ fetching fetched moment settled,
      Settles world parent now (now + world.wait state (.aliases parent)) (now + world.wait state .routers) state
        fetching fetched ∧
      world.callSnapshots none parent now state next = (next fetched moment settled).continuing fetching := by
  have later : now ≤ now + world.wait state .routers := Nat.le_add_right ..
  simp only [callSnapshots]
  generalize now + world.wait state (.aliases parent) = aliasesDue
  generalize now + world.wait state .routers = routersDue at later
  by_cases order : aliasesDue ≤ routersDue
  · obtain ⟨reply, middle, aliases, called⟩ := world.call_none (α := α) (.aliases parent) aliasesDue now state
    rw [if_pos order, called]
    cases reply with
    | error fault => exact ⟨_, _, _, _, .aliasesFail aliases order, rfl⟩
    | ok listed =>
      obtain ⟨reply, settled, routers, called⟩ := world.call_none (α := α) .routers routersDue aliasesDue middle
      refine ⟨_, _, routersDue, settled, .routersLast aliases routers order, ?_⟩
      simp only [called]
      cases reply <;> rfl
  · have before := Nat.lt_of_not_le order
    have waited := Nat.lt_of_le_of_lt later before
    obtain ⟨reply, middle, routers, called⟩ := world.call_none (α := α) .routers routersDue now state
    rw [if_neg order, called]
    cases reply with
    | error fault => exact ⟨_, _, _, _, .routersFail routers (Nat.le_of_lt before) waited, rfl⟩
    | ok served =>
      obtain ⟨reply, settled, aliases, called⟩ :=
        world.call_none (α := α) (.aliases parent) aliasesDue routersDue middle
      refine ⟨_, _, aliasesDue, settled, .aliasesLast routers aliases (Nat.le_of_lt before) waited, ?_⟩
      simp only [called]
      cases reply <;> rfl

def Syncer.afterSnapshots (syncer : Syncer) (parent : String) :
    Except CycleError Snapshots → Program (Except CycleError Summary × Syncer)
  | .error cause => .done (.error cause, syncer)
  | .ok (aliases, routers) => (syncer.planner.plan routers aliases).bind fun (plan, planner) =>
    (act parent syncer.dryRun plan).bind fun result => .done (result, { syncer with planner := planner })

def Syncer.afterLookup (syncer : Syncer) :
    Except StoreError (Option String) → Program (Except CycleError Summary × Syncer)
  | .error cause => .done (.error (.overrideLookup syncer.hostOverride cause), syncer)
  | .ok none => .done (.error (.overrideNotFound syncer.hostOverride), syncer)
  | .ok (some parent) => .snapshots parent (syncer.afterSnapshots parent)

theorem Syncer.cycle_eq (syncer : Syncer) :
    syncer.cycle = .ask (.lookup syncer.hostOverride) syncer.afterLookup := by
  unfold Syncer.cycle
  simp only [Program.bind_eq, Program.request, Program.bind]
  congr 1
  funext answer
  rcases answer with cause | _ | parent
  · rfl
  · rfl
  · simp only [Program.fetchSnapshots, Program.bind, Syncer.afterLookup]
    congr 1

private theorem Settles.isTransport {began aliasesDue routersDue : Nat} {state : σ} {fetching : List (Nat × Step)}
    {fetched : Except CycleError Snapshots}
    (settles : Settles world parent began aliasesDue routersDue state fetching fetched)
    (failed : fetched = .error cause) : cause.isTransport = true := by
  cases settles with
  | aliasesFail | routersFail =>
    cases failed
    rfl
  | routersLast | aliasesLast => exact isTransport_of_map (fun _ => rfl) failed

/-- The error of the snapshots is that of the cycle, and with both snapshots the cycle comes to act on its plan. -/
theorem Syncer.afterSnapshots_error {fetched : Except CycleError Snapshots} {moment : Nat} {settled : σ}
    {reply : Except CycleError Summary} (transport : ∀ cause, fetched = .error cause → cause.isTransport = true)
    (finished : (world.run none (syncer.afterSnapshots parent fetched) moment settled).result = some (reply, later)) :
    fetched = .error cause ↔ reply = .error cause ∧ cause.isTransport = true := by
  rcases fetched with fault | ⟨listed, served⟩
  · cases finished
    constructor
    · intro same
      cases same
      exact ⟨rfl, transport _ rfl⟩
    · intro same
      cases same.1
      rfl
  · obtain ⟨⟨plan, planner⟩, -, finished⟩ := World.run_bind_result finished
    obtain ⟨result, acted, finished⟩ := World.run_bind_result finished
    cases finished
    constructor
    · intro impossible
      cases impossible
    · intro ⟨failed, aborted⟩
      rw [failed] at acted
      have partly := (act_failed (World.free_course_of_result acted)).1
      exact absurd (partly.symm.trans aborted) Bool.false_ne_true

/-- How far a cycle with this reply came, in which steps and when. -/
def Syncer.SettlesInTurn (syncer : Syncer) (world : World σ) (now : Nat) (state : σ) (steps : List (Nat × Step))
    (reply : Except CycleError Summary) : Prop :=
  let found := now + world.wait state (.lookup syncer.hostOverride)
  let looked : Except StoreError (Option String) × σ :=
    world.answer (world.elapse now found state) (.lookup syncer.hostOverride)
  let lookup := (found, Step.call (.lookup syncer.hostOverride) looked.1)
  match looked.1 with
  | .error cause => reply = .error (.overrideLookup syncer.hostOverride cause) ∧ steps = [lookup]
  | .ok none => reply = .error (.overrideNotFound syncer.hostOverride) ∧ steps = [lookup]
  | .ok (some parent) => ∃ fetched fetching rest, steps = lookup :: (fetching ++ rest) ∧
      Settles world parent found (found + world.wait looked.2 (.aliases parent)) (found + world.wait looked.2 .routers)
        looked.2 fetching fetched ∧
      ∀ cause, fetched = .error cause ↔ reply = .error cause ∧ cause.isTransport = true

private theorem Syncer.settlesInTurn {now : Nat} {state : σ} {reply : Except CycleError Summary}
    (finished : (world.run none syncer.cycle now state).result = some (reply, later)) :
    syncer.SettlesInTurn world now state (world.run none syncer.cycle now state).steps reply := by
  unfold SettlesInTurn
  rw [cycle_eq] at finished ⊢
  simp only [World.run, World.call, Option.filter_none, Run.after_result] at finished ⊢
  generalize found : now + world.wait state (.lookup syncer.hostOverride) = moment at *
  split
  case h_1 cause answered =>
    rw [answered] at finished ⊢
    cases finished
    exact ⟨rfl, rfl⟩
  case h_2 answered =>
    rw [answered] at finished ⊢
    cases finished
    exact ⟨rfl, rfl⟩
  case h_3 parent answered =>
    rw [answered] at finished ⊢
    obtain ⟨fetching, fetched, last, settled, settles, same⟩ := world.callSnapshots_settles parent moment _ _
    simp only [afterLookup, World.run] at finished ⊢
    rw [same] at finished ⊢
    refine ⟨fetched, fetching, _, rfl, settles, ?_⟩
    intro cause
    exact afterSnapshots_error (fun cause => settles.isTransport) finished

/-- The syncer stays as it was, its cache included, and neither the generator nor a measurement has been touched. -/
structure Untouched (syncer later : Syncer) (trace : List Step) : Prop where
  kept : later = syncer
  ungenerated : ∀ pattern limit reply, .call (.generate pattern limit) reply ∉ trace
  unmeasured : ∀ metric, .note (.metric metric) ∉ trace

/-- A cycle comes to an end in every world. If it ends in an error, the error says whether any change was ordered, and
if none was, nothing has been touched. The first failure on the way to the plan is the error. -/
theorem aborted_cycle_changes_nothing (world : World σ) (syncer : Syncer) (now : Nat) (state : σ) :
    let run := world.run none syncer.cycle now state
    ∃ reply later, run.result = some (reply, later) ∧
      (∀ cause, reply = .error cause → (cause.isTransport = true ↔ ReadOnly run.trace) ∧
        (cause.isTransport = true → Untouched syncer later run.trace)) ∧
      syncer.SettlesInTurn world now state run.steps reply := by
  intro run
  obtain ⟨⟨reply, later⟩, finished⟩ := world.run_completes syncer.cycle now state
  refine ⟨reply, later, finished, ?_, Syncer.settlesInTurn finished⟩
  intro cause failed
  rw [failed] at finished
  rcases (cycle_course (World.free_course_of_result finished)).failed with
    ⟨transport, kept, reads⟩ | ⟨partly, changes⟩
  · refine ⟨iff_of_true transport (readOnly_of_reads reads), fun _ => ⟨kept, ?_, ?_⟩⟩
    · intro pattern limit reply seen
      cases reads _ seen
    · intro metric seen
      cases reads _ seen
  · have remains : ¬ cause.isTransport = true := ne_true_of_eq_false partly
    exact ⟨iff_of_false remains changes, fun transport => absurd transport remains⟩

open Rehearsal (Scene) in
/-- Both snapshots fail without waiting, and the cycle ends in the error of the aliases. -/
theorem aborted_cycle_changes_nothing_rehearsed :
    let scene : Scene :=
      { Scene.calm "dns.lan" [] [] [] with faults := ⟨false, true, true, false⟩ }
    let syncer : Syncer := ⟨⟨⟨[], [], [], []⟩, "managed", 10, .empty⟩, "dns.lan", false⟩
    let run := Rehearsal.world.run none syncer.cycle 0 scene
    ∃ fault later, run.result = some (.error (.store fault), later) ∧ ReadOnly run.trace ∧
      Untouched syncer later run.trace := by
  intro scene syncer run
  have failed : run.result =
      some (.error (.store (.http (Scene.statusError 500 "http://opnsense/aliases"))), syncer) := by
    simp only [run, syncer, scene, Syncer.cycle_eq, World.run]
    rfl
  obtain ⟨reply, later, finished, aborted, -⟩ := aborted_cycle_changes_nothing Rehearsal.world syncer 0 scene
  cases finished.symm.trans failed
  obtain ⟨readOnly, untouched⟩ := aborted _ rfl
  exact ⟨_, _, failed, readOnly.mp rfl, untouched rfl⟩

end AliasSync.Sync
