import AliasSync.Proofs.AbortedCycle
import AliasSync.Proofs.CalmReading

/-! A dry run foretells the cycle. Up to the plan both run the same program from the same state; then the one shows
the operations of the plan and the other orders them, whatever becomes of each. -/

namespace AliasSync.Sync

open Rehearsal (Scene)

variable {σ : Type} {world : World σ} {drifts : σ → σ → Prop} {before after : σ} {steps : List Step}
  {parent fqdn : String} {plan : Plan} {planner : Planner}

private def Note.isInner : Note → Prop
  | .log record => record.origin ≠ .cycle
  | .metric _ => True

private theorem Planner.plan_reports (planner : Planner) (routers : List Router) (aliases : List HostAlias) :
    (planner.plan routers aliases).Reports Note.isInner := by
  have expanding (cache : ExpansionCache) (candidate : Rule.Candidate) :
      (expand planner.limit cache candidate).Reports Note.isInner := by
    unfold expand
    cases candidate.kind with
    | literal => trivial
    | pattern =>
      refine Program.Reports.bind ?_ ?_
      · unfold expandPattern
        cases cache.get? candidate.value with
        | some names => exact ⟨nofun, trivial⟩
        | none =>
          intro reply
          cases reply with
          | error cause => trivial
          | ok names => exact ⟨nofun, trivial⟩
      · rintro ⟨reply, later⟩
        cases reply <;> trivial
  have adding (harvest : Harvest) (router : Router) : (harvest.addRouter planner router).Reports Note.isInner := by
    unfold Harvest.addRouter
    cases Rule.candidates router.rule with
    | error cause => exact ⟨nofun, trivial, trivial⟩
    | ok candidates =>
      refine Program.Reports.foldlM (fun harvest candidate => ?_) _
      refine (expanding harvest.cache candidate).bind fun ⟨expanded, cache⟩ => ?_
      refine (Program.Reports.foldlM (fun harvest error => ?_) _).bind
        fun harvest => Program.Reports.foldlM (fun harvest host => ?_) _
      · cases error
        · exact ⟨nofun, trivial, trivial⟩
        · exact ⟨nofun, trivial⟩
      · unfold Harvest.addHost
        by_cases known : harvest.desired.contains (HostAlias.ofHostName host planner.marker).key = true
        · simp only [known, ↓reduceIte]
          exact ⟨nofun, trivial⟩
        · simp only [known, Bool.false_eq_true, ↓reduceIte]
          trivial
  refine (Program.Reports.foldlM adding _).bind fun harvest => ?_
  exact (Program.Reports.measures (fun _ => trivial) _).bind fun _ => trivial

structure Prepared where
  parent : String
  plan : Plan
  planner : Planner

namespace Planner

/-- What a cycle does up to its plan: it does not depend on whether the plan is to be carried out. -/
def prepare (planner : Planner) (fqdn : String) : Program (Except CycleError Prepared) :=
  .ask (.lookup fqdn) fun
    | .error cause => .done (.error (.overrideLookup fqdn cause))
    | .ok none => .done (.error (.overrideNotFound fqdn))
    | .ok (some parent) => .snapshots parent fun
      | .error cause => .done (.error cause)
      | .ok (aliases, routers) => (planner.plan routers aliases).bind fun (plan, planner) =>
        .done (.ok ⟨parent, plan, planner⟩)

theorem prepare_uses (planner : Planner) (fqdn : String) :
    (planner.prepare fqdn).Uses fun request => request.isChange = false := by
  refine ⟨rfl, fun answer => ?_⟩
  rcases answer with cause | _ | parent
  · trivial
  · trivial
  · refine ⟨rfl, rfl, fun fetched => ?_⟩
    rcases fetched with cause | ⟨aliases, routers⟩
    · trivial
    · refine Program.Uses.bind ?_ fun _ => trivial
      exact (planner.plan_uses routers aliases).mono fun _ ⟨_, same⟩ => same ▸ rfl

private theorem prepare_reports (planner : Planner) (fqdn : String) : (planner.prepare fqdn).Reports Note.isInner := by
  intro answer
  rcases answer with cause | _ | parent
  · trivial
  · trivial
  · intro fetched
    rcases fetched with cause | ⟨aliases, routers⟩
    · trivial
    · exact (planner.plan_reports routers aliases).bind fun _ => trivial

theorem prepare_error {cause : CycleError}
    (course : world.Course drifts (planner.prepare fqdn) before steps (some (.error cause)) after) :
    cause.isTransport = true := by
  obtain ⟨-, impossible, -⟩ | ⟨answer, _, _, -, -, course⟩ := course
  · cases impossible
  rcases answer with fault | _ | parent
  · cases course.2.1
    rfl
  · cases course.2.1
    rfl
  obtain ⟨impossible, -⟩ | ⟨fetched, _, _, _, fetch, -, course⟩ := course
  · cases impossible
  rcases fetched with fault | ⟨aliases, routers⟩
  · cases course.2.1
    exact fetch.isTransport rfl
  · obtain ⟨planned, _, _, _, -, -, -, impossible, -⟩ := World.course_bind_some.mp course
    cases impossible

end Planner

def Syncer.finish (syncer : Syncer) : Except CycleError Prepared → Program (Except CycleError Summary × Syncer)
  | .error cause => .done (.error cause, syncer)
  | .ok ready => (act ready.parent syncer.dryRun ready.plan).bind fun result =>
    .done (result, { syncer with planner := ready.planner })

private theorem Syncer.cycle_eq_prepare (syncer : Syncer) :
    syncer.cycle = (syncer.planner.prepare syncer.hostOverride).bind syncer.finish := by
  rw [cycle_eq]
  simp only [Planner.prepare, Program.bind]
  congr 1
  funext answer
  rcases answer with cause | _ | parent
  · rfl
  · rfl
  · simp only [afterLookup, Program.bind]
    congr 1
    funext fetched
    rcases fetched with cause | ⟨aliases, routers⟩
    · rfl
    · simp only [afterSnapshots, Program.bind_assoc, Program.bind]
      rfl

def announcement (operation : Operation) : Log.Record :=
  .info .cycle ("[" ++ operation.kind.name ++ "] alias: " ++ operation.key) [("dry_run", .truth true)]

namespace Step

def announced : Step → Option Log.Record
  | .note (.log record) => if record.origin = .cycle ∧ record.level = .info then some record else none
  | _ => none

def generates : Step → Bool
  | .call (.generate _ _) _ => true
  | _ => false

end Step

private theorem announcements_of_course {operations : List Operation} {result : Option Unit}
    (course : world.Course drifts (operations.forM announce) before steps result after) :
    steps.filterMap Step.announced = operations.map announcement := by
  induction operations generalizing steps with
  | nil =>
    obtain ⟨rfl, -⟩ := course
    rfl
  | cons operation rest ih =>
    obtain ⟨later, rfl, course⟩ := course
    exact congrArg (List.cons _) (ih course)

private theorem act_announces {reply : Except CycleError Summary}
    (course : world.Course drifts (act parent true plan) before steps (some reply) after) :
    steps.filterMap Step.announced = plan.operations.map announcement := by
  unfold act at course
  cases planned : plan.operations with
  | nil =>
    simp only [planned, List.isEmpty_nil, ↓reduceIte] at course
    obtain ⟨_, rfl, rfl, -⟩ := course
    rfl
  | cons operation rest =>
    simp only [planned, List.isEmpty_cons, Bool.false_eq_true, ↓reduceIte, Program.bind_eq] at course
    obtain ⟨_, first, _, _, rfl, announcing, rfl, -⟩ := World.course_bind_some.mp course
    rw [List.append_nil]
    exact announcements_of_course announcing

theorem act_attempts {reply : Except CycleError Summary}
    (course : world.Course drifts (act parent false plan) before steps (some reply) after) :
    steps.filterMap Step.attempted = plan.operations := by
  rw [← Step.filterMap_calls Step.attempted fun _ => rfl]
  by_cases idle : plan.operations = []
  · obtain ⟨-, silent, -⟩ := act_idle_course (.inl idle) course
    rw [silent, idle]
    rfl
  · rw [act_of_due idle] at course
    obtain ⟨execution, first, _, _, rfl, executing, rfl, -⟩ := World.course_bind_some.mp course
    obtain ⟨calls, middle, performs, ending⟩ := execute_result executing
    rw [List.append_nil]
    rcases ending with ⟨-, -, called, -⟩ | ⟨-, reply, -, -, called⟩
    · rw [called, performs.attempted]
    · rw [called, List.filterMap_append, performs.attempted]
      exact List.append_nil _

private theorem act_generates {dryRun : Bool} {reply : Option (Except CycleError Summary)}
    (course : world.Course drifts (act parent dryRun plan) before steps reply after) :
    steps.filter Step.generates = [] := by
  have uses : (act parent dryRun plan).Uses fun request => ∀ pattern limit, request ≠ .generate pattern limit :=
    act_uses (fun operation _ => by cases operation <;> exact nofun) nofun
  refine List.filter_eq_nil_iff.mpr fun step seen generates => ?_
  cases step with
  | note note => cases generates
  | call request reply =>
    cases request with
    | generate pattern limit => exact course.call_allowed uses seen pattern limit rfl
    | lookup | aliases | routers | create | delete | apply => cases generates

/-- The figures that do not depend on whether a plan is carried out. -/
structure Summary.SamePlan (first second : Summary) : Prop where
  desired : first.desired = second.desired
  managed : first.managed = second.managed
  planned : first.planned = second.planned
  skipped : first.skipped = second.skipped

theorem act_ok {dryRun : Bool} {summary : Summary}
    (course : world.Course drifts (act parent dryRun plan) before steps (some (.ok summary)) after) :
    (Summary.ofPlan plan true).SamePlan summary := by
  by_cases idle : plan.operations = [] ∨ dryRun = true
  · obtain ⟨finished, -⟩ := act_idle_course idle course
    cases finished
    exact ⟨rfl, rfl, rfl, rfl⟩
  · obtain ⟨due, live⟩ := not_or.mp idle
    rw [eq_false_of_ne_true live, act_of_due due] at course
    obtain ⟨execution, _, _, _, -, -, -, finished, -⟩ := World.course_bind_some.mp course
    unfold Execution.verdict at finished
    split at finished <;> cases finished
    exact ⟨rfl, rfl, rfl, rfl⟩

private theorem act_dry_uses (parent : String) (plan : Plan) :
    (act parent true plan).Uses fun request => request.isChange = false := by
  obtain ⟨report, silent, same⟩ := act_of_idle parent (.inr rfl)
  rw [same]
  exact (silent.mono fun _ impossible => impossible.elim).bind fun _ => trivial

private theorem Syncer.dry_cycle_uses (syncer : Syncer) :
    { syncer with dryRun := true }.cycle.Uses fun request => request.isChange = false := by
  rw [cycle_eq_prepare]
  refine (Planner.prepare_uses ..).bind fun ready => ?_
  rcases ready with cause | ready
  · trivial
  · exact (act_dry_uses ready.parent ready.plan).bind fun _ => trivial

theorem World.run_map (world : World σ) (stop : Option Nat) (program : Program α) (f : α → β) (now : Nat)
    (state : σ) :
    let run := world.run stop program now state
    world.run stop (program.bind fun value => .done (f value)) now state =
      ⟨run.result.map f, run.ended, run.state, run.steps⟩ := by
  intro run
  have whole : world.run stop (program.bind fun value => .done (f value)) now state =
      run.andThen fun value => world.run stop (.done (f value)) := world.run_bind stop program _ now state
  rw [whole]
  unfold Run.andThen
  cases run.result with
  | none => rfl
  | some value => exact congrArg (Run.mk _ _ _) (List.append_nil _)

namespace Planner

private theorem prepare_announces_nothing {result : Option (Except CycleError Prepared)}
    (course : world.Course drifts (planner.prepare fqdn) before steps result after) :
    steps.filterMap Step.announced = [] := by
  refine List.filterMap_eq_nil_iff.mpr fun step seen => ?_
  cases step with
  | call request reply => rfl
  | note note =>
    have inner := course.note_allowed (planner.prepare_reports fqdn) seen
    cases note with
    | metric metric => rfl
    | log record => exact if_neg fun own => inner own.1

theorem prepare_attempts_nothing {result : Option (Except CycleError Prepared)}
    (course : world.Course drifts (planner.prepare fqdn) before steps result after) :
    steps.filterMap Step.attempted = [] := by
  refine List.filterMap_eq_nil_iff.mpr fun step seen => ?_
  cases step with
  | note note => rfl
  | call request reply =>
    have reading := course.call_allowed (planner.prepare_uses fqdn) seen
    cases request with
    | create | delete => cases reading
    | lookup | aliases | routers | generate | apply => rfl

end Planner

namespace Syncer

variable {stop : Option Nat} {now : Nat} {state : σ}

theorem run_cycle (syncer : Syncer) (world : World σ) (stop : Option Nat) (now : Nat) (state : σ) :
    world.run stop syncer.cycle now state =
      (world.run stop (syncer.planner.prepare syncer.hostOverride) now state).andThen fun value =>
        world.run stop (syncer.finish value) :=
  syncer.cycle_eq_prepare ▸ world.run_bind stop _ syncer.finish now state

theorem run_of_aborted (syncer : Syncer) {cause : CycleError}
    (aborted : (world.run stop (syncer.planner.prepare syncer.hostOverride) now state).result = some (.error cause)) :
    let opening := world.run stop (syncer.planner.prepare syncer.hostOverride) now state
    world.run stop syncer.cycle now state =
      ⟨some (.error cause, syncer), opening.ended, opening.state, opening.steps⟩ := by
  rw [syncer.run_cycle, Run.andThen, aborted]
  exact congrArg (Run.mk _ _ _) (List.append_nil _)

theorem run_of_prepared (syncer : Syncer) {ready : Prepared}
    (prepared : (world.run stop (syncer.planner.prepare syncer.hostOverride) now state).result = some (.ok ready)) :
    let opening := world.run stop (syncer.planner.prepare syncer.hostOverride) now state
    let acting := world.run stop (act ready.parent syncer.dryRun ready.plan) opening.ended opening.state
    world.run stop syncer.cycle now state =
      ⟨acting.result.map fun reply => (reply, { syncer with planner := ready.planner }), acting.ended, acting.state,
        opening.steps ++ acting.steps⟩ := by
  intro opening acting
  rw [syncer.run_cycle, Run.andThen, prepared]
  dsimp only
  rw [finish, world.run_map]
  rfl

end Syncer

/-- A dry run and a cycle from the same state both come to an end. Either neither comes to its plan, or the dry run
succeeds without a change and shows what the cycle attempts, however the attempts end. -/
theorem dry_run_foretells_cycle (world : World σ) (syncer : Syncer) (now : Nat) (state : σ) :
    let dry := world.run none { syncer with dryRun := true }.cycle now state
    let real := world.run none { syncer with dryRun := false }.cycle now state
    ∃ foretold reply planner,
      dry.result = some (foretold, { syncer with dryRun := true, planner := planner }) ∧
      real.result = some (reply, { syncer with dryRun := false, planner := planner }) ∧
      dry.trace.filter Step.generates = real.trace.filter Step.generates ∧
      dry.trace.filterMap Step.announced = (real.trace.filterMap Step.attempted).map announcement ∧
      ReadOnly dry.trace ∧
      (∀ aliases holds, CalmReading world aliases holds →
        (∀ first last moment, Calm aliases holds moment (world.elapse first last moment)) → holds state →
        aliases dry.state = aliases state) ∧
      ((∃ cause, cause.isTransport = true ∧ foretold = .error cause ∧ reply = .error cause) ∨
        ∃ summary, foretold = .ok summary ∧ (∀ cause, reply = .error cause → cause.isTransport = false) ∧
          ∀ actual, reply = .ok actual → summary.SamePlan actual) := by
  intro dry real
  obtain ⟨foretold, finished⟩ := world.run_completes { syncer with dryRun := true }.cycle now state
  have course := World.free_course_of_result finished
  have readOnly : ReadOnly dry.trace := fun request reply seen => course.call_allowed syncer.dry_cycle_uses seen
  have unchanged (aliases : σ → List HostAlias) (holds : σ → Prop) (calm : CalmReading world aliases holds)
      (quiet : ∀ first last moment, Calm aliases holds moment (world.elapse first last moment)) (kept : holds state) :
      aliases dry.state = aliases state := by
    have course := world.run_course none { syncer with dryRun := true }.cycle now state (Calm aliases holds)
      fun first last moment _ _ => quiet first last moment
    exact (calm.course course syncer.dry_cycle_uses kept).2
  let opening := world.run none (syncer.planner.prepare syncer.hostOverride) now state
  obtain ⟨ready, prepared⟩ := world.run_completes (syncer.planner.prepare syncer.hostOverride) now state
  have first := World.free_course_of_result prepared
  have silent : opening.trace.filterMap Step.announced = [] := Planner.prepare_announces_nothing first
  have idle : opening.trace.filterMap Step.attempted = [] := Planner.prepare_attempts_nothing first
  rcases ready with cause | ready
  · have dryRun := Syncer.run_of_aborted { syncer with dryRun := true } prepared
    have realRun := Syncer.run_of_aborted { syncer with dryRun := false } prepared
    have dryTrace : dry.trace = opening.trace := congrArg Run.trace dryRun
    have realTrace : real.trace = opening.trace := congrArg Run.trace realRun
    refine ⟨_, _, _, congrArg Run.result dryRun, congrArg Run.result realRun, ?_, ?_, readOnly, unchanged,
      .inl ⟨cause, Planner.prepare_error first, rfl, rfl⟩⟩
    · rw [dryTrace, realTrace]
    · rw [dryTrace, realTrace, silent, idle]
      rfl
  · have dryRun := Syncer.run_of_prepared { syncer with dryRun := true } prepared
    have realRun := Syncer.run_of_prepared { syncer with dryRun := false } prepared
    obtain ⟨foretold, told⟩ := world.run_completes (act ready.parent true ready.plan) opening.ended opening.state
    obtain ⟨reply, acted⟩ := world.run_completes (act ready.parent false ready.plan) opening.ended opening.state
    have shows := World.free_course_of_result told
    have acts := World.free_course_of_result acted
    have dryTrace : dry.trace = opening.trace ++ _ := (congrArg Run.trace dryRun).trans List.map_append
    have realTrace : real.trace = opening.trace ++ _ := (congrArg Run.trace realRun).trans List.map_append
    obtain ⟨success, -⟩ := act_idle_course (.inr rfl) shows
    cases success
    refine ⟨_, _, ready.planner, (congrArg Run.result dryRun).trans (congrArg (Option.map _) told),
      (congrArg Run.result realRun).trans (congrArg (Option.map _) acted), ?_, ?_, readOnly, unchanged,
      .inr ⟨_, rfl, ?_, ?_⟩⟩
    · rw [dryTrace, realTrace, List.filter_append, List.filter_append]
      exact congrArg _ ((act_generates shows).trans (act_generates acts).symm)
    · rw [dryTrace, realTrace, List.filterMap_append, List.filterMap_append, silent, idle]
      exact (act_announces shows).trans (congrArg _ (act_attempts acts).symm)
    · rintro cause rfl
      exact (act_failed acts).1
    · rintro actual rfl
      exact act_ok acts

private theorem calmReading_rehearsal : CalmReading Rehearsal.world Scene.aliases fun scene => scene.upcoming = [] := by
  intro scene request reading quiet
  change (scene.answer request).2.upcoming = [] ∧ (scene.answer request).2.aliases = scene.aliases
  rw [scene.answer_of_reading reading]
  exact ⟨quiet, rfl⟩

/-- The store refuses one of the two changes. The dry run shows both, and the store stays as it was. -/
theorem dry_run_foretells_cycle_rehearsed :
    let stored : List HostAlias := [⟨some "1", "old", "b", "managed"⟩]
    let scene : Scene :=
      { Scene.calm "dns.lan" [⟨"web", "file", [], "Host(`a.b`)"⟩] stored [] with failKeys := ["a.b"] }
    let syncer : Syncer := ⟨⟨⟨[], [], [], []⟩, "managed", 10, .empty⟩, "dns.lan", true⟩
    let dry := Rehearsal.world.run none { syncer with dryRun := true }.cycle 0 scene
    let real := Rehearsal.world.run none { syncer with dryRun := false }.cycle 0 scene
    real.result.map (fun answer => Ending.ofResult answer.1) = some (.failed (.incomplete 1 2)) ∧
      real.trace.filterMap Step.attempted =
        [.delete ⟨some "1", "old", "b", "managed"⟩, .create ⟨none, "a", "b", "managed"⟩] ∧
      dry.trace.filterMap Step.announced = (real.trace.filterMap Step.attempted).map announcement ∧
      dry.state.aliases = stored := by
  intro stored scene syncer dry real
  obtain ⟨foretold, reply, planner, -, -, -, shown, -, unchanged, -⟩ :=
    dry_run_foretells_cycle Rehearsal.world syncer 0 scene
  refine ⟨by decide +kernel, by decide +kernel, shown, ?_⟩
  apply unchanged _ _ calmReading_rehearsal ?_ rfl
  intro first last moment quiet
  have still : moment.elapse last = moment := Scene.elapse_quiet (.of_upcoming_nil quiet last) (Nat.le_refl last)
  exact ⟨(congrArg Scene.upcoming still).trans quiet, congrArg Scene.aliases still⟩

end AliasSync.Sync
