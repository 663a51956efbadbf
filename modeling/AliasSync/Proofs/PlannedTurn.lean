import AliasSync.Proofs.Retry

/-! A turn and its plan. A turn is the way to its plan, and then what it does with the plan: of the operations that
are planned it attempts the first ones, and all of them if it is not cut off. -/

namespace AliasSync.Sync

variable {σ : Type} {world : World σ} {drifts : σ → σ → Prop} {before after : σ} {steps : List Step}
  {parent : String} {plan : Plan} {operations : List Operation}

private theorem attempted_of_silent (silent : ∀ step ∈ steps, step.isCall = false) : steps.filterMap Step.attempted =
    [] := by
  apply List.filterMap_eq_nil_iff.mpr
  intro step member
  cases step with
  | note note => rfl
  | call request reply => cases silent _ member

/-- An operation is attempted unless it is cut off. -/
theorem perform_attempted {operation : Operation} {result : Option OperationOutcome}
    (course : world.Course drifts (perform parent operation) before steps result after) :
    steps.filterMap Step.attempted = [operation] ∨ result = none ∧ steps.filterMap Step.attempted = [] := by
  cases operation
  all_goals
    obtain ⟨rfl, rfl, -⟩ | ⟨reply, middle, later, -, rfl, reporting⟩ := course
    · exact .inr ⟨rfl, rfl⟩
    · obtain ⟨-, -, silent⟩ := reporting.silent (by cases reply <;> trivial)
      exact .inl (congrArg (List.cons _) (attempted_of_silent silent))

private theorem performs_attempted {result : Option (List OperationOutcome)}
    (course : world.Course drifts (operations.mapM (perform parent)) before steps result after) :
    steps.filterMap Step.attempted <+: operations := by
  induction operations generalizing before steps result after with
  | nil =>
    obtain ⟨rfl, -⟩ := course
    exact List.nil_prefix
  | cons operation rest ih =>
    rw [List.mapM_cons, Program.bind_eq, World.course_bind] at course
    obtain ⟨-, cut⟩ | ⟨outcome, first, last, _, rfl, first, later⟩ := course
    · obtain attempted | ⟨-, nothing⟩ := perform_attempted cut
      · rw [attempted]
        exact List.prefix_append [operation] rest
      · rw [nothing]
        exact List.nil_prefix
    · have further : last.filterMap Step.attempted <+: rest := by
        obtain ⟨-, remaining⟩ | ⟨_, _, _, _, rfl, remaining, rfl, -⟩ := World.course_bind.mp later
        · exact ih remaining
        · rw [List.append_nil]
          exact ih remaining
      obtain attempted | ⟨impossible, -⟩ := perform_attempted first
      · rw [List.filterMap_append, attempted]
        exact (List.prefix_cons_inj operation).mpr further
      · cases impossible

private theorem act_attempted {dryRun : Bool} {reply : Option (Except CycleError Summary)}
    (course : world.Course drifts (act parent dryRun plan) before steps reply after) :
    steps.filterMap Step.attempted <+: plan.operations := by
  by_cases idle : plan.operations = [] ∨ dryRun = true
  · obtain ⟨-, quiet, -⟩ := act_idle_course idle course
    rw [← Step.filterMap_calls Step.attempted fun _ => rfl, quiet]
    exact List.nil_prefix
  · obtain ⟨due, live⟩ := not_or.mp idle
    obtain ⟨closing, uses, same⟩ := execute_split parent plan.operations
    -- after the operations there is only the order to apply them, which is no attempt
    have nothing {outcomes : List OperationOutcome} {execution : Option Execution} {first last : σ} {steps : List Step}
        (course : world.Course drifts (closing outcomes) first steps execution last) :
        steps.filterMap Step.attempted = [] := by
      apply List.filterMap_eq_nil_iff.mpr
      intro step member
      cases step with
      | note note => rfl
      | call request reply =>
        cases course.call_allowed (uses outcomes) member
        rfl
    have executed {execution : Option Execution} {steps : List Step} {last : σ}
        (course : world.Course drifts (execute parent plan.operations) before steps execution last) :
        steps.filterMap Step.attempted <+: plan.operations := by
      rw [same, World.course_bind] at course
      obtain ⟨-, performing⟩ | ⟨outcomes, first, last, middle, rfl, performing, applying⟩ := course
      · exact performs_attempted performing
      · rw [List.filterMap_append, nothing applying, List.append_nil]
        exact performs_attempted performing
    rw [eq_false_of_ne_true live, act_of_due due, World.course_bind] at course
    obtain ⟨-, cut⟩ | ⟨_, _, _, _, rfl, finished, rfl, -⟩ := course
    · exact executed cut
    · rw [List.append_nil]
      exact executed finished

theorem World.Fetch.calls {fetched : Option (Except CycleError Snapshots)}
    (fetch : world.Fetch drifts parent before steps fetched after) : steps.filter Step.isCall = steps := by
  cases fetch <;> rfl

namespace Planner

variable {planner : Planner} {fqdn : String}

/-- The way to the plan ends with the lookup or with the snapshot that fails. -/
theorem prepare_aborted {cause : CycleError}
    (course : world.Course drifts (planner.prepare fqdn) before steps (some (.error cause)) after) :
    (∃ answer, (∀ parent, answer ≠ .ok (some parent)) ∧ steps.filter Step.isCall = [.call (.lookup fqdn) answer]) ∨
      ∃ parent first fetching last, world.Fetch drifts parent first fetching (some (.error cause)) last ∧
        steps.filter Step.isCall = .call (.lookup fqdn) (.ok (some parent)) :: fetching := by
  obtain ⟨-, impossible, -⟩ | ⟨answer, middle, rest, -, rfl, course⟩ := course
  · cases impossible
  obtain fault | _ | parent := answer
  · obtain ⟨rfl, -⟩ := course
    refine .inl ⟨.error fault, ?_, rfl⟩
    intro parent impossible
    cases impossible
  · obtain ⟨rfl, -⟩ := course
    refine .inl ⟨.ok none, ?_, rfl⟩
    intro parent impossible
    cases impossible
  obtain ⟨impossible, -⟩ | ⟨fetched, last, fetching, planning, fetch, rfl, course⟩ := course
  · cases impossible
  obtain fault | ⟨listed, served⟩ := fetched
  · obtain ⟨rfl, same, -⟩ := course
    cases same
    refine .inr ⟨parent, middle, fetching, last, fetch, ?_⟩
    rw [List.filter_cons_of_pos rfl, List.append_nil, fetch.calls]
  · obtain ⟨_, _, _, _, -, -, -, impossible, -⟩ := World.course_bind_some.mp course
    cases impossible

/-- A plan is made of both snapshots once the override has been found. -/
theorem prepare_planned {ready : Prepared}
    (course : world.Course drifts (planner.prepare fqdn) before steps (some (.ok ready)) after) :
    ∃ first fetching listed served last planning,
      world.Fetch drifts ready.parent first fetching (some (.ok (listed, served))) last ∧
      world.Course drifts (planner.plan served listed) last planning (some (ready.plan, ready.planner)) after ∧
      steps = .call (.lookup fqdn) (.ok (some ready.parent)) :: (fetching ++ planning) := by
  obtain ⟨-, impossible, -⟩ | ⟨answer, middle, rest, -, rfl, course⟩ := course
  · cases impossible
  obtain fault | _ | parent := answer
  · cases course.2.1
  · cases course.2.1
  obtain ⟨impossible, -⟩ | ⟨fetched, last, fetching, planning, fetch, rfl, course⟩ := course
  · cases impossible
  obtain fault | ⟨listed, served⟩ := fetched
  · cases course.2.1
  obtain ⟨⟨plan, later⟩, planning, _, _, rfl, computes, rfl, finished, rfl⟩ := World.course_bind_some.mp course
  cases finished
  refine ⟨middle, fetching, listed, served, last, planning, fetch, computes, ?_⟩
  rw [List.append_nil]

end Planner

namespace Turn

def acting (world : World σ) (turn : Turn σ) (ready : Prepared) : Run σ (Except CycleError Summary) :=
  let opening := turn.preparation world
  world.run turn.stop (act ready.parent turn.syncer.dryRun ready.plan) opening.ended opening.state

/-- A turn is cut off before it has a plan, or it fails to make one, or it makes one and acts on it. -/
inductive Parts (world : World σ) (turn : Turn σ) : Prop where
  | interrupted (cut : (turn.preparation world).result = none)
      (whole : turn.run world = ⟨none, (turn.preparation world).ended, (turn.preparation world).state,
        (turn.preparation world).steps⟩)
  | aborted (cause : CycleError) (failed : (turn.preparation world).result = some (.error cause))
      (whole : turn.run world = ⟨some (.error cause, turn.syncer), (turn.preparation world).ended,
        (turn.preparation world).state, (turn.preparation world).steps⟩)
  | planned (ready : Prepared) (planned : (turn.preparation world).result = some (.ok ready))
      (whole : turn.run world = ⟨(turn.acting world ready).result.map fun reply =>
          (reply, { turn.syncer with planner := ready.planner }), (turn.acting world ready).ended,
        (turn.acting world ready).state, (turn.preparation world).steps ++ (turn.acting world ready).steps⟩)

theorem parts (world : World σ) (turn : Turn σ) : turn.Parts world := by
  cases prepared : (turn.preparation world).result with
  | none =>
    refine .interrupted prepared ?_
    have whole := turn.syncer.run_cycle world turn.stop turn.began turn.state
    rw [Run.andThen, show (world.run turn.stop _ turn.began turn.state).result = none from prepared] at whole
    exact whole
  | some answer =>
    cases answer with
    | error cause => exact .aborted cause prepared (turn.syncer.run_of_aborted prepared)
    | ok ready => exact .planned ready prepared (turn.syncer.run_of_prepared prepared)

def planned (world : World σ) (turn : Turn σ) : List Operation :=
  match (turn.preparation world).result with
  | some (.ok ready) => ready.plan.operations
  | _ => []

theorem preparation_course (world : World σ) (turn : Turn σ) :
    world.Course (fun _ _ => True) (turn.syncer.planner.prepare turn.syncer.hostOverride) turn.state
      (turn.preparation world).trace (turn.preparation world).result (turn.preparation world).state :=
  world.run_course _ _ _ _ _ fun _ _ _ _ _ => trivial

theorem acting_course (world : World σ) (turn : Turn σ) (ready : Prepared) :
    world.Course (fun _ _ => True) (act ready.parent turn.syncer.dryRun ready.plan) (turn.preparation world).state
      (turn.acting world ready).trace (turn.acting world ready).result (turn.acting world ready).state :=
  world.run_course _ _ _ _ _ fun _ _ _ _ _ => trivial

theorem trace_of_prepared {turn : Turn σ} {ready : Prepared}
    (prepared : (turn.preparation world).result = some (.ok ready)) :
    (turn.run world).trace = (turn.preparation world).trace ++ (turn.acting world ready).trace :=
  (congrArg Run.trace (turn.syncer.run_of_prepared prepared)).trans List.map_append

theorem calls_of_prepared {turn : Turn σ} {ready : Prepared}
    (prepared : (turn.preparation world).result = some (.ok ready)) :
    turn.calls world = (turn.preparation world).calls ++ (turn.acting world ready).calls := by
  rw [calls, Run.calls, trace_of_prepared prepared, List.filter_append]
  rfl

/-- Whatever cuts a turn off, it has attempted the first operations of its plan. -/
theorem attempted_planned (world : World σ) (turn : Turn σ) :
    (turn.calls world).filterMap Step.attempted <+: turn.planned world := by
  rw [calls, Run.calls, Step.filterMap_calls Step.attempted fun _ => rfl]
  have idle : (turn.preparation world).trace.filterMap Step.attempted = [] :=
    Planner.prepare_attempts_nothing (turn.preparation_course world)
  cases turn.parts world with
  | interrupted cut whole =>
    rw [show (turn.run world).trace = (turn.preparation world).trace by rw [whole]; rfl, idle]
    exact List.nil_prefix
  | aborted cause failed whole =>
    rw [show (turn.run world).trace = (turn.preparation world).trace by rw [whole]; rfl, idle]
    exact List.nil_prefix
  | planned ready prepared whole =>
    rw [trace_of_prepared prepared, List.filterMap_append, idle, List.nil_append, planned, prepared]
    exact act_attempted (turn.acting_course world ready)

end Turn

end AliasSync.Sync
