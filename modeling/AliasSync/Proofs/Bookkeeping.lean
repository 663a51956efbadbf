import AliasSync.Proofs.Accounting
import AliasSync.Proofs.IssueOrder
import AliasSync.Proofs.Telling

/-! The books of a cycle. Counters and gauges, warnings and events all follow from what the cycle tells, so they agree
with the issues and the sizes of its plan, with the outcomes of its operations and with its summary. -/

namespace AliasSync.Sync

variable {σ : Type} {world : World σ} {steps : List Step} {plan : Plan} {outcomes : List OperationOutcome}

namespace Note

def isWarning : Note → Bool
  | .log record => record.level == .warn
  | .metric _ => false

def warning? : Note → Option Log.Record
  | .log record => if record.level = .warn then some record else none
  | .metric _ => none

def isRecord (level : Log.Level) (message : String) : Note → Bool
  | .log record => record.level == level && record.message == message
  | .metric _ => false

def sets (name : String) : Note → Option Nat
  | .metric (.gauge other value) => if other = name then some value else none
  | _ => none

end Note

def times (view : Note → Bool) (steps : List Step) : Nat := (steps.filterMap Step.note?).countP view

def growth (counter : Metric) (steps : List Step) : Nat := times (· == .metric counter) steps

def gauge (name : String) (steps : List Step) : Option Nat :=
  ((steps.filterMap Step.note?).filterMap (Note.sets name)).getLast?

def warnings (steps : List Step) : List Log.Record := (steps.filterMap Step.told).filterMap Note.warning?

def Issue.isRule : Issue → Bool
  | .rule _ _ => true
  | .expansion _ _ => false

def Issue.isGeneration : Issue → Bool
  | .expansion _ (.generation _ _) => true
  | _ => false

/-- A cycle tells of the issues of its plan, of the sizes of the plan, and of the outcomes of its operations. -/
def Telling (plan : Plan) (outcomes : List OperationOutcome) (steps : List Step) : Prop :=
  ∃ rest, steps.filterMap Step.told = plan.issues.flatMap Issue.told ++
      (Metric.plan plan.desired plan.managed plan.operations.length).map .metric ++
      (outcomes.flatMap OperationOutcome.told ++ rest) ∧
    ∀ note ∈ rest, note.IsAside

/-- Some notes belong to some issues and to some outcomes, one to each, and to nothing else. -/
structure Marks (view : Note → Bool) (ofIssue : Issue → Bool) (ofOutcome : OperationOutcome → Bool) : Prop where
  kept : ∀ note, note.gist.any view = view note
  issue : ∀ issue : Issue, issue.told.countP view = (ofIssue issue).toNat
  gauge : ∀ name value, view (.metric (.gauge name value)) = false
  outcome : ∀ outcome : OperationOutcome, outcome.told.countP view = (ofOutcome outcome).toNat
  aside : ∀ note : Note, note.IsAside → view note = false

private theorem countP_flatMap_single {view : β → Bool} {f : α → List β} {kind : α → Bool}
    (each : ∀ item, (f item).countP view = (kind item).toNat) (items : List α) :
    (items.flatMap f).countP view = items.countP kind := by
  induction items with
  | nil => rfl
  | cons item rest ih =>
    rw [List.flatMap_cons, List.countP_append, ih, each, List.countP_cons, Nat.add_comm]
    cases kind item <;> rfl

private theorem times_told {view : Note → Bool} (kept : ∀ note, note.gist.any view = view note) (steps : List Step) :
    times view steps = (steps.filterMap Step.told).countP view := by
  rw [times, List.countP_filterMap, List.countP_filterMap]
  congr 1
  funext step
  cases step with
  | call request reply => rfl
  | note reported =>
    rw [Step.told, Step.note?, Option.bind_some, Option.map_some, Option.getD_some, ← kept reported]
    cases reported.gist <;> rfl

private theorem Telling.times (telling : Telling plan outcomes steps)
    {view : Note → Bool} {ofIssue : Issue → Bool} {ofOutcome : OperationOutcome → Bool}
    (marks : Marks view ofIssue ofOutcome) :
    times view steps = plan.issues.countP ofIssue + outcomes.countP ofOutcome := by
  obtain ⟨rest, told, aside⟩ := telling
  have gauges : ((Metric.plan plan.desired plan.managed plan.operations.length).map Note.metric).countP view = 0 := by
    simp [Metric.plan, marks.gauge]
  have silent : rest.countP view = 0 := by
    apply List.countP_eq_zero.mpr
    intro note member
    rw [marks.aside note (aside note member)]
    exact Bool.false_ne_true
  rw [times_told marks.kept, told, List.countP_append, List.countP_append, List.countP_append, gauges, silent,
    countP_flatMap_single marks.issue, countP_flatMap_single marks.outcome]
  rfl

private theorem marks_warning : Marks Note.isWarning (fun _ => true) fun _ => false where
  kept := by
    refine Note.any_gist (fun record detail => ?_) fun record => rfl
    apply beq_false_of_ne
    intro warn
    rw [warn] at detail
    exact absurd detail (by decide)
  issue issue := by
    rcases issue with ⟨router, cause⟩ | ⟨router, ⟨pattern, cause⟩ | name⟩ <;> rfl
  gauge _ _ := rfl
  outcome outcome := by
    rcases outcome with ⟨_ | _, _ | _⟩ <;> rfl
  aside note := by
    rintro ⟨record, rfl, calm, -⟩
    exact beq_false_of_ne calm

private theorem OperationOutcome.countP_told (view : Note → Bool) (outcome : OperationOutcome) :
    outcome.told.countP view = (view (.log outcome.record)).toNat +
      (view (.metric (.operation outcome.operation.kind outcome.succeeded))).toNat := by
  simp only [told, List.countP_cons, List.countP_nil]
  cases view (.log outcome.record) <;> cases view (.metric (.operation outcome.operation.kind outcome.succeeded)) <;>
    rfl

private theorem marks_record {level : Log.Level} {message : String} {ofOutcome : OperationOutcome → Bool}
    (heard : Log.Level.info.rank ≤ level.rank) (calm : level ≠ .warn)
    (known : message ∈ ["Created alias", "Deleted alias", "Operation failed"])
    (each : ∀ outcome : OperationOutcome,
      (outcome.record.level == level && outcome.record.message == message) = ofOutcome outcome) :
    Marks (Note.isRecord level message) (fun _ => false) ofOutcome where
  kept := by
    refine Note.any_gist (fun record detail => ?_) fun record => rfl
    have other : (record.level == level) = false := by
      apply beq_false_of_ne
      intro same
      rw [same] at detail
      omega
    rw [Note.isRecord, other, Bool.false_and]
  issue issue := by
    have other : (Log.Level.warn == level) = false := beq_false_of_ne calm.symm
    rcases issue with ⟨router, cause⟩ | ⟨router, ⟨pattern, cause⟩ | name⟩ <;>
      simp [Issue.told, Issue.warning, Log.Record.warn, Note.isRecord, other]
  gauge _ _ := rfl
  outcome outcome := by
    rw [outcome.countP_told, ← each outcome]
    rfl
  aside note := by
    rintro ⟨record, rfl, -, other⟩
    have differs : (record.message == message) = false := by
      apply beq_false_of_ne
      intro same
      rw [same] at other
      exact other known
    rw [Note.isRecord, differs, Bool.and_false]

private theorem marks_counter {name : String} {labels : List (String × String)} {ofIssue : Issue → Bool}
    {ofOutcome : OperationOutcome → Bool}
    (issue : ∀ issue : Issue, issue.told.countP (· == .metric (.count name labels)) = (ofIssue issue).toNat)
    (outcome : ∀ outcome : OperationOutcome,
      (Note.metric (.operation outcome.operation.kind outcome.succeeded) == .metric (.count name labels)) =
        ofOutcome outcome) :
    Marks (· == .metric (.count name labels)) ofIssue ofOutcome where
  kept := Note.any_gist (fun _ _ => rfl) fun _ => rfl
  issue := issue
  gauge _ _ := rfl
  outcome one := by
    rw [one.countP_told, outcome one]
    exact Nat.zero_add _
  aside note := by
    rintro ⟨record, rfl, -, -⟩
    rfl

private theorem marks_ruleFailure : Marks (· == .metric .ruleParseFailure) Issue.isRule fun _ => false := by
  refine marks_counter (fun issue => ?_) fun outcome => ?_
  · rcases issue with ⟨router, cause⟩ | ⟨router, ⟨pattern, cause⟩ | name⟩ <;> rfl
  · cases outcome.operation.kind <;> cases outcome.succeeded <;> rfl

private theorem marks_generationFailure :
    Marks (· == .metric .generationFailure) Issue.isGeneration fun _ => false := by
  refine marks_counter (fun issue => ?_) fun outcome => ?_
  · rcases issue with ⟨router, cause⟩ | ⟨router, ⟨pattern, cause⟩ | name⟩ <;> rfl
  · cases outcome.operation.kind <;> cases outcome.succeeded <;> rfl

private theorem marks_operation (kind : OperationKind) (success : Bool) :
    Marks (· == .metric (.operation kind success)) (fun _ => false)
      fun outcome => outcome.operation.kind == kind && outcome.succeeded == success := by
  refine marks_counter (fun issue => ?_) fun outcome => ?_
  · rcases issue with ⟨router, cause⟩ | ⟨router, ⟨pattern, cause⟩ | name⟩ <;> rfl
  · cases kind <;> cases success <;> cases outcome.operation.kind <;> cases outcome.succeeded <;> rfl

private theorem marks_created : Marks (Note.isRecord .info "Created alias") (fun _ => false)
    fun outcome => outcome.operation.kind == .create && outcome.succeeded := by
  refine marks_record (by decide) nofun (by simp) fun outcome => ?_
  rcases outcome with ⟨_ | _, _ | _⟩ <;> rfl

private theorem marks_deleted : Marks (Note.isRecord .info "Deleted alias") (fun _ => false)
    fun outcome => outcome.operation.kind == .delete && outcome.succeeded := by
  refine marks_record (by decide) nofun (by simp) fun outcome => ?_
  rcases outcome with ⟨_ | _, _ | _⟩ <;> rfl

private theorem marks_failed : Marks (Note.isRecord .error "Operation failed") (fun _ => false)
    fun outcome => !outcome.succeeded := by
  refine marks_record (by decide) nofun (by simp) fun outcome => ?_
  rcases outcome with ⟨_ | _, _ | _⟩ <;> rfl

/-- What is read off the notes of a telling, if outcomes and asides do not bear on it. -/
theorem Telling.filterMap (telling : Telling plan outcomes steps)
    (view : Note → Option α) (outcome : ∀ outcome : OperationOutcome, outcome.told.filterMap view = [])
    (aside : ∀ note : Note, note.IsAside → view note = none) :
    (steps.filterMap Step.told).filterMap view = plan.issues.flatMap (fun issue => issue.told.filterMap view) ++
      (Metric.plan plan.desired plan.managed plan.operations.length).filterMap fun metric => view (.metric metric) := by
  obtain ⟨rest, told, asides⟩ := telling
  have silent : rest.filterMap view = [] := by
    apply List.filterMap_eq_nil_iff.mpr
    intro note member
    exact aside note (asides note member)
  have done : (outcomes.flatMap OperationOutcome.told).filterMap view = [] := by
    rw [List.filterMap_flatMap]
    exact List.flatMap_eq_nil_iff.mpr fun one _ => outcome one
  rw [told, List.filterMap_append, List.filterMap_append, List.filterMap_append, silent, done, List.filterMap_flatMap,
    List.filterMap_map, List.append_nil, List.append_nil]
  rfl

private theorem gauge_told (name : String) (steps : List Step) :
    gauge name steps = ((steps.filterMap Step.told).filterMap (Note.sets name)).getLast? := by
  rw [gauge, List.filterMap_filterMap, List.filterMap_filterMap]
  congr 2
  funext step
  cases step with
  | call request reply => rfl
  | note reported =>
    cases reported with
    | metric measured => rfl
    | log record =>
      change none = Option.bind (if _ then _ else _) _
      split <;> rfl

private theorem Telling.gauge (telling : Telling plan outcomes steps) (name : String) :
    gauge name steps =
      ((Metric.plan plan.desired plan.managed plan.operations.length).filterMap fun metric =>
        Note.sets name (.metric metric)).getLast? := by
  have issues : plan.issues.flatMap (fun issue => issue.told.filterMap (Note.sets name)) = [] := by
    apply List.flatMap_eq_nil_iff.mpr
    intro issue _
    rcases issue with ⟨router, cause⟩ | ⟨router, ⟨pattern, cause⟩ | name⟩ <;> rfl
  rw [gauge_told, telling.filterMap _ (fun outcome => rfl), issues, List.nil_append]
  rintro note ⟨record, rfl, -⟩
  rfl

private theorem Telling.warnings (telling : Telling plan outcomes steps) :
    warnings steps = plan.issues.map Issue.warning := by
  have issues (issue : Issue) : issue.told.filterMap Note.warning? = [issue.warning] := by
    rcases issue with ⟨router, cause⟩ | ⟨router, ⟨pattern, cause⟩ | name⟩ <;> rfl
  have sizes : (Metric.plan plan.desired plan.managed plan.operations.length).filterMap
      (fun metric => Note.warning? (.metric metric)) = [] := rfl
  rw [Sync.warnings, telling.filterMap, sizes, List.append_nil]
  · simp only [issues]
    exact List.map_eq_flatMap.symm
  · intro outcome
    rcases outcome with ⟨_ | _, _ | _⟩ <;> rfl
  · rintro note ⟨record, rfl, calm, -⟩
    exact if_neg calm

/-- The counters, the gauges and the warnings say what the plan has left out and how large it is. -/
structure Plan.Booked (plan : Plan) (steps : List Step) : Prop where
  ruleFailures : growth .ruleParseFailure steps = plan.issues.countP Issue.isRule
  generationFailures : growth .generationFailure steps = plan.issues.countP Issue.isGeneration
  warned : times Note.isWarning steps = plan.issues.length
  warnings : warnings steps = plan.issues.map Issue.warning
  desired : gauge "sync_desired_aliases" steps = some plan.desired
  managed : gauge "sync_managed_aliases" steps = some plan.managed
  planned : gauge "sync_plan_operations" steps = some plan.operations.length

/-- The counters and the events say what became of each operation. -/
structure OutcomesBooked (outcomes : List OperationOutcome) (steps : List Step) : Prop where
  counted : ∀ kind success, growth (.operation kind success) steps =
    outcomes.countP fun outcome => outcome.operation.kind == kind && outcome.succeeded == success
  created : times (Note.isRecord .info "Created alias") steps = Execution.successes outcomes .create
  deleted : times (Note.isRecord .info "Deleted alias") steps = Execution.successes outcomes .delete
  failed : times (Note.isRecord .error "Operation failed") steps = outcomes.countP fun outcome => !outcome.succeeded

/-- The figures of a summary are those of the counters, the gauges and the warnings. -/
structure Summary.Booked (summary : Summary) (steps : List Step) : Prop where
  desired : gauge "sync_desired_aliases" steps = some summary.desired
  managed : gauge "sync_managed_aliases" steps = some summary.managed
  planned : gauge "sync_plan_operations" steps = some summary.planned
  skipped : times Note.isWarning steps = summary.skipped
  created : growth (.operation .create true) steps = summary.created
  deleted : growth (.operation .delete true) steps = summary.deleted

private theorem Telling.planBooked (telling : Telling plan outcomes steps) : plan.Booked steps where
  ruleFailures := by
    rw [growth, telling.times marks_ruleFailure, List.countP_false]
    rfl
  generationFailures := by
    rw [growth, telling.times marks_generationFailure, List.countP_false]
    rfl
  warned := by
    rw [telling.times marks_warning, List.countP_false, List.countP_true]
    rfl
  warnings := telling.warnings
  desired := telling.gauge _
  managed := telling.gauge _
  planned := telling.gauge _

private theorem Telling.outcomesBooked (telling : Telling plan outcomes steps) : OutcomesBooked outcomes steps where
  counted kind success := by
    rw [growth, telling.times (marks_operation kind success), List.countP_false]
    exact Nat.zero_add _
  created := by
    rw [telling.times marks_created, List.countP_false]
    exact Nat.zero_add _
  deleted := by
    rw [telling.times marks_deleted, List.countP_false]
    exact Nat.zero_add _
  failed := by
    rw [telling.times marks_failed, List.countP_false]
    exact Nat.zero_add _

private theorem OutcomesBooked.successes (booked : OutcomesBooked outcomes steps) (kind : OperationKind) :
    growth (.operation kind true) steps = Execution.successes outcomes kind := by
  rw [booked.counted, Execution.successes]
  simp only [beq_true]

/-- Every operation is counted once. -/
theorem OutcomesBooked.whole (booked : OutcomesBooked outcomes steps) :
    growth (.operation .create true) steps + growth (.operation .create false) steps +
      (growth (.operation .delete true) steps + growth (.operation .delete false) steps) = outcomes.length := by
  simp only [booked.counted]
  clear booked
  induction outcomes with
  | nil => rfl
  | cons outcome rest ih =>
    simp only [List.countP_cons, List.length_cons]
    cases outcome.operation.kind <;> cases outcome.succeeded <;> simp +decide only [↓reduceIte] <;> omega

private theorem World.Fetch.served {drifts : σ → σ → Prop} {before after : σ} {parent : String}
    {listed : List HostAlias}
    {served : List Router} (fetch : world.Fetch drifts parent before steps (some (.ok (listed, served))) after) :
    Step.call .routers (.ok served) ∈ steps := by
  generalize finished : some (Except.ok (listed, served)) = result at fetch
  cases fetch with
  | interrupted | aliasesFail | routersFail | aliasesOnly | routersOnly => cases finished
  | @routersLast _ _ reply =>
    cases reply <;> cases finished
    exact List.mem_cons_of_mem _ List.mem_cons_self
  | @aliasesLast _ _ reply =>
    cases reply <;> cases finished
    exact List.mem_cons_self

private theorem Telling.summaryBooked (telling : Telling plan outcomes steps) {summary : Summary}
    (same : (Summary.ofPlan plan true).SamePlan summary)
    (created : summary.created = Execution.successes outcomes .create)
    (deleted : summary.deleted = Execution.successes outcomes .delete) :
    summary.skipped = plan.issues.length ∧ summary.Booked steps := by
  have books := telling.planBooked
  have counts := telling.outcomesBooked
  have skipped : plan.issues.length = summary.skipped := same.skipped
  refine ⟨skipped.symm, ?_⟩
  exact {
    desired := books.desired.trans (congrArg some same.desired)
    managed := books.managed.trans (congrArg some same.managed)
    planned := books.planned.trans (congrArg some same.planned)
    skipped := books.warned.trans skipped
    created := (counts.successes .create).trans created.symm
    deleted := (counts.successes .delete).trans deleted.symm }

/-- The steps before a turn acts on its plan tell of the plan. -/
theorem Turn.preparation_told {turn : Turn σ} {ready : Prepared}
    (prepared : (turn.preparation world).result = some (.ok ready)) :
    (turn.preparation world).trace.filterMap Step.told = ready.plan.issues.flatMap Issue.told ++
      (Metric.plan ready.plan.desired ready.plan.managed ready.plan.operations.length).map .metric := by
  have preparing := turn.preparation_course world
  rw [prepared] at preparing
  obtain ⟨_, _, _, _, _, _, fetch, computes, opening⟩ := Planner.prepare_planned preparing
  rw [opening, List.filterMap_cons_none rfl, List.filterMap_append, told_of_calls fetch.calls, List.nil_append,
    plan_told computes]

/-- A plan that is only shown has no outcomes, and a plan that is carried out those of its execution. -/
theorem Turn.telling {turn : Turn σ} {ready : Prepared} {reply : Except CycleError Summary}
    (prepared : (turn.preparation world).result = some (.ok ready))
    (acted : (turn.acting world ready).result = some reply) :
    ∃ outcomes, Telling ready.plan outcomes (turn.run world).trace ∧
      (∀ summary, reply = .ok summary → summary.created = Execution.successes outcomes .create ∧
        summary.deleted = Execution.successes outcomes .delete) ∧
      ((turn.syncer.dryRun = true ∨ ready.plan.operations = []) ∧ outcomes = [] ∨
        ∃ execution, (turn.executing world ready).result = some execution ∧ execution.outcomes = outcomes ∧
          reply = execution.verdict ready.plan ∧
          outcomes.map OperationOutcome.operation = ready.plan.operations) := by
  have acting := turn.acting_course world ready
  rw [acted] at acting
  unfold Telling
  simp only [Turn.trace_of_prepared prepared, List.filterMap_append, Turn.preparation_told prepared]
  by_cases idle : ready.plan.operations = [] ∨ turn.syncer.dryRun = true
  · refine ⟨[], ⟨_, rfl, act_idle_told idle acting⟩, ?_, .inl ⟨idle.symm, rfl⟩⟩
    intro summary success
    obtain ⟨shown, -⟩ := act_idle_course idle acting
    cases shown
    cases success
    exact ⟨rfl, rfl⟩
  · obtain ⟨due, live⟩ := not_or.mp idle
    have live := eq_false_of_ne_true live
    have shown : (turn.acting world ready).trace = (turn.executing world ready).trace := by
      rw [Turn.acting, live, act_of_due due, World.run_map]
      rfl
    obtain ⟨result, -⟩ := Turn.acting_of_due live due
    obtain ⟨execution, executed, rfl⟩ := Option.map_eq_some_iff.mp (result.symm.trans acted)
    have executing := World.free_course_of_result executed
    obtain ⟨_, _, performs, -⟩ := execute_result executing
    obtain ⟨rest, told, aside⟩ := execute_told executing
    refine ⟨execution.outcomes, ⟨rest, ?_, aside⟩, ?_, .inr ⟨execution, executed, rfl, rfl, performs.map_operation⟩⟩
    · rw [shown]
      exact congrArg _ told
    · intro summary success
      have verdict := success
      rw [Execution.verdict, if_pos (Execution.verdict_eq_ok success).1] at verdict
      cases verdict
      exact ⟨rfl, rfl⟩

/-- A cycle that fails before it has a plan reports nothing at all. One that has a plan counts its issues by kind,
warns of each of them in their order, shows the sizes of the plan, and counts and reports the outcome of each operation
that it carries out; its summary says the same. The issues are those of the routers that take part, in the order of the
routers, of the candidates of a router and of the names of a candidate. -/
theorem cycle_books_agree (world : World σ) (turn : Turn σ) {reply : Except CycleError Summary} {later : Syncer}
    (finished : (turn.run world).result = some (reply, later)) :
    let trace := (turn.run world).trace
    (∃ cause, cause.isTransport = true ∧ reply = .error cause ∧ ∀ step ∈ trace, step.isCall = true) ∨
      ∃ ready listed served accounts, (turn.preparation world).result = some (.ok ready) ∧
        Step.call (.aliases ready.parent) (.ok listed) ∈ trace ∧ Step.call .routers (.ok served) ∈ trace ∧
        ready.plan.Booked trace ∧
        AccountedBy turn.syncer.planner.filter served ready.planner.cache ready.plan.issues accounts ∧
        (∀ issue ∈ ready.plan.issues, ∃ router ∈ served,
          turn.syncer.planner.filter.accepts router = true ∧ issue.router = router.name) ∧
        (∀ cause, reply = .error cause → cause.isTransport = false) ∧
        (∀ summary, reply = .ok summary → summary.skipped = ready.plan.issues.length ∧ summary.Booked trace) ∧
        ((turn.syncer.dryRun = true ∨ ready.plan.operations = []) ∧ OutcomesBooked [] trace ∨
          ∃ execution, (turn.executing world ready).result = some execution ∧
            reply = execution.verdict ready.plan ∧ OutcomesBooked execution.outcomes trace ∧
            execution.outcomes.map OperationOutcome.operation = ready.plan.operations ∧
            growth (.operation .create true) trace + growth (.operation .create false) trace +
              (growth (.operation .delete true) trace + growth (.operation .delete false) trace) =
                ready.plan.operations.length) := by
  intro trace
  cases turn.parts world with
  | interrupted cut whole =>
    rw [whole] at finished
    cases finished
  | aborted cause failed whole =>
    have preparing := turn.preparation_course world
    have course := turn.free_course world
    rw [failed] at preparing
    rw [whole] at finished
    cases finished
    have transport := Planner.prepare_error preparing
    refine .inl ⟨cause, transport, rfl, fun step seen => ?_⟩
    rw [show (turn.run world).result = some (.error cause, turn.syncer) by rw [whole]] at course
    obtain ⟨-, -, reads⟩ | ⟨partly, -⟩ := course.failed
    · have read := reads step seen
      cases step with
      | call request answer => rfl
      | note note => cases read
    · cases transport.symm.trans partly
  | planned ready prepared whole =>
    have preparing := turn.preparation_course world
    have acting := turn.acting_course world ready
    rw [whole] at finished
    obtain ⟨_, acted, same⟩ := Option.map_eq_some_iff.mp finished
    cases same
    rw [prepared] at preparing
    rw [acted] at acting
    obtain ⟨_, fetching, listed, served, _, planning, fetch, computes, opening⟩ := Planner.prepare_planned preparing
    obtain ⟨accounts, accounted⟩ := Planner.plan_accounts computes
    obtain ⟨outcomes, telling, achieved, performed⟩ := Turn.telling prepared acted
    have fetched {step : Step} (seen : step ∈ fetching) : step ∈ trace := by
      change step ∈ (turn.run world).trace
      rw [Turn.trace_of_prepared prepared, opening]
      exact List.mem_append_left _ (List.mem_cons_of_mem _ (List.mem_append_left _ seen))
    refine .inr ⟨ready, listed, served, accounts, prepared, fetched fetch.both.1, fetched fetch.served,
      telling.planBooked, accounted, fun issue member => accounted.accepted member, ?_, ?_, ?_⟩
    · rintro cause rfl
      exact (act_failed acting).1
    · rintro summary rfl
      obtain ⟨created, deleted⟩ := achieved summary rfl
      exact telling.summaryBooked (act_ok acting) created deleted
    · have booked := telling.outcomesBooked
      obtain ⟨idle, rfl⟩ | ⟨execution, executed, rfl, verdict, operations⟩ := performed
      · exact .inl ⟨idle, booked⟩
      · refine .inr ⟨execution, executed, verdict, booked, operations, ?_⟩
        rw [booked.whole, ← operations, List.length_map]

/-- One rule cannot be read, one pattern fails, and one name of another pattern has no dot; the router that does not take
part cannot be read either, and that is no issue. The deletion succeeds and the creation is refused. -/
theorem cycle_books_agree_rehearsed :
    let routers : List Router :=
      [⟨"hidden", "file", [], "Host("⟩, ⟨"broken", "file", [], "Host("⟩, ⟨"failing", "file", [], "HostRegexp(`c.*`)"⟩,
       ⟨"pattern", "file", [], "HostRegexp(`[a-b].x`)"⟩]
    let stored : List HostAlias := [⟨some "1", "old", "b", "managed"⟩, ⟨some "2", "own", "b", "other"⟩]
    let scene : Rehearsal.Scene :=
      { Rehearsal.Scene.calm "dns.lan" routers stored [("[a-b].x", .names ["dotless", "b.x"] true)] with
        failKeys := ["b.x"] }
    let turn : Turn Rehearsal.Scene :=
      ⟨⟨⟨⟨[], [], [], ["hidden"]⟩, "managed", 10, .empty⟩, "dns.lan", false⟩, none, 0, scene⟩
    let trace := (turn.run Rehearsal.world).trace
    ∃ later ready execution, (turn.run Rehearsal.world).result = some (.error (.incomplete 1 2), later) ∧
      (turn.preparation Rehearsal.world).result = some (.ok ready) ∧
      ready.plan.issues.map Issue.router = ["broken", "failing", "pattern"] ∧
      times Note.isWarning trace = ready.plan.issues.length ∧ growth .generationFailure trace = 1 ∧
      (turn.executing Rehearsal.world ready).result = some execution ∧
      growth (.operation .delete true) trace = execution.deleted ∧ growth (.operation .create false) trace = 1 := by
  intro routers stored scene turn trace
  have ends : (turn.run Rehearsal.world).result.map (fun answer => Ending.ofResult answer.1) =
      some (.failed (.incomplete 1 2)) := by decide +kernel
  have shown : (turn.preparation Rehearsal.world).result.map (fun answer =>
      (answer.toOption.map fun ready => (ready.plan.issues.map Issue.router, ready.plan.operations.length))) =
      some (some (["broken", "failing", "pattern"], 2)) := by decide +kernel
  have counts : growth .generationFailure trace = 1 ∧ growth (.operation .create false) trace = 1 := by decide +kernel
  obtain ⟨⟨reply, later⟩, finished⟩ := Rehearsal.world.run_completes turn.syncer.cycle 0 scene
  have finished : (turn.run Rehearsal.world).result = some (reply, later) := finished
  rw [finished] at ends
  cases reply with
  | ok summary => cases ends
  | error cause =>
    cases ends
    obtain ⟨_, transport, same, -⟩ | ⟨ready, _, _, _, prepared, -, -, booked, -, -, -, -, executed⟩ :=
      cycle_books_agree Rehearsal.world turn finished
    · cases same
      cases transport
    · rw [prepared] at shown
      obtain ⟨issues, planned⟩ := Prod.mk.inj (Option.some.inj (Option.some.inj shown))
      obtain ⟨impossible | impossible, -⟩ | ⟨execution, executed, -, outcomes, -⟩ := executed
      · cases impossible
      · rw [impossible] at planned
        cases planned
      · exact ⟨later, ready, execution, finished, prepared, issues, booked.warned, counts.1, executed,
          outcomes.successes .delete, counts.2⟩

end AliasSync.Sync
