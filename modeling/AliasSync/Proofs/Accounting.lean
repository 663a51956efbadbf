import AliasSync.Proofs.PlannedTurn

/-! The figures of a cycle. Every planned operation is a creation, a deletion or a refusal; a failed order to apply
comes only after a success, so there are never more failures than operations; and what was created and deleted accounts
for the difference between what was managed and what is desired. -/

namespace AliasSync

namespace AliasTable

/-- As many keys of the one table are in the other as the other way round. -/
theorem countP_contains (table other : AliasTable) :
    table.keys.countP other.contains = other.keys.countP table.contains := by
  rw [List.countP_eq_length_filter, List.countP_eq_length_filter]
  apply List.Perm.length_eq
  apply (List.perm_ext_iff_of_nodup (Std.TreeMap.nodup_keys.filter _) (Std.TreeMap.nodup_keys.filter _)).mpr
  intro key
  simp only [List.mem_filter, Std.TreeMap.mem_keys, Std.TreeMap.contains_iff_mem]
  exact And.comm

private theorem size_eq (table other : AliasTable) :
    table.size = table.keys.countP other.contains + (table.missingFrom other).length := by
  have missing : (table.missingFrom other).length = table.keys.countP fun key => ¬ other.contains key := by
    rw [missingFrom, List.length_map, ← List.countP_eq_length_filter, ← Std.TreeMap.map_fst_toList_eq_keys,
      List.countP_map]
    congr 1
    funext pair
    change (!other.contains pair.1) = decide (¬ other.contains pair.1 = true)
    cases other.contains pair.1 <;> rfl
  rw [missing, ← Std.TreeMap.length_keys]
  exact List.length_eq_countP_add_countP _

/-- What is missing on each side makes up for the difference of the sizes. -/
theorem length_missingFrom (table other : AliasTable) :
    (table.missingFrom other).length + other.size = (other.missingFrom table).length + table.size := by
  have shared := countP_contains table other
  have first := size_eq table other
  have second := size_eq other table
  omega

end AliasTable

namespace Sync

variable {σ : Type} {world : World σ} {drifts : σ → σ → Prop} {before after : σ} {steps : List Step}
  {parent : String} {plan : Plan} {planner : Planner} {operations : List Operation} {outcomes : List OperationOutcome}

namespace Step

def achieves (kind : OperationKind) (step : Step) : Bool := step.accomplished.any (·.kind == kind)

def refuses (step : Step) : Bool := step.failed.isSome

def misapplies : Step → Bool
  | .call .apply (.error _) => true
  | _ => false

end Step

/-- The figures of a cycle, as its steps show them. -/
structure Tally where
  created : Nat
  deleted : Nat
  refused : Nat
  unapplied : Nat
  deriving DecidableEq, Repr

namespace Tally

def ofSteps (steps : List Step) : Tally where
  created := steps.countP (Step.achieves .create)
  deleted := steps.countP (Step.achieves .delete)
  refused := steps.countP Step.refuses
  unapplied := steps.countP Step.misapplies

def failures (tally : Tally) : Nat := tally.refused + tally.unapplied

/-- The figures of a plan with so many operations and of the reply of the cycle fit together. -/
structure Explains (tally : Tally) (planned : Nat) (reply : Except CycleError Summary) : Prop where
  whole : planned = tally.created + tally.deleted + tally.refused
  once : tally.unapplied ≤ 1
  bounded : tally.failures ≤ planned
  success : (∃ summary, reply = .ok summary) ↔ tally.failures = 0
  figures : ∀ summary, reply = .ok summary → summary.planned = planned ∧ summary.created = tally.created ∧
    summary.deleted = tally.deleted ∧ summary.failed = 0
  partly : ∀ cause, reply = .error cause → cause = .incomplete tally.failures planned ∧ 1 ≤ tally.failures

/-- The report on an execution tells the figures. -/
structure ToldBy (tally : Tally) (execution : Execution) : Prop where
  created : execution.created = tally.created
  deleted : execution.deleted = tally.deleted
  refused : execution.failedOperations = tally.refused
  unapplied : execution.applyFailed.toNat = tally.unapplied

private theorem ToldBy.failed {tally : Tally} {execution : Execution} (told : tally.ToldBy execution) :
    execution.failed = tally.failures := by
  rw [Execution.failed, told.refused, told.unapplied, failures]

/-- An order to apply counts only if it fails. -/
theorem ofSteps_apply (steps : List Step) (reply : Request.apply.Reply) :
    ofSteps (steps ++ [.call .apply reply]) =
      { ofSteps steps with unapplied := (ofSteps steps).unapplied + if reply.toBool then 0 else 1 } := by
  have idle (kind : OperationKind) : (Step.call .apply reply).achieves kind = false := rfl
  have granted : (Step.call .apply reply).refuses = false := rfl
  have shown : (Step.call .apply reply).misapplies = !reply.toBool := by cases reply <;> rfl
  simp only [ofSteps, List.countP_append, List.countP_singleton, idle, granted, shown]
  cases reply <;> rfl

/-- What only reads does not count. -/
theorem ofSteps_append_of_readOnly {first : List Step} (readOnly : ReadOnly first) (last : List Step) :
    ofSteps (first ++ last) = ofSteps last := by
  have idle (view : Step → Bool) (silent : ∀ step ∈ first, view step = false) :
      (first ++ last).countP view = last.countP view := by
    rw [List.countP_append, List.countP_eq_zero.mpr, Nat.zero_add]
    intro step member seen
    cases seen.symm.trans (silent step member)
  have reading (step : Step) (member : step ∈ first) :
      (∀ kind, step.achieves kind = false) ∧ step.refuses = false ∧ step.misapplies = false := by
    cases step with
    | note note => exact ⟨fun _ => rfl, rfl, rfl⟩
    | call request reply =>
      have reads := readOnly request reply member
      cases request with
      | create | delete | apply => cases reads
      | lookup | aliases | routers | generate => exact ⟨fun _ => rfl, rfl, rfl⟩
  simp only [ofSteps]
  rw [idle _ fun step member => (reading step member).1 _, idle _ fun step member => (reading step member).1 _,
    idle _ fun step member => (reading step member).2.1, idle _ fun step member => (reading step member).2.2]

end Tally

/-- The step in which an operation is ordered shows its outcome. -/
theorem order_shown (parent : String) (operation : Operation) (reply : (operation.request parent).Reply) :
    let step := Step.call (operation.request parent) reply
    let outcome : OperationOutcome := ⟨operation, operation.verdict parent reply⟩
    (∀ kind, (outcome.operation.kind == kind && outcome.succeeded) = step.achieves kind) ∧
      (!outcome.succeeded) = step.refuses ∧ step.misapplies = false ∧
      (if step.achieves .create then 1 else 0) + (if step.achieves .delete then 1 else 0) +
        (if step.refuses then 1 else 0) = 1 := by
  cases operation <;> cases reply
  all_goals
    refine ⟨?_, rfl, rfl, rfl⟩
    intro kind
    cases kind <;> rfl

/-- The outcomes of a plan are counted as its calls show them. -/
theorem Performs.tally {calls : List Step}
    (performs : Performs world drifts parent operations before calls outcomes after) :
    let tally := Tally.ofSteps calls
    Execution.successes outcomes .create = tally.created ∧ Execution.successes outcomes .delete = tally.deleted ∧
      (outcomes.countP fun outcome => !outcome.succeeded) = tally.refused ∧ tally.unapplied = 0 ∧
      operations.length = tally.created + tally.deleted + tally.refused := by
  induction performs with
  | nil => exact ⟨rfl, rfl, rfl, rfl, rfl⟩
  | @cons operation rest before reply middle calls outcomes after reacts later ih =>
    obtain ⟨created, deleted, refused, applied, whole⟩ := ih
    obtain ⟨achieved, failed, unapplied, single⟩ := order_shown parent operation reply
    simp only [Tally.ofSteps, Execution.successes, List.countP_cons, List.length_cons, achieved, failed,
      unapplied] at created deleted refused applied whole ⊢
    refine ⟨by rw [created], by rw [deleted], by rw [refused], applied, ?_⟩
    omega

/-- An order to apply that fails comes after an operation that succeeded. -/
theorem execute_tally {execution : Execution}
    (course : world.Course drifts (execute parent operations) before steps (some execution) after) :
    let tally := Tally.ofSteps (steps.filter Step.isCall)
    tally.ToldBy execution ∧ operations.length = tally.created + tally.deleted + tally.refused ∧
      (tally.unapplied = 0 ∨ tally.unapplied = 1 ∧ 0 < tally.created + tally.deleted) := by
  obtain ⟨calls, middle, performs, ending⟩ := execute_result course
  obtain ⟨created, deleted, refused, unapplied, whole⟩ := performs.tally
  obtain ⟨-, none, called, -⟩ | ⟨⟨outcome, member, succeeded⟩, reply, -, applied, called⟩ := ending
  · rw [called]
    refine ⟨⟨created, deleted, refused, ?_⟩, whole, .inl unapplied⟩
    rw [Execution.applyFailed, none, unapplied]
    rfl
  · have counted : 0 < (Tally.ofSteps calls).created + (Tally.ofSteps calls).deleted := by
      rw [← created, ← deleted]
      apply Nat.pos_of_ne_zero
      intro idle
      rw [Execution.successes_eq_zero.mp idle outcome member] at succeeded
      cases succeeded
    rw [called, Tally.ofSteps_apply]
    refine ⟨⟨created, deleted, refused, ?_⟩, whole, ?_⟩
    · rw [Execution.applyFailed, applied, unapplied]
      cases reply <;> rfl
    · dsimp only
      rw [unapplied]
      cases reply with
      | ok done => exact .inl rfl
      | error cause => exact .inr ⟨rfl, counted⟩

/-- To act on a plan comes to a reply that its calls explain. -/
theorem act_explains {reply : Except CycleError Summary}
    (course : world.Course drifts (act parent false plan) before steps (some reply) after) :
    (Tally.ofSteps (steps.filter Step.isCall)).Explains plan.operations.length reply := by
  by_cases idle : plan.operations = []
  · obtain ⟨same, silent, -⟩ := act_idle_course (.inl idle) course
    cases same
    rw [silent, idle]
    refine ⟨rfl, Nat.zero_le 1, Nat.le_refl 0, iff_of_true ⟨_, rfl⟩ rfl, ?_, ?_⟩
    · intro summary same
      cases same
      exact ⟨congrArg List.length idle, rfl, rfl, rfl⟩
    · intro cause impossible
      cases impossible
  · rw [act_of_due idle] at course
    obtain ⟨execution, first, _, _, rfl, executing, rfl, finished, -⟩ := World.course_bind_some.mp course
    cases finished
    rw [List.append_nil]
    obtain ⟨told, whole, applied⟩ := execute_tally executing
    have failed := told.failed
    generalize Tally.ofSteps (first.filter Step.isCall) = tally at *
    -- an order to apply that failed is made up for by the success that it comes after
    have bounded : tally.failures ≤ plan.operations.length := by
      rw [Tally.failures]
      omega
    have once : tally.unapplied ≤ 1 := by omega
    by_cases none : tally.failures = 0
    · have verdict : execution.verdict plan = .ok ((Summary.ofPlan plan false).addExecution execution) := by
        rw [Execution.verdict, Execution.isSuccess, failed, none]
        rfl
      rw [verdict]
      refine ⟨whole, once, bounded, iff_of_true ⟨_, rfl⟩ none, ?_, ?_⟩
      · intro summary same
        cases same
        exact ⟨rfl, told.created, told.deleted, failed.trans none⟩
      · intro cause impossible
        cases impossible
    · have verdict : execution.verdict plan = .error (.incomplete tally.failures plan.operations.length) := by
        rw [Execution.verdict, Execution.isSuccess, failed]
        exact if_neg fun same => none (beq_iff_eq.mp same)
      rw [verdict]
      refine ⟨whole, once, bounded, iff_of_false ?_ none, ?_, ?_⟩
      · rintro ⟨summary, impossible⟩
        cases impossible
      · intro summary impossible
        cases impossible
      · intro cause same
        cases same
        exact ⟨rfl, Nat.pos_of_ne_zero none⟩

private theorem countP_diff (desired current : AliasTable) :
    (diff desired current).countP (·.kind == .create) = (desired.missingFrom current).length ∧
      (diff desired current).countP (·.kind == .delete) = (current.missingFrom desired).length := by
  have sorted (aliases : List HostAlias) : (byFoldedKey aliases).length = aliases.length :=
    (byFoldedKey_perm aliases).length_eq
  constructor
  all_goals
    rw [diff, List.countP_append, List.countP_map, List.countP_map]
    simp [Function.comp_def, Operation.kind, sorted]

private theorem Planner.plan_balances {routers : List Router} {aliases : List HostAlias} {later : Planner}
    (course : world.Course drifts (planner.plan routers aliases) before steps (some (plan, later)) after) :
    plan.operations.countP (·.kind == .create) + plan.managed =
      plan.operations.countP (·.kind == .delete) + plan.desired := by
  simp only [Planner.plan, Program.bind_eq, World.course_bind_some] at course
  obtain ⟨harvest, first, _, middle, -, harvesting, _, _, _, _, -, -, -, finished, -⟩ := course
  cases finished
  obtain ⟨created, deleted⟩ := countP_diff harvest.desired (planner.managed aliases)
  rw [created, deleted]
  exact AliasTable.length_missingFrom ..

/-- A live cycle that succeeds has done what it planned. -/
theorem act_accomplishes {summary : Summary}
    (course : world.Course drifts (act parent false plan) before steps (some (.ok summary)) after) :
    summary.created = plan.operations.countP (·.kind == .create) ∧
      summary.deleted = plan.operations.countP (·.kind == .delete) := by
  by_cases idle : plan.operations = []
  · obtain ⟨same, -⟩ := act_idle_course (.inl idle) course
    cases same
    rw [idle]
    exact ⟨rfl, rfl⟩
  · rw [act_of_due idle] at course
    obtain ⟨execution, _, _, _, -, executing, -, finished, -⟩ := World.course_bind_some.mp course
    have verdict := (Option.some.inj finished).symm
    have success := (Execution.verdict_eq_ok verdict).1
    rw [Execution.verdict, if_pos success] at verdict
    cases verdict
    obtain ⟨calls, middle, performs, -⟩ := execute_result executing
    have counted (kind : OperationKind) :
        Execution.successes execution.outcomes kind = plan.operations.countP (·.kind == kind) := by
      rw [← performs.map_operation, List.countP_map]
      apply List.countP_congr
      intro outcome member
      have succeeded := (Execution.isSuccess_iff.mp success).1 outcome member
      rw [succeeded, Bool.and_true]
      rfl
    exact ⟨counted .create, counted .delete⟩

def Turn.executing (world : World σ) (turn : Turn σ) (ready : Prepared) : Run σ Execution :=
  let opening := turn.preparation world
  world.run turn.stop (execute ready.parent ready.plan.operations) opening.ended opening.state

theorem Turn.acting_of_due {turn : Turn σ} {ready : Prepared} (live : turn.syncer.dryRun = false)
    (due : ready.plan.operations ≠ []) :
    (turn.acting world ready).result = (turn.executing world ready).result.map (·.verdict ready.plan) ∧
      (turn.acting world ready).calls = (turn.executing world ready).calls := by
  rw [acting, live, act_of_due due, World.run_map]
  exact ⟨rfl, rfl⟩

/-- A live cycle that comes to its plan comes to a reply that its calls explain: every planned operation is created,
deleted or refused, and the failures, an order to apply among them, are what the error tells; they are never more than
what was planned. The report on the execution tells the same. If a live cycle succeeds, what it has created and deleted
is what lies between the managed and the desired aliases. -/
theorem figures_add_up (world : World σ) (turn : Turn σ) (live : turn.syncer.dryRun = false)
    {reply : Except CycleError Summary} {later : Syncer} (finished : (turn.run world).result = some (reply, later)) :
    let tally := Tally.ofSteps (turn.calls world)
    (∀ ready, (turn.preparation world).result = some (.ok ready) →
      tally.Explains ready.plan.operations.length reply ∧
        (ready.plan.operations ≠ [] → ∃ execution, (turn.executing world ready).result = some execution ∧
          tally.ToldBy execution ∧ reply = execution.verdict ready.plan)) ∧
      ∀ summary, reply = .ok summary → summary.created + summary.managed = summary.deleted + summary.desired := by
  cases turn.parts world with
  | interrupted cut whole =>
    rw [whole] at finished
    cases finished
  | aborted cause failed whole =>
    rw [whole] at finished
    cases finished
    refine ⟨?_, nofun⟩
    intro ready prepared
    cases failed.symm.trans prepared
  | planned ready prepared whole =>
    have preparing := turn.preparation_course world
    have acting := turn.acting_course world ready
    rw [whole] at finished
    obtain ⟨_, acted, same⟩ := Option.map_eq_some_iff.mp finished
    cases same
    have reads : ReadOnly (turn.preparation world).calls := by
      intro request answer member
      exact preparing.call_allowed (Planner.prepare_uses ..) (List.mem_filter.mp member).1
    constructor
    · intro again preparedAgain
      cases prepared.symm.trans preparedAgain
      rw [Turn.calls_of_prepared prepared, Tally.ofSteps_append_of_readOnly reads]
      constructor
      · rw [acted, live] at acting
        exact act_explains acting
      · intro due
        obtain ⟨result, calls⟩ := Turn.acting_of_due live due
        obtain ⟨execution, executed, rfl⟩ := Option.map_eq_some_iff.mp (result.symm.trans acted)
        rw [calls]
        exact ⟨execution, executed, (execute_tally (World.free_course_of_result executed)).1, rfl⟩
    · intro summary success
      rw [acted, live, success] at acting
      rw [prepared] at preparing
      obtain ⟨created, deleted⟩ := act_accomplishes acting
      obtain ⟨desired, managed, -, -⟩ := act_ok acting
      obtain ⟨_, _, listed, served, _, _, -, computes, -⟩ := Planner.prepare_planned preparing
      rw [created, deleted, ← desired, ← managed]
      exact Planner.plan_balances computes

/-- The creation is refused, and after the deletion the changes are not applied: as many failures as operations. -/
theorem figures_add_up_rehearsed :
    let routers : List Router := [⟨"plain", "file", [], "Host(`a.b`)"⟩]
    let stored : List HostAlias := [⟨some "1", "old", "b", "managed"⟩, ⟨some "2", "own", "b", "other"⟩]
    let scene : Rehearsal.Scene := { Rehearsal.Scene.calm "dns.lan" routers stored [] with
      faults := ⟨false, false, false, true⟩
      failKeys := ["a.b"] }
    let turn : Turn Rehearsal.Scene :=
      ⟨⟨⟨⟨[], [], [], []⟩, "managed", 10, .empty⟩, "dns.lan", false⟩, none, 0, scene⟩
    ∃ later, (turn.run Rehearsal.world).result = some (.error (.incomplete 2 2), later) := by
  intro routers stored scene turn
  have comes : ((turn.preparation Rehearsal.world).result.map Except.isOk) = some true := by decide +kernel
  have shown : Tally.ofSteps (turn.calls Rehearsal.world) = ⟨0, 1, 1, 1⟩ := by decide +kernel
  obtain ⟨answer, prepared, fine⟩ := Option.map_eq_some_iff.mp comes
  cases answer with
  | error cause => cases fine
  | ok ready =>
    obtain ⟨⟨reply, later⟩, finished⟩ := Rehearsal.world.run_completes turn.syncer.cycle 0 scene
    obtain ⟨explains, -⟩ := (figures_add_up Rehearsal.world turn rfl finished).1 ready prepared
    rw [shown] at explains
    have planned : ready.plan.operations.length = 2 := explains.whole
    refine ⟨later, ?_⟩
    cases reply with
    | ok summary => cases explains.success.mp ⟨summary, rfl⟩
    | error cause =>
      obtain ⟨rfl, -⟩ := explains.partly cause rfl
      rw [planned] at finished
      exact finished

end Sync

end AliasSync
