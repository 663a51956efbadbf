import AliasSync.Proofs.Course
import AliasSync.Sync.Execution

/-! Carrying out a plan asks one request for each operation, in the order of the plan, and one to apply
the changes when any operation succeeded. -/

namespace AliasSync

namespace Operation

def request (parent : String) : Operation → Sync.Request
  | create entry => .create entry parent
  | delete entry => .delete entry

/-- What the reply to an operation says about its success. -/
def verdict (parent : String) : (operation : Operation) → (operation.request parent).Reply →
    Except StoreError Unit
  | create _, reply => Except.map (fun _ => ()) reply
  | delete _, reply => reply

end Operation

namespace Sync

variable {σ : Type} {world : World σ} {drifts : σ → σ → Prop} {before after : σ} {steps : List Step}
  {parent : String} {operations : List Operation}

/-- The operations are attempted one after the other, each with the outcome that its reply gives. -/
inductive Performs (world : World σ) (drifts : σ → σ → Prop) (parent : String) :
    List Operation → σ → List Step → List OperationOutcome → σ → Prop where
  | nil {state} : Performs world drifts parent [] state [] [] state
  | cons {operation rest before reply middle calls outcomes after}
      (reacts : world.Reacts drifts before (Operation.request parent operation) reply middle)
      (later : Performs world drifts parent rest middle calls outcomes after) :
      Performs world drifts parent (operation :: rest) before
        (.call (operation.request parent) reply :: calls)
        (⟨operation, operation.verdict parent reply⟩ :: outcomes) after

theorem Performs.map_operation {calls : List Step} {outcomes : List OperationOutcome}
    (performs : Performs world drifts parent operations before calls outcomes after) :
    outcomes.map OperationOutcome.operation = operations := by
  induction performs with
  | nil => rfl
  | cons reacts later ih => rw [List.map_cons, ih]

namespace Step

def attempted : Step → Option Operation
  | .call (.create entry _) _ => some (.create entry)
  | .call (.delete entry) _ => some (.delete entry)
  | _ => none

/-- What is seen of calls alone is seen of all steps. -/
theorem filterMap_calls (view : Step → Option α) (silent : ∀ note, view (.note note) = none) (steps : List Step) :
    (steps.filter isCall).filterMap view = steps.filterMap view := by
  induction steps with
  | nil => rfl
  | cons step rest ih =>
    cases step with
    | note note => rw [List.filterMap_cons_none (silent note), List.filter_cons_of_neg Bool.false_ne_true, ih]
    | call request reply => rw [List.filter_cons_of_pos rfl, List.filterMap_cons, List.filterMap_cons, ih]

end Step

theorem Performs.attempted {operations : List Operation} {outcomes : List OperationOutcome}
    (performs : Performs world drifts parent operations before steps outcomes after) :
    steps.filterMap Step.attempted = operations := by
  induction performs with
  | nil => rfl
  | @cons operation _ _ _ _ _ _ _ reacts later ih =>
    cases operation <;> exact congrArg (List.cons _) ih

private theorem attempt_result {operation : Operation} {result : Except StoreError Unit}
    (course : world.Course drifts (attempt parent operation) before steps (some result) after) :
    ∃ reply, world.Reacts drifts before (operation.request parent) reply after ∧
      steps.filter Step.isCall = [.call (operation.request parent) reply] ∧
      result = operation.verdict parent reply := by
  cases operation
  all_goals
    simp only [attempt, Program.bind_eq, World.course_bind_some] at course
    obtain ⟨answer, _, _, _, rfl, asked, rest⟩ := course
    obtain ⟨-, impossible, -⟩ | ⟨_, reacts, rfl, same⟩ := World.course_request.mp asked
    · cases impossible
    cases same
    refine ⟨answer, ?_⟩
    cases answer with
    | error cause =>
      obtain ⟨rfl, finished, rfl⟩ := rest
      cases finished
      exact ⟨reacts, rfl, rfl⟩
    | ok value =>
      simp only [World.course_bind_some, World.course_log] at rest
      obtain ⟨_, _, _, _, rfl, ⟨rfl, -, rfl⟩, rfl, finished, rfl⟩ := rest
      cases finished
      exact ⟨reacts, rfl, rfl⟩

private theorem perform_result {operation : Operation} {outcome : OperationOutcome}
    (course : world.Course drifts (perform parent operation) before steps (some outcome) after) :
    ∃ reply, world.Reacts drifts before (operation.request parent) reply after ∧
      steps.filter Step.isCall = [.call (operation.request parent) reply] ∧
      outcome = ⟨operation, operation.verdict parent reply⟩ := by
  simp only [perform, Program.bind_eq, World.course_bind_some] at course
  obtain ⟨result, _, _, _, rfl, trying, rest⟩ := course
  obtain ⟨reply, reacts, called, rfl⟩ := attempt_result trying
  refine ⟨reply, ?_⟩
  cases verdict : operation.verdict parent reply with
  | error cause =>
    simp only [verdict, World.course_bind_some, World.course_log, World.course_measure] at rest
    obtain ⟨_, _, _, _, rfl, ⟨rfl, -, rfl⟩, _, _, _, _, rfl, ⟨rfl, -, rfl⟩, rfl, finished, rfl⟩ := rest
    cases finished
    exact ⟨reacts, by simpa using called, rfl⟩
  | ok done =>
    rw [verdict] at rest
    obtain ⟨_, rfl, rfl, finished, rfl⟩ := rest
    cases finished
    exact ⟨reacts, by simpa using called, rfl⟩

private theorem performs_of_course {outcomes : List OperationOutcome}
    (course : world.Course drifts (operations.mapM (perform parent)) before steps (some outcomes) after) :
    Performs world drifts parent operations before (steps.filter Step.isCall) outcomes after := by
  induction operations generalizing before steps outcomes with
  | nil =>
    obtain ⟨rfl, finished, rfl⟩ := course
    cases finished
    exact .nil
  | cons operation rest ih =>
    simp only [List.mapM_cons, Program.bind_eq, World.course_bind_some] at course
    obtain ⟨outcome, _, _, _, rfl, first, remaining, _, _, _, rfl, later, rfl, finished, rfl⟩ := course
    obtain ⟨reply, reacts, called, rfl⟩ := perform_result first
    cases finished
    rw [List.append_nil, List.filter_append, called]
    exact .cons reacts (ih later)

namespace Execution

theorem successes_eq_zero {outcomes : List OperationOutcome} :
    successes outcomes .create + successes outcomes .delete = 0 ↔
      ∀ outcome ∈ outcomes, outcome.succeeded = false := by
  simp only [successes, Nat.add_eq_zero_iff, List.countP_eq_zero, Bool.and_eq_true, beq_iff_eq, not_and,
    Bool.not_eq_true]
  constructor
  · intro ⟨created, deleted⟩ outcome member
    cases kind : outcome.operation.kind with
    | create => exact created outcome member kind
    | delete => exact deleted outcome member kind
  · exact fun none => ⟨fun outcome member _ => none outcome member, fun outcome member _ => none outcome member⟩

/-- An execution is a success when no operation failed and the changes, if any, were applied. -/
theorem isSuccess_iff {execution : Execution} :
    execution.isSuccess = true ↔
      (∀ outcome ∈ execution.outcomes, outcome.succeeded = true) ∧ execution.applyFailed = false := by
  simp only [isSuccess, failed, failedOperations, beq_iff_eq, Nat.add_eq_zero_iff, List.countP_eq_zero,
    Bool.not_eq_true', Bool.not_eq_false, Bool.toNat_eq_zero]

theorem outcomes_eq_nil {outcomes : List OperationOutcome}
    (succeeded : ∀ outcome ∈ outcomes, outcome.succeeded = true)
    (failed : ∀ outcome ∈ outcomes, outcome.succeeded = false) : outcomes = [] := by
  refine List.eq_nil_iff_forall_not_mem.mpr fun outcome member => ?_
  have impossible := (succeeded outcome member).symm.trans (failed outcome member)
  cases impossible

end Execution

/-- The changes are applied after the last operation, and only if there are any. -/
theorem execute_result {execution : Execution}
    (course : world.Course drifts (execute parent operations) before steps (some execution) after) :
    ∃ calls middle, Performs world drifts parent operations before calls execution.outcomes middle ∧
      ((∀ outcome ∈ execution.outcomes, outcome.succeeded = false) ∧ execution.applied = none ∧
          steps.filter Step.isCall = calls ∧ after = middle ∨
        (∃ outcome ∈ execution.outcomes, outcome.succeeded = true) ∧
          ∃ reply, world.Reacts drifts middle .apply reply after ∧ execution.applied = some reply ∧
            steps.filter Step.isCall = calls ++ [.call .apply reply]) := by
  simp only [execute, Program.bind_eq, World.course_bind_some] at course
  obtain ⟨outcomes, first, _, middle, rfl, performing, rest⟩ := course
  have performs := performs_of_course performing
  refine ⟨first.filter Step.isCall, middle, ?_⟩
  by_cases idle : Execution.successes outcomes .create + Execution.successes outcomes .delete = 0
  · rw [if_pos idle] at rest
    obtain ⟨rfl, finished, rfl⟩ := rest
    cases finished
    exact ⟨performs, .inl ⟨Execution.successes_eq_zero.mp idle, rfl, by rw [List.append_nil], rfl⟩⟩
  · have succeeded : ∃ outcome ∈ outcomes, outcome.succeeded = true := by
      refine Classical.byContradiction fun none => ?_
      refine idle (Execution.successes_eq_zero.mpr fun outcome member => ?_)
      exact eq_false_of_ne_true fun done => none ⟨outcome, member, done⟩
    rw [if_neg idle] at rest
    simp only [applyChanges, Program.bind_eq, World.course_bind_some] at rest
    obtain ⟨applied, _, _, last, rfl, applying, rfl, finished, rfl⟩ := rest
    cases finished
    obtain ⟨answer, _, _, _, rfl, asked, applying⟩ := applying
    obtain ⟨-, impossible, -⟩ | ⟨_, reacts, rfl, same⟩ := World.course_request.mp asked
    · cases impossible
    cases same
    refine ⟨performs, .inr ⟨succeeded, answer, ?_⟩⟩
    cases answer with
    | error cause =>
      simp only [World.course_bind_some, World.course_log] at applying
      obtain ⟨_, _, _, _, rfl, ⟨rfl, -, rfl⟩, rfl, finished, rfl⟩ := applying
      cases finished
      exact ⟨reacts, rfl, by simp only [List.append_nil, List.filter_append]; rfl⟩
    | ok done =>
      simp only [World.course_bind_some, World.course_log] at applying
      obtain ⟨_, _, _, _, rfl, ⟨rfl, -, rfl⟩, rfl, finished, rfl⟩ := applying
      cases finished
      exact ⟨reacts, rfl, by simp only [List.append_nil, List.filter_append]; rfl⟩

/-- After its operations a plan orders nothing but to apply them. -/
theorem execute_split (parent : String) (operations : List Operation) :
    ∃ closing : List OperationOutcome → Program Execution, (∀ outcomes, (closing outcomes).Uses (· = .apply)) ∧
      execute parent operations = (operations.mapM (perform parent)).bind closing := by
  refine ⟨_, fun outcomes => ?_, rfl⟩
  by_cases idle : Execution.successes outcomes .create + Execution.successes outcomes .delete = 0
  · simp only [idle, ↓reduceIte]
    trivial
  · simp only [idle, ↓reduceIte]
    refine Program.Uses.bind ⟨rfl, fun reply => ?_⟩ fun _ => trivial
    cases reply <;> trivial

/-- An operation is cut off while it waits, or it is answered, and then nothing more happens to the world. -/
theorem perform_cases {operation : Operation} {result : Option OperationOutcome}
    (course : world.Course drifts (perform parent operation) before steps result after) :
    (result = none ∧ drifts before after) ∨
      ∃ reply, world.Reacts drifts before (operation.request parent) reply after := by
  cases operation
  all_goals
    obtain ⟨-, rfl, waits⟩ | ⟨reply, middle, later, reacts, -, reporting⟩ := course
    · exact .inl ⟨rfl, waits⟩
    · have silent := reporting.silent (by cases reply <;> trivial)
      exact .inr ⟨reply, silent.1 ▸ reacts⟩

/-- A plan is carried out with its own operations and one order to apply. -/
theorem execute_uses {allowed : Request → Prop}
    (each : ∀ operation ∈ operations, allowed (operation.request parent)) (apply : allowed .apply) :
    (execute parent operations).Uses allowed := by
  have attempting {operation : Operation} (permitted : allowed (operation.request parent)) :
      (attempt parent operation).Uses allowed := by
    cases operation
    all_goals exact ⟨permitted, fun reply => by cases reply <;> trivial⟩
  have performing : (operations.mapM (perform parent)).Uses allowed := by
    induction operations with
    | nil => trivial
    | cons operation rest ih =>
      rw [List.mapM_cons]
      refine Program.Uses.bind ?_ fun outcome => ?_
      · refine (attempting (each operation List.mem_cons_self)).bind fun result => ?_
        cases result <;> trivial
      · exact (ih fun other member => each other (List.mem_cons_of_mem _ member)).bind fun _ => trivial
  obtain ⟨closing, uses, same⟩ := execute_split parent operations
  rw [same]
  exact performing.bind fun outcomes => (uses outcomes).mono fun request same => same ▸ apply

end Sync

end AliasSync
