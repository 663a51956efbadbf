import AliasSync.Proofs.Execution
import AliasSync.Proofs.Turn

/-! What the store sees of a plan that is carried out, whatever it answers: each operation once and in the order of
the plan, then one order to apply if any of them succeeded, and nothing else. -/

namespace AliasSync.Sync

variable {σ : Type} {world : World σ} {drifts : σ → σ → Prop} {before after : σ} {parent : String}
  {operations : List Operation} {calls : List Step} {outcomes : List OperationOutcome}

/-- The calls are those of the operations, one for each and in their order, and the outcomes say of each operation
what its own call returned. -/
structure InOrder (parent : String) (operations : List Operation) (calls : List Step)
    (outcomes : List OperationOutcome) : Prop where
  called : calls.length = operations.length
  reported : outcomes.length = operations.length
  paired : ∀ (index : Nat) operation, operations[index]? = some operation → ∃ reply,
    calls[index]? = some (.call (operation.request parent) reply) ∧
      outcomes[index]? = some ⟨operation, operation.verdict parent reply⟩

private theorem Performs.inOrder (performs : Performs world drifts parent operations before calls outcomes after) :
    InOrder parent operations calls outcomes := by
  induction performs with
  | nil =>
    refine ⟨rfl, rfl, ?_⟩
    intro index operation found
    cases found
  | @cons operation rest before reply middle calls outcomes after reacts later ih =>
    refine ⟨congrArg Nat.succ ih.called, congrArg Nat.succ ih.reported, ?_⟩
    intro index other found
    cases index with
    | zero =>
      cases found
      exact ⟨reply, rfl, rfl⟩
    | succ index => exact ih.paired index other found

private theorem OperationOutcome.succeeded_iff {outcome : OperationOutcome} :
    outcome.succeeded = true ↔ ∃ value, outcome.result = .ok value := by
  rw [succeeded]
  cases outcome.result <;> simp [Except.toBool]

/-- Carrying out a plan comes to an end in every world. The store is called for every operation in turn, and then to
apply the changes exactly if there are any. -/
theorem execution_keeps_to_protocol (world : World σ) (parent : String) (operations : List Operation) (now : Nat)
    (state : σ) :
    let run := world.run none (execute parent operations) now state
    ∃ execution calls, run.result = some execution ∧ InOrder parent operations calls execution.outcomes ∧
      ((∃ outcome ∈ execution.outcomes, ∃ value, outcome.result = .ok value) ∧
          (∃ reply, run.calls = calls ++ [.call .apply reply] ∧ execution.applied = some reply) ∨
        (∀ outcome ∈ execution.outcomes, ¬ ∃ value, outcome.result = .ok value) ∧
          run.calls = calls ∧ execution.applied = none) := by
  intro run
  obtain ⟨execution, finished⟩ := world.run_completes (execute parent operations) now state
  obtain ⟨calls, middle, performs, ending⟩ := execute_result (World.free_course_of_result finished)
  refine ⟨execution, calls, finished, performs.inOrder, ?_⟩
  rcases ending with ⟨failed, unapplied, called, -⟩ | ⟨succeeded, reply, -, applied, called⟩
  · refine .inr ⟨fun outcome member success => ?_, called, unapplied⟩
    have refuted := OperationOutcome.succeeded_iff.mpr success
    rw [failed outcome member] at refuted
    cases refuted
  · obtain ⟨outcome, member, success⟩ := succeeded
    exact .inl ⟨⟨outcome, member, OperationOutcome.succeeded_iff.mp success⟩, reply, called, applied⟩

end AliasSync.Sync
