import AliasSync.Sync.Program

/-! Carrying out a plan: every operation in turn, whatever became of the ones before it, and then one
order to apply the changes if any operation succeeded. -/

namespace AliasSync.Sync

structure OperationOutcome where
  operation : Operation
  result : Except StoreError Unit

namespace OperationOutcome

def succeeded (outcome : OperationOutcome) : Bool := outcome.result.toBool

end OperationOutcome

/-- The outcomes of a plan. The changes are applied only if there are any. -/
structure Execution where
  outcomes : List OperationOutcome
  applied : Option (Except StoreError Unit)

namespace Execution

def successes (outcomes : List OperationOutcome) (kind : OperationKind) : Nat :=
  outcomes.countP fun outcome => outcome.operation.kind == kind && outcome.succeeded

def created (execution : Execution) : Nat := successes execution.outcomes .create

def deleted (execution : Execution) : Nat := successes execution.outcomes .delete

def failedOperations (execution : Execution) : Nat :=
  execution.outcomes.countP fun outcome => !outcome.succeeded

/-- The changes should have been applied and were not. -/
def applyFailed (execution : Execution) : Bool :=
  match execution.applied with
  | some (.error _) => true
  | _ => false

/-- A failed apply counts as one more failure. -/
def failed (execution : Execution) : Nat :=
  execution.failedOperations + execution.applyFailed.toNat

def isSuccess (execution : Execution) : Bool := execution.failed == 0

end Execution

/-- Orders the change and reports it, without a record of failure. -/
def attempt (parent : String) : Operation → Program (Except StoreError Unit)
  | .create entry => do
    match ← Program.request (.create entry parent) with
    | .ok id =>
      Program.log (.info .executor "Created alias" [("alias", .plain entry.key), ("id", .plain id)])
      pure (.ok ())
    | .error cause => pure (.error cause)
  | .delete entry => do
    match ← Program.request (.delete entry) with
    | .ok () =>
      Program.log (.info .executor "Deleted alias" [("alias", .plain entry.key)])
      pure (.ok ())
    | .error cause => pure (.error cause)

def perform (parent : String) (operation : Operation) : Program OperationOutcome := do
  let result ← attempt parent operation
  match result with
  | .ok () => pure ()
  | .error cause =>
    Program.log (.error .executor "Operation failed"
      [("alias", .plain operation.key), ("kind", .plain operation.kind.name),
       ("error", .plain cause.message)])
  Program.measure (.operation operation.kind result.toBool)
  pure ⟨operation, result⟩

def applyChanges (created deleted : Nat) : Program (Except StoreError Unit) := do
  match ← Program.request .apply with
  | .ok () =>
    Program.log (.info .executor "Applied changes to OPNsense Unbound"
      [("created", .number created), ("deleted", .number deleted)])
    pure (.ok ())
  | .error cause =>
    Program.log (.error .executor "Failed to apply changes" [("error", .plain cause.message)])
    pure (.error cause)

def execute (parent : String) (operations : List Operation) : Program Execution := do
  let outcomes ← operations.mapM (perform parent)
  let created := Execution.successes outcomes .create
  let deleted := Execution.successes outcomes .delete
  if created + deleted = 0 then pure ⟨outcomes, none⟩
  else
    let applied ← applyChanges created deleted
    pure ⟨outcomes, some applied⟩

end AliasSync.Sync
