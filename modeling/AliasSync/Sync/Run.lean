import AliasSync.Sync.Program

/-! Runs of programs in time. The world answers each request after a wait, others may change the
world meanwhile, and a run can be cut off at a moment; a request that was still waiting then has had
no effect. Time is counted in milliseconds. -/

namespace AliasSync.Sync

/-- The world around a program, in terms of a state that only it knows. -/
structure World (σ : Type) where
  /-- How long a request waits before the world acts on it. -/
  wait : σ → Request → Nat
  /-- What the world does on a request. -/
  answer : σ → (request : Request) → request.Reply × σ
  /-- What others do to the world after one moment and up to another. -/
  elapse : Nat → Nat → σ → σ

inductive Step where
  | call (request : Request) (reply : request.Reply)
  | note (note : Note)

/-- A run up to its end, or up to the moment at which it was cut off; then it has no result. Every
step stands with the moment at which it was completed. -/
structure Run (σ α : Type) where
  result : Option α
  ended : Nat
  state : σ
  steps : List (Nat × Step)

namespace Run

def after (moment : Nat) (step : Step) (run : Run σ α) : Run σ α :=
  { run with steps := (moment, step) :: run.steps }

def continuing (steps : List (Nat × Step)) (run : Run σ α) : Run σ α :=
  { run with steps := steps ++ run.steps }

end Run

namespace World

variable {σ : Type}

/-- A run that is cut off at `stop` while it waits. -/
def cutOff (world : World σ) (stop now : Nat) (state : σ) : Run σ α :=
  ⟨none, stop, world.elapse now stop state, []⟩

/-- Waits until a moment, then lets the world answer and goes on with its reply. -/
def call (world : World σ) (stop : Option Nat) (request : Request) (due now : Nat) (state : σ)
    (next : request.Reply → Nat → σ → Run σ α) : Run σ α :=
  match stop.filter (· < due) with
  | some stop => world.cutOff stop now state
  | none =>
    let (reply, state) := world.answer (world.elapse now due state) request
    (next reply due state).after due (.call request reply)

/-- Asks for both snapshots at once. They arrive in the order of their waits, the aliases first when
both wait equally long, and the second one is given up when the first one fails. -/
def callSnapshots (world : World σ) (stop : Option Nat) (parent : String) (now : Nat) (state : σ)
    (next : Except CycleError Snapshots → Nat → σ → Run σ α) : Run σ α :=
  let aliasesDue := now + world.wait state (.aliases parent)
  let routersDue := now + world.wait state .routers
  if aliasesDue ≤ routersDue then
    world.call stop (.aliases parent) aliasesDue now state fun aliases now state =>
      match aliases with
      | .error cause => next (.error (.store cause)) now state
      | .ok aliases =>
        world.call stop .routers routersDue now state fun routers now state =>
          match routers with
          | .error cause => next (.error (.routes cause)) now state
          | .ok routers => next (.ok (aliases, routers)) now state
  else
    world.call stop .routers routersDue now state fun routers now state =>
      match routers with
      | .error cause => next (.error (.routes cause)) now state
      | .ok routers =>
        world.call stop (.aliases parent) aliasesDue now state fun aliases now state =>
          match aliases with
          | .error cause => next (.error (.store cause)) now state
          | .ok aliases => next (.ok (aliases, routers)) now state

/-- Runs a program from a moment and a state of the world, cut off at `stop` if it comes to that. -/
def run (world : World σ) (stop : Option Nat) : Program α → Nat → σ → Run σ α
  | .done value, now, state => ⟨some value, now, state, []⟩
  | .note note rest, now, state => (world.run stop rest now state).after now (.note note)
  | .ask request next, now, state =>
    world.call stop request (now + world.wait state request) now state fun reply now state =>
      world.run stop (next reply) now state
  | .snapshots parent next, now, state =>
    world.callSnapshots stop parent now state fun reply now state =>
      world.run stop (next reply) now state

end World

end AliasSync.Sync
