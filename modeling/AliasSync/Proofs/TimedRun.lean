import AliasSync.Proofs.Course

/-! Timed runs are courses. A run that is not cut off has a result, and a run of two programs one after
the other is the run of the first followed by the run of the second. -/

namespace AliasSync.Sync

namespace Run

variable {σ : Type}

@[simp] theorem after_result (moment : Nat) (step : Step) (run : Run σ α) :
    (run.after moment step).result = run.result := rfl

@[simp] theorem after_ended (moment : Nat) (step : Step) (run : Run σ α) :
    (run.after moment step).ended = run.ended := rfl

@[simp] theorem after_state (moment : Nat) (step : Step) (run : Run σ α) :
    (run.after moment step).state = run.state := rfl

@[simp] theorem continuing_trace (steps : List (Nat × Step)) (run : Run σ α) :
    (run.continuing steps).trace = steps.map Prod.snd ++ run.trace := by
  simp [continuing, trace]

def andThen (run : Run σ α) (next : α → Nat → σ → Run σ β) : Run σ β :=
  match run.result with
  | none => ⟨none, run.ended, run.state, run.steps⟩
  | some value => (next value run.ended run.state).continuing run.steps

private theorem after_andThen (moment : Nat) (step : Step) (run : Run σ α) (next : α → Nat → σ → Run σ β) :
    (run.after moment step).andThen next = (run.andThen next).after moment step := by
  unfold andThen
  simp only [after_result]
  cases run.result <;> rfl

end Run

namespace World

variable {σ : Type} {world : World σ}

/-- Whatever others do to the world between two moments is a drift. -/
def DriftsWithin (world : World σ) (drifts : σ → σ → Prop) (start finish : Nat) : Prop :=
  ∀ first last state, start ≤ first → last ≤ finish → drifts state (world.elapse first last state)

private theorem DriftsWithin.narrow {drifts : σ → σ → Prop} {start finish later earlier : Nat}
    (within : world.DriftsWithin drifts start finish) (begins : start ≤ later)
    (ends : earlier ≤ finish) : world.DriftsWithin drifts later earlier :=
  fun first last state after before =>
    within first last state (Nat.le_trans begins after) (Nat.le_trans before ends)

def Reaches (stop : Option Nat) (moment : Nat) : Prop := ∀ shutdown, stop = some shutdown → moment ≤ shutdown

theorem Reaches.never (moment : Nat) : Reaches none moment := fun _ impossible => by cases impossible

/-- A call is either cut off while it waits or answered when it is due. -/
theorem call_cases (stop : Option Nat) (request : Request) (due now : Nat) (state : σ)
    (next : request.Reply → Nat → σ → Run σ α) :
    (∃ shutdown, stop = some shutdown ∧ world.call stop request due now state next =
      world.cutOff shutdown now state) ∨
    (Reaches stop due ∧ ∃ reply middle,
      world.answer (world.elapse now due state) request = (reply, middle) ∧
      world.call stop request due now state next =
        (next reply due middle).after due (.call request reply)) := by
  cases stop with
  | none => exact .inr ⟨.never due, _, _, rfl, rfl⟩
  | some shutdown =>
    by_cases early : shutdown < due
    · refine .inl ⟨shutdown, rfl, ?_⟩
      simp only [call, Option.filter_some, decide_eq_true_eq, early, ↓reduceIte]
    · refine .inr ⟨?_, _, _, rfl, ?_⟩
      · rintro _ ⟨⟩
        exact Nat.le_of_not_lt early
      · simp only [call, Option.filter_some, decide_eq_true_eq, early, ↓reduceIte]

/-- A run from a moment and a state is a course of the program. It does not end before it begins unless
the shutdown lies before its beginning. -/
structure Follows (world : World σ) (stop : Option Nat) (program : Program α) (now : Nat) (state : σ)
    (run : Run σ α) : Prop where
  later : Reaches stop now → now ≤ run.ended
  course : ∀ drifts, world.DriftsWithin drifts now run.ended →
    world.Course drifts program state run.trace run.result run.state

private theorem Follows.call {stop : Option Nat} {request : Request} {due now : Nat} {state : σ}
    {next : request.Reply → Nat → σ → Run σ α} {program : request.Reply → Program α} (wait : now ≤ due)
    (each : ∀ reply middle, world.Follows stop (program reply) due middle (next reply due middle)) :
    world.Follows stop (.ask request program) now state
      (world.call stop request due now state next) := by
  obtain ⟨shutdown, same, cut⟩ | ⟨inTime, reply, middle, answered, called⟩ :=
    world.call_cases stop request due now state next
  · rw [cut]
    refine ⟨fun reached => reached shutdown same, fun drifts within => .inl ⟨rfl, rfl, ?_⟩⟩
    exact within now shutdown state (Nat.le_refl _) (Nat.le_refl _)
  · rw [called]
    have follows := each reply middle
    have ends : due ≤ (next reply due middle).ended := follows.later inTime
    refine ⟨fun _ => Nat.le_trans wait ends, fun drifts within => ?_⟩
    refine .inr ⟨reply, middle, _, ⟨_, within now due state (Nat.le_refl _) ends, answered⟩, rfl, ?_⟩
    exact follows.course drifts (within.narrow wait (Nat.le_refl _))

private def aliasesFirst (parent : String) (next : Except CycleError Snapshots → Program α) : Program α :=
  .ask (.aliases parent) fun
    | .error cause => next (.error (.store cause))
    | .ok listed => .ask .routers fun
      | .error cause => next (.error (.routes cause))
      | .ok served => next (.ok (listed, served))

private def routersFirst (parent : String) (next : Except CycleError Snapshots → Program α) : Program α :=
  .ask .routers fun
    | .error cause => next (.error (.routes cause))
    | .ok served => .ask (.aliases parent) fun
      | .error cause => next (.error (.store cause))
      | .ok listed => next (.ok (listed, served))

private theorem course_of_aliasesFirst {drifts : σ → σ → Prop} {parent : String}
    {next : Except CycleError Snapshots → Program α} {before after : σ} {steps : List Step}
    {result : Option α}
    (course : world.Course drifts (aliasesFirst parent next) before steps result after) :
    world.Course drifts (.snapshots parent next) before steps result after := by
  obtain ⟨rfl, rfl, waits⟩ | ⟨reply, middle, later, aliases, rfl, course⟩ := course
  · exact .inl ⟨rfl, .interrupted waits⟩
  cases reply with
  | error cause => exact .inr ⟨_, middle, [_], later, .aliasesFail aliases, rfl, course⟩
  | ok listed =>
    obtain ⟨rfl, rfl, waits⟩ | ⟨reply, last, later, routers, rfl, course⟩ := course
    · exact .inl ⟨rfl, .aliasesOnly aliases waits⟩
    · refine .inr ⟨_, last, [_, _], later, .routersLast aliases routers, rfl, ?_⟩
      cases reply <;> exact course

private theorem course_of_routersFirst {drifts : σ → σ → Prop} {parent : String}
    {next : Except CycleError Snapshots → Program α} {before after : σ} {steps : List Step}
    {result : Option α}
    (course : world.Course drifts (routersFirst parent next) before steps result after) :
    world.Course drifts (.snapshots parent next) before steps result after := by
  obtain ⟨rfl, rfl, waits⟩ | ⟨reply, middle, later, routers, rfl, course⟩ := course
  · exact .inl ⟨rfl, .interrupted waits⟩
  cases reply with
  | error cause => exact .inr ⟨_, middle, [_], later, .routersFail routers, rfl, course⟩
  | ok served =>
    obtain ⟨rfl, rfl, waits⟩ | ⟨reply, last, later, aliases, rfl, course⟩ := course
    · exact .inl ⟨rfl, .routersOnly routers waits⟩
    · refine .inr ⟨_, last, [_, _], later, .aliasesLast routers aliases, rfl, ?_⟩
      cases reply <;> exact course

private theorem Follows.snapshots {stop : Option Nat} {parent : String} {now : Nat} {state : σ}
    {next : Except CycleError Snapshots → Nat → σ → Run σ α}
    {program : Except CycleError Snapshots → Program α}
    (each : ∀ reply moment middle,
      world.Follows stop (program reply) moment middle (next reply moment middle)) :
    world.Follows stop (.snapshots parent program) now state
      (world.callSnapshots stop parent now state next) := by
  by_cases order : now + world.wait state (.aliases parent) ≤ now + world.wait state .routers
  · have follows : world.Follows stop (aliasesFirst parent program) now state
        (world.callSnapshots stop parent now state next) := by
      simp only [callSnapshots, order, ↓reduceIte]
      refine .call (Nat.le_add_right _ _) fun reply middle => ?_
      cases reply with
      | error cause => exact each _ _ _
      | ok listed =>
        refine .call order fun reply last => ?_
        cases reply <;> exact each _ _ _
    exact ⟨follows.later, fun drifts within => course_of_aliasesFirst (follows.course drifts within)⟩
  · have follows : world.Follows stop (routersFirst parent program) now state
        (world.callSnapshots stop parent now state next) := by
      simp only [callSnapshots, order, ↓reduceIte]
      refine .call (Nat.le_add_right _ _) fun reply middle => ?_
      cases reply with
      | error cause => exact each _ _ _
      | ok served =>
        refine .call (Nat.le_of_not_le order) fun reply last => ?_
        cases reply <;> exact each _ _ _
    exact ⟨follows.later, fun drifts within => course_of_routersFirst (follows.course drifts within)⟩

private theorem run_follows (world : World σ) (stop : Option Nat) (program : Program α) (now : Nat) (state : σ) :
    world.Follows stop program now state (world.run stop program now state) := by
  induction program generalizing now state with
  | done value => exact ⟨fun _ => Nat.le_refl _, fun drifts within => ⟨rfl, rfl, rfl⟩⟩
  | note note rest ih =>
    have follows := ih now state
    exact ⟨follows.later, fun drifts within => ⟨_, rfl, follows.course drifts within⟩⟩
  | ask request next ih => exact .call (Nat.le_add_right _ _) fun reply middle => ih reply _ middle
  | snapshots parent next ih => exact .snapshots fun reply moment middle => ih reply moment middle

/-- A run is a course in which the world may drift as others change it during the run. -/
theorem run_course (world : World σ) (stop : Option Nat) (program : Program α) (now : Nat) (state : σ)
    (drifts : σ → σ → Prop)
    (within : world.DriftsWithin drifts now (world.run stop program now state).ended) :
    world.Course drifts program state (world.run stop program now state).trace
      (world.run stop program now state).result (world.run stop program now state).state :=
  (world.run_follows stop program now state).course drifts within

/-- A run that comes to its end is a course in a world that may drift anyhow. -/
theorem free_course_of_result {stop : Option Nat} {program : Program α} {now : Nat} {state : σ} {value : α}
    (finished : (world.run stop program now state).result = some value) :
    world.Course (fun _ _ => True) program state (world.run stop program now state).trace (some value)
      (world.run stop program now state).state :=
  finished ▸ world.run_course stop program now state _ fun _ _ _ _ _ => trivial

/-- Without a shutdown every run comes to its end. -/
theorem run_completes (world : World σ) (program : Program α) (now : Nat) (state : σ) :
    ∃ value, (world.run none program now state).result = some value := by
  induction program generalizing now state with
  | done value => exact ⟨value, rfl⟩
  | note note rest ih => exact ih now state
  | ask request next ih =>
    simp only [run, call, Option.filter_none, Run.after_result]
    exact ih _ _ _
  | snapshots parent next ih =>
    simp only [run, callSnapshots, call, Option.filter_none]
    split <;> simp only [Run.after_result] <;> split <;> try exact ih _ _ _
    all_goals simp only [Run.after_result]; split <;> exact ih _ _ _

private theorem call_andThen (stop : Option Nat) (request : Request) (due now : Nat) (state : σ)
    (first : request.Reply → Nat → σ → Run σ α) (next : α → Nat → σ → Run σ β) :
    (world.call stop request due now state first).andThen next =
      world.call stop request due now state fun reply now state =>
        (first reply now state).andThen next := by
  unfold call
  split
  · rfl
  · exact Run.after_andThen ..

private theorem callSnapshots_andThen (stop : Option Nat) (parent : String) (now : Nat) (state : σ)
    (first : Except CycleError Snapshots → Nat → σ → Run σ α) (next : α → Nat → σ → Run σ β) :
    (world.callSnapshots stop parent now state first).andThen next =
      world.callSnapshots stop parent now state fun reply now state =>
        (first reply now state).andThen next := by
  simp only [callSnapshots]
  split
  all_goals
    rw [call_andThen]
    congr 1
    funext reply now state
    cases reply with
    | error cause => rfl
    | ok value =>
      simp only [call_andThen]
      congr 1
      funext reply now state
      cases reply <;> rfl

theorem run_bind (world : World σ) (stop : Option Nat) (program : Program α) (next : α → Program β)
    (now : Nat) (state : σ) :
    world.run stop (program.bind next) now state =
      (world.run stop program now state).andThen fun value => world.run stop (next value) := by
  induction program generalizing now state with
  | done value => rfl
  | note note rest ih =>
    simp only [Program.bind, run, ih]
    exact (Run.after_andThen ..).symm
  | ask request reply ih =>
    simp only [Program.bind, run, ih]
    exact (call_andThen ..).symm
  | snapshots parent reply ih =>
    simp only [Program.bind, run, ih]
    exact (callSnapshots_andThen ..).symm

theorem run_bind_result {stop : Option Nat} {program : Program α} {next : α → Program β} {now : Nat} {state : σ}
    {value : β} (finished : (world.run stop (program.bind next) now state).result = some value) :
    let first := world.run stop program now state
    ∃ middle, first.result = some middle ∧
      (world.run stop (next middle) first.ended first.state).result = some value := by
  intro first
  rw [run_bind, Run.andThen] at finished
  cases done : first.result with
  | none => simp [first, done] at finished
  | some middle =>
    rw [show (world.run stop program now state).result = some middle from done] at finished
    exact ⟨middle, rfl, finished⟩

end World

end AliasSync.Sync
