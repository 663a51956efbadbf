import AliasSync.Proofs.RehearsalStore
import AliasSync.Proofs.Turn

/-! Changes take effect once they are applied. A cycle that changes something ends with an order to apply; when
that order fails, the change stays pending until a later cycle changes something again. -/

namespace AliasSync.Sync

variable {σ : Type} {world : World σ} {drifts : σ → σ → Prop} {before after : σ} {steps : List Step}

def Step.changed : Step → Bool
  | .call (.create _ _) reply => Except.toBool reply
  | .call (.delete _) reply => Except.toBool reply
  | _ => false

def Step.application : Step → Option (Except StoreError Unit)
  | .call .apply reply => some reply
  | _ => none

def Step.applied (step : Step) : Bool := step.application.any Except.toBool

def Applied : List Step → Prop
  | [] => True
  | step :: rest => (step.changed = true → ∃ later ∈ rest, later.applied = true) ∧ Applied rest

instance decidableApplied : (steps : List Step) → Decidable (Applied steps)
  | [] => isTrue trivial
  | step :: rest =>
    have := decidableApplied rest
    inferInstanceAs (Decidable ((step.changed = true → ∃ later ∈ rest, later.applied = true) ∧ Applied rest))

def LastApplicationFailed (steps : List Step) : Prop :=
  ∃ cause, (steps.filterMap Step.application).getLast? = some (.error cause)

private theorem applied_append {first last : List Step} :
    Applied (first ++ last) ↔ Applied last ∧ (Applied first ∨ ∃ step ∈ last, step.applied = true) := by
  induction first with
  | nil => simp [Applied]
  | cons step rest ih =>
    simp only [List.cons_append, Applied, ih, List.mem_append]
    grind only

private theorem applied_of_unchanged (unchanged : ∀ step ∈ steps, step.changed = false) : Applied steps := by
  induction steps with
  | nil => trivial
  | cons step rest ih =>
    refine ⟨fun changed => ?_, ih fun other member => unchanged other (List.mem_cons_of_mem _ member)⟩
    rw [unchanged step List.mem_cons_self] at changed
    cases changed

private theorem not_applied_of_changed (changed : ∃ step ∈ steps, step.changed = true)
    (unapplied : ∀ step ∈ steps, step.applied = false) : ¬ Applied steps := by
  induction steps with
  | nil =>
    obtain ⟨_, impossible, -⟩ := changed
    cases impossible
  | cons step rest ih =>
    rintro ⟨followed, settled⟩
    obtain ⟨other, member, done⟩ := changed
    have later : ∀ step ∈ rest, step.applied = false :=
      fun step member => unapplied step (List.mem_cons_of_mem _ member)
    obtain rfl | member := List.mem_cons.mp member
    · obtain ⟨application, further, applied⟩ := followed done
      rw [later application further] at applied
      cases applied
    · exact ih ⟨other, member, done⟩ later settled

def Quiet (steps : List Step) : Prop := ∀ step ∈ steps, step.changed = false ∧ step.application = none

/-- Something is changed, and then everything is ordered to be applied. -/
def Flushes (steps : List Step) (answer : Except StoreError Unit) : Prop :=
  ∃ changes, steps = changes ++ [.call .apply answer] ∧ (∃ step ∈ changes, step.changed = true) ∧
    ∀ step ∈ changes, step.application = none

private theorem quiet_of_readOnly (readOnly : ReadOnly steps) : Quiet steps := by
  intro step member
  cases step with
  | note note => exact ⟨rfl, rfl⟩
  | call request reply =>
    have reading := readOnly request reply member
    cases request with
    | create | delete | apply => cases reading
    | lookup | aliases | routers | generate => exact ⟨rfl, rfl⟩

private theorem Quiet.append {first last : List Step} (quiet : Quiet first) (also : Quiet last) :
    Quiet (first ++ last) := fun step member => by
  obtain member | member := List.mem_append.mp member
  · exact quiet step member
  · exact also step member

private theorem Quiet.filter (quiet : Quiet steps) : Quiet (steps.filter Step.isCall) :=
  fun step member => quiet step (List.mem_filter.mp member).1

private theorem Quiet.flushes_append {first last : List Step} {answer : Except StoreError Unit} (quiet : Quiet first)
    (flushes : Flushes last answer) : Flushes (first ++ last) answer := by
  obtain ⟨changes, rfl, ⟨step, member, changed⟩, unapplied⟩ := flushes
  refine ⟨first ++ changes, (List.append_assoc ..).symm, ⟨step, by simp [member], changed⟩, ?_⟩
  intro other member
  obtain member | member := List.mem_append.mp member
  · exact (quiet other member).2
  · exact unapplied other member

private theorem Quiet.applied_append {first last : List Step} (quiet : Quiet last) :
    Applied (first ++ last) ↔ Applied first := by
  have silent : ¬ ∃ step ∈ last, step.applied = true := by
    rintro ⟨step, member, applied⟩
    rw [Step.applied, (quiet step member).2] at applied
    cases applied
  rw [Sync.applied_append, or_iff_left silent]
  exact and_iff_right (applied_of_unchanged fun step member => (quiet step member).1)

private theorem Quiet.lastApplicationFailed_append {first last : List Step} (quiet : Quiet last) :
    LastApplicationFailed (first ++ last) ↔ LastApplicationFailed first := by
  have none : last.filterMap Step.application = [] :=
    List.filterMap_eq_nil_iff.mpr fun step member => (quiet step member).2
  rw [LastApplicationFailed, List.filterMap_append, none, List.append_nil, LastApplicationFailed]

private theorem Flushes.lastApplicationFailed_append {first last : List Step} {answer : Except StoreError Unit}
    (flushes : Flushes last answer) :
    LastApplicationFailed (first ++ last) ↔ ∃ cause, answer = .error cause := by
  obtain ⟨changes, rfl, -, -⟩ := flushes
  have applications : (first ++ (changes ++ [Step.call .apply answer])).filterMap Step.application =
      (first ++ changes).filterMap Step.application ++ [answer] := by
    rw [← List.append_assoc, List.filterMap_append]
    rfl
  rw [LastApplicationFailed, applications, List.getLast?_concat]
  simp

/-- An order to apply reaches every change before it, if it succeeds, and none of its cycle, if it fails. -/
theorem Flushes.applied_append {first last : List Step} {answer : Except StoreError Unit}
    (flushes : Flushes last answer) : Applied (first ++ last) ↔ answer = .ok () := by
  obtain ⟨changes, rfl, changed, unapplied⟩ := flushes
  cases answer with
  | ok done =>
    refine iff_of_true ?_ rfl
    rw [← List.append_assoc, Sync.applied_append]
    exact ⟨applied_of_unchanged (by simp [Step.changed]), .inr ⟨_, List.mem_singleton_self _, rfl⟩⟩
  | error cause =>
    refine iff_of_false (fun settled => ?_) (by simp)
    have own := (Sync.applied_append.mp settled).1
    refine not_applied_of_changed ?_ ?_ own
    · obtain ⟨step, member, changed⟩ := changed
      exact ⟨step, by simp [member], changed⟩
    · intro step member
      obtain member | member := List.mem_append.mp member
      · rw [Step.applied, unapplied step member, Option.any_none]
      · rw [List.mem_singleton.mp member]
        rfl

private theorem Performs.effects {parent : String} {operations : List Operation} {outcomes : List OperationOutcome}
    (performs : Performs world drifts parent operations before steps outcomes after) :
    steps.map Step.changed = outcomes.map OperationOutcome.succeeded ∧
      ∀ step ∈ steps, step.application = none := by
  induction performs with
  | nil => exact ⟨rfl, fun _ impossible => by cases impossible⟩
  | @cons operation _ _ reply _ _ _ _ reacts later ih =>
    have own : (Step.call (operation.request _) reply).changed =
          OperationOutcome.succeeded ⟨operation, operation.verdict _ reply⟩ ∧
        (Step.call (operation.request _) reply).application = none := by
      cases operation <;> cases reply <;> exact ⟨rfl, rfl⟩
    refine ⟨?_, fun step member => ?_⟩
    · rw [List.map_cons, List.map_cons, ih.1, own.1]
    · obtain rfl | member := List.mem_cons.mp member
      · exact own.2
      · exact ih.2 step member

/-- An execution in which nothing succeeded is quiet, and any other ends with an order to apply. -/
theorem execute_effect {parent : String} {operations : List Operation} {execution : Execution}
    (course : world.Course drifts (execute parent operations) before steps (some execution) after) :
    execution.outcomes.length = operations.length ∧
      (Quiet (steps.filter Step.isCall) ∧ (∀ outcome ∈ execution.outcomes, outcome.succeeded = false) ∨
        ∃ answer, Flushes (steps.filter Step.isCall) answer ∧ execution.applied = some answer) := by
  obtain ⟨calls, middle, performs, ending⟩ := execute_result course
  obtain ⟨effects, unapplied⟩ := performs.effects
  have attempted : execution.outcomes.length = operations.length := by
    rw [← performs.map_operation, List.length_map]
  refine ⟨attempted, ?_⟩
  obtain ⟨failed, -, rfl, -⟩ | ⟨⟨outcome, member, succeeded⟩, answer, -, applied, called⟩ := ending
  · refine .inl ⟨fun step member => ⟨?_, unapplied step member⟩, failed⟩
    have changed : step.changed ∈ execution.outcomes.map OperationOutcome.succeeded :=
      effects ▸ List.mem_map_of_mem member
    obtain ⟨outcome, attempted, same⟩ := List.mem_map.mp changed
    rw [← same, failed outcome attempted]
  · refine .inr ⟨answer, ⟨calls, called, ?_, unapplied⟩, applied⟩
    have changed : true ∈ calls.map Step.changed := by
      rw [effects, ← succeeded]
      exact List.mem_map_of_mem member
    exact List.mem_map.mp changed

/-- A cycle that came to its end is quiet, or it ends with an order to apply. When it is a success and not a dry
run, it is quiet if its plan was empty, and else the order succeeded. -/
theorem Syncer.CycleCourse.effect {syncer : Syncer} {reply : Except CycleError Summary} {later : Syncer}
    (course : syncer.CycleCourse world drifts before steps (some (reply, later)) after) :
    (Quiet (steps.filter Step.isCall) ∧
        ∀ summary, reply = .ok summary → syncer.dryRun = false → summary.planned = 0) ∨
      ∃ answer, Flushes (steps.filter Step.isCall) answer ∧
        ∀ summary, reply = .ok summary → 0 < summary.planned ∧ answer = .ok () := by
  obtain ⟨readOnly, noSuccess⟩ | ⟨opening, acting, parent, plan, planner, planned, ended, rfl, readOnly, carries, same⟩ :=
    course.reads_or_acts
  · exact .inl ⟨(quiet_of_readOnly readOnly).filter, fun summary success => absurd (success ▸ rfl) (noSuccess summary later)⟩
  obtain ⟨verdict, rfl, same⟩ := Option.map_eq_some_iff.mp same.symm
  cases same
  rw [List.filter_append]
  have opened := (quiet_of_readOnly readOnly).filter
  by_cases idle : plan.operations = [] ∨ syncer.dryRun = true
  · obtain ⟨finished, silent, -⟩ := act_idle_course idle carries
    cases finished
    rw [silent, List.append_nil]
    refine .inl ⟨opened, fun summary success live => ?_⟩
    cases success
    obtain empty | dry := idle
    · exact congrArg List.length empty
    · rw [live] at dry
      cases dry
  · obtain ⟨due, live⟩ := not_or.mp idle
    rw [eq_false_of_ne_true live, act_of_due due] at carries
    obtain ⟨execution, first, _, _, rfl, executing, rfl, finished, -⟩ := World.course_bind_some.mp carries
    cases finished
    rw [List.append_nil]
    obtain ⟨attempted, ⟨quiet, failed⟩ | ⟨answer, flushes, applied⟩⟩ := execute_effect executing
    · refine .inl ⟨opened.append quiet, fun summary success _ => ?_⟩
      obtain ⟨succeeded, -⟩ := Execution.isSuccess_iff.mp (Execution.verdict_eq_ok success).1
      rw [Execution.outcomes_eq_nil succeeded failed] at attempted
      exact absurd (List.length_eq_zero_iff.mp attempted.symm) due
    · refine .inr ⟨answer, opened.flushes_append flushes, fun summary success => ?_⟩
      obtain ⟨succeeded, planned⟩ := Execution.verdict_eq_ok success
      obtain ⟨-, done⟩ := Execution.isSuccess_iff.mp succeeded
      rw [Execution.applyFailed, applied] at done
      refine ⟨planned ▸ List.length_pos_iff.mpr due, ?_⟩
      cases answer with
      | ok => rfl
      | error cause => cases done

/-- What has been called for so far is pending exactly if the last order to apply failed. -/
def Accounted (steps : List Step) : Prop := Applied steps ↔ ¬ LastApplicationFailed steps

private theorem Turn.effect {turn : Turn σ} {reply : Except CycleError Summary} {later : Syncer}
    (finished : (turn.run world).result = some (reply, later)) :
    (Quiet (turn.calls world) ∧
        ∀ summary, reply = .ok summary → turn.syncer.dryRun = false → summary.planned = 0) ∨
      ∃ answer, Flushes (turn.calls world) answer ∧
        ∀ summary, reply = .ok summary → 0 < summary.planned ∧ answer = .ok () := by
  have course := turn.free_course world
  rw [finished] at course
  exact course.effect

private theorem Accounted.turn {earlier : List Step} (accounted : Accounted earlier) {turn : Turn σ}
    (finishes : (turn.run world).result ≠ none) : Accounted (earlier ++ turn.calls world) := by
  obtain ⟨⟨reply, later⟩, finished⟩ := Option.ne_none_iff_exists'.mp finishes
  obtain ⟨quiet, -⟩ | ⟨answer, flushes, -⟩ := Turn.effect finished
  · rw [Accounted, quiet.applied_append, quiet.lastApplicationFailed_append]
    exact accounted
  · rw [Accounted, flushes.applied_append, flushes.lastApplicationFailed_append]
    cases answer <;> simp

/-- The account is kept over any sequence of turns that come to their ends. -/
theorem Accounted.turns {earlier : List Step} (accounted : Accounted earlier) {turns : List (Turn σ)}
    (finish : ∀ turn ∈ turns, (turn.run world).result ≠ none) :
    Accounted (earlier ++ turns.flatMap (Turn.calls world)) := by
  induction turns generalizing earlier with
  | nil => rwa [List.flatMap_nil, List.append_nil]
  | cons turn rest ih =>
    rw [List.flatMap_cons, ← List.append_assoc]
    refine ih (accounted.turn (finish turn List.mem_cons_self)) fun other member => ?_
    exact finish other (List.mem_cons_of_mem _ member)

/-- After a cycle that is a success, every change of the run has been applied exactly if the plan of this cycle was not
empty or the last order to apply before it did not fail. A cycle with an empty plan applies nothing, so what an order
that failed has left pending stays so. -/
theorem applied_iff_of_success (world : World σ) (turns : List (Turn σ)) (last : Turn σ) (summary : Summary)
    (later : Syncer) (finish : ∀ turn ∈ turns, (turn.run world).result ≠ none)
    (live : last.syncer.dryRun = false) (success : (last.run world).result = some (.ok summary, later)) :
    Applied ((turns ++ [last]).flatMap (Turn.calls world)) ↔
      0 < summary.planned ∨ ¬ LastApplicationFailed (turns.flatMap (Turn.calls world)) := by
  have start : Accounted [] := iff_of_true trivial (by simp [LastApplicationFailed])
  have earlier : Applied (turns.flatMap (Turn.calls world)) ↔
      ¬ LastApplicationFailed (turns.flatMap (Turn.calls world)) := start.turns finish
  rw [List.flatMap_append, List.flatMap_singleton]
  obtain ⟨quiet, idle⟩ | ⟨answer, flushes, planned⟩ := Turn.effect success
  · rw [quiet.applied_append, earlier, idle summary rfl live]
    simp
  · obtain ⟨planned, rfl⟩ := planned summary rfl
    rw [flushes.applied_append]
    simp [planned]

/-- Two cycles, 10 milliseconds apart. The order to apply fails in the first one; after that it works again, and
the routers are replaced. -/
def failedThenSynced (routers : List Router) : List (Turn Rehearsal.Scene) :=
  let scene : Rehearsal.Scene :=
    { Rehearsal.Scene.calm "dns.lan" [⟨"plain", "file", [], "Host(`a.b`)"⟩] [] [] with
      faults := ⟨false, false, false, true⟩
      upcoming := [(5, .faults ({ · with apply := false })), (5, .routers routers)] }
  let first : Turn Rehearsal.Scene :=
    ⟨⟨⟨⟨[], [], [], []⟩, "managed", 10, .empty⟩, "dns.lan", false⟩, none, 0, scene⟩
  [first, first.next Rehearsal.world 10]

/-- When the second cycle deletes the alias again, it applies the creation along with the deletion. -/
theorem applied_iff_of_success_rehearsed :
    ((failedThenSynced []).map fun turn => (turn.run Rehearsal.world).result.map (·.1.toOption)) =
        [some none, some (some ⟨0, 1, 1, 0, 1, 0, 0, false⟩)] ∧
      Applied ((failedThenSynced []).flatMap (Turn.calls Rehearsal.world)) := by
  refine ⟨by decide +kernel, ?_⟩
  have failed : ((failedThenSynced [])[0].run Rehearsal.world).result.isSome = true := by decide +kernel
  have succeeded : ((failedThenSynced [])[1].run Rehearsal.world).result.map (·.1.toOption) =
      some (some ⟨0, 1, 1, 0, 1, 0, 0, false⟩) := by decide +kernel
  obtain ⟨⟨reply, later⟩, finished, same⟩ := Option.map_eq_some_iff.mp succeeded
  cases reply with
  | error cause => cases same
  | ok summary =>
    cases same
    refine (applied_iff_of_success Rehearsal.world [(failedThenSynced [])[0]] _ _ later ?_ (by decide +kernel)
      finished).mpr (.inl Nat.one_pos)
    intro turn member ended
    rw [List.mem_singleton.mp member] at ended
    rw [ended] at failed
    cases failed

/-- When the routers stay as they are, the second cycle has nothing to do. It is a success, and the creation that
the first one could not apply is still pending. -/
theorem change_pending_after_success :
    let turns := failedThenSynced [⟨"plain", "file", [], "Host(`a.b`)"⟩]
    (turns.map fun turn => (turn.run Rehearsal.world).result.map (·.1.toOption)) =
        [some none, some (some ⟨1, 1, 0, 0, 0, 0, 0, false⟩)] ∧
      ¬ Applied (turns.flatMap (Turn.calls Rehearsal.world)) := by
  decide +kernel

end AliasSync.Sync
