import AliasSync.Proofs.DryRun

/-! What a cycle tells its user: its metrics, and its records from the level of information on, cut down to what they
are about. All that is told of a plan is a function of its issues and sizes, and what is told of an execution is a
function of its outcomes, but for a few asides. -/

namespace AliasSync.Sync

open AliasSync.Rule (Candidate)

def gistOf (record : Log.Record) : Log.Record :=
  { record with fields := record.fields.filter fun field => field.1 ∈ ["router", "alias", "kind", "error"] }

/-- What a user is told: measurements, and the gist of records that are no mere details. -/
def Note.gist : Note → Option Note
  | .metric measured => some (.metric measured)
  | .log record => if record.level.rank < Log.Level.info.rank then none else some (.log (gistOf record))

theorem Note.any_gist {view : Note → Bool}
    (quiet : ∀ record : Log.Record, record.level.rank < Log.Level.info.rank → view (.log record) = false)
    (same : ∀ record, view (.log (gistOf record)) = view (.log record)) (note : Note) :
    note.gist.any view = view note := by
  cases note with
  | metric measured => rfl
  | log record =>
    simp only [gist]
    split
    case isTrue detail => rw [quiet record detail, Option.any_none]
    case isFalse => rw [Option.any_some, same]

namespace Step

def note? : Step → Option Note
  | .note reported => some reported
  | .call _ _ => none

def told (step : Step) : Option Note := step.note?.bind Note.gist

end Step

def Issue.warning : Issue → Log.Record
  | .rule router cause => .warn .planner "Failed to parse router rule, router contributes no aliases"
    [("router", .plain router), ("error", .plain cause.message)]
  | .expansion router cause => .warn .planner "Skipping domain candidate"
    [("router", .plain router), ("error", .plain cause.message)]

def Issue.told (issue : Issue) : List Note :=
  .log issue.warning :: match issue with
    | .rule _ _ => [.metric .ruleParseFailure]
    | .expansion _ (.generation _ _) => [.metric .generationFailure]
    | .expansion _ (.malformed _) => []

namespace OperationOutcome

def record (outcome : OperationOutcome) : Log.Record :=
  let name : String × Log.Value := ("alias", .plain outcome.operation.key)
  match outcome.result, outcome.operation.kind with
  | .ok (), .create => .info .executor "Created alias" [name]
  | .ok (), .delete => .info .executor "Deleted alias" [name]
  | .error cause, kind => .error .executor "Operation failed"
    [name, ("kind", .plain kind.name), ("error", .plain cause.message)]

def told (outcome : OperationOutcome) : List Note :=
  [.log outcome.record, .metric (.operation outcome.operation.kind outcome.succeeded)]

end OperationOutcome

variable {σ : Type} {world : World σ} {drifts : σ → σ → Prop} {before after : σ} {steps : List Step}
  {limit : Nat} {planner : Planner} {router : Router} {candidate : Candidate} {harvest next : Harvest}
  {parent : String} {plan : Plan}

private theorem told_of_details {program : Program α} {result : Option α}
    (details : program.Reports fun note => note.gist = none)
    (course : world.Course drifts program before steps result after) : steps.filterMap Step.told = [] := by
  apply List.filterMap_eq_nil_iff.mpr
  intro step seen
  cases step with
  | call request reply => rfl
  | note note => exact course.note_allowed details seen

theorem told_of_calls (calls : steps.filter Step.isCall = steps) : steps.filterMap Step.told = [] := by
  apply List.filterMap_eq_nil_iff.mpr
  intro step seen
  cases step with
  | call request reply => rfl
  | note note => cases List.filter_eq_self.mp calls _ seen

private theorem expand_details (limit : Nat) (cache : ExpansionCache) (candidate : Candidate) :
    (expand limit cache candidate).Reports fun note => note.gist = none := by
  unfold expand
  cases candidate.kind with
  | literal => trivial
  | pattern =>
    refine Program.Reports.bind ?_ ?_
    · unfold expandPattern
      cases cache.get? candidate.value with
      | some names => exact ⟨rfl, trivial⟩
      | none =>
        intro reply
        cases reply with
        | error cause => trivial
        | ok names => exact ⟨rfl, trivial⟩
    · rintro ⟨reply, later⟩
      cases reply <;> trivial

/-- New issues have been reported, and what has been told is what these tell. -/
private def Harvest.Tells (harvest next : Harvest) (steps : List Step) : Prop :=
  ∃ issues, next.issues = harvest.issues ++ issues ∧ steps.filterMap Step.told = issues.flatMap Issue.told

namespace Harvest

private theorem Tells.refl (harvest : Harvest) : harvest.Tells harvest [] := ⟨[], (List.append_nil _).symm, rfl⟩

private theorem Tells.trans {middle : Harvest} {first last : List Step} (earlier : harvest.Tells middle first)
    (later : middle.Tells next last) : harvest.Tells next (first ++ last) := by
  obtain ⟨issues, reported, told⟩ := earlier
  obtain ⟨more, further, toldLater⟩ := later
  refine ⟨issues ++ more, ?_, ?_⟩
  · rw [further, reported, List.append_assoc]
  · rw [List.filterMap_append, told, toldLater, List.flatMap_append]

private theorem Tells.of_details {program : Program α} {result : Option α}
    (details : program.Reports fun note => note.gist = none)
    (course : world.Course drifts program before steps result after) (same : next.issues = harvest.issues) :
    harvest.Tells next steps :=
  ⟨[], by rw [same, List.append_nil], told_of_details details course⟩

private theorem Tells.foldlM {items : List α} {step : Harvest → α → Program Harvest}
    (each : ∀ {current item next before steps after},
      world.Course drifts (step current item) before steps (some next) after → current.Tells next steps)
    (course : world.Course drifts (items.foldlM step harvest) before steps (some next) after) :
    harvest.Tells next steps :=
  World.Course.foldlM_steps (fun _ current shown _ => harvest.Tells current shown)
    (fun kept _ course => kept.trans (each course)) (.refl harvest) course

private theorem addError_tells {error : ExpansionError}
    (course : world.Course drifts (addError router candidate harvest error) before steps (some next) after) :
    harvest.Tells next steps := by
  obtain ⟨-, rfl⟩ := addError_result course
  refine ⟨[.expansion router.name error], rfl, ?_⟩
  unfold addError at course
  cases error with
  | generation pattern cause =>
    simp only [Program.bind_eq, World.course_bind_some, World.course_log, World.course_measure] at course
    obtain ⟨_, _, _, _, rfl, ⟨rfl, -⟩, _, _, _, _, rfl, ⟨rfl, -⟩, rfl, -⟩ := course
    rfl
  | malformed name =>
    simp only [Program.bind_eq, World.course_bind_some, World.course_log] at course
    obtain ⟨_, _, _, _, rfl, ⟨rfl, -⟩, rfl, -⟩ := course
    rfl

private theorem addHost_tells {marker : String} {host : HostName}
    (course : world.Course drifts (addHost marker router harvest host) before steps (some next) after) :
    harvest.Tells next steps := by
  have same : next.issues = harvest.issues := by
    rw [(addHost_result course).2]
  refine .of_details ?_ course same
  unfold addHost
  by_cases known : harvest.desired.contains (HostAlias.ofHostName host marker).key = true
  · simp only [known, ↓reduceIte]
    exact ⟨rfl, trivial⟩
  · simp only [known, Bool.false_eq_true, ↓reduceIte]
    trivial

private theorem addCandidate_tells
    (course : world.Course drifts (addCandidate planner router harvest candidate) before steps (some next) after) :
    harvest.Tells next steps := by
  simp only [addCandidate, Program.bind_eq, World.course_bind_some] at course
  obtain ⟨⟨expanded, cache⟩, _, _, _, rfl, expanding, told, _, _, _, rfl, reporting, adding⟩ := course
  have expands : harvest.Tells { harvest with cache := cache } _ := .of_details (expand_details ..) expanding rfl
  exact expands.trans ((Tells.foldlM addError_tells reporting).trans (Tells.foldlM addHost_tells adding))

private theorem addRouter_tells
    (course : world.Course drifts (addRouter planner harvest router) before steps (some next) after) :
    harvest.Tells next steps := by
  unfold addRouter at course
  cases read : Rule.candidates router.rule with
  | ok candidates =>
    rw [read] at course
    exact Tells.foldlM addCandidate_tells course
  | error cause =>
    simp only [read, Program.bind_eq, World.course_bind_some, World.course_log, World.course_measure] at course
    obtain ⟨_, _, _, _, rfl, ⟨rfl, -⟩, _, _, _, _, rfl, ⟨rfl, -⟩, rfl, finished, -⟩ := course
    cases finished
    exact ⟨[.rule router.name cause], rfl, rfl⟩

end Harvest

private theorem measures_told {metrics : List Metric} {result : Option Unit}
    (course : world.Course drifts (metrics.forM Program.measure) before steps result after) :
    steps.filterMap Step.told = metrics.map .metric := by
  induction metrics generalizing steps with
  | nil =>
    obtain ⟨rfl, -⟩ := course
    rfl
  | cons metric rest ih =>
    obtain ⟨later, rfl, course⟩ := course
    exact congrArg (List.cons _) (ih course)

theorem plan_told {routers : List Router} {aliases : List HostAlias} {later : Planner}
    (course : world.Course drifts (planner.plan routers aliases) before steps (some (plan, later)) after) :
    steps.filterMap Step.told = plan.issues.flatMap Issue.told ++
      (Metric.plan plan.desired plan.managed plan.operations.length).map .metric := by
  simp only [Planner.plan, Program.bind_eq, World.course_bind_some] at course
  obtain ⟨harvest, _, _, _, rfl, harvesting, _, _, _, _, rfl, measuring, rfl, finished, -⟩ := course
  cases finished
  have tells : (Harvest.start planner.cache).Tells harvest _ := .foldlM Harvest.addRouter_tells harvesting
  obtain ⟨issues, rfl, told⟩ := tells
  rw [List.filterMap_append, told, List.append_nil, measures_told measuring]

/-- The note is neither a measurement nor a warning, and it is no record of an operation either. -/
def Note.IsAside (note : Note) : Prop :=
  ∃ record, note = .log record ∧ record.level ≠ .warn ∧
    record.message ∉ ["Created alias", "Deleted alias", "Operation failed"]

private theorem Note.IsAside.gist {note gist : Note} (aside : note.IsAside) (same : note.gist = some gist) :
    gist.IsAside := by
  obtain ⟨record, rfl, calm, other⟩ := aside
  simp only [Note.gist] at same
  split at same
  case isTrue => cases same
  case isFalse =>
    cases same
    exact ⟨_, rfl, calm, other⟩

private theorem told_aside {program : Program α} {result : Option α} (reports : program.Reports Note.IsAside)
    (course : world.Course drifts program before steps result after) :
    ∀ note ∈ steps.filterMap Step.told, note.IsAside := by
  intro note member
  obtain ⟨step, seen, told⟩ := List.mem_filterMap.mp member
  cases step with
  | call request reply => cases told
  | note reported => exact (course.note_allowed reports seen).gist told

private theorem attempt_told {operation : Operation} {result : Except StoreError Unit}
    (course : world.Course drifts (attempt parent operation) before steps (some result) after) :
    steps.filterMap Step.told = if result.toBool then [.log (OperationOutcome.record ⟨operation, result⟩)] else [] := by
  cases operation
  all_goals
    simp only [attempt, Program.bind_eq, World.course_bind_some] at course
    obtain ⟨answer, _, _, _, rfl, asked, rest⟩ := course
    obtain ⟨-, impossible, -⟩ | ⟨_, -, rfl, same⟩ := World.course_request.mp asked
    · cases impossible
    cases same
    cases answer with
    | error cause =>
      obtain ⟨rfl, finished, -⟩ := rest
      cases finished
      rfl
    | ok value =>
      simp only [World.course_bind_some, World.course_log] at rest
      obtain ⟨_, _, _, _, rfl, ⟨rfl, -⟩, rfl, finished, -⟩ := rest
      cases finished
      rfl

private theorem perform_told {operation : Operation} {outcome : OperationOutcome}
    (course : world.Course drifts (perform parent operation) before steps (some outcome) after) :
    steps.filterMap Step.told = outcome.told := by
  simp only [perform, Program.bind_eq, World.course_bind_some] at course
  obtain ⟨result, _, _, _, rfl, trying, rest⟩ := course
  rw [List.filterMap_append, attempt_told trying]
  cases result with
  | error cause =>
    simp only [World.course_bind_some, World.course_log, World.course_measure] at rest
    obtain ⟨_, _, _, _, rfl, ⟨rfl, -⟩, _, _, _, _, rfl, ⟨rfl, -⟩, rfl, finished, -⟩ := rest
    cases finished
    cases operation <;> rfl
  | ok done =>
    obtain ⟨_, rfl, rfl, finished, -⟩ := rest
    cases finished
    cases operation <;> rfl

private theorem performs_told {operations : List Operation} {outcomes : List OperationOutcome}
    (course : world.Course drifts (operations.mapM (perform parent)) before steps (some outcomes) after) :
    steps.filterMap Step.told = outcomes.flatMap OperationOutcome.told := by
  induction operations generalizing before steps outcomes after with
  | nil =>
    obtain ⟨rfl, finished, -⟩ := course
    cases finished
    rfl
  | cons operation rest ih =>
    simp only [List.mapM_cons, Program.bind_eq, World.course_bind_some] at course
    obtain ⟨outcome, _, _, _, rfl, first, remaining, _, _, _, rfl, later, rfl, finished, -⟩ := course
    cases finished
    rw [List.append_nil, List.filterMap_append, perform_told first, ih later, List.flatMap_cons]

/-- Beside the outcomes an execution only tells what became of the order to apply them. -/
theorem execute_told {operations : List Operation} {execution : Execution}
    (course : world.Course drifts (execute parent operations) before steps (some execution) after) :
    ∃ rest, steps.filterMap Step.told = execution.outcomes.flatMap OperationOutcome.told ++ rest ∧
      ∀ note ∈ rest, note.IsAside := by
  have applying (created deleted : Nat) : (applyChanges created deleted).Reports Note.IsAside := by
    intro reply
    cases reply with
    | error cause => exact ⟨⟨_, rfl, nofun, by simp [Log.Record.error]⟩, trivial⟩
    | ok done => exact ⟨⟨_, rfl, nofun, by simp [Log.Record.info]⟩, trivial⟩
  simp only [execute, Program.bind_eq, World.course_bind_some] at course
  obtain ⟨outcomes, _, _, _, rfl, performing, closing⟩ := course
  rw [List.filterMap_append, performs_told performing]
  by_cases idle : Execution.successes outcomes .create + Execution.successes outcomes .delete = 0
  · rw [if_pos idle] at closing
    obtain ⟨rfl, finished, -⟩ := closing
    cases finished
    exact ⟨[], rfl, List.forall_mem_nil _⟩
  · rw [if_neg idle] at closing
    obtain ⟨applied, _, _, _, rfl, -, rfl, finished, -⟩ := World.course_bind_some.mp closing
    cases finished
    refine ⟨_, rfl, told_aside ?_ closing⟩
    exact (applying _ _).bind fun _ => trivial

private theorem announcement_isAside (operation : Operation) : (Note.log (announcement operation)).IsAside := by
  have begins : (announcement operation).message.toList.head? = some '[' := by
    simp [announcement, Log.Record.info]
  refine ⟨_, rfl, nofun, fun member => ?_⟩
  simp only [List.mem_cons, List.not_mem_nil, or_false] at member
  obtain same | same | same := member
  all_goals
    rw [same] at begins
    exact absurd begins (by decide)

theorem act_idle_told {dryRun : Bool} {reply : Option (Except CycleError Summary)}
    (idle : plan.operations = [] ∨ dryRun = true)
    (course : world.Course drifts (act parent dryRun plan) before steps reply after) :
    ∀ note ∈ steps.filterMap Step.told, note.IsAside := by
  refine told_aside ?_ course
  unfold act
  cases planned : plan.operations with
  | nil => exact ⟨⟨_, rfl, nofun, by simp [Log.Record.debug]⟩, trivial⟩
  | cons operation rest =>
    rw [planned] at idle
    obtain impossible | rfl := idle
    · cases impossible
    refine (Program.Reports.forM (fun operation => ?_) (operation :: rest)).bind fun _ => trivial
    exact ⟨announcement_isAside operation, trivial⟩

end AliasSync.Sync
