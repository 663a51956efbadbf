import AliasSync.Proofs.Execution
import AliasSync.Proofs.Harvest
import AliasSync.Sync.Cycle

/-! The course of a cycle, by how far it came: to the host override, to the two snapshots, to the plan, or
to acting on the plan. -/

namespace AliasSync.Sync

variable {σ : Type} {world : World σ} {drifts : σ → σ → Prop} {before after : σ} {steps : List Step}
  {parent : String} {plan : Plan} {dryRun : Bool} {syncer : Syncer}

def Execution.verdict (execution : Execution) (plan : Plan) : Except CycleError Summary :=
  if execution.isSuccess then .ok ((Summary.ofPlan plan false).addExecution execution)
  else .error (.incomplete execution.failed plan.operations.length)

theorem Execution.verdict_eq_ok {execution : Execution} {summary : Summary}
    (success : execution.verdict plan = .ok summary) :
    execution.isSuccess = true ∧ summary.planned = plan.operations.length := by
  unfold verdict at success
  split at success
  case isTrue succeeded =>
    cases success
    exact ⟨succeeded, rfl⟩
  case isFalse => cases success

/-- An empty plan, or a dry run, only makes a report. -/
theorem act_of_idle (parent : String) (idle : plan.operations = [] ∨ dryRun = true) :
    ∃ report : Program Unit, report.Uses (fun _ => False) ∧
      act parent dryRun plan = report.bind fun _ => .done (.ok (Summary.ofPlan plan dryRun)) := by
  unfold act
  cases planned : plan.operations with
  | nil => exact ⟨Program.log _, trivial, rfl⟩
  | cons operation rest =>
    rw [planned] at idle
    obtain impossible | rfl := idle
    · cases impossible
    · exact ⟨(operation :: rest).forM announce, .forM fun _ _ => trivial, rfl⟩

theorem act_of_due (due : plan.operations ≠ []) :
    act parent false plan = (execute parent plan.operations).bind fun execution =>
      .done (execution.verdict plan) := by
  unfold act
  rw [if_neg (by simpa using due), if_neg Bool.false_ne_true]
  refine congrArg (Program.bind _) (funext fun execution => ?_)
  unfold Execution.verdict
  split <;> rfl

/-- A cycle acts on its plan with the operations of the plan and one order to apply. -/
theorem act_uses {allowed : Request → Prop}
    (each : ∀ operation ∈ plan.operations, allowed (operation.request parent)) (apply : allowed .apply) :
    (act parent dryRun plan).Uses allowed := by
  by_cases idle : plan.operations = [] ∨ dryRun = true
  · obtain ⟨report, silent, same⟩ := act_of_idle parent idle
    rw [same]
    exact (silent.mono fun _ impossible => impossible.elim).bind fun _ => trivial
  · obtain ⟨due, live⟩ := not_or.mp idle
    rw [eq_false_of_ne_true live, act_of_due due]
    exact (execute_uses each apply).bind fun _ => trivial

theorem act_idle_course {reply : Option (Except CycleError Summary)}
    (idle : plan.operations = [] ∨ dryRun = true)
    (course : world.Course drifts (act parent dryRun plan) before steps reply after) :
    reply = some (.ok (Summary.ofPlan plan dryRun)) ∧ steps.filter Step.isCall = [] ∧ after = before := by
  obtain ⟨report, silent, same⟩ := act_of_idle parent idle
  have quiet : (act parent dryRun plan).Uses fun _ => False := same ▸ silent.bind fun _ => trivial
  obtain ⟨still, ⟨value, rfl⟩, notes⟩ := course.silent quiet
  rw [same, World.course_bind_some] at course
  obtain ⟨_, _, _, _, -, -, -, finished, -⟩ := course
  exact ⟨finished, List.filter_eq_nil_iff.mpr fun step member => by simp [notes step member], still⟩

def Syncer.withCache (syncer : Syncer) (cache : ExpansionCache) : Syncer :=
  { syncer with planner := { syncer.planner with cache := cache } }

/-- How far a cycle came, and with which steps and which result. -/
inductive Syncer.CycleCourse (world : World σ) (drifts : σ → σ → Prop) (syncer : Syncer) (before : σ) :
    List Step → Option (Except CycleError Summary × Syncer) → σ → Prop where
  | lookupWaits {after : σ} (waits : drifts before after) : CycleCourse world drifts syncer before [] none after
  | lookupFails {cause after}
      (reacts : world.Reacts drifts before (.lookup syncer.hostOverride) (.error cause) after) :
      CycleCourse world drifts syncer before [.call (.lookup syncer.hostOverride) (.error cause)]
        (some (.error (.overrideLookup syncer.hostOverride cause), syncer)) after
  | overrideMissing {after : σ}
      (reacts : world.Reacts drifts before (.lookup syncer.hostOverride) (.ok none) after) :
      CycleCourse world drifts syncer before [.call (.lookup syncer.hostOverride) (.ok none)]
        (some (.error (.overrideNotFound syncer.hostOverride), syncer)) after
  | snapshotsWait {parent middle fetching after}
      (found : world.Reacts drifts before (.lookup syncer.hostOverride) (.ok (some parent)) middle)
      (fetch : world.Fetch drifts parent middle fetching none after) :
      CycleCourse world drifts syncer before
        (.call (.lookup syncer.hostOverride) (.ok (some parent)) :: fetching) none after
  | snapshotsFail {parent middle fetching cause after}
      (found : world.Reacts drifts before (.lookup syncer.hostOverride) (.ok (some parent)) middle)
      (fetch : world.Fetch drifts parent middle fetching (some (.error cause)) after) :
      CycleCourse world drifts syncer before
        (.call (.lookup syncer.hostOverride) (.ok (some parent)) :: fetching)
        (some (.error cause, syncer)) after
  | planWaits {parent middle fetching listed served ready planning after}
      (found : world.Reacts drifts before (.lookup syncer.hostOverride) (.ok (some parent)) middle)
      (fetch : world.Fetch drifts parent middle fetching (some (.ok (listed, served))) ready)
      (computes : world.Course drifts (syncer.planner.plan served listed) ready planning none after) :
      CycleCourse world drifts syncer before
        (.call (.lookup syncer.hostOverride) (.ok (some parent)) :: (fetching ++ planning)) none after
  | acts {parent middle fetching listed served ready planning plan planner planned acting reply after}
      (found : world.Reacts drifts before (.lookup syncer.hostOverride) (.ok (some parent)) middle)
      (fetch : world.Fetch drifts parent middle fetching (some (.ok (listed, served))) ready)
      (computes : world.Course drifts (syncer.planner.plan served listed) ready planning
        (some (plan, planner)) planned)
      (carries : world.Course drifts (act parent syncer.dryRun plan) planned acting reply after) :
      CycleCourse world drifts syncer before
        (.call (.lookup syncer.hostOverride) (.ok (some parent)) :: (fetching ++ planning ++ acting))
        (reply.map fun reply => (reply, { syncer with planner := planner })) after

theorem Syncer.CycleCourse.later {reply : Except CycleError Summary} {later : Syncer}
    (course : syncer.CycleCourse world drifts before steps (some (reply, later)) after) :
    ∃ cache, later = syncer.withCache cache := by
  generalize finished : some (reply, later) = result at course
  cases course with
  | lookupFails | overrideMissing | snapshotsFail =>
    cases finished
    exact ⟨syncer.planner.cache, rfl⟩
  | lookupWaits | snapshotsWait | planWaits => cases finished
  | @acts _ _ _ _ _ _ _ _ _ _ _ acted _ found fetch computes carries =>
    obtain ⟨cache, rfl⟩ := Planner.plan_later computes
    obtain ⟨reply, -, same⟩ := Option.map_eq_some_iff.mp finished.symm
    cases same
    exact ⟨cache, rfl⟩

/-- Nothing is changed before a cycle acts on its plan, and a cycle that never does so is not a success. -/
theorem Syncer.CycleCourse.reads_or_acts {result : Option (Except CycleError Summary × Syncer)}
    (course : syncer.CycleCourse world drifts before steps result after) :
    (ReadOnly steps ∧ ∀ summary later, result ≠ some (.ok summary, later)) ∨
      ∃ opening acting parent plan planner planned reply, steps = opening ++ acting ∧ ReadOnly opening ∧
        world.Course drifts (act parent syncer.dryRun plan) planned acting reply after ∧
        result = reply.map fun reply => (reply, { syncer with planner := planner }) := by
  cases course with
  | lookupWaits => exact .inl ⟨.nil, by simp⟩
  | lookupFails | overrideMissing => exact .inl ⟨ReadOnly.nil.lookup, by simp⟩
  | snapshotsWait found fetch | snapshotsFail found fetch => exact .inl ⟨fetch.readOnly.lookup, by simp⟩
  | planWaits found fetch computes =>
    exact .inl ⟨(fetch.readOnly.append (Planner.plan_readOnly computes)).lookup, by simp⟩
  | acts found fetch computes carries =>
    exact .inr ⟨_, _, _, _, _, _, _, List.cons_append.symm,
      (fetch.readOnly.append (Planner.plan_readOnly computes)).lookup, carries, rfl⟩

theorem cycle_course {result : Option (Except CycleError Summary × Syncer)}
    (course : world.Course drifts syncer.cycle before steps result after) :
    syncer.CycleCourse world drifts before steps result after := by
  obtain ⟨rfl, asked⟩ | ⟨answer, _, _, _, rfl, asked, rest⟩ := World.course_bind.mp course
  · obtain ⟨rfl, -, waits⟩ | ⟨_, _, _, impossible⟩ := World.course_request.mp asked
    · exact .lookupWaits waits
    · cases impossible
  obtain ⟨-, impossible, -⟩ | ⟨_, reacts, rfl, same⟩ := World.course_request.mp asked
  · cases impossible
  cases same
  rw [List.singleton_append]
  obtain cause | _ | parent := answer
  · obtain ⟨rfl, rfl, rfl⟩ := rest
    exact .lookupFails reacts
  · obtain ⟨rfl, rfl, rfl⟩ := rest
    exact .overrideMissing reacts
  obtain ⟨rfl, fetching⟩ | ⟨fetched, _, _, _, rfl, fetching, rest⟩ := World.course_bind.mp rest
  · exact .snapshotsWait reacts (World.course_fetchSnapshots.mp fetching)
  have fetch := World.course_fetchSnapshots.mp fetching
  obtain cause | ⟨listed, served⟩ := fetched
  · obtain ⟨rfl, rfl, rfl⟩ := rest
    rw [List.append_nil]
    exact .snapshotsFail reacts fetch
  obtain ⟨rfl, planning⟩ | ⟨⟨plan, planner⟩, _, _, _, rfl, planning, rest⟩ := World.course_bind.mp rest
  · exact .planWaits reacts fetch planning
  rw [← List.append_assoc]
  obtain ⟨rfl, acting⟩ | ⟨reply, _, _, _, rfl, acting, rfl, rfl, rfl⟩ := World.course_bind.mp rest
  · exact .acts reacts fetch planning acting
  · rw [List.append_nil]
    exact .acts reacts fetch planning acting

end AliasSync.Sync
