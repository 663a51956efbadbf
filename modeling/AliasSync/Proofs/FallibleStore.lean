import AliasSync.Proofs.DryRun
import AliasSync.Proofs.ReliableStore

/-! A store in which any call may fail. A call that fails has no effect, so what a plan does to the store is what those
of its operations do that succeed. -/

namespace AliasSync.Sync

open AliasSync.Operation (creations deletions)

variable {σ : Type} {world : World σ} {drifts : σ → σ → Prop} {aliases : σ → List HostAlias} {valid : σ → Prop}
  {fqdn parent : String} {routers : List Router} {limit : Nat}
  {generate : String → Except GeneratorError (List String)} {before after : σ} {steps : List Step}
  {operations : List Operation} {outcomes : List OperationOutcome}

namespace Step

def accomplished : Step → Option Operation
  | .call (.create entry _) (.ok _) => some (.create entry)
  | .call (.delete entry) (.ok _) => some (.delete entry)
  | _ => none

def failed : Step → Option Operation
  | .call (.create entry _) (.error _) => some (.create entry)
  | .call (.delete entry) (.error _) => some (.delete entry)
  | _ => none

private theorem not_attempted {step : Step} (idle : step.attempted = none) :
    step.accomplished = none ∧ step.failed = none := by
  cases step with
  | note note => exact ⟨rfl, rfl⟩
  | call request reply =>
    cases request with
    | create | delete => cases idle
    | lookup | aliases | routers | apply | generate => exact ⟨rfl, rfl⟩

theorem nothing_attempted {steps : List Step} (idle : steps.filterMap attempted = []) :
    steps.filterMap accomplished = [] ∧ steps.filterMap failed = [] := by
  have each := List.filterMap_eq_nil_iff.mp idle
  constructor
  · exact List.filterMap_eq_nil_iff.mpr fun step member => (not_attempted (each step member)).1
  · exact List.filterMap_eq_nil_iff.mpr fun step member => (not_attempted (each step member)).2

end Step

/-- An operation is accomplished or fails, and those that fail come in the order of the plan. -/
theorem Performs.parts (performs : Performs world drifts parent operations before steps outcomes after) :
    (steps.filterMap Step.accomplished ++ steps.filterMap Step.failed).Perm operations ∧
      (steps.filterMap Step.failed).Sublist operations := by
  induction performs with
  | nil => exact ⟨.nil, .slnil⟩
  | @cons operation rest before reply middle calls outcomes after reacts later ih =>
    obtain ⟨whole, inOrder⟩ := ih
    cases operation with
    | create entry =>
      cases reply with
      | ok id => exact ⟨whole.cons _, inOrder.cons _⟩
      | error cause => exact ⟨List.perm_middle.trans (whole.cons _), inOrder.cons_cons _⟩
    | delete entry =>
      cases reply with
      | ok done => exact ⟨whole.cons _, inOrder.cons _⟩
      | error cause => exact ⟨List.perm_middle.trans (whole.cons _), inOrder.cons_cons _⟩

/-- While an assertion holds, which nothing ends, the aliases change only as they are ordered to, and only by calls
that succeed: a creation adds the alias under an id that is not in use, and a deletion takes away what has the id. Any
call may fail, but what is listed and served is what there is, and the generator gives the same answers all along. -/
structure FallibleStore (world : World σ) (aliases : σ → List HostAlias) (valid : σ → Prop)
    (fqdn parent : String) (routers : List Router) (limit : Nat)
    (generate : String → Except GeneratorError (List String)) : Prop where
  elapse : ∀ first last state, Calm aliases valid state (world.elapse first last state)
  reading : CalmReading world aliases valid
  lookup : ∀ {state found}, valid state → (world.answer state (.lookup fqdn)).1 = .ok (some found) → found = parent
  listing : ∀ {state listed}, valid state → (world.answer state (.aliases parent)).1 = .ok listed →
    listed = aliases state
  serving : ∀ {state served}, valid state → (world.answer state .routers).1 = .ok served → served = routers
  generation : ∀ {state} pattern, valid state → (world.answer state (.generate pattern limit)).1 = generate pattern
  creation : ∀ {state} entry {reply after}, valid state → world.answer state (.create entry parent) = (reply, after) →
    valid after ∧ match reply with
      | .ok id => (∀ other ∈ aliases state, other.id ≠ some id) ∧
        (aliases after).Perm ({ entry with id := some id } :: aliases state)
      | .error _ => aliases after = aliases state
  deletion : ∀ {state entry id reply after}, valid state → entry.id = some id →
    world.answer state (.delete entry) = (reply, after) →
    valid after ∧ match reply with
      | .ok _ => (aliases after).Perm (dropId id (aliases state))
      | .error _ => aliases after = aliases state
  application : ∀ state, Calm aliases valid state (world.answer state .apply).2

namespace FallibleStore

variable (store : FallibleStore world aliases valid fqdn parent routers limit generate)
include store

private theorem generates : Generates world (Calm aliases valid) valid limit generate := by
  intro before pattern reply after kept reacts
  exact ⟨reacts.calm_reply kept fun still _ => store.generation pattern still,
    (store.reading.reacts rfl reacts kept).1⟩

/-- The operations that succeed move one alias each over to the other side of the balance. -/
theorem balances (performs : Performs world (Calm aliases valid) parent operations before steps outcomes after)
    (kept : valid before) (identified : Identified (aliases before))
    (stored : ∀ entry ∈ deletions operations, entry ∈ aliases before) (once : (deletions operations).Nodup) :
    Balances aliases valid (steps.filterMap Step.accomplished) before after := by
  induction performs with
  | nil => exact .nil kept identified rfl
  | @cons operation rest before reply middle calls outcomes after reacts later ih =>
    obtain ⟨waited, drift, answered⟩ := reacts
    obtain ⟨still, same⟩ := drift kept
    cases operation with
    | create entry =>
      obtain ⟨ready, effect⟩ := store.creation entry still answered
      cases reply with
      | error cause =>
        have unchanged : aliases middle = aliases before := effect.trans same
        rw [← unchanged] at identified stored
        have balances := ih ready identified stored once
        exact balances.congr balances.still unchanged.symm rfl
      | ok id =>
        obtain ⟨fresh, added⟩ := effect
        rw [same] at fresh added
        have grown : Identified ({ entry with id := some id } :: aliases before) := identified.cons rfl fresh
        have kept : ∀ other ∈ deletions rest, other ∈ aliases middle := fun other member =>
          added.mem_iff.mpr (List.mem_cons_of_mem _ (stored other member))
        exact (ih ready (grown.perm added) kept once).create added
    | delete entry =>
      have held : entry ∈ aliases before := stored entry List.mem_cons_self
      obtain ⟨id, named⟩ := Option.ne_none_iff_exists'.mp (identified.named entry held)
      obtain ⟨ready, effect⟩ := store.deletion still named answered
      obtain ⟨apart, once⟩ := List.nodup_cons.mp once
      have later : ∀ other ∈ deletions rest, other ∈ aliases before :=
        fun other member => stored other (List.mem_cons_of_mem _ member)
      cases reply with
      | error cause =>
        have unchanged : aliases middle = aliases before := effect.trans same
        rw [← unchanged] at identified later
        have balances := ih ready identified later once
        exact balances.congr balances.still unchanged.symm rfl
      | ok done =>
        have dropped : (aliases middle).Perm (dropId id (aliases before)) := same ▸ effect
        have kept : ∀ other ∈ deletions rest, other ∈ aliases middle := by
          intro other member
          refine dropped.mem_iff.mpr (mem_dropId.mpr ⟨later other member, fun same => apart ?_⟩)
          rwa [← identified.unique.eq_of_id held (later other member) named same]
        have taken : (aliases before).Perm (entry :: aliases middle) :=
          (identified.unique.perm_cons_dropId held named).trans (dropped.symm.cons entry)
        exact (ih ready (identified.dropId.perm dropped) kept once).delete taken

/-- Acting on the plan of a store changes it by the operations that succeed, whether they are applied or not. -/
theorem acts {plan : Plan} {reply : Except CycleError Summary} (kept : valid before)
    (identified : Identified (aliases before))
    (stored : ∀ entry ∈ deletions plan.operations, entry ∈ aliases before)
    (once : (deletions plan.operations).Nodup)
    (course : world.Course (Calm aliases valid) (act parent false plan) before steps (some reply) after) :
    Balances aliases valid (steps.filterMap Step.accomplished) before after ∧
      (steps.filterMap Step.accomplished ++ steps.filterMap Step.failed).Perm plan.operations ∧
      (steps.filterMap Step.failed).Sublist plan.operations := by
  rw [← Step.filterMap_calls Step.accomplished fun _ => rfl, ← Step.filterMap_calls Step.failed fun _ => rfl]
  by_cases idle : plan.operations = []
  · obtain ⟨-, silent, rfl⟩ := act_idle_course (.inl idle) course
    rw [silent, idle]
    exact ⟨.nil kept identified rfl, .nil, .slnil⟩
  · rw [act_of_due idle] at course
    obtain ⟨execution, first, _, _, rfl, executing, rfl, -, rfl⟩ := World.course_bind_some.mp course
    obtain ⟨calls, middle, performs, ending⟩ := execute_result executing
    have moved := store.balances performs kept identified stored once
    rw [List.append_nil]
    rcases ending with ⟨-, -, called, rfl⟩ | ⟨-, answer, ⟨waited, drift, answered⟩, -, called⟩
    · rw [called]
      exact ⟨moved, performs.parts⟩
    · obtain ⟨ready, waiting⟩ := drift moved.still
      have applied := store.application waited ready
      rw [answered] at applied
      rw [called, List.filterMap_append, List.filterMap_append]
      have silent : [Step.call .apply answer].filterMap Step.accomplished = [] := rfl
      have faultless : [Step.call .apply answer].filterMap Step.failed = [] := rfl
      rw [silent, faultless, List.append_nil, List.append_nil]
      exact ⟨moved.congr applied.1 rfl (applied.2.trans waiting), performs.parts⟩

/-- Whatever arrives of the two snapshots is what there is. -/
theorem fetched {listed : List HostAlias} {served : List Router} (kept : valid before)
    (fetch : world.Fetch (Calm aliases valid) parent before steps (some (.ok (listed, served))) after) :
    listed = aliases before ∧ served = routers := by
  have serves {first last} (still : valid first)
      (reacts : world.Reacts (Calm aliases valid) first .routers (.ok served) last) : served = routers := by
    obtain ⟨waited, drift, answered⟩ := reacts
    exact store.serving (drift still).1 (congrArg Prod.fst answered)
  obtain ⟨waited, still, same, answered⟩ := store.reading.fetch_listing kept fetch
  refine ⟨(store.listing still answered).trans same, ?_⟩
  obtain ⟨-, middle, ⟨asked, routed⟩ | ⟨routed, asked⟩⟩ := fetch.both
  · exact serves (store.reading.reacts rfl asked kept).1 routed
  · exact serves kept routed

/-- A cycle that comes to its plan has planned the difference of the two tables, and left the store as it was. -/
theorem prepares {planner : Planner} {ready : Prepared} (kept : valid before) (bound : planner.limit = limit)
    (course : world.Course (Calm aliases valid) (planner.prepare fqdn) before steps (some (.ok ready)) after) :
    (valid after ∧ aliases after = aliases before) ∧ ready.parent = parent ∧
      ready.plan.operations = diff (planner.desired generate routers) (planner.managed (aliases before)) ∧
      planner.Continues generate ready.planner := by
  subst bound
  refine ⟨store.reading.course course (planner.prepare_uses fqdn) kept, ?_⟩
  obtain ⟨-, impossible, -⟩ | ⟨answer, middle, _, found, -, course⟩ := course
  · cases impossible
  obtain ⟨looked, same⟩ := store.reading.reacts rfl found kept
  rcases answer with fault | _ | named
  · cases course.2.1
  · cases course.2.1
  obtain ⟨waited, drift, answered⟩ := found
  obtain rfl : named = parent := store.lookup (drift kept).1 (congrArg Prod.fst answered)
  obtain ⟨impossible, -⟩ | ⟨fetched, _, _, _, fetch, -, course⟩ := course
  · cases impossible
  rcases fetched with fault | ⟨listed, served⟩
  · cases course.2.1
  obtain ⟨rfl, rfl⟩ := store.fetched looked fetch
  obtain ⟨⟨plan, later⟩, _, _, _, -, computes, -, finished, -⟩ := World.course_bind_some.mp course
  cases finished
  obtain ⟨ready, -⟩ := store.reading.fetch fetch looked
  obtain ⟨-, continues, planned, -⟩ := Planner.plan_result store.generates ready computes
  rw [same] at planned
  exact ⟨rfl, planned, continues⟩

end FallibleStore

open Rehearsal (Scene GeneratorTable) in
/-- A rehearsal in which only the faults are set is such a world. -/
theorem fallibleStore_rehearsal (fqdn : String) (routers : List Router) (limit : Nat) (table : GeneratorTable) :
    FallibleStore Rehearsal.world Scene.aliases (Scene.Alone routers table) fqdn "override" routers limit
      (table.generate · limit) where
  elapse first last scene alone := by
    have still : Rehearsal.world.elapse first last scene = scene := alone.elapse last
    rw [still]
    exact ⟨alone, rfl⟩
  reading scene request reads alone := by
    change (scene.answer request).2.Alone _ _ ∧ (scene.answer request).2.aliases = _
    rw [scene.answer_of_reading reads]
    exact ⟨alone, rfl⟩
  lookup {scene found} alone answered := by
    change (scene.answer (.lookup fqdn)).1 = _ at answered
    simp only [Scene.answer] at answered
    split at answered
    · cases answered
    · simp only [Except.ok.injEq, Option.ite_none_right_eq_some, Option.some.injEq] at answered
      exact answered.2.symm.trans alone.override
  listing {scene listed} _ answered := by
    change (scene.answer (.aliases _)).1 = _ at answered
    simp only [Scene.answer] at answered
    split at answered <;> cases answered
    rfl
  serving {scene served} alone answered := by
    change (scene.answer .routers).1 = _ at answered
    simp only [Scene.answer] at answered
    split at answered <;> cases answered
    exact alone.serving
  generation {scene} pattern alone := by
    change scene.generator.generate pattern limit = _
    rw [alone.generator]
  creation {scene} entry reply after alone answered := by
    change scene.answer (.create entry "override") = _ at answered
    by_cases refused : entry.key ∈ scene.failKeys
    · have unchanged : scene.answer (.create entry "override") = (.error (Scene.injected entry.key), scene) :=
        if_pos refused
      cases unchanged.symm.trans answered
      exact ⟨alone, rfl⟩
    · have created : scene.answer (.create entry "override") = (.ok ("uuid-" ++ toString scene.nextId),
          { scene with
            nextId := scene.nextId + 1
            aliases := scene.aliases ++ [{ entry with id := some ("uuid-" ++ toString scene.nextId) }] }) :=
        if_neg refused
      cases created.symm.trans answered
      exact ⟨alone.answer created (alone.given_next entry), alone.fresh, List.perm_append_singleton ..⟩
  deletion {scene entry id reply after} alone named answered := by
    change scene.answer (.delete entry) = _ at answered
    by_cases refused : entry.key ∈ scene.failKeys
    · have unchanged : scene.answer (.delete entry) = (.error (Scene.injected entry.key), scene) := if_pos refused
      cases unchanged.symm.trans answered
      exact ⟨alone, rfl⟩
    · have deleted : scene.answer (.delete entry) = (.ok (), { scene with aliases := dropId id scene.aliases }) := by
        simp [Scene.answer, refused, named, dropId]
      cases deleted.symm.trans answered
      exact ⟨alone.answer deleted fun other member => alone.given other (mem_dropId.mp member).1, .refl _⟩
  application scene alone := by
    change (scene.answer .apply).2.Alone _ _ ∧ (scene.answer .apply).2.aliases = _
    simp only [Scene.answer]
    split <;> exact ⟨alone, rfl⟩

end AliasSync.Sync
