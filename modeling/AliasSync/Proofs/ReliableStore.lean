import AliasSync.Proofs.CalmReading
import AliasSync.Proofs.CycleCourse
import AliasSync.Proofs.PlanSets
import AliasSync.Proofs.StoredAliases

/-! A world in which no call fails and nobody else changes the aliases. What a plan orders there is what becomes of
the store: what was there and what was created is what is there and what was deleted. -/

namespace AliasSync.Sync

open AliasSync.Operation (creations deletions)

variable {σ : Type} {world : World σ} {aliases : σ → List HostAlias} {valid : σ → Prop}
  {fqdn parent : String} {routers : List Router} {limit : Nat}
  {generate : String → Except GeneratorError (List String)} {before after : σ} {steps : List Step}

/-- While an assertion holds, which nothing ends, no call fails, the proxy and the generator give the same answers all
along, and the aliases change only as they are ordered to: a creation adds the alias under an id that is not
in use, and a deletion takes away what has the id. -/
structure ReliableStore (world : World σ) (aliases : σ → List HostAlias) (valid : σ → Prop)
    (fqdn parent : String) (routers : List Router) (limit : Nat)
    (generate : String → Except GeneratorError (List String)) : Prop where
  elapse : ∀ first last state, Calm aliases valid state (world.elapse first last state)
  reading : CalmReading world aliases valid
  lookup : ∀ {state}, valid state → (world.answer state (.lookup fqdn)).1 = .ok (some parent)
  listing : ∀ {state}, valid state → (world.answer state (.aliases parent)).1 = .ok (aliases state)
  serving : ∀ {state}, valid state → (world.answer state .routers).1 = .ok routers
  generation : ∀ {state} pattern, valid state →
    (world.answer state (.generate pattern limit)).1 = generate pattern
  creation : ∀ {state} entry, valid state → ∃ id after,
    world.answer state (.create entry parent) = (.ok id, after) ∧ valid after ∧
      (∀ other ∈ aliases state, other.id ≠ some id) ∧
      (aliases after).Perm ({ entry with id := some id } :: aliases state)
  deletion : ∀ {state entry id}, valid state → entry.id = some id → ∃ after,
    world.answer state (.delete entry) = (.ok (), after) ∧ valid after ∧
      (aliases after).Perm (dropId id (aliases state))
  application : ∀ {state}, valid state → ∃ after,
    world.answer state .apply = (.ok (), after) ∧ valid after ∧ aliases after = aliases state

/-- The store holds what it held and what was created, except for what was deleted. -/
structure Balances (aliases : σ → List HostAlias) (valid : σ → Prop) (operations : List Operation)
    (before after : σ) : Prop where
  still : valid after
  identified : Identified (aliases after)
  balance : ∃ created, created.map HostAlias.anonymous = (creations operations).map HostAlias.anonymous ∧
    (aliases after ++ deletions operations).Perm (created ++ aliases before)

theorem Balances.nil (still : valid after) (identified : Identified (aliases before))
    (same : aliases after = aliases before) : Balances aliases valid [] before after := by
  refine ⟨still, same.symm ▸ identified, [], rfl, ?_⟩
  simp [deletions, same]

theorem Balances.congr {operations : List Operation} {first last : σ}
    (balances : Balances aliases valid operations first last) (still : valid after)
    (began : aliases before = aliases first) (ended : aliases after = aliases last) :
    Balances aliases valid operations before after := by
  refine ⟨still, ended.symm ▸ balances.identified, ?_⟩
  rw [began, ended]
  exact balances.balance

theorem Balances.create {operations : List Operation} {middle : σ} {entry : HostAlias} {id : String}
    (balances : Balances aliases valid operations middle after)
    (added : (aliases middle).Perm ({ entry with id := some id } :: aliases before)) :
    Balances aliases valid (.create entry :: operations) before after := by
  obtain ⟨still, identified, created, names, balance⟩ := balances
  refine ⟨still, identified, { entry with id := some id } :: created, congrArg (entry.anonymous :: ·) names, ?_⟩
  exact balance.trans ((added.append_left created).trans List.perm_middle)

theorem Balances.delete {operations : List Operation} {middle : σ} {entry : HostAlias}
    (balances : Balances aliases valid operations middle after)
    (taken : (aliases before).Perm (entry :: aliases middle)) :
    Balances aliases valid (.delete entry :: operations) before after := by
  obtain ⟨still, identified, created, names, balance⟩ := balances
  refine ⟨still, identified, created, names, ?_⟩
  exact (List.perm_middle.trans (balance.cons entry)).trans
    (List.perm_middle.symm.trans (taken.symm.append_left created))

theorem Balances.tally {operations : List Operation} (moved : Balances aliases valid operations before after)
    (marker key : String) :
    copies marker key (aliases after) + copies marker key (deletions operations) =
      copies marker key (creations operations) + copies marker key (aliases before) := by
  obtain ⟨created, names, balance⟩ := moved.balance
  have total : copies marker key _ = copies marker key _ := copies_perm balance
  have nameless : copies marker key created = copies marker key (created.map HostAlias.anonymous) :=
    copies_anonymous.symm
  rwa [copies_append, copies_append, nameless, names, copies_anonymous] at total

/-- The deletions of a plan are stored, and none of them comes twice. -/
theorem deletions_stored (planner : Planner) (desired : AliasTable) (stored : List HostAlias) :
    (∀ entry ∈ deletions (diff desired (planner.managed stored)), entry ∈ stored) ∧
      (deletions (diff desired (planner.managed stored))).Nodup := by
  constructor
  · intro entry member
    obtain ⟨key, found, -⟩ := AliasTable.mem_missingFrom.mp (deletions_diff.mem_iff.mp member)
    exact (Planner.managed_entry found).1
  · refine deletions_diff.nodup_iff.mpr (List.Pairwise.of_map HostAlias.key ?_
      (Planner.managed_keyed.nodup_missingFrom desired))
    exact fun first second apart same => apart (congrArg HostAlias.key same)

namespace ReliableStore

variable (store : ReliableStore world aliases valid fqdn parent routers limit generate)
include store

theorem generates : Generates world (Calm aliases valid) valid limit generate := by
  intro before pattern reply after kept reacts
  exact ⟨reacts.calm_reply kept fun still _ => store.generation pattern still,
    (store.reading.reacts rfl reacts kept).1⟩

private theorem found {reply : Except StoreError (Option String)} (kept : valid before)
    (reacts : world.Reacts (Calm aliases valid) before (.lookup fqdn) reply after) :
    reply = .ok (some parent) :=
  reacts.calm_reply kept fun still _ => store.lookup still

private theorem listed {reply : Except StoreError (List HostAlias)} (kept : valid before)
    (reacts : world.Reacts (Calm aliases valid) before (.aliases parent) reply after) :
    reply = .ok (aliases before) :=
  reacts.calm_reply kept fun still same => same ▸ store.listing still

private theorem served {reply : Except Http.HttpError (List Router)} (kept : valid before)
    (reacts : world.Reacts (Calm aliases valid) before .routers reply after) : reply = .ok routers :=
  reacts.calm_reply kept fun still _ => store.serving still

/-- Both snapshots arrive, whichever comes first. -/
theorem fetched {reply : Except CycleError Snapshots} (kept : valid before)
    (fetch : world.Fetch (Calm aliases valid) parent before steps (some reply) after) :
    reply = .ok (aliases before, routers) := by
  generalize finished : some reply = result at fetch
  cases fetch with
  | interrupted | aliasesOnly | routersOnly => cases finished
  | aliasesFail reacts => cases store.listed kept reacts
  | routersFail reacts => cases store.served kept reacts
  | routersLast first last =>
    obtain ⟨still, -⟩ := store.reading.reacts rfl first kept
    cases store.listed kept first
    cases store.served still last
    cases finished
    rfl
  | aliasesLast first last =>
    obtain ⟨still, same⟩ := store.reading.reacts rfl first kept
    cases store.served kept first
    rw [store.listed still last, same] at finished
    cases finished
    rfl

/-- Every operation succeeds, and each moves one alias over to the other side of the balance. -/
theorem balances {operations : List Operation} {outcomes : List OperationOutcome}
    (performs : Performs world (Calm aliases valid) parent operations before steps outcomes after)
    (kept : valid before) (identified : Identified (aliases before))
    (stored : ∀ entry ∈ deletions operations, entry ∈ aliases before)
    (once : (deletions operations).Nodup) :
    (∀ outcome ∈ outcomes, outcome.succeeded = true) ∧ Balances aliases valid operations before after := by
  induction performs with
  | nil =>
    refine ⟨fun _ impossible => ?_, .nil kept identified rfl⟩
    cases impossible
  | @cons operation rest before reply middle calls outcomes after reacts later ih =>
    obtain ⟨waited, drift, answered⟩ := reacts
    obtain ⟨still, same⟩ := drift kept
    cases operation with
    | create entry =>
      obtain ⟨id, final, created, ready, fresh, added⟩ := store.creation entry still
      cases created.symm.trans answered
      rw [same] at fresh added
      have grown : Identified ({ entry with id := some id } :: aliases before) := identified.cons rfl fresh
      have kept : ∀ other ∈ deletions rest, other ∈ aliases middle := fun other member =>
        added.mem_iff.mpr (List.mem_cons_of_mem _ (stored other member))
      obtain ⟨succeeded, balances⟩ := ih ready (grown.perm added) kept once
      exact ⟨List.forall_mem_cons.mpr ⟨rfl, succeeded⟩, balances.create added⟩
    | delete entry =>
      have held : entry ∈ aliases before := stored entry List.mem_cons_self
      obtain ⟨id, named⟩ := Option.ne_none_iff_exists'.mp (identified.named entry held)
      obtain ⟨final, deleted, ready, dropped⟩ := store.deletion still named
      cases deleted.symm.trans answered
      rw [same] at dropped
      obtain ⟨fresh, once⟩ := List.nodup_cons.mp once
      have kept : ∀ other ∈ deletions rest, other ∈ aliases middle := by
        intro other member
        have otherHeld := stored other (List.mem_cons_of_mem _ member)
        refine dropped.mem_iff.mpr (mem_dropId.mpr ⟨otherHeld, fun same => fresh ?_⟩)
        rwa [← identified.unique.eq_of_id held otherHeld named same]
      obtain ⟨succeeded, balances⟩ := ih ready (identified.dropId.perm dropped) kept once
      have taken : (aliases before).Perm (entry :: aliases middle) :=
        (identified.unique.perm_cons_dropId held named).trans (dropped.symm.cons entry)
      exact ⟨List.forall_mem_cons.mpr ⟨rfl, succeeded⟩, balances.delete taken⟩

/-- To execute operations is to perform them all and to apply them. -/
theorem executes {operations : List Operation} {execution : Execution} (kept : valid before)
    (identified : Identified (aliases before)) (stored : ∀ entry ∈ deletions operations, entry ∈ aliases before)
    (once : (deletions operations).Nodup)
    (course : world.Course (Calm aliases valid) (execute parent operations) before steps (some execution) after) :
    execution.isSuccess = true ∧ Balances aliases valid operations before after := by
  obtain ⟨calls, middle, performs, ending⟩ := execute_result course
  obtain ⟨succeeded, balances⟩ := store.balances performs kept identified stored once
  obtain ⟨-, unapplied, -, rfl⟩ | ⟨-, reply, ⟨waited, drift, answered⟩, applied, -⟩ := ending
  · have accomplished : execution.applyFailed = false := by rw [Execution.applyFailed, unapplied]
    exact ⟨Execution.isSuccess_iff.mpr ⟨succeeded, accomplished⟩, balances⟩
  · obtain ⟨ready, waiting⟩ := drift balances.still
    obtain ⟨final, accepted, ended, same⟩ := store.application ready
    cases accepted.symm.trans answered
    have accomplished : execution.applyFailed = false := by rw [Execution.applyFailed, applied]
    exact ⟨Execution.isSuccess_iff.mpr ⟨succeeded, accomplished⟩, balances.congr ended rfl (same.trans waiting)⟩

/-- A cycle that is not a dry run is a success, and carries out the difference of the two tables. -/
theorem cycle {syncer later : Syncer} {reply : Except CycleError Summary} (kept : valid before)
    (identified : Identified (aliases before)) (live : syncer.dryRun = false)
    (named : syncer.hostOverride = fqdn) (bound : syncer.planner.limit = limit)
    (course : syncer.CycleCourse world (Calm aliases valid) before steps (some (reply, later)) after) :
    let operations := diff (syncer.planner.desired generate routers) (syncer.planner.managed (aliases before))
    (∃ summary, reply = .ok summary ∧ summary.planned = operations.length) ∧
      later = { syncer with planner := later.planner } ∧ syncer.planner.Continues generate later.planner ∧
      Balances aliases valid operations before after := by
  subst named bound
  intro operations
  generalize finished : some (reply, later) = result at course
  cases course with
  | lookupWaits | snapshotsWait | planWaits => cases finished
  | lookupFails reacts => cases store.found kept reacts
  | overrideMissing reacts => cases store.found kept reacts
  | snapshotsFail found fetch =>
    obtain ⟨still, -⟩ := store.reading.reacts rfl found kept
    cases store.found kept found
    cases store.fetched still fetch
  | @acts _ _ _ _ _ _ _ plan planner _ _ ended _ found fetch computes carries =>
    obtain ⟨looked, same⟩ := store.reading.reacts rfl found kept
    cases store.found kept found
    cases store.fetched looked fetch
    obtain ⟨fetched, unread⟩ := store.reading.fetch fetch looked
    obtain ⟨ready, unplanned⟩ := store.reading.plan computes fetched
    obtain ⟨-, continues, planned, -⟩ := Planner.plan_result store.generates fetched computes
    rw [same] at planned
    have stored := unplanned.trans (unread.trans same)
    obtain ⟨verdict, rfl, ending⟩ := Option.map_eq_some_iff.mp finished.symm
    cases ending
    rw [live] at carries
    have deleting := deletions_stored syncer.planner (syncer.planner.desired generate routers) (aliases before)
    by_cases idle : plan.operations = []
    · obtain ⟨done, -, rfl⟩ := act_idle_course (.inl idle) carries
      cases done
      have nothing : operations = [] := planned.symm.trans idle
      refine ⟨⟨_, rfl, congrArg List.length planned⟩, rfl, continues, ?_⟩
      rw [nothing]
      exact .nil ready identified stored
    · rw [act_of_due idle] at carries
      obtain ⟨execution, _, _, _, -, executing, -, finished, rfl⟩ := World.course_bind_some.mp carries
      rw [planned] at executing
      obtain ⟨success, moved⟩ := store.executes ready (stored.symm ▸ identified) (stored.symm ▸ deleting.1)
        deleting.2 executing
      cases finished
      exact ⟨⟨_, if_pos success, congrArg List.length planned⟩, rfl, continues,
        moved.congr moved.still stored.symm rfl⟩

end ReliableStore

open Rehearsal (Scene GeneratorTable) in
/-- A settled rehearsal is such a world. -/
theorem reliableStore_rehearsal (fqdn : String) (routers : List Router) (limit : Nat) (table : GeneratorTable) :
    ReliableStore Rehearsal.world Scene.aliases (Scene.Settled fqdn routers table) fqdn "override" routers limit
      (table.generate · limit) where
  elapse first last scene settled := by
    have still : Rehearsal.world.elapse first last scene = scene := settled.alone.elapse last
    rw [still]
    exact ⟨settled, rfl⟩
  reading scene request reads settled := by
    change (scene.answer request).2.Settled _ _ _ ∧ (scene.answer request).2.aliases = _
    rw [scene.answer_of_reading reads]
    exact ⟨settled, rfl⟩
  lookup {scene} settled := by
    change (scene.answer (.lookup fqdn)).1 = _
    simp [Scene.answer, settled.faultless, settled.override]
  listing {scene} settled := by
    change (scene.answer (.aliases _)).1 = _
    simp [Scene.answer, settled.faultless]
  serving {scene} settled := by
    change (scene.answer .routers).1 = _
    simp [Scene.answer, settled.faultless, settled.serving]
  generation {scene} pattern settled := by
    change scene.generator.generate pattern limit = _
    rw [settled.generator]
  creation {scene} entry settled := by
    have answered : scene.answer (.create entry "override") = (.ok ("uuid-" ++ toString scene.nextId),
        { scene with
          nextId := scene.nextId + 1
          aliases := scene.aliases ++ [{ entry with id := some ("uuid-" ++ toString scene.nextId) }] }) := by
      simp [Scene.answer, settled.accepting, Scene.freshId]
    exact ⟨_, _, answered, settled.answer answered (settled.alone.given_next entry), settled.alone.fresh,
      List.perm_append_singleton ..⟩
  deletion {scene entry id} settled named := by
    have answered : scene.answer (.delete entry) =
        (.ok (), { scene with aliases := dropId id scene.aliases }) := by
      simp [Scene.answer, settled.accepting, named, dropId]
    refine ⟨_, answered, settled.answer answered ?_, .refl _⟩
    exact fun other member => settled.given other (mem_dropId.mp member).1
  application {scene} settled := by
    have answered : scene.answer .apply = (.ok (), scene) := by simp [Scene.answer, settled.faultless]
    exact ⟨_, answered, settled, rfl⟩

end AliasSync.Sync
