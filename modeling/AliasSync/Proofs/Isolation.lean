import AliasSync.Proofs.PlanSets
import AliasSync.Proofs.Turn

/-! Cycles keep to what carries the marker. A deletion is only ever ordered for an alias that the same cycle
has seen in the store with the marker, and only aliases with the marker are created, whatever the world
answers, whatever fails and wherever a cycle is cut off. -/

namespace AliasSync.Sync

variable {σ : Type} {world : World σ} {drifts : σ → σ → Prop} {before after : σ} {steps : List Step}
  {marker : String}

private def Harvest.Marked (marker : String) (harvest : Harvest) : Prop :=
  ∀ (key : String) (entry : HostAlias), harvest.desired[key]? = some entry →
    entry.id = none ∧ entry.description = marker

private theorem Harvest.Gathered.marked {harvest : Harvest} (gathered : harvest.Gathered marker) :
    harvest.Marked marker := by
  intro key entry found
  obtain ⟨hosts, same⟩ := gathered
  rw [same] at found
  obtain ⟨member, -⟩ := AliasTable.mem_of_getElem?_ofList found
  obtain ⟨host, -, rfl⟩ := List.mem_map.mp member
  exact ⟨rfl, rfl⟩

/-- A plan creates marked aliases without an id, and deletes aliases of the snapshot that are marked. -/
def Plan.Marked (marker : String) (listed : List HostAlias) (plan : Plan) : Prop :=
  ∀ operation ∈ plan.operations, match operation with
    | .create entry => entry.id = none ∧ entry.description = marker
    | .delete entry => entry ∈ listed ∧ entry.description = marker

theorem Plan.Marked.mono {listed stored : List HostAlias} {plan : Plan} (marked : plan.Marked marker listed)
    (within : ∀ entry ∈ listed, entry ∈ stored) : plan.Marked marker stored := by
  intro operation member
  have permitted := marked operation member
  cases operation with
  | create entry => exact permitted
  | delete entry => exact ⟨within entry permitted.1, permitted.2⟩

/-- The generator has no say in whether a plan is marked. -/
theorem Planner.plan_marked {planner later : Planner} {routers : List Router} {aliases : List HostAlias}
    {plan : Plan}
    (course : world.Course drifts (planner.plan routers aliases) before steps (some (plan, later)) after) :
    plan.Marked planner.marker aliases := by
  obtain ⟨harvest, _, _, harvesting, operations, -⟩ := plan_harvest course
  have marked := (harvest_gathered harvesting).marked
  intro operation member
  cases operation with
  | create entry =>
    rw [operations] at member
    obtain ⟨key, found, -⟩ := AliasTable.mem_missingFrom.mp (create_mem_diff.mp member)
    exact marked key entry found
  | delete entry =>
    rw [operations] at member
    obtain ⟨key, found, -⟩ := AliasTable.mem_missingFrom.mp (delete_mem_diff.mp member)
    obtain ⟨listed, description, -⟩ := managed_entry found
    exact ⟨listed, description⟩

/-- Every deletion is ordered for an alias with the marker that the snapshot of the same cycle holds: that
snapshot was answered before, and no host override has been looked up since. Every creation is ordered for
an alias with the marker and without an id. -/
structure Isolated (marker : String) (calls : List Step) : Prop where
  deletions : ∀ earlier entry reply later, calls = earlier ++ .call (.delete entry) reply :: later →
    entry.description = marker ∧ ∃ first parent listed between,
      earlier = first ++ .call (.aliases parent) (.ok listed) :: between ∧ entry ∈ listed ∧
      ∀ fqdn reply, Step.call (.lookup fqdn) reply ∉ between
  creations : ∀ entry parent reply, Step.call (.create entry parent) reply ∈ calls →
    entry.description = marker ∧ entry.id = none

/-- An item of two lists put together stands in the first one or in the second one. -/
theorem append_eq_append_cons {first last earlier later : List α} {item : α}
    (same : first ++ last = earlier ++ item :: later) :
    (∃ more, first = earlier ++ item :: more) ∨
      ∃ more, earlier = first ++ more ∧ last = more ++ item :: later := by
  obtain ⟨more, rfl, rest⟩ | ⟨more, rfl, rest⟩ := List.append_eq_append_iff.mp same
  · exact .inr ⟨more, rfl, rest⟩
  · cases more with
    | nil => exact .inr ⟨[], by simp, rest.symm⟩
    | cons other more =>
      obtain ⟨rfl, -⟩ := List.cons.inj rest
      exact .inl ⟨more, rfl⟩

private theorem Isolated.of_readOnly {calls : List Step} (readOnly : ReadOnly calls) : Isolated marker calls where
  deletions := by
    rintro earlier entry reply later rfl
    cases readOnly (.delete entry) reply (by simp)
  creations entry parent reply member := by cases readOnly (.create entry parent) reply member

private theorem Isolated.append {first last : List Step} (firstIsolated : Isolated marker first)
    (lastIsolated : Isolated marker last) : Isolated marker (first ++ last) where
  deletions := by
    intro earlier entry reply later same
    obtain ⟨more, inFirst⟩ | ⟨more, rfl, inLast⟩ := append_eq_append_cons same
    · exact firstIsolated.deletions earlier entry reply more inFirst
    · obtain ⟨marked, start, parent, listed, between, rfl, member, cycle⟩ :=
        lastIsolated.deletions more entry reply later inLast
      exact ⟨marked, first ++ start, parent, listed, between, (List.append_assoc ..).symm, member, cycle⟩
  creations entry parent reply member := by
    obtain member | member := List.mem_append.mp member
    · exact firstIsolated.creations entry parent reply member
    · exact lastIsolated.creations entry parent reply member

theorem Isolated.flatMap {items : List α} {calls : α → List Step}
    (each : ∀ item ∈ items, Isolated marker (calls item)) : Isolated marker (items.flatMap calls) := by
  induction items with
  | nil => exact .of_readOnly .nil
  | cons item rest ih =>
    rw [List.flatMap_cons]
    exact (each item List.mem_cons_self).append (ih fun other member => each other (List.mem_cons_of_mem _ member))

private theorem Isolated.filter {steps : List Step} (isolated : Isolated marker steps) :
    Isolated marker (steps.filter Step.isCall) where
  deletions := by
    intro earlier entry reply later same
    obtain ⟨front, back, rfl, rfl, found⟩ := List.filter_eq_append_iff.mp same
    obtain ⟨notes, rest, rfl, silent, -, -⟩ := List.filter_eq_cons_iff.mp found
    obtain ⟨marked, first, parent, listed, between, taken, member, cycle⟩ :=
      isolated.deletions (front ++ notes) entry reply rest (by simp)
    refine ⟨marked, first.filter Step.isCall, parent, listed, between.filter Step.isCall, ?_, member, ?_⟩
    · have quiet : notes.filter Step.isCall = [] := List.filter_eq_nil_iff.mpr silent
      have filtered := congrArg (List.filter Step.isCall) taken
      rw [List.filter_append, List.filter_append, quiet, List.append_nil] at filtered
      exact filtered
    · exact fun fqdn answer seen => cycle fqdn answer (List.mem_filter.mp seen).1
  creations entry parent reply member := isolated.creations entry parent reply (List.mem_filter.mp member).1

/-- What a cycle may ask for once it has taken its snapshots. -/
def Request.Marked (marker : String) (listed : List HostAlias) : Request → Prop
  | .create entry _ => entry.description = marker ∧ entry.id = none
  | .delete entry => entry ∈ listed ∧ entry.description = marker
  | .apply | .generate _ _ => True
  | .lookup _ | .aliases _ | .routers => False

/-- The calls of a cycle that took its snapshots and then kept to what it may ask for. -/
theorem Isolated.cycle {opening fetching rest : List Step} {parent : String} {listed : List HostAlias}
    (looking : ReadOnly opening) (fetched : ReadOnly fetching)
    (once : ∀ fqdn reply, Step.call (.lookup fqdn) reply ∉ fetching)
    (taken : Step.call (.aliases parent) (.ok listed) ∈ fetching)
    (acting : ∀ request reply, Step.call request reply ∈ rest → request.Marked marker listed) :
    Isolated marker (opening ++ fetching ++ rest) where
  deletions := by
    intro earlier entry reply later same
    obtain ⟨more, early⟩ | ⟨more, rfl, inRest⟩ := append_eq_append_cons same
    · have seen : Step.call (.delete entry) reply ∈ opening ++ fetching := by simp [early]
      cases looking.append fetched _ _ seen
    · obtain ⟨member, marked⟩ := acting (.delete entry) reply (by simp [inRest])
      obtain ⟨start, between, rfl⟩ := List.append_of_mem taken
      refine ⟨marked, opening ++ start, parent, listed, between ++ more, by simp, member, ?_⟩
      -- Since the snapshot only the other snapshot and what a cycle may ask for after it have been asked for.
      intro fqdn answer seen
      obtain seen | seen := List.mem_append.mp seen
      · exact once fqdn answer (by simp [seen])
      · exact acting (.lookup fqdn) answer (by simp [inRest, seen])
  creations entry parent reply member := by
    obtain seen | seen := List.mem_append.mp member
    · cases looking.append fetched _ _ seen
    · exact acting (.create entry parent) reply seen

/-- What a cycle asks for while it acts on a plan that is marked. -/
theorem Plan.Marked.act_uses {plan : Plan} {listed : List HostAlias} (marked : plan.Marked marker listed)
    (parent : String) (dryRun : Bool) : (act parent dryRun plan).Uses (Request.Marked marker listed) := by
  refine Sync.act_uses (fun operation member => ?_) trivial
  have permitted := marked operation member
  cases operation with
  | create entry => exact ⟨permitted.2, permitted.1⟩
  | delete entry => exact permitted

private theorem Syncer.CycleCourse.isolated {syncer : Syncer} {result : Option (Except CycleError Summary × Syncer)}
    (course : syncer.CycleCourse world drifts before steps result after) :
    Isolated syncer.planner.marker steps := by
  cases course with
  | lookupWaits => exact .of_readOnly .nil
  | lookupFails | overrideMissing => exact .of_readOnly ReadOnly.nil.lookup
  | snapshotsWait found fetch | snapshotsFail found fetch => exact .of_readOnly fetch.readOnly.lookup
  | planWaits found fetch computes =>
    exact .of_readOnly (fetch.readOnly.append (Planner.plan_readOnly computes)).lookup
  | acts found fetch computes carries =>
    rw [← List.singleton_append, List.append_assoc, ← List.append_assoc]
    refine .cycle ReadOnly.nil.lookup fetch.readOnly (fun fqdn reply seen => ?_) fetch.both.1
      fun request reply seen => ?_
    · obtain impossible | impossible := fetch.request seen <;> cases impossible
    · obtain seen | seen := List.mem_append.mp seen
      · obtain ⟨pattern, rfl⟩ := computes.call_allowed (Planner.plan_uses ..) seen
        trivial
      · exact carries.call_allowed ((Planner.plan_marked computes).act_uses _ _) seen

theorem Turn.isolated (world : World σ) (turn : Turn σ) :
    Isolated turn.syncer.planner.marker (turn.calls world) :=
  (turn.free_course world).isolated.filter

end AliasSync.Sync
