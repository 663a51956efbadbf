import AliasSync.Proofs.ChangeOrder
import AliasSync.Proofs.Convergence
import AliasSync.Proofs.DistinctKeys
import AliasSync.Proofs.FallibleStore

/-! A cycle leaves to the next one just what it failed to do. What succeeded is in the store, with the marker and under
the keys that are desired, so the next difference lacks it; what failed is still to be done, in the order of old. -/

namespace AliasSync.Sync

open AliasSync.Operation (creations deletions)

variable {σ : Type} {world : World σ} {aliases : σ → List HostAlias} {valid : σ → Prop} {fqdn parent : String}
  {routers : List Router} {limit : Nat} {generate : String → Except GeneratorError (List String)}
  {before after : σ} {planner : Planner} {accomplished failed : List Operation}

section Left

variable (whole : (accomplished ++ failed).Perm
  (diff (planner.desired generate routers) (planner.managed (aliases before))))
include whole

private theorem creations_parts : (creations accomplished ++ creations failed).Perm
    ((planner.desired generate routers).missingFrom (planner.managed (aliases before))) := by
  rw [← Operation.creations_append]
  exact (whole.filterMap _).trans creations_diff

private theorem deletions_parts : (deletions accomplished ++ deletions failed).Perm
    ((planner.managed (aliases before)).missingFrom (planner.desired generate routers)) := by
  rw [← Operation.deletions_append]
  exact (whole.filterMap _).trans deletions_diff

private theorem copies_created (key : String) :
    copies planner.marker key (creations accomplished) + copies planner.marker key (creations failed) =
      if key ∈ planner.desired generate routers then 1 - copies planner.marker key (aliases before) else 0 := by
  rw [← copies_append, copies_perm (creations_parts whole), Planner.copies_missing]

private theorem copies_deleted (key : String) :
    copies planner.marker key (deletions accomplished) + copies planner.marker key (deletions failed) =
      if key ∈ planner.desired generate routers then 0 else min 1 (copies planner.marker key (aliases before)) := by
  rw [← copies_append, copies_perm (deletions_parts whole), Planner.copies_stale]

variable (moved : Balances aliases valid accomplished before after)
  (distinct : DistinctKeys planner.marker (aliases before))
include moved

/-- What is missing afterwards is what could not be created. -/
theorem missing_after (entry : HostAlias) :
    entry ∈ (planner.desired generate routers).missingFrom (planner.managed (aliases after)) ↔
      entry ∈ creations failed := by
  have tally := moved.tally planner.marker entry.key
  have created := copies_created whole entry.key
  have deleted := copies_deleted whole entry.key
  rw [Planner.desired_keyed.mem_missingFrom, Planner.mem_managed, Planner.manages_iff]
  have wanted {other : HostAlias} (member : other ∈ creations failed) :
      (planner.desired generate routers)[other.key]? = some other ∧ other.description = planner.marker := by
    have missing := (creations_parts whole).mem_iff.mp (List.mem_append_right _ member)
    exact ⟨(Planner.desired_keyed.mem_missingFrom.mp missing).1, Planner.desired_marked missing⟩
  constructor
  · rintro ⟨found, absent⟩
    have desired : entry.key ∈ planner.desired generate routers :=
      Std.TreeMap.mem_iff_isSome_getElem?.mpr (by rw [found]; rfl)
    rw [if_pos desired] at created deleted
    have failing : 0 < copies planner.marker entry.key (creations failed) := by omega
    obtain ⟨other, member, -, same⟩ := copies_pos.mp failing
    have equal := (wanted member).1
    rw [same, found] at equal
    cases equal
    exact member
  · intro member
    obtain ⟨found, marked⟩ := wanted member
    have desired : entry.key ∈ planner.desired generate routers :=
      Std.TreeMap.mem_iff_isSome_getElem?.mpr (by rw [found]; rfl)
    rw [if_pos desired] at created deleted
    have failing : 0 < copies planner.marker entry.key (creations failed) := copies_pos.mpr ⟨entry, member, marked, rfl⟩
    exact ⟨found, by omega⟩

include distinct

private theorem distinctKeys_after : DistinctKeys planner.marker (aliases after) := by
  refine distinctKeys_iff.mpr fun key => ?_
  have single := distinctKeys_iff.mp distinct key
  have tally := moved.tally planner.marker key
  have created := copies_created whole key
  split at created <;> omega

/-- What is stale afterwards is what could not be deleted. -/
theorem stale_after (entry : HostAlias) :
    entry ∈ (planner.managed (aliases after)).missingFrom (planner.desired generate routers) ↔
      entry ∈ deletions failed := by
  obtain ⟨created, names, balance⟩ := moved.balance
  have single := distinctKeys_iff.mp distinct entry.key
  have tally := moved.tally planner.marker entry.key
  have creating := copies_created whole entry.key
  have deleting := copies_deleted whole entry.key
  rw [Planner.managed_keyed.mem_missingFrom,
    Planner.getElem?_managed_of_distinct (distinctKeys_after whole moved distinct)]
  have stale {other : HostAlias} : other ∈ deletions accomplished ++ deletions failed ↔
      (other ∈ aliases before ∧ other.description = planner.marker) ∧ other.key ∉ planner.desired generate routers := by
    rw [(deletions_parts whole).mem_iff, Planner.managed_keyed.mem_missingFrom,
      Planner.getElem?_managed_of_distinct distinct]
    simp
  constructor
  · rintro ⟨⟨held, marked, -⟩, unwanted⟩
    rw [if_neg unwanted] at creating deleting
    have present : 0 < copies planner.marker entry.key (aliases after) := copies_pos.mpr ⟨entry, held, marked, rfl⟩
    have nameless : copies planner.marker entry.key created =
        copies planner.marker entry.key (creations accomplished) := by
      rw [← copies_anonymous, names, copies_anonymous]
    have old : entry ∈ aliases before := by
      rcases List.mem_append.mp (balance.mem_iff.mp (List.mem_append_left _ held)) with new | old
      · have some : 0 < copies planner.marker entry.key created := copies_pos.mpr ⟨entry, new, marked, rfl⟩
        omega
      · exact old
    rcases List.mem_append.mp (stale.mpr ⟨⟨old, marked⟩, unwanted⟩) with gone | left
    · have some : 0 < copies planner.marker entry.key (deletions accomplished) :=
        copies_pos.mpr ⟨entry, gone, marked, rfl⟩
      omega
    · exact left
  · intro left
    obtain ⟨⟨old, marked⟩, unwanted⟩ := stale.mp (List.mem_append_right _ left)
    rw [if_neg unwanted] at deleting
    have failing : 0 < copies planner.marker entry.key (deletions failed) := copies_pos.mpr ⟨entry, left, marked, rfl⟩
    rcases List.mem_append.mp (balance.mem_iff.mpr (List.mem_append_right _ old)) with held | gone
    · exact ⟨⟨held, marked, rfl⟩, unwanted⟩
    · have some : 0 < copies planner.marker entry.key (deletions accomplished) :=
        copies_pos.mpr ⟨entry, gone, marked, rfl⟩
      omega

/-- What is left to be done is what failed, in the same order. -/
theorem diff_after
    (inOrder : failed.Sublist (diff (planner.desired generate routers) (planner.managed (aliases before)))) :
    diff (planner.desired generate routers) (planner.managed (aliases after)) = failed :=
  diff_of_sublist Planner.desired_keyed Planner.managed_keyed Planner.managed_keyed inOrder
    (stale_after whole moved distinct) (missing_after whole moved)

end Left

def Turn.preparation (world : World σ) (turn : Turn σ) : Run σ (Except CycleError Prepared) :=
  world.run turn.stop (turn.syncer.planner.prepare turn.syncer.hostOverride) turn.began turn.state

/-- The calls that carry out a plan: each operation is attempted, accomplished or not, and those that fail come in the
order of the plan. -/
structure Attempts (calls : List Step) (plan : Plan) : Prop where
  attempted : calls.filterMap Step.attempted = plan.operations
  parts : (calls.filterMap Step.accomplished ++ calls.filterMap Step.failed).Perm plan.operations
  inOrder : (calls.filterMap Step.failed).Sublist plan.operations

namespace FallibleStore

variable (store : FallibleStore world aliases valid fqdn parent routers limit generate)
include store

private theorem preparation {turn : Turn σ} {ready : Prepared} (named : turn.syncer.hostOverride = fqdn)
    (bound : turn.syncer.planner.limit = limit) (begins : valid turn.state)
    (planned : (turn.preparation world).result = some (.ok ready)) :
    let opening := turn.preparation world
    (valid opening.state ∧ aliases opening.state = aliases turn.state) ∧ ready.parent = parent ∧
      ready.plan.operations = diff (turn.syncer.planner.desired generate routers)
        (turn.syncer.planner.managed (aliases turn.state)) ∧
      turn.syncer.planner.Continues generate ready.planner ∧ opening.trace.filterMap Step.attempted = [] := by
  subst named
  intro opening
  have course := world.run_course turn.stop (turn.syncer.planner.prepare turn.syncer.hostOverride) turn.began turn.state
    (Calm aliases valid) fun first last state _ _ => store.elapse first last state
  have idle := Planner.prepare_attempts_nothing course
  rw [show (world.run turn.stop _ turn.began turn.state).result = _ from planned] at course
  obtain ⟨still, same, operations, continues⟩ := store.prepares begins bound course
  exact ⟨still, same, operations, continues, idle⟩

/-- A turn that carries out its plan leaves the store changed by what it accomplished. -/
theorem turn {turn : Turn σ} {ready : Prepared} {reply : Except CycleError Summary} {later : Syncer}
    (live : turn.syncer.dryRun = false) (named : turn.syncer.hostOverride = fqdn)
    (bound : turn.syncer.planner.limit = limit) (begins : valid turn.state)
    (identified : Identified (aliases turn.state))
    (planned : (turn.preparation world).result = some (.ok ready))
    (finished : (turn.run world).result = some (reply, later)) :
    later = { turn.syncer with planner := ready.planner } ∧ Attempts (turn.calls world) ready.plan ∧
      Balances aliases valid ((turn.calls world).filterMap Step.accomplished) turn.state (turn.run world).state := by
  obtain ⟨⟨still, same⟩, rfl, operations, -, idle⟩ := store.preparation named bound begins planned
  have whole := turn.syncer.run_of_prepared planned
  dsimp only at whole
  rw [show world.run turn.stop turn.syncer.cycle turn.began turn.state = turn.run world from rfl,
    show world.run turn.stop _ turn.began turn.state = turn.preparation world from rfl] at whole
  generalize turn.preparation world = opening at still same idle whole
  have course := world.run_course turn.stop (act ready.parent turn.syncer.dryRun ready.plan) opening.ended opening.state
    (Calm aliases valid) fun first last state _ _ => store.elapse first last state
  generalize world.run turn.stop (act ready.parent turn.syncer.dryRun ready.plan) opening.ended opening.state =
    acting at whole course
  rw [whole] at finished
  obtain ⟨result, acted, ends⟩ := Option.map_eq_some_iff.mp finished
  cases ends
  rw [acted, live] at course
  have seen {view : Step → Option Operation} (silent : ∀ note, view (.note note) = none) :
      (turn.calls world).filterMap view = opening.trace.filterMap view ++ acting.trace.filterMap view := by
    rw [Turn.calls, whole, Run.calls, Step.filterMap_calls view silent, Run.trace, List.map_append,
      List.filterMap_append]
    rfl
  obtain ⟨unchanged, unfailed⟩ := Step.nothing_attempted idle
  obtain ⟨stored, once⟩ := deletions_stored turn.syncer.planner (turn.syncer.planner.desired generate routers)
    (aliases turn.state)
  rw [← operations] at stored once
  obtain ⟨moved, parts, inOrder⟩ := store.acts still (same.symm ▸ identified) (same.symm ▸ stored) once course
  refine ⟨rfl, ⟨?_, ?_, ?_⟩, ?_⟩
  · rw [seen fun _ => rfl, idle, act_attempts course, List.nil_append]
  · rw [seen fun _ => rfl, seen fun _ => rfl, unchanged, unfailed]
    exact parts
  · rw [seen fun _ => rfl, unfailed]
    exact inOrder
  · rw [seen fun _ => rfl, unchanged, whole]
    exact moved.congr moved.still same.symm rfl

end FallibleStore

/-- A turn that carries out its plan attempts every operation of it and leaves the others to be done, and the next turn
that comes to a plan plans these. -/
theorem next_plan_is_what_failed (world : World σ) (aliases : σ → List HostAlias) (valid : σ → Prop)
    (fqdn parent : String) (routers : List Router) (limit : Nat)
    (generate : String → Except GeneratorError (List String))
    (store : FallibleStore world aliases valid fqdn parent routers limit generate) (first : Turn σ)
    (live : first.syncer.dryRun = false) (named : first.syncer.hostOverride = fqdn)
    (bound : first.syncer.planner.limit = limit) (begins : valid first.state)
    (identified : Identified (aliases first.state))
    (distinct : DistinctKeys first.syncer.planner.marker (aliases first.state)) (pause : Nat) {ready again : Prepared}
    {reply : Except CycleError Summary} {later : Syncer}
    (planned : (first.preparation world).result = some (.ok ready))
    (finished : (first.run world).result = some (reply, later))
    (replanned : ((first.next world pause).preparation world).result = some (.ok again)) :
    (first.calls world).filterMap Step.attempted = ready.plan.operations ∧
      again.plan.operations = (first.calls world).filterMap Step.failed := by
  obtain ⟨rfl, ⟨attempted, parts, inOrder⟩, moved⟩ := store.turn live named bound begins identified planned finished
  obtain ⟨-, -, operations, continues, -⟩ := store.preparation named bound begins planned
  obtain ⟨still, unchanged⟩ := store.elapse (first.run world).ended ((first.run world).ended + pause) _ moved.still
  have syncer : (first.next world pause).syncer = { first.syncer with planner := ready.planner } := by
    rw [Turn.next, finished]
    rfl
  have sameName : (first.next world pause).syncer.hostOverride = fqdn := syncer ▸ named
  have sameBound : (first.next world pause).syncer.planner.limit = limit := by
    rw [syncer]
    exact continues.limit.trans bound
  obtain ⟨-, -, left, -⟩ := store.preparation sameName sameBound still replanned
  rw [syncer, continues.desired, continues.managed] at left
  rw [operations] at parts inOrder
  exact ⟨attempted, left.trans (diff_after parts (moved.congr still rfl unchanged) distinct inOrder)⟩

/-- The creation is refused and the changes are not applied, but the deletion gets through; a minute later only the
creation is planned. -/
theorem next_plan_is_what_failed_rehearsed :
    let routers : List Router := [⟨"plain", "file", [], "Host(`a.b`)"⟩]
    let stored : List HostAlias := [⟨some "1", "old", "b", "managed"⟩, ⟨some "2", "own", "b", "other"⟩]
    let scene : Rehearsal.Scene := { Rehearsal.Scene.calm "dns.lan" routers stored [] with
      faults := ⟨false, false, false, true⟩
      failKeys := ["a.b"] }
    let first : Turn Rehearsal.Scene :=
      ⟨⟨⟨⟨[], [], [], []⟩, "managed", 10, .empty⟩, "dns.lan", false⟩, none, 0, scene⟩
    ∃ ready again reply later, (first.preparation Rehearsal.world).result = some (.ok ready) ∧
      (first.run Rehearsal.world).result = some (reply, later) ∧
      ((first.next Rehearsal.world 60000).preparation Rehearsal.world).result = some (.ok again) ∧
      ready.plan.operations = [.delete ⟨some "1", "old", "b", "managed"⟩, .create ⟨none, "a", "b", "managed"⟩] ∧
      again.plan.operations = [.create ⟨none, "a", "b", "managed"⟩] := by
  intro routers stored scene first
  have alone : first.state.Alone routers [] := by
    refine ⟨rfl, rfl, rfl, rfl, fun entry member number same => ?_⟩
    have foreign : entry.id ∈ stored.map HostAlias.id := List.mem_map_of_mem member
    rw [same] at foreign
    simp [stored, String.ext_iff] at foreign
  obtain ⟨⟨reply, later⟩, finished⟩ := Rehearsal.world.run_completes first.syncer.cycle 0 scene
  have prepared (turn : Turn Rehearsal.Scene)
      (ready : ((turn.preparation Rehearsal.world).result.map Except.isOk) = some true) :
      ∃ ready, (turn.preparation Rehearsal.world).result = some (.ok ready) := by
    obtain ⟨answer, settled, fine⟩ := Option.map_eq_some_iff.mp ready
    cases answer with
    | error cause => cases fine
    | ok ready => exact ⟨ready, settled⟩
  obtain ⟨ready, planned⟩ := prepared first (by decide +kernel)
  obtain ⟨again, replanned⟩ := prepared (first.next Rehearsal.world 60000) (by decide +kernel)
  obtain ⟨attempted, left⟩ := next_plan_is_what_failed Rehearsal.world Rehearsal.Scene.aliases _ "dns.lan" "override"
    routers 10 _ (fallibleStore_rehearsal "dns.lan" routers 10 []) first rfl rfl rfl alone ⟨by decide, by decide⟩
    (by decide) 60000 planned finished replanned
  refine ⟨ready, again, reply, later, planned, finished, replanned, ?_, ?_⟩
  · rw [← attempted]
    decide +kernel
  · rw [left]
    decide +kernel

end AliasSync.Sync
