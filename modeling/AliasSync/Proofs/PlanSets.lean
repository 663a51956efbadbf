import AliasSync.Proofs.Harvest
import AliasSync.Proofs.RehearsalStore
import AliasSync.Proofs.TimedRun

/-! A plan in terms of sets: the names that routers ask for on one side, the keys of the managed aliases
on the other, one creation for each name that is only on the first side and one deletion for each that
is only on the second. A router adds the names it asks for whatever becomes of the other routers. -/

namespace AliasSync.Sync.Planner

variable {σ : Type} {world : World σ} {planner : Planner} {routers : List Router}
  {aliases : List HostAlias} {generate : String → Except GeneratorError (List String)}

/-- A router asks for a name: it takes part, its rule can be read, and the name is a literal candidate of
the rule or one of the names that a pattern candidate stands for. -/
def Requests (planner : Planner) (generate : String → Except GeneratorError (List String))
    (router : Router) (name : String) : Prop :=
  planner.filter.accepts router = true ∧
    ∃ candidates, Rule.candidates router.rule = .ok candidates ∧ ∃ candidate ∈ candidates,
      candidate.kind = .literal ∧ name = candidate.value ∨
      candidate.kind = .pattern ∧
        ∃ names, planner.expansion generate candidate.value = some names ∧ name ∈ names

/-- Something stands before the first dot of a name and after it, and a router asks for the name. -/
def Desires (planner : Planner) (generate : String → Except GeneratorError (List String))
    (routers : List Router) (name : String) : Prop :=
  (∃ host : HostName, host.Proper ∧ host.text = name) ∧
    ∃ router ∈ routers, planner.Requests generate router name

def Manages (planner : Planner) (aliases : List HostAlias) (key : String) : Prop :=
  ∃ entry ∈ aliases, entry.description = planner.marker ∧ entry.key = key

private theorem mem_routerNames {router : Router} {name : String} (accepted : planner.filter.accepts router = true) :
    name ∈ routerNames (planner.expansion generate) router ↔ planner.Requests generate router name := by
  unfold routerNames Requests
  cases read : Rule.candidates router.rule with
  | error cause => simp
  | ok candidates =>
    have single (candidate : Rule.Candidate) :
        name ∈ candidateNames (planner.expansion generate) candidate ↔
          candidate.kind = .literal ∧ name = candidate.value ∨ candidate.kind = .pattern ∧
            ∃ names, planner.expansion generate candidate.value = some names ∧ name ∈ names := by
      unfold candidateNames
      cases candidate.kind with
      | literal => simp
      | pattern => cases planner.expansion generate candidate.value <;> simp
    simp [accepted, single]

theorem mem_hosts {host : HostName} :
    host ∈ planner.hosts generate routers ↔
      host.Proper ∧ ∃ router ∈ routers, planner.Requests generate router host.text := by
  simp only [hosts, requestedHosts, List.mem_filterMap, List.mem_flatMap, List.mem_filter,
    HostName.ofText?_eq_some_iff]
  constructor
  · rintro ⟨name, ⟨router, ⟨member, accepted⟩, named⟩, rfl, proper⟩
    exact ⟨proper, router, member, (mem_routerNames accepted).mp named⟩
  · rintro ⟨proper, router, member, requests⟩
    exact ⟨host.text, ⟨router, ⟨member, requests.1⟩, (mem_routerNames requests.1).mpr requests⟩, rfl, proper⟩

theorem mem_desired {name : String} :
    name ∈ planner.desired generate routers ↔ planner.Desires generate routers name := by
  simp only [desired, AliasTable.mem_ofList, List.mem_map, mem_hosts, Desires]
  constructor
  · rintro ⟨_, ⟨host, ⟨proper, asked⟩, rfl⟩, rfl⟩
    exact ⟨⟨host, proper, rfl⟩, asked⟩
  · rintro ⟨⟨host, proper, rfl⟩, asked⟩
    exact ⟨_, ⟨host, ⟨proper, asked⟩, rfl⟩, rfl⟩

theorem mem_managed {key : String} : key ∈ planner.managed aliases ↔ planner.Manages aliases key := by
  simp [managed, AliasTable.mem_ofList, Manages, and_assoc]

theorem managed_entry {key : String} {entry : HostAlias}
    (found : (planner.managed aliases)[key]? = some entry) :
    entry ∈ aliases ∧ entry.description = planner.marker ∧ entry.key = key := by
  obtain ⟨member, same⟩ := AliasTable.mem_of_getElem?_ofList found
  simp only [List.mem_filter, beq_iff_eq] at member
  exact ⟨member.1, member.2, same⟩

/-- The plan and the collected aliases, in terms of the names that are desired and those that are managed. -/
structure Exact (planner : Planner) (generate : String → Except GeneratorError (List String))
    (routers : List Router) (aliases : List HostAlias) (collected : AliasTable) (plan : Plan) : Prop where
  desired : ∀ name, name ∈ collected ↔ planner.Desires generate routers name
  alias_of : ∀ (name : String) entry, collected[name]? = some entry →
    entry.id = none ∧ entry.description = planner.marker ∧ entry.key = name
  desired_size : plan.desired = collected.size
  managed : ∀ key, key ∈ planner.managed aliases ↔ planner.Manages aliases key
  managed_size : plan.managed = (planner.managed aliases).size
  creations : ∀ entry, .create entry ∈ plan.operations ↔
    collected[entry.key]? = some entry ∧ ¬ planner.Manages aliases entry.key
  deletions : ∀ key, (∃ entry, .delete entry ∈ plan.operations ∧ entry.key = key) ↔
    planner.Manages aliases key ∧ ¬ planner.Desires generate routers key
  deleted : ∀ entry, .delete entry ∈ plan.operations → entry ∈ aliases ∧ entry.description = planner.marker
  once : (plan.operations.map Operation.key).Nodup

theorem desired_keyed : (planner.desired generate routers).Keyed := AliasTable.keyed_ofList _

theorem managed_keyed : (planner.managed aliases).Keyed := AliasTable.keyed_ofList _

/-- A difference of the two tables is a plan in terms of sets. -/
theorem exact_of_diff {collected : AliasTable} {plan : Plan}
    (same : collected = planner.desired generate routers)
    (operations : plan.operations = diff (planner.desired generate routers) (planner.managed aliases))
    (desired : plan.desired = (planner.desired generate routers).size)
    (managed : plan.managed = (planner.managed aliases).size) :
    planner.Exact generate routers aliases collected plan := by
  subst same
  refine ⟨fun _ => mem_desired, ?_, desired, fun _ => mem_managed, managed, ?_, ?_, ?_, ?_⟩
  · intro name entry found
    obtain ⟨host, -, rfl, rfl⟩ := getElem?_desired.mp found
    exact ⟨rfl, rfl, rfl⟩
  · intro entry
    rw [operations, create_mem_diff, desired_keyed.mem_missingFrom, mem_managed]
  · intro key
    rw [operations, ← mem_managed, ← mem_desired]
    constructor
    · rintro ⟨entry, deleted, rfl⟩
      obtain ⟨found, absent⟩ := managed_keyed.mem_missingFrom.mp (delete_mem_diff.mp deleted)
      exact ⟨Std.TreeMap.mem_iff_isSome_getElem?.mpr (by rw [found]; rfl), absent⟩
    · rintro ⟨present, absent⟩
      obtain ⟨entry, found⟩ := Option.isSome_iff_exists.mp (Std.TreeMap.mem_iff_isSome_getElem?.mp present)
      obtain rfl := managed_keyed _ _ found
      exact ⟨entry, delete_mem_diff.mpr (managed_keyed.mem_missingFrom.mpr ⟨found, absent⟩), rfl⟩
  · intro entry deleted
    rw [operations, delete_mem_diff, managed_keyed.mem_missingFrom] at deleted
    obtain ⟨member, marked, -⟩ := managed_entry deleted.1
    exact ⟨member, marked⟩
  · rw [operations]
    exact nodup_diff desired_keyed managed_keyed

/-- A planner plans with what it would collect on its own. -/
theorem plan_run (world : World σ) (planner : Planner) (routers : List Router) (listed : List HostAlias) (now : Nat)
    (state : σ) :
    ∃ harvest plan later, (world.run none (planner.harvest routers) now state).result = some harvest ∧
      (world.run none (planner.plan routers listed) now state).result = some (plan, later) ∧
      plan.operations = diff harvest.desired (planner.managed listed) ∧ plan.issues = harvest.issues ∧
      plan.desired = harvest.desired.size ∧ later.cache = harvest.cache := by
  obtain ⟨⟨plan, later⟩, planned⟩ := world.run_completes (planner.plan routers listed) now state
  obtain ⟨harvest, harvested, measuring⟩ := World.run_bind_result planned
  obtain ⟨_, -, finished⟩ := World.run_bind_result measuring
  cases finished
  exact ⟨harvest, _, _, harvested, planned, rfl, rfl, rfl, rfl⟩

/-- While an assertion about the world holds, the generator answers a pattern in the same way all along, and
nothing that happens meanwhile ends that. -/
structure SteadyGenerator (world : World σ) (holds : σ → Prop) (limit : Nat)
    (generate : String → Except GeneratorError (List String)) : Prop where
  elapse : ∀ {first last state}, holds state → holds (world.elapse first last state)
  answer : ∀ {state} pattern, holds state →
    (world.answer state (.generate pattern limit)).1 = generate pattern ∧
      holds (world.answer state (.generate pattern limit)).2

theorem SteadyGenerator.generates {holds : σ → Prop} {limit : Nat}
    (steady : SteadyGenerator world holds limit generate) :
    Generates world (fun before after => holds before → holds after) holds limit generate := by
  rintro before pattern reply after kept ⟨waited, drift, answered⟩
  have answer := steady.answer pattern (drift kept)
  rw [answered] at answer
  exact answer

/-- The generator of a rehearsal keeps to its table while nobody replaces it. -/
theorem steadyGenerator_rehearsal (table : Rehearsal.GeneratorTable) (limit : Nat) :
    SteadyGenerator Rehearsal.world (fun scene => scene.upcoming = [] ∧ scene.generator = table) limit
      (table.generate · limit) where
  elapse := by
    intro first last scene ⟨quiet, same⟩
    have still : scene.elapse last = scene :=
      Rehearsal.Scene.elapse_quiet (.of_upcoming_nil quiet last) (Nat.le_refl last)
    change (scene.elapse last).upcoming = [] ∧ (scene.elapse last).generator = table
    rw [still]
    exact ⟨quiet, same⟩
  answer := by
    rintro scene pattern ⟨quiet, rfl⟩
    exact ⟨rfl, quiet, rfl⟩

/-- In such a world a plan is computed, and its operations are the difference of the two tables. -/
theorem plan_runs {holds : σ → Prop} (steady : SteadyGenerator world holds planner.limit generate)
    (routers : List Router) (aliases : List HostAlias) (now : Nat) {state : σ} (begins : holds state) :
    ∃ plan later, (world.run none (planner.plan routers aliases) now state).result = some (plan, later) ∧
      plan.operations = diff (planner.desired generate routers) (planner.managed aliases) ∧
      plan.desired = (planner.desired generate routers).size ∧
      plan.managed = (planner.managed aliases).size := by
  obtain ⟨⟨plan, later⟩, finished⟩ := world.run_completes (planner.plan routers aliases) now state
  have course := world.run_course none (planner.plan routers aliases) now state
    (fun before after => holds before → holds after) fun _ _ _ _ _ => steady.elapse
  rw [finished] at course
  obtain ⟨-, -, facts⟩ := plan_result steady.generates begins course
  exact ⟨plan, later, finished, facts⟩

/-- Routers that ask for no proper name can be left out. -/
theorem getElem?_desired_without {before after : List Router} {router : Router}
    (nothing : ∀ name, ¬ planner.Desires generate [router] name) (key : String) :
    (planner.desired generate (before ++ router :: after))[key]? =
      (planner.desired generate (before ++ after))[key]? := by
  have same (host : HostName) : host ∈ planner.hosts generate (before ++ router :: after) ↔
      host ∈ planner.hosts generate (before ++ after) := by
    simp only [mem_hosts, List.mem_append, List.mem_cons]
    constructor
    · rintro ⟨proper, other, member | rfl | member, requests⟩
      · exact ⟨proper, other, .inl member, requests⟩
      · exact absurd ⟨⟨host, proper, rfl⟩, other, List.mem_singleton_self other, requests⟩ (nothing host.text)
      · exact ⟨proper, other, .inr member, requests⟩
    · rintro ⟨proper, other, member | member, requests⟩
      · exact ⟨proper, other, .inl member, requests⟩
      · exact ⟨proper, other, .inr (.inr member), requests⟩
  refine Option.ext fun entry => ?_
  simp only [getElem?_desired, same]

/-- Collecting the desired aliases and planning come to an end, and what they come to is given by sets of
names. A router that asks for no proper name, because it does not take part, cannot be read, or has only
candidates that fail or are malformed, leaves what the others contribute as it is. -/
theorem plan_is_exact (world : World σ) (holds : σ → Prop) (planner : Planner)
    (generate : String → Except GeneratorError (List String))
    (steady : SteadyGenerator world holds planner.limit generate) (routers : List Router)
    (aliases : List HostAlias) (now : Nat) (state : σ) (begins : holds state) :
    ∃ harvest plan later,
      (world.run none (planner.harvest routers) now state).result = some harvest ∧
      (world.run none (planner.plan routers aliases) now state).result = some (plan, later) ∧
      planner.Exact generate routers aliases harvest.desired plan ∧
      ∀ before router after, routers = before ++ router :: after →
        (∀ name, ¬ planner.Desires generate [router] name) →
        ∃ other later,
          (world.run none (planner.plan (before ++ after) aliases) now state).result = some (other, later) ∧
          other.operations = plan.operations := by
  obtain ⟨harvest, harvested⟩ := world.run_completes (planner.harvest routers) now state
  have collecting := world.run_course none (planner.harvest routers) now state
    (fun before after => holds before → holds after) fun _ _ _ _ _ => steady.elapse
  rw [harvested] at collecting
  obtain ⟨-, collected, -⟩ := harvest_result steady.generates begins collecting
  obtain ⟨plan, later, planned, operations, desired, managed⟩ :=
    plan_runs steady routers aliases now begins
  refine ⟨harvest, plan, later, harvested, planned, exact_of_diff collected operations desired managed, ?_⟩
  rintro before router after rfl nothing
  obtain ⟨other, later, finished, same, -⟩ := plan_runs steady (before ++ after) aliases now begins
  refine ⟨other, later, finished, ?_⟩
  rw [same, operations]
  exact (diff_congr (getElem?_desired_without nothing)).symm

/-- One router does not take part, one cannot be read, one pattern fails, and one stands for a name without
a dot; what is left are `a.b`, which the store lacks, and `b.x`, which it has. -/
theorem plan_is_exact_rehearsed :
    let planner : Planner := ⟨⟨[], [], [], ["hidden"]⟩, "managed", 10, .empty⟩
    let routers : List Router :=
      [⟨"plain", "file", [], "Host(`a.b`)"⟩, ⟨"hidden", "file", [], "Host(`h.b`)"⟩,
       ⟨"broken", "file", [], "Host("⟩, ⟨"failing", "file", [], "HostRegexp(`c.*`)"⟩,
       ⟨"pattern", "file", [], "HostRegexp(`[a-b].x`)"⟩]
    let aliases : List HostAlias :=
      [⟨some "1", "old", "b", "managed"⟩, ⟨some "2", "own", "b", "other"⟩, ⟨some "3", "b", "x", "managed"⟩]
    let table : Rehearsal.GeneratorTable := [("[a-b].x", .names ["b.x", "dotless"] true)]
    let scene := Rehearsal.Scene.calm "dns.lan" routers aliases table
    (∃ harvest plan later,
      (Rehearsal.world.run none (planner.harvest routers) 0 scene).result = some harvest ∧
      (Rehearsal.world.run none (planner.plan routers aliases) 0 scene).result = some (plan, later) ∧
      planner.Exact (table.generate · 10) routers aliases harvest.desired plan) ∧
    (Rehearsal.world.run none (planner.plan routers aliases) 0 scene).result.map (·.1.operations) =
      some [.delete ⟨some "1", "old", "b", "managed"⟩, .create ⟨none, "a", "b", "managed"⟩] := by
  intro planner routers aliases table scene
  refine ⟨?_, by decide +kernel⟩
  obtain ⟨harvest, plan, later, harvested, planned, exact, -⟩ := plan_is_exact Rehearsal.world _ planner _
    (steadyGenerator_rehearsal table 10) routers aliases 0 scene ⟨rfl, rfl⟩
  exact ⟨harvest, plan, later, harvested, planned, exact⟩

end AliasSync.Sync.Planner
