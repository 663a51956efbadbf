import AliasSync.Proofs.PlanSets

/-! What becomes of a plan when fewer routers take part: it creates less and deletes more. A list of entries to include
imposes nothing while it is empty, so its first entry narrows the choice of routers and every further one widens it. -/

namespace AliasSync

variable {current : AliasTable}

private theorem create_mem_diff_mono {smaller larger : AliasTable} (smallerKeyed : smaller.Keyed)
    (largerKeyed : larger.Keyed)
    (part : ∀ (key : String) entry, smaller[key]? = some entry → larger[key]? = some entry) {entry : HostAlias}
    (created : .create entry ∈ diff smaller current) : .create entry ∈ diff larger current := by
  obtain ⟨found, absent⟩ := smallerKeyed.mem_missingFrom.mp (create_mem_diff.mp created)
  exact create_mem_diff.mpr (largerKeyed.mem_missingFrom.mpr ⟨part _ _ found, absent⟩)

private theorem delete_mem_diff_anti {smaller larger : AliasTable} (currentKeyed : current.Keyed)
    (part : ∀ (key : String) entry, smaller[key]? = some entry → larger[key]? = some entry) {entry : HostAlias}
    (deleted : .delete entry ∈ diff larger current) : .delete entry ∈ diff smaller current := by
  obtain ⟨found, absent⟩ := currentKeyed.mem_missingFrom.mp (delete_mem_diff.mp deleted)
  refine delete_mem_diff.mpr (currentKeyed.mem_missingFrom.mpr ⟨found, fun present => absent ?_⟩)
  obtain ⟨other, there⟩ := Option.isSome_iff_exists.mp (Std.TreeMap.mem_iff_isSome_getElem?.mp present)
  exact Std.TreeMap.mem_iff_isSome_getElem?.mpr (by rw [part _ _ there]; rfl)

namespace RouterFilter

/-- Entries to include let through no more than others do. -/
def Restricts (narrow wide : List String) : Prop := wide = [] ∨ narrow ≠ [] ∧ narrow ⊆ wide

structure Tightens (narrow wide : RouterFilter) : Prop where
  entryPoints : Restricts narrow.includeEntryPoints wide.includeEntryPoints
  providers : Restricts narrow.includeProviders wide.includeProviders
  ignoredProviders : wide.ignoreProviders ⊆ narrow.ignoreProviders
  ignoredRouters : wide.ignoreRouters ⊆ narrow.ignoreRouters

private theorem Restricts.refl (entries : List String) : Restricts entries entries := by
  cases entries with
  | nil => exact .inl rfl
  | cons entry rest => exact .inr ⟨List.cons_ne_nil entry rest, List.Subset.refl _⟩

private theorem Restricts.imposes {narrow wide names : List String} (restricts : Restricts narrow wide)
    (passes : narrow = [] ∨ ∃ name ∈ names, name ∈ narrow) : wide = [] ∨ ∃ name ∈ names, name ∈ wide := by
  obtain nothing | ⟨some, part⟩ := restricts
  · exact .inl nothing
  · obtain ⟨name, named, member⟩ := passes.resolve_left some
    exact .inr ⟨name, named, part member⟩

private theorem accepts_iff {filter : RouterFilter} {router : Router} :
    filter.accepts router = true ↔
      (filter.includeEntryPoints = [] ∨ ∃ name ∈ router.entryPoints, name ∈ filter.includeEntryPoints) ∧
      (filter.includeProviders = [] ∨ ∃ name ∈ [router.provider], name ∈ filter.includeProviders) ∧
      router.provider ∉ filter.ignoreProviders ∧ router.name ∉ filter.ignoreRouters := by
  simp [accepts, and_assoc]

private theorem Tightens.accepts {narrow wide : RouterFilter} (tightens : narrow.Tightens wide) {router : Router}
    (accepted : narrow.accepts router = true) : wide.accepts router = true := by
  obtain ⟨entryPoints, providers, provider, name⟩ := accepts_iff.mp accepted
  exact accepts_iff.mpr ⟨tightens.entryPoints.imposes entryPoints, tightens.providers.imposes providers,
    fun ignored => provider (tightens.ignoredProviders ignored), fun ignored => name (tightens.ignoredRouters ignored)⟩

def Joins (entry : String) (entries more : List String) : Prop := ∀ name, name ∈ more ↔ name = entry ∨ name ∈ entries

/-- An entry joins a list that the filter ignores by, or is the first in a list that it includes by. -/
inductive Narrows : RouterFilter → RouterFilter → Prop
  | ignoreProvider {filter : RouterFilter} {entry : String} {more : List String}
      (joins : Joins entry filter.ignoreProviders more) : Narrows filter { filter with ignoreProviders := more }
  | ignoreRouter {filter : RouterFilter} {entry : String} {more : List String}
      (joins : Joins entry filter.ignoreRouters more) : Narrows filter { filter with ignoreRouters := more }
  | firstEntryPoint {filter : RouterFilter} {entry : String} {more : List String}
      (none : filter.includeEntryPoints = []) (joins : Joins entry filter.includeEntryPoints more) :
      Narrows filter { filter with includeEntryPoints := more }
  | firstProvider {filter : RouterFilter} {entry : String} {more : List String}
      (none : filter.includeProviders = []) (joins : Joins entry filter.includeProviders more) :
      Narrows filter { filter with includeProviders := more }

/-- An entry joins others in a list that the filter includes by. -/
inductive Widens : RouterFilter → RouterFilter → Prop
  | entryPoint {filter : RouterFilter} {entry : String} {more : List String}
      (some : filter.includeEntryPoints ≠ []) (joins : Joins entry filter.includeEntryPoints more) :
      Widens filter { filter with includeEntryPoints := more }
  | provider {filter : RouterFilter} {entry : String} {more : List String}
      (some : filter.includeProviders ≠ []) (joins : Joins entry filter.includeProviders more) :
      Widens filter { filter with includeProviders := more }

variable {filter edited : RouterFilter} {entry : String} {entries more : List String}

private theorem Joins.subset (joins : Joins entry entries more) : entries ⊆ more :=
  fun name member => (joins name).mpr (.inr member)

private theorem Joins.restricts (joins : Joins entry entries more) (some : entries ≠ []) : Restricts entries more :=
  .inr ⟨some, joins.subset⟩

private theorem Tightens.refl (filter : RouterFilter) : filter.Tightens filter :=
  ⟨.refl _, .refl _, List.Subset.refl _, List.Subset.refl _⟩

private theorem Narrows.tightens (narrows : filter.Narrows edited) : edited.Tightens filter := by
  have same := Tightens.refl filter
  cases narrows with
  | ignoreProvider joins => exact { same with ignoredProviders := joins.subset }
  | ignoreRouter joins => exact { same with ignoredRouters := joins.subset }
  | firstEntryPoint none joins => exact { same with entryPoints := .inl none }
  | firstProvider none joins => exact { same with providers := .inl none }

private theorem Widens.tightens (widens : filter.Widens edited) : filter.Tightens edited := by
  have same := Tightens.refl filter
  cases widens with
  | entryPoint some joins => exact { same with entryPoints := joins.restricts some }
  | provider some joins => exact { same with providers := joins.restricts some }

end RouterFilter

namespace Sync

/-- A plan creates nothing that another one does not, and deletes all that the other one does. -/
structure Plan.Narrower (plan other : Plan) : Prop where
  creations : ∀ entry, .create entry ∈ plan.operations → .create entry ∈ other.operations
  deletions : ∀ entry, .delete entry ∈ other.operations → .delete entry ∈ plan.operations

namespace Planner

variable {σ : Type} {world : World σ} {planner : Planner} {routers others : List Router}
  {generate : String → Except GeneratorError (List String)} {filter edited : RouterFilter}

def choosing (planner : Planner) (filter : RouterFilter) : Planner := { planner with filter }

private theorem getElem?_desired_choosing (planner : Planner) (generate : String → Except GeneratorError (List String))
    (part : ∀ router ∈ others, edited.accepts router = true → router ∈ routers ∧ filter.accepts router = true)
    (key : String) (entry : HostAlias)
    (found : ((planner.choosing edited).desired generate others)[key]? = some entry) :
    ((planner.choosing filter).desired generate routers)[key]? = some entry := by
  obtain ⟨host, member, named, made⟩ := getElem?_desired.mp found
  obtain ⟨proper, router, listed, accepted, requested⟩ := mem_hosts.mp member
  obtain ⟨also, taken⟩ := part router listed accepted
  exact getElem?_desired.mpr ⟨host, mem_hosts.mpr ⟨proper, router, also, taken, requested⟩, named, made⟩

private theorem narrower_of_accepted {plan other : Plan} {aliases : List HostAlias}
    (operations : plan.operations =
      diff ((planner.choosing filter).desired generate routers) (planner.managed aliases))
    (otherOperations : other.operations =
      diff ((planner.choosing edited).desired generate others) (planner.managed aliases))
    (part : ∀ router ∈ others, edited.accepts router = true → router ∈ routers ∧ filter.accepts router = true) :
    other.Narrower plan := by
  have fewer := getElem?_desired_choosing planner generate part
  constructor
  · intro entry created
    rw [otherOperations] at created
    rw [operations]
    exact create_mem_diff_mono desired_keyed desired_keyed fewer created
  · intro entry deleted
    rw [operations] at deleted
    rw [otherOperations]
    exact delete_mem_diff_anti managed_keyed fewer deleted

/-- Of two plans for the same aliases, the one whose routers all take part in the other is narrower. An entry more in a
list to ignore by, or the first in a list to include by, makes a plan narrower; an entry more in a list to include by
that had some makes it wider. -/
theorem narrowing_is_monotone (world : World σ) (holds : σ → Prop) (planner : Planner)
    (generate : String → Except GeneratorError (List String))
    (steady : SteadyGenerator world holds planner.limit generate) (filter edited : RouterFilter)
    (routers others : List Router) (aliases : List HostAlias) (now moment : Nat) (state another : σ)
    (begins : holds state) (resumes : holds another) :
    ∃ plan left other leftover,
      (world.run none ((planner.choosing filter).plan routers aliases) now state).result = some (plan, left) ∧
      (world.run none ((planner.choosing edited).plan others aliases) moment another).result =
        some (other, leftover) ∧
      ((∀ router ∈ others, edited.accepts router = true → router ∈ routers ∧ filter.accepts router = true) →
        other.Narrower plan) ∧
      (others = routers → filter.Narrows edited → other.Narrower plan) ∧
      (others = routers → filter.Widens edited → plan.Narrower other) := by
  have choosing (filter : RouterFilter) : SteadyGenerator world holds (planner.choosing filter).limit generate := steady
  obtain ⟨plan, left, planned, operations, -⟩ := plan_runs (choosing filter) routers aliases now begins
  obtain ⟨other, leftover, replanned, otherOperations, -⟩ := plan_runs (choosing edited) others aliases moment resumes
  refine ⟨plan, left, other, leftover, planned, replanned, narrower_of_accepted operations otherOperations, ?_, ?_⟩
  · rintro rfl narrows
    exact narrower_of_accepted operations otherOperations fun router listed accepted =>
      ⟨listed, narrows.tightens.accepts accepted⟩
  · rintro rfl widens
    exact narrower_of_accepted otherOperations operations fun router listed accepted =>
      ⟨listed, widens.tightens.accepts accepted⟩

/-- The first provider to include leaves one router of two: one name of the other is no longer created, and its other
name is deleted. -/
theorem narrowing_is_monotone_rehearsed :
    let planner : Planner := ⟨⟨[], [], [], []⟩, "managed", 10, .empty⟩
    let edited : RouterFilter := ⟨[], ["file"], [], []⟩
    let routers : List Router :=
      [⟨"kept", "file", [], "Host(`a.b`)"⟩, ⟨"dropped", "docker", [], "HostRegexp(`[c-d].x`)"⟩]
    let aliases : List HostAlias := [⟨some "1", "a", "b", "managed"⟩, ⟨some "2", "c", "x", "managed"⟩]
    let table : Rehearsal.GeneratorTable := [("[c-d].x", .names ["c.x", "d.x"] true)]
    let scene := Rehearsal.Scene.calm "dns.lan" routers aliases table
    (∃ plan left other leftover,
      (Rehearsal.world.run none ((planner.choosing planner.filter).plan routers aliases) 0 scene).result =
        some (plan, left) ∧
      (Rehearsal.world.run none ((planner.choosing edited).plan routers aliases) 0 scene).result =
        some (other, leftover) ∧
      other.Narrower plan) ∧
    (Rehearsal.world.run none ((planner.choosing planner.filter).plan routers aliases) 0 scene).result.map
        (·.1.operations) = some [.create ⟨none, "d", "x", "managed"⟩] ∧
    (Rehearsal.world.run none ((planner.choosing edited).plan routers aliases) 0 scene).result.map
        (·.1.operations) = some [.delete ⟨some "2", "c", "x", "managed"⟩] := by
  intro planner edited routers aliases table scene
  refine ⟨?_, by decide +kernel, by decide +kernel⟩
  obtain ⟨plan, left, other, leftover, planned, replanned, -, narrows, -⟩ := narrowing_is_monotone Rehearsal.world _
    planner _ (steadyGenerator_rehearsal table 10) planner.filter edited routers routers aliases 0 0 scene scene
    ⟨rfl, rfl⟩ ⟨rfl, rfl⟩
  have joins : RouterFilter.Joins "file" planner.filter.includeProviders edited.includeProviders := by
    simp [RouterFilter.Joins, planner, edited]
  exact ⟨plan, left, other, leftover, planned, replanned, narrows rfl (.firstProvider rfl joins)⟩

end Planner

end Sync

end AliasSync
