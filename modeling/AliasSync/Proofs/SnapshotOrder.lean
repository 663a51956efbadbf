import AliasSync.Proofs.DistinctKeys

/-! The order of the snapshots does not matter to a plan, and neither does it whether a router is listed twice. The
aliases that are desired are a function of their names, the managed ones of their keys, and the sort of a difference
starts from tables that are ordered by key. -/

namespace AliasSync.Sync

open AliasSync.Rule (Candidate)

variable {σ : Type} {world : World σ} {drifts : σ → σ → Prop} {holds : σ → Prop} {before after : σ}
  {steps : List Step} {generate : String → Except GeneratorError (List String)}

def routerIssues (answer : String → Except GeneratorError (List String)) (router : Router) : List Issue :=
  match Rule.candidates router.rule with
  | .ok candidates => candidates.flatMap fun candidate =>
    (candidateExpanded answer candidate).errors.map (.expansion router.name)
  | .error cause => [.rule router.name cause]

def routerPatterns (router : Router) : List String :=
  match Rule.candidates router.rule with
  | .ok candidates => candidates.flatMap candidatePatterns
  | .error _ => []

/-- These issues have been reported since the start, and the answers to these patterns have been learned. -/
structure Harvest.Reported (generate : String → Except GeneratorError (List String)) (start : ExpansionCache)
    (issues : List Issue) (patterns : List String) (harvest : Harvest) : Prop where
  issues : harvest.issues = issues
  learns : start.Learns generate harvest.cache patterns

namespace Harvest

variable {planner : Planner} {router : Router} {candidate : Candidate} {harvest next : Harvest}
  {start : ExpansionCache} {issues : List Issue} {patterns : List String}

private theorem addCandidate_reported (generates : Generates world drifts holds planner.limit generate)
    (reported : harvest.Reported generate start issues patterns) (kept : holds before)
    (course : world.Course drifts (addCandidate planner router harvest candidate) before steps (some next) after) :
    holds after ∧ next.Reported generate start
      (issues ++ (candidateExpanded (start.answer generate) candidate).errors.map (.expansion router.name))
      (patterns ++ candidatePatterns candidate) := by
  obtain ⟨expanded, cache, _, expanding, rfl⟩ := addCandidate_cases course
  obtain ⟨still, rfl, learns⟩ := expand_result generates kept expanding
  refine ⟨still, ?_, reported.learns.append learns⟩
  rw [adding, reported.issues, reported.learns.answer]

private theorem addRouter_reported (generates : Generates world drifts holds planner.limit generate)
    (reported : harvest.Reported generate start issues patterns) (kept : holds before)
    (course : world.Course drifts (addRouter planner harvest router) before steps (some next) after) :
    holds after ∧ next.Reported generate start (issues ++ routerIssues (start.answer generate) router)
      (patterns ++ routerPatterns router) := by
  unfold routerIssues routerPatterns
  obtain ⟨candidates, read, adds⟩ | ⟨cause, read, rfl, rfl⟩ := addRouter_cases course
  · rw [read]
    refine World.Course.foldlM
      (motive := fun past current state => holds state ∧ current.Reported generate start
        (issues ++ past.flatMap fun candidate =>
          (candidateExpanded (start.answer generate) candidate).errors.map (.expansion router.name))
        (patterns ++ past.flatMap candidatePatterns))
      (fun kept _ course => ?_) ⟨kept, by simpa using reported⟩ adds
    have added := addCandidate_reported generates kept.2 kept.1 course
    simpa only [List.flatMap_append, List.flatMap_singleton, List.append_assoc] using added
  · rw [read]
    refine ⟨kept, congrArg (· ++ _) reported.issues, ?_⟩
    rw [List.append_nil]
    exact reported.learns

end Harvest

namespace Planner

variable {planner later : Planner} {routers others : List Router} {aliases relisted : List HostAlias} {plan : Plan}

private theorem plan_reported (generates : Generates world drifts holds planner.limit generate) (kept : holds before)
    (course : world.Course drifts (planner.plan routers aliases) before steps (some (plan, later)) after) :
    plan.issues = (routers.filter planner.filter.accepts).flatMap (routerIssues (planner.cache.answer generate)) ∧
      planner.cache.Learns generate later.cache
        ((routers.filter planner.filter.accepts).flatMap routerPatterns) := by
  simp only [Planner.plan, Program.bind_eq, World.course_bind_some] at course
  obtain ⟨harvest, _, _, _, -, harvesting, _, _, _, _, -, measuring, -, finished, rfl⟩ := course
  cases finished
  obtain ⟨-, reported⟩ := World.Course.foldlM
    (motive := fun past current state => holds state ∧ current.Reported generate planner.cache
      (past.flatMap (routerIssues (planner.cache.answer generate))) (past.flatMap routerPatterns))
    (fun kept _ course => by
      have added := Harvest.addRouter_reported generates kept.2 kept.1 course
      simpa only [List.flatMap_append, List.flatMap_singleton] using added)
    ⟨kept, rfl, .nil⟩ harvesting
  exact ⟨reported.issues, reported.learns⟩

private theorem getElem?_desired_congr (planner : Planner) (generate : String → Except GeneratorError (List String))
    (same : ∀ router, router ∈ routers ↔ router ∈ others) (key : String) :
    (planner.desired generate routers)[key]? = (planner.desired generate others)[key]? := by
  refine Option.ext fun entry => ?_
  simp only [getElem?_desired, mem_hosts, same]

private theorem getElem?_managed_congr (distinct : DistinctKeys planner.marker aliases)
    (relists : aliases.Perm relisted)
    (key : String) : (planner.managed aliases)[key]? = (planner.managed relisted)[key]? := by
  refine Option.ext fun entry => ?_
  rw [getElem?_managed_of_distinct distinct, getElem?_managed_of_distinct (distinct.perm relists), relists.mem_iff]

private theorem size_congr {table other : AliasTable} (same : ∀ key : String, table[key]? = other[key]?) :
    table.size = other.size :=
  (Std.TreeMap.Equiv.of_forall_constGet?_eq same).size_eq

/-- In a world with a steady generator a plan is computed, and it is given in full by its snapshots. -/
theorem plan_settles (steady : SteadyGenerator world holds planner.limit generate) (routers : List Router)
    (aliases : List HostAlias) (now : Nat) {state : σ} (begins : holds state) :
    ∃ plan later, (world.run none (planner.plan routers aliases) now state).result = some (plan, later) ∧
      plan.operations = diff (planner.desired generate routers) (planner.managed aliases) ∧
      plan.desired = (planner.desired generate routers).size ∧ plan.managed = (planner.managed aliases).size ∧
      plan.issues = (routers.filter planner.filter.accepts).flatMap (routerIssues (planner.cache.answer generate)) ∧
      planner.cache.Learns generate later.cache ((routers.filter planner.filter.accepts).flatMap routerPatterns) := by
  obtain ⟨plan, later, finished, operations, desired, managed⟩ := plan_runs steady routers aliases now begins
  have course := world.run_course none (planner.plan routers aliases) now state
    (fun before after => holds before → holds after) fun _ _ _ _ _ => steady.elapse
  rw [finished] at course
  exact ⟨plan, later, finished, operations, desired, managed, plan_reported steady.generates begins course⟩

/-- However the routers and the aliases are listed, and from whichever state and moment the world goes on, the plan is
the same, its issues come in some order, and the planner remembers the same. A router that is listed once more adds
nothing to the plan. -/
theorem plan_ignores_order (world : World σ) (holds : σ → Prop) (planner : Planner)
    (generate : String → Except GeneratorError (List String))
    (steady : SteadyGenerator world holds planner.limit generate) {routers others : List Router}
    {aliases relisted : List HostAlias} (shuffles : routers.Perm others) (relists : aliases.Perm relisted)
    (distinct : DistinctKeys planner.marker aliases) (now moment : Nat) (state another : σ) (begins : holds state)
    (resumes : holds another) :
    ∃ plan left other leftover,
      (world.run none (planner.plan routers aliases) now state).result = some (plan, left) ∧
      (world.run none (planner.plan others relisted) moment another).result = some (other, leftover) ∧
      other.operations = plan.operations ∧ other.desired = plan.desired ∧ other.managed = plan.managed ∧
      (∀ pattern, leftover.cache.get? pattern = left.cache.get? pattern) ∧ other.issues.Perm plan.issues ∧
      ∀ front router back, routers = front ++ back → router ∈ routers → ∃ doubled remaining,
        (world.run none (planner.plan (front ++ router :: back) aliases) now state).result =
            some (doubled, remaining) ∧
          doubled.operations = plan.operations ∧ doubled.desired = plan.desired ∧ doubled.managed = plan.managed := by
  obtain ⟨plan, left, planned, operations, desired, managed, issues, learns⟩ :=
    plan_settles steady routers aliases now begins
  obtain ⟨other, leftover, replanned, otherOperations, otherDesired, otherManaged, otherIssues, otherLearns⟩ :=
    plan_settles steady others relisted moment resumes
  have sameDesired := getElem?_desired_congr planner generate fun router => shuffles.mem_iff (a := router)
  have sameManaged := getElem?_managed_congr distinct relists
  have accepted := shuffles.filter planner.filter.accepts
  refine ⟨plan, left, other, leftover, planned, replanned, ?_, ?_, ?_, ?_, ?_, ?_⟩
  · rw [operations, otherOperations, diff_congr sameDesired, diff_congr_current sameManaged]
  · rw [desired, otherDesired, size_congr sameDesired]
  · rw [managed, otherManaged, size_congr sameManaged]
  · intro pattern
    rw [learns pattern, otherLearns pattern]
    simp only [(accepted.flatMap_right routerPatterns).mem_iff]
  · rw [issues, otherIssues]
    exact (accepted.flatMap_right _).symm
  · rintro front router back rfl member
    obtain ⟨doubled, remaining, finished, again, desiredAgain, managedAgain, -⟩ :=
      plan_settles steady (front ++ router :: back) aliases now begins
    have sameRouters (one : Router) : one ∈ front ++ router :: back ↔ one ∈ front ++ back := by
      simp only [List.mem_append, List.mem_cons] at member ⊢
      constructor
      · rintro (first | rfl | last)
        · exact .inl first
        · exact member
        · exact .inr last
      · rintro (first | last)
        · exact .inl first
        · exact .inr (.inr last)
    have sameAgain := getElem?_desired_congr planner generate sameRouters
    refine ⟨doubled, remaining, finished, ?_, ?_, ?_⟩
    · rw [operations, again, diff_congr sameAgain]
    · rw [desired, desiredAgain, size_congr sameAgain]
    · rw [managed, managedAgain]

/-- Two routers ask for `a.b`, one of them through a pattern, and a third cannot be read. -/
theorem plan_ignores_order_rehearsed :
    let planner : Planner := ⟨⟨[], [], [], []⟩, "managed", 10, .empty⟩
    let web : Router := ⟨"web", "file", [], "Host(`a.b`)"⟩
    let api : Router := ⟨"api", "file", [], "HostRegexp(`[a-c].*`)"⟩
    let broken : Router := ⟨"broken", "file", [], "Host("⟩
    let old : HostAlias := ⟨some "1", "old", "b", "managed"⟩
    let own : HostAlias := ⟨some "2", "old", "b", "other"⟩
    let table : Rehearsal.GeneratorTable := [("[a-c].*", .names ["a.b", "dotless"] true)]
    let scene := Rehearsal.Scene.calm "dns.lan" [] [] table
    [web, api, broken].Perm [broken, web, api] ∧ [old, own].Perm [own, old] ∧
      DistinctKeys planner.marker [old, own] ∧ ∃ plan left other leftover,
        (Rehearsal.world.run none (planner.plan [web, api, broken] [old, own]) 0 scene).result = some (plan, left) ∧
        (Rehearsal.world.run none (planner.plan [broken, web, api] [own, old]) 5 scene).result =
          some (other, leftover) ∧
        plan.operations = [.delete old, .create ⟨none, "a", "b", "managed"⟩] ∧ other.operations = plan.operations ∧
        other.issues.Perm plan.issues ∧ other.issues ≠ plan.issues ∧
        leftover.cache.get? "[a-c].*" = left.cache.get? "[a-c].*" := by
  intro planner web api broken old own table scene
  have shuffles : [web, api, broken].Perm [broken, web, api] := by decide
  have relists : [old, own].Perm [own, old] := by decide
  have distinct : DistinctKeys planner.marker [old, own] := by decide
  refine ⟨shuffles, relists, distinct, ?_⟩
  obtain ⟨plan, left, other, leftover, planned, replanned, operations, -, -, cache, issues, -⟩ :=
    plan_ignores_order Rehearsal.world _ planner _ (steadyGenerator_rehearsal table 10) shuffles relists distinct 0 5
      scene scene ⟨rfl, rfl⟩ ⟨rfl, rfl⟩
  have ordered : (Rehearsal.world.run none (planner.plan [web, api, broken] [old, own]) 0 scene).result.map
      (fun planned => (planned.1.operations, planned.1.issues.map Issue.router)) =
        some ([.delete old, .create ⟨none, "a", "b", "managed"⟩], ["api", "broken"]) := by decide +kernel
  have reordered : (Rehearsal.world.run none (planner.plan [broken, web, api] [own, old]) 5 scene).result.map
      (fun planned => planned.1.issues.map Issue.router) = some ["broken", "api"] := by decide +kernel
  rw [planned] at ordered
  rw [replanned] at reordered
  obtain ⟨changes, reported⟩ := Prod.mk.inj (Option.some.inj ordered)
  refine ⟨plan, left, other, leftover, planned, replanned, changes, operations, issues, ?_, cache _⟩
  intro same
  have clash := (Option.some.inj reordered).symm.trans ((congrArg (List.map Issue.router) same).trans reported)
  exact absurd clash (by decide)

end Planner

end AliasSync.Sync
