import AliasSync.Proofs.PlanSets

/-! What becomes of each candidate of a plan. Its host names are desired and its errors are issues of the plan,
whatever the generator says and however often it changes its mind; a pattern for which there are no names at all leaves
neither. -/

namespace AliasSync

namespace ExpansionCache

variable {cache later : ExpansionCache} {pattern : String} {reply : Except GeneratorError (List String)}

def Keeps (cache later : ExpansionCache) : Prop :=
  ∀ pattern names, cache.get? pattern = some names → later.get? pattern = some names

private theorem keeps_told (unknown : cache.get? pattern = none) : cache.Keeps (cache.told pattern reply) := by
  intro other names known
  cases reply with
  | error cause => exact known
  | ok found =>
    rw [told, get?_insert]
    split
    case isTrue same =>
      rw [same, known] at unknown
      cases unknown
    case isFalse => exact known

end ExpansionCache

namespace Sync

open AliasSync.Rule (Candidate)

variable {σ : Type} {world : World σ} {drifts : σ → σ → Prop} {limit : Nat} {before after : σ} {steps : List Step}
  {cache later : ExpansionCache} {candidate : Candidate} {expanded : Expanded}

private theorem ofNames_silent_iff {names : List String} :
    (Expanded.ofNames names).hosts = [] ∧ (Expanded.ofNames names).errors = [] ↔ names = [] := by
  cases names with
  | nil => exact iff_of_true ⟨rfl, rfl⟩ rfl
  | cons name rest =>
    refine iff_of_false ?_ (List.cons_ne_nil _ _)
    rintro ⟨noHost, noError⟩
    cases split : HostName.ofText? name <;> simp [Expanded.ofNames, split] at noHost noError

/-- What a candidate can come to once this is known: the names that are known of a pattern, or a failure. -/
def Comes (known : ExpansionCache) (candidate : Candidate) (expanded : Expanded) : Prop :=
  match candidate.kind with
  | .literal => expanded = .ofNames [candidate.value]
  | .pattern => (∃ names, known.get? candidate.value = some names ∧ expanded = .ofNames names) ∨
      ∃ cause, expanded = .ofFailure candidate.value cause

theorem Comes.mono (comes : Comes cache candidate expanded) (keeps : cache.Keeps later) :
    Comes later candidate expanded := by
  unfold Comes at comes ⊢
  cases kind : candidate.kind with
  | literal =>
    rw [kind] at comes
    exact comes
  | pattern =>
    rw [kind] at comes
    obtain ⟨names, known, rfl⟩ | failed := comes
    · exact .inl ⟨names, keeps _ _ known, rfl⟩
    · exact .inr failed

/-- A candidate leaves nothing behind just when it is a pattern of which it is known that it has no names. -/
theorem Comes.silent_iff (comes : Comes cache candidate expanded) :
    expanded.hosts = [] ∧ expanded.errors = [] ↔
      candidate.kind = .pattern ∧ expanded = .ofNames [] ∧ cache.get? candidate.value = some [] := by
  unfold Comes at comes
  cases kind : candidate.kind with
  | literal =>
    rw [kind] at comes
    obtain rfl := comes
    refine iff_of_false (fun silent => ?_) (fun ⟨impossible, _⟩ => by cases impossible)
    cases ofNames_silent_iff.mp silent
  | pattern =>
    rw [kind] at comes
    obtain ⟨names, known, rfl⟩ | ⟨cause, rfl⟩ := comes
    · rw [ofNames_silent_iff]
      constructor
      · rintro rfl
        exact ⟨rfl, rfl, known⟩
      · rintro ⟨-, same, -⟩
        exact ofNames_silent_iff.mp (same ▸ ⟨rfl, rfl⟩)
    · exact iff_of_false (fun ⟨_, impossible⟩ => by cases impossible) fun ⟨_, impossible, _⟩ => by cases impossible

theorem expand_comes
    (course : world.Course drifts (expand limit cache candidate) before steps (some (expanded, later)) after) :
    Comes later candidate expanded ∧ cache.Keeps later := by
  unfold Comes
  obtain ⟨kind, rfl, rfl, -⟩ | ⟨kind, reply, _, expanding, rfl⟩ := expand_cases course
  · rw [kind]
    exact ⟨rfl, fun _ _ known => known⟩
  · simp only [kind, candidateExpanded]
    obtain ⟨names, known, rfl, rfl, -⟩ | ⟨unknown, -, rfl⟩ := expandPattern_cases expanding
    · exact ⟨.inl ⟨names, known, rfl⟩, fun _ _ known => known⟩
    · refine ⟨?_, ExpansionCache.keeps_told unknown⟩
      cases reply with
      | error cause => exact .inr ⟨cause, rfl⟩
      | ok names => exact .inl ⟨names, by rw [ExpansionCache.told, ExpansionCache.get?_insert, if_pos rfl], rfl⟩

structure Contribution where
  router : Router
  candidate : Candidate
  expanded : Expanded

namespace Contribution

def mention (contribution : Contribution) : Router × Candidate := (contribution.router, contribution.candidate)

/-- The keys that are desired on account of the candidate. -/
def keys (contribution : Contribution) : List String := contribution.expanded.hosts.map HostName.text

def issues (contribution : Contribution) : List Issue :=
  contribution.expanded.errors.map (.expansion contribution.router.name)

end Contribution

def mentions (router : Router) : List (Router × Candidate) :=
  match Rule.candidates router.rule with
  | .ok found => found.map fun candidate => (router, candidate)
  | .error _ => []

def Issue.isExpansion : Issue → Bool
  | .expansion _ _ => true
  | .rule _ _ => false

/-- What has been collected is what these candidates have come to, and besides the issues of rules. -/
structure Harvest.Credits (marker : String) (contributions : List Contribution) (harvest : Harvest) : Prop where
  desired : harvest.desired = .ofList
    ((contributions.flatMap fun contribution => contribution.expanded.hosts).map (HostAlias.ofHostName · marker))
  issues : harvest.issues.filter Issue.isExpansion = contributions.flatMap Contribution.issues
  comes : ∀ contribution ∈ contributions, Comes harvest.cache contribution.candidate contribution.expanded

namespace Harvest

variable {planner : Planner} {router : Router} {harvest next : Harvest} {past : List Contribution}

private theorem Credits.mem_desired {marker key : String} (credits : harvest.Credits marker past) :
    key ∈ harvest.desired ↔ ∃ contribution ∈ past, key ∈ contribution.keys := by
  rw [credits.desired, AliasTable.mem_ofList]
  constructor
  · rintro ⟨entry, listed, rfl⟩
    obtain ⟨host, named, rfl⟩ := List.mem_map.mp listed
    obtain ⟨contribution, member, own⟩ := List.mem_flatMap.mp named
    exact ⟨contribution, member, List.mem_map_of_mem own⟩
  · rintro ⟨contribution, member, own⟩
    obtain ⟨host, named, rfl⟩ := List.mem_map.mp own
    exact ⟨_, List.mem_map_of_mem (List.mem_flatMap.mpr ⟨contribution, member, named⟩), rfl⟩

private theorem Credits.mem_issues {marker : String} {contribution : Contribution} {issue : Issue}
    (credits : harvest.Credits marker past) (member : contribution ∈ past) (own : issue ∈ contribution.issues) :
    issue ∈ harvest.issues := by
  have told : issue ∈ past.flatMap Contribution.issues := List.mem_flatMap.mpr ⟨contribution, member, own⟩
  rw [← credits.issues] at told
  exact (List.mem_filter.mp told).1

private theorem addCandidate_credits (credits : harvest.Credits planner.marker past)
    (course : world.Course drifts (addCandidate planner router harvest candidate) before steps (some next) after) :
    ∃ expanded, next.Credits planner.marker (past ++ [⟨router, candidate, expanded⟩]) := by
  obtain ⟨expanded, cache, _, expanding, rfl⟩ := addCandidate_cases course
  obtain ⟨comes, keeps⟩ := expand_comes expanding
  refine ⟨expanded, ?_, ?_, ?_⟩
  · rw [desired_adding credits.desired, List.flatMap_append, List.flatMap_singleton, List.map_append]
  · have all : (expanded.errors.map (Issue.expansion router.name)).filter Issue.isExpansion =
        expanded.errors.map (.expansion router.name) := by
      rw [List.filter_eq_self]
      intro issue member
      obtain ⟨error, -, rfl⟩ := List.mem_map.mp member
      rfl
    rw [adding, List.filter_append, credits.issues, all, List.flatMap_append, List.flatMap_singleton,
      Contribution.issues]
  · intro contribution member
    obtain earlier | own := List.mem_append.mp member
    · exact (credits.comes contribution earlier).mono keeps
    · rw [List.mem_singleton.mp own]
      exact comes

private theorem addRouter_credits (credits : harvest.Credits planner.marker past)
    (course : world.Course drifts (addRouter planner harvest router) before steps (some next) after) :
    ∃ more : List Contribution, more.map Contribution.mention = mentions router ∧
      next.Credits planner.marker (past ++ more) := by
  unfold mentions
  obtain ⟨candidates, read, adds⟩ | ⟨cause, read, -, rfl⟩ := addRouter_cases course
  · rw [read]
    refine World.Course.foldlM
      (motive := fun done current _ => ∃ more : List Contribution,
        more.map Contribution.mention = done.map (fun candidate => (router, candidate)) ∧
          current.Credits planner.marker (past ++ more))
      (fun kept _ course => ?_) ⟨[], rfl, by rwa [List.append_nil]⟩ adds
    obtain ⟨more, same, credits⟩ := kept
    obtain ⟨expanded, further⟩ := addCandidate_credits credits course
    rw [List.append_assoc] at further
    exact ⟨_, by simp only [List.map_append, same, List.map_singleton, Contribution.mention], further⟩
  · rw [read]
    refine ⟨[], rfl, ?_⟩
    rw [List.append_nil]
    refine ⟨credits.desired, ?_, credits.comes⟩
    rw [List.filter_append, credits.issues]
    exact List.append_nil _

end Harvest

/-- What a candidate leaves behind, if it leaves anything, is a key or an issue of its router. -/
theorem Harvest.Credits.told_iff {marker : String} {harvest : Harvest} {contributions : List Contribution}
    {contribution : Contribution} (credits : harvest.Credits marker contributions)
    (member : contribution ∈ contributions) :
    ((∃ key ∈ contribution.keys, key ∈ harvest.desired) ∨
        ∃ issue ∈ contribution.issues, issue ∈ harvest.issues ∧ issue.router = contribution.router.name) ↔
      ¬ (contribution.expanded.hosts = [] ∧ contribution.expanded.errors = []) := by
  constructor
  · rintro (⟨key, own, -⟩ | ⟨issue, own, -⟩) ⟨noHost, noError⟩
    · rw [Contribution.keys, noHost] at own
      cases own
    · rw [Contribution.issues, noError] at own
      cases own
  · intro loud
    by_cases noHost : contribution.expanded.hosts = []
    · have failed : contribution.expanded.errors ≠ [] := fun noError => loud ⟨noHost, noError⟩
      obtain ⟨error, own⟩ := List.exists_mem_of_ne_nil _ failed
      have issue : .expansion contribution.router.name error ∈ contribution.issues := List.mem_map_of_mem own
      exact .inr ⟨_, issue, credits.mem_issues member issue, rfl⟩
    · obtain ⟨host, own⟩ := List.exists_mem_of_ne_nil _ noHost
      have key : host.text ∈ contribution.keys := List.mem_map_of_mem own
      exact .inl ⟨_, key, credits.mem_desired.mpr ⟨contribution, member, key⟩⟩

theorem Planner.harvest_credits {planner : Planner} {routers : List Router} {harvest : Harvest}
    (course : world.Course drifts (planner.harvest routers) before steps (some harvest) after) :
    ∃ contributions : List Contribution,
      contributions.map Contribution.mention = (routers.filter planner.filter.accepts).flatMap mentions ∧
      harvest.Credits planner.marker contributions := by
  refine World.Course.foldlM
    (motive := fun done current _ => ∃ contributions : List Contribution,
      contributions.map Contribution.mention = done.flatMap mentions ∧
        current.Credits planner.marker contributions)
    (fun kept _ course => ?_) ⟨[], rfl, rfl, rfl, fun _ impossible => by cases impossible⟩ course
  obtain ⟨past, same, credits⟩ := kept
  obtain ⟨more, own, further⟩ := Harvest.addRouter_credits credits course
  exact ⟨past ++ more, by rw [List.map_append, same, own, List.flatMap_append, List.flatMap_singleton], further⟩

/-- Whatever the generator says, the candidates of the routers that take part come to hosts and errors of their own, and
these are all that is desired and all that is reported beside the rules that cannot be read. A candidate has a desired
key or an issue of its router unless it is a pattern that has been expanded to no names. -/
theorem candidate_lost_iff_no_names (world : World σ) (planner : Planner) (routers : List Router)
    (aliases : List HostAlias) (now : Nat) (state : σ) :
    ∃ (harvest : Harvest) (plan : Plan) (later : Planner) (contributions : List Contribution),
      (world.run none (planner.harvest routers) now state).result = some harvest ∧
      (world.run none (planner.plan routers aliases) now state).result = some (plan, later) ∧
      plan.operations = diff harvest.desired (planner.managed aliases) ∧ plan.desired = harvest.desired.size ∧
      contributions.map Contribution.mention = (routers.filter planner.filter.accepts).flatMap mentions ∧
      (∀ key, key ∈ harvest.desired ↔ ∃ contribution ∈ contributions, key ∈ contribution.keys) ∧
      plan.issues.filter Issue.isExpansion = contributions.flatMap Contribution.issues ∧
      ∀ contribution ∈ contributions, Comes later.cache contribution.candidate contribution.expanded ∧
        ((∃ key ∈ contribution.keys, key ∈ harvest.desired) ∨
            (∃ issue ∈ contribution.issues, issue ∈ plan.issues ∧ issue.router = contribution.router.name) ↔
          ¬ (contribution.candidate.kind = .pattern ∧ contribution.expanded = .ofNames [] ∧
              later.cache.get? contribution.candidate.value = some [])) := by
  obtain ⟨harvest, plan, later, harvested, planned, operations, issues, size, cache⟩ :=
    planner.plan_run world routers aliases now state
  obtain ⟨contributions, mentioned, credits⟩ := Planner.harvest_credits (World.free_course_of_result harvested)
  refine ⟨harvest, plan, later, contributions, harvested, planned, operations, size, mentioned,
    fun _ => credits.mem_desired, ?_, fun contribution member => ?_⟩
  · rw [issues, credits.issues]
  · have comes := credits.comes contribution member
    rw [cache, issues]
    exact ⟨comes, (credits.told_iff member).trans (not_congr comes.silent_iff)⟩

/-- One of the two names of the pattern is no host name: the other is desired, and this one is reported. -/
theorem candidate_lost_iff_no_names_kept :
    let planner : Planner := ⟨⟨[], [], [], []⟩, "managed", 10, .empty⟩
    let router : Router := ⟨"r", "file", [], "Host(`a.b`) || HostRegexp(`[a-b].x`)"⟩
    let scene := Rehearsal.Scene.calm "dns.lan" [router] [] [("[a-b].x", .names ["b.x", "dotless"] false)]
    ∃ (harvest : Harvest) (plan : Plan) (later : Planner) (first second : Contribution),
      (Rehearsal.world.run none (planner.plan [router] []) 0 scene).result = some (plan, later) ∧
      second.mention = (router, ⟨"[a-b].x", .pattern⟩) ∧
      plan.issues.filter Issue.isExpansion = first.issues ++ second.issues ∧
      ((∃ key ∈ second.keys, key ∈ harvest.desired) ∨
        ∃ issue ∈ second.issues, issue ∈ plan.issues ∧ issue.router = second.router.name) := by
  intro planner router scene
  obtain ⟨harvest, plan, later, contributions, -, planned, -, -, mentioned, -, reported, each⟩ :=
    candidate_lost_iff_no_names Rehearsal.world planner [router] [] 0 scene
  have accepted : ([router].filter planner.filter.accepts).flatMap mentions =
      [(router, ⟨"a.b", .literal⟩), (router, ⟨"[a-b].x", .pattern⟩)] := by decide +kernel
  rw [accepted] at mentioned
  obtain ⟨first, _, rfl, -, others⟩ := List.map_eq_cons_iff.mp mentioned
  obtain ⟨second, _, rfl, own, none⟩ := List.map_eq_cons_iff.mp others
  obtain rfl := List.map_eq_nil_iff.mp none
  have known : (Rehearsal.world.run Option.none (planner.plan [router] []) 0 scene).result.bind
      (fun planned => planned.2.cache.get? "[a-b].x") = some ["b.x", "dotless"] := by decide +kernel
  rw [planned] at known
  refine ⟨harvest, plan, later, first, second, planned, own, by simpa using reported, ?_⟩
  refine (each second (by simp)).2.mpr fun ⟨_, _, empty⟩ => ?_
  rw [show second.candidate = _ from congrArg Prod.snd own] at empty
  cases known.symm.trans empty

/-- The generator knows no name for the pattern, and says so the first time; the second time the cache does. The rule
has a candidate, and nothing is desired and nothing is reported. -/
theorem candidate_lost_silently :
    let planner : Planner := ⟨⟨[], [], [], []⟩, "managed", 5, .empty⟩
    let routers : List Router := [⟨"r", "file", [], "HostRegexp(`x`)"⟩]
    let scene := Rehearsal.Scene.calm "dns.lan" routers [] [("x", .names [] false)]
    let first := Rehearsal.world.run none (planner.plan routers []) 0 scene
    let later := (first.result.map Prod.snd).getD planner
    let second := Rehearsal.world.run none (later.plan routers []) 1 first.state
    routers.map planner.filter.accepts = [true] ∧
      (Rule.candidates "HostRegexp(`x`)").toOption = some [⟨"x", .pattern⟩] ∧
      later.cache.get? "x" = some [] ∧ (second.trace.filter Step.isCall).length = 0 ∧
      ∀ planned ∈ [first.result, second.result],
        planned.map (fun (plan, _) => (plan.operations, plan.issues, plan.desired)) = some ([], [], 0) := by
  decide +kernel

end Sync

end AliasSync
