import AliasSync.Proofs.LostCandidates

/-! The order of the issues of a plan. Each router that takes part accounts for its own issues, one after the other as
its rule names the candidates and as the names of a candidate come; a router that does not take part has none. -/

namespace AliasSync

private theorem ExpansionCache.Keeps.trans {cache middle later : ExpansionCache} (first : cache.Keeps middle)
    (last : middle.Keeps later) : cache.Keeps later :=
  fun pattern names known => last pattern names (first pattern names known)

namespace Sync

open AliasSync.Rule (Candidate)

variable {σ : Type} {world : World σ} {drifts : σ → σ → Prop} {before after : σ} {steps : List Step}
  {planner later : Planner} {router : Router} {harvest next : Harvest}

structure Account where
  router : Router
  contributions : List Contribution

namespace Account

/-- What the router reports: that its rule cannot be read, or else what kept its candidates from yielding hosts. -/
def issues (account : Account) : List Issue :=
  match Rule.candidates account.router.rule with
  | .ok _ => account.contributions.flatMap Contribution.issues
  | .error cause => [.rule account.router.name cause]

/-- The candidates are those of the rule, in their order, and each has come to what is known of it. -/
structure Fits (known : ExpansionCache) (account : Account) : Prop where
  mentioned : account.contributions.map Contribution.mention = mentions account.router
  comes : ∀ contribution ∈ account.contributions, Comes known contribution.candidate contribution.expanded

private theorem Fits.mono {known more : ExpansionCache} {account : Account} (fits : account.Fits known)
    (keeps : known.Keeps more) : account.Fits more :=
  ⟨fits.mentioned, fun contribution member => (fits.comes contribution member).mono keeps⟩

private theorem Fits.router_of_mem {known : ExpansionCache} {account : Account} {issue : Issue}
    (fits : account.Fits known)
    (member : issue ∈ account.issues) : issue.router = account.router.name := by
  have mentioned := fits.mentioned
  unfold issues at member
  unfold mentions at mentioned
  cases read : Rule.candidates account.router.rule with
  | error cause =>
    rw [read] at member
    rw [List.mem_singleton.mp member]
    rfl
  | ok candidates =>
    simp only [read] at member mentioned
    obtain ⟨contribution, listed, own⟩ := List.mem_flatMap.mp member
    obtain ⟨error, -, rfl⟩ := List.mem_map.mp own
    have pair := List.mem_map_of_mem (f := Contribution.mention) listed
    rw [mentioned] at pair
    obtain ⟨candidate, -, same⟩ := List.mem_map.mp pair
    have router : account.router = contribution.router := congrArg Prod.fst same
    rw [router]
    rfl

end Account

namespace Harvest

variable {start : Harvest} {done : List Candidate} {contributions : List Contribution} {candidate : Candidate}

/-- Since the start these candidates of a router have come to these contributions. -/
structure Since (start : Harvest) (router : Router) (done : List Candidate) (contributions : List Contribution)
    (harvest : Harvest) : Prop where
  keeps : start.cache.Keeps harvest.cache
  mentioned : contributions.map Contribution.mention = done.map fun candidate => (router, candidate)
  comes : ∀ contribution ∈ contributions, Comes harvest.cache contribution.candidate contribution.expanded
  issues : harvest.issues = start.issues ++ contributions.flatMap Contribution.issues

private theorem Since.refl (start : Harvest) (router : Router) : start.Since router [] [] start :=
  ⟨fun _ _ known => known, rfl, nofun, (List.append_nil _).symm⟩

private theorem addCandidate_since (since : start.Since router done contributions harvest)
    (course : world.Course drifts (addCandidate planner router harvest candidate) before steps (some next) after) :
    ∃ expanded, start.Since router (done ++ [candidate]) (contributions ++ [⟨router, candidate, expanded⟩]) next := by
  obtain ⟨expanded, cache, _, expanding, rfl⟩ := addCandidate_cases course
  obtain ⟨own, keeps⟩ := expand_comes expanding
  refine ⟨expanded, since.keeps.trans keeps, ?_, ?_, ?_⟩
  · simp only [List.map_append, since.mentioned, List.map_singleton, Contribution.mention]
  · intro contribution member
    obtain earlier | last := List.mem_append.mp member
    · exact (since.comes contribution earlier).mono keeps
    · rw [List.mem_singleton.mp last]
      exact own
  · rw [adding, since.issues, List.append_assoc, List.flatMap_append, List.flatMap_singleton, Contribution.issues]

private theorem addRouter_account
    (course : world.Course drifts (addRouter planner harvest router) before steps (some next) after) :
    harvest.cache.Keeps next.cache ∧ ∃ account : Account, account.router = router ∧ account.Fits next.cache ∧
      next.issues = harvest.issues ++ account.issues := by
  obtain ⟨candidates, read, adds⟩ | ⟨cause, read, -, rfl⟩ := addRouter_cases course
  · obtain ⟨contributions, since⟩ := World.Course.foldlM
      (motive := fun done current _ => ∃ contributions, harvest.Since router done contributions current)
      (fun kept _ course => by
        obtain ⟨contributions, since⟩ := kept
        obtain ⟨expanded, further⟩ := addCandidate_since since course
        exact ⟨_, further⟩)
      ⟨[], .refl harvest router⟩ adds
    refine ⟨since.keeps, ⟨router, contributions⟩, rfl, ⟨?_, since.comes⟩, ?_⟩
    · rw [since.mentioned, mentions, read]
    · rw [since.issues, Account.issues, read]
  · refine ⟨fun _ _ known => known, ⟨router, []⟩, rfl, ⟨?_, nofun⟩, ?_⟩
    · rw [mentions, read]
      rfl
    · rw [Account.issues, read]

end Harvest

/-- The issues are those of the routers that take part, in the order of the routers. -/
structure AccountedBy (filter : RouterFilter) (routers : List Router) (known : ExpansionCache) (issues : List Issue)
    (accounts : List Account) : Prop where
  routers : accounts.map Account.router = routers.filter filter.accepts
  fits : ∀ account ∈ accounts, account.Fits known
  issues : issues = accounts.flatMap Account.issues

theorem AccountedBy.accepted {filter : RouterFilter} {routers : List Router} {known : ExpansionCache}
    {issues : List Issue} {accounts : List Account} {issue : Issue}
    (accounted : AccountedBy filter routers known issues accounts) (member : issue ∈ issues) :
    ∃ router ∈ routers, filter.accepts router = true ∧ issue.router = router.name := by
  rw [accounted.issues] at member
  obtain ⟨account, listed, own⟩ := List.mem_flatMap.mp member
  have accepted : account.router ∈ routers.filter filter.accepts :=
    accounted.routers ▸ List.mem_map_of_mem listed
  obtain ⟨served, takesPart⟩ := List.mem_filter.mp accepted
  exact ⟨account.router, served, takesPart, (accounted.fits account listed).router_of_mem own⟩

theorem Planner.plan_accounts {routers : List Router} {aliases : List HostAlias} {plan : Plan}
    (course : world.Course drifts (planner.plan routers aliases) before steps (some (plan, later)) after) :
    ∃ accounts, AccountedBy planner.filter routers later.cache plan.issues accounts := by
  simp only [Planner.plan, Program.bind_eq, World.course_bind_some] at course
  obtain ⟨harvest, _, _, _, -, harvesting, _, _, _, _, -, -, -, finished, -⟩ := course
  cases finished
  obtain ⟨accounts, accepted, fits, issues⟩ := World.Course.foldlM
    (motive := fun done current _ => ∃ accounts : List Account, accounts.map Account.router = done ∧
      (∀ account ∈ accounts, account.Fits current.cache) ∧ current.issues = accounts.flatMap Account.issues)
    (fun kept _ course => by
      obtain ⟨accounts, same, fits, issues⟩ := kept
      obtain ⟨keeps, account, rfl, own, further⟩ := Harvest.addRouter_account course
      refine ⟨accounts ++ [account], by rw [List.map_append, same, List.map_singleton], ?_, ?_⟩
      · intro other member
        obtain earlier | last := List.mem_append.mp member
        · exact (fits other earlier).mono keeps
        · rw [List.mem_singleton.mp last]
          exact own
      · rw [further, issues, List.flatMap_append, List.flatMap_singleton])
    ⟨[], rfl, List.forall_mem_nil _, rfl⟩ harvesting
  exact ⟨accounts, accepted, fits, issues⟩

end Sync

end AliasSync
