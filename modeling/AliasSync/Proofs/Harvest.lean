import AliasSync.Proofs.AliasTable
import AliasSync.Proofs.Course
import AliasSync.Proofs.HostName
import AliasSync.Sync.Plan

/-! What a plan asks of the store: the host names that the rules of the routers stand for. Collecting
them comes to the same as forming the names of every candidate on its own, whatever the cache
remembers, as long as the generator answers the same pattern in the same way. -/

namespace AliasSync

/-- What a pattern stands for: what is remembered of it, or else what the generator makes of it. -/
def ExpansionCache.expansion (cache : ExpansionCache)
    (generate : String → Except GeneratorError (List String)) (pattern : String) : Option (List String) :=
  match cache.get? pattern with
  | some names => some names
  | none => (generate pattern).toOption

namespace ExpansionCache

variable {cache middle later : ExpansionCache} {generate : String → Except GeneratorError (List String)}
  {pattern : String} {names : List String} {patterns others : List String}

def answer (cache : ExpansionCache) (generate : String → Except GeneratorError (List String)) (pattern : String) :
    Except GeneratorError (List String) :=
  match cache.get? pattern with
  | some names => .ok names
  | none => generate pattern

private theorem expansion_eq : cache.expansion generate = fun pattern => (cache.answer generate pattern).toOption := by
  funext pattern
  unfold expansion answer
  cases cache.get? pattern <;> rfl

/-- What is said to these patterns has been remembered, as far as it was names. -/
def Learns (generate : String → Except GeneratorError (List String)) (cache later : ExpansionCache)
    (patterns : List String) : Prop :=
  ∀ pattern, later.get? pattern =
    if pattern ∈ patterns then (cache.answer generate pattern).toOption else cache.get? pattern

theorem Learns.nil : cache.Learns generate cache [] := fun _ => (if_neg List.not_mem_nil).symm

private theorem learns_known (known : cache.get? pattern = some names) : cache.Learns generate cache [pattern] := by
  intro other
  by_cases same : other = pattern
  · subst same
    simp [answer, known, Except.toOption]
  · simp [same]

private theorem learns_failure {cause : GeneratorError} (unknown : cache.get? pattern = none)
    (failed : generate pattern = .error cause) : cache.Learns generate cache [pattern] := by
  intro other
  by_cases same : other = pattern
  · subst same
    simp [answer, unknown, failed, Except.toOption]
  · simp [same]

private theorem learns_insert (unknown : cache.get? pattern = none) (generated : generate pattern = .ok names) :
    cache.Learns generate (cache.insert pattern names) [pattern] := by
  intro other
  by_cases same : pattern = other
  · subst same
    simp [answer, get?_insert, unknown, generated, Except.toOption]
  · simp [get?_insert, same, Ne.symm same]

/-- To remember what has been said changes nothing about what is said. -/
theorem Learns.answer (learns : cache.Learns generate later patterns) :
    later.answer generate = cache.answer generate := by
  funext pattern
  have remembered := learns pattern
  unfold ExpansionCache.answer at remembered ⊢
  by_cases asked : pattern ∈ patterns
  · rw [if_pos asked] at remembered
    cases known : cache.get? pattern with
    | some names =>
      rw [known] at remembered
      rw [remembered]
      rfl
    | none =>
      rw [known] at remembered
      rw [remembered]
      cases generate pattern <;> rfl
  · rw [if_neg asked] at remembered
    rw [remembered]

theorem Learns.append (first : cache.Learns generate middle patterns) (last : middle.Learns generate later others) :
    cache.Learns generate later (patterns ++ others) := by
  intro pattern
  rw [last pattern, first.answer, first pattern]
  by_cases asked : pattern ∈ patterns <;> by_cases again : pattern ∈ others <;> simp [asked, again]

def told (cache : ExpansionCache) (pattern : String) : Except GeneratorError (List String) → ExpansionCache
  | .ok names => cache.insert pattern names
  | .error _ => cache

private theorem Learns.expansion (learns : cache.Learns generate later patterns) :
    later.expansion generate = cache.expansion generate := by
  rw [expansion_eq, expansion_eq, learns.answer]

end ExpansionCache

namespace Sync

open AliasSync.Rule (Candidate)

variable {σ : Type} {world : World σ} {drifts : σ → σ → Prop} {holds : σ → Prop} {limit : Nat}
  {generate : String → Except GeneratorError (List String)} {before after : σ} {steps : List Step}

def candidateNames (expansion : String → Option (List String)) (candidate : Candidate) : List String :=
  match candidate.kind with
  | .literal => [candidate.value]
  | .pattern => (expansion candidate.value).getD []

def routerNames (expansion : String → Option (List String)) (router : Router) : List String :=
  match Rule.candidates router.rule with
  | .ok candidates => candidates.flatMap (candidateNames expansion)
  | .error _ => []

def requestedHosts (filter : RouterFilter) (expansion : String → Option (List String))
    (routers : List Router) : List HostName :=
  ((routers.filter filter.accepts).flatMap (routerNames expansion)).filterMap HostName.ofText?

/-- An assertion about the world under which the generator gives the answers of a function. -/
def Generates (world : World σ) (drifts : σ → σ → Prop) (holds : σ → Prop) (limit : Nat)
    (generate : String → Except GeneratorError (List String)) : Prop :=
  ∀ {before pattern reply after}, holds before →
    world.Reacts drifts before (.generate pattern limit) reply after →
    reply = generate pattern ∧ holds after

/-- What is known of a pattern is used, and for any other the generator is asked. -/
theorem expandPattern_cases {cache later : ExpansionCache} {pattern : String}
    {reply : Except GeneratorError (List String)}
    (course : world.Course drifts (expandPattern limit cache pattern) before steps (some (reply, later)) after) :
    (∃ names, cache.get? pattern = some names ∧ reply = .ok names ∧ later = cache ∧ after = before) ∨
      cache.get? pattern = none ∧ world.Reacts drifts before (.generate pattern limit) reply after ∧
        later = cache.told pattern reply := by
  unfold expandPattern at course
  cases known : cache.get? pattern with
  | some names =>
    simp only [known, Program.bind_eq, World.course_bind_some, World.course_log] at course
    obtain ⟨_, _, _, _, -, ⟨-, -, rfl⟩, -, finished, rfl⟩ := course
    cases finished
    exact .inl ⟨names, rfl, rfl, rfl, rfl⟩
  | none =>
    simp only [known, Program.bind_eq, World.course_bind_some] at course
    obtain ⟨answer, _, _, _, -, asked, rest⟩ := course
    obtain ⟨-, impossible, -⟩ | ⟨_, reacts, -, same⟩ := World.course_request.mp asked
    · cases impossible
    cases same
    cases answer with
    | error cause =>
      obtain ⟨-, finished, rfl⟩ := rest
      cases finished
      exact .inr ⟨rfl, reacts, rfl⟩
    | ok names =>
      simp only [World.course_bind_some, World.course_log] at rest
      obtain ⟨_, _, _, _, -, ⟨-, -, rfl⟩, -, finished, rfl⟩ := rest
      cases finished
      exact .inr ⟨rfl, reacts, rfl⟩

/-- A pattern is expanded to what is said to it, and that is remembered. -/
theorem expandPattern_result (generates : Generates world drifts holds limit generate)
    {cache later : ExpansionCache} {pattern : String} {reply : Except GeneratorError (List String)}
    (kept : holds before)
    (course : world.Course drifts (expandPattern limit cache pattern) before steps
      (some (reply, later)) after) :
    holds after ∧ reply = cache.answer generate pattern ∧ cache.Learns generate later [pattern] := by
  unfold ExpansionCache.answer
  obtain ⟨names, known, rfl, rfl, rfl⟩ | ⟨unknown, reacts, rfl⟩ := expandPattern_cases course
  · rw [known]
    exact ⟨kept, rfl, ExpansionCache.learns_known known⟩
  · obtain ⟨answered, still⟩ := generates kept reacts
    rw [unknown]
    refine ⟨still, answered, ?_⟩
    cases reply with
    | error cause => exact ExpansionCache.learns_failure unknown answered.symm
    | ok names => exact ExpansionCache.learns_insert unknown answered.symm

def candidateExpanded (answer : String → Except GeneratorError (List String)) (candidate : Candidate) : Expanded :=
  match candidate.kind with
  | .literal => .ofNames [candidate.value]
  | .pattern =>
    match answer candidate.value with
    | .ok names => .ofNames names
    | .error cause => .ofFailure candidate.value cause

private theorem candidateExpanded_hosts (answer : String → Except GeneratorError (List String))
    (candidate : Candidate) :
    (candidateExpanded answer candidate).hosts =
      (candidateNames (fun pattern => (answer pattern).toOption) candidate).filterMap HostName.ofText? := by
  unfold candidateExpanded candidateNames
  cases candidate.kind with
  | literal => rfl
  | pattern =>
    dsimp only
    cases answer candidate.value <;> rfl

def candidatePatterns (candidate : Candidate) : List String :=
  match candidate.kind with
  | .literal => []
  | .pattern => [candidate.value]

/-- A literal is a name as it stands, and a pattern what is said to it. -/
theorem expand_cases {cache later : ExpansionCache} {candidate : Candidate} {expanded : Expanded}
    (course : world.Course drifts (expand limit cache candidate) before steps (some (expanded, later)) after) :
    (candidate.kind = .literal ∧ expanded = .ofNames [candidate.value] ∧ later = cache ∧ after = before) ∨
      candidate.kind = .pattern ∧ ∃ reply first,
        world.Course drifts (expandPattern limit cache candidate.value) before first (some (reply, later)) after ∧
          expanded = candidateExpanded (fun _ => reply) candidate := by
  unfold expand at course
  unfold candidateExpanded
  cases kind : candidate.kind with
  | literal =>
    rw [kind] at course
    obtain ⟨-, finished, rfl⟩ := course
    cases finished
    exact .inl ⟨rfl, rfl, rfl, rfl⟩
  | pattern =>
    simp only [kind, Program.bind_eq, World.course_bind_some] at course
    obtain ⟨⟨reply, cache'⟩, first, _, _, -, expanding, rest⟩ := course
    refine .inr ⟨rfl, reply, first, ?_⟩
    cases reply with
    | error cause | ok found =>
      obtain ⟨-, finished, rfl⟩ := rest
      cases finished
      exact ⟨expanding, rfl⟩

theorem expand_result (generates : Generates world drifts holds limit generate)
    {cache later : ExpansionCache} {candidate : Candidate} {expanded : Expanded} (kept : holds before)
    (course : world.Course drifts (expand limit cache candidate) before steps
      (some (expanded, later)) after) :
    holds after ∧ expanded = candidateExpanded (cache.answer generate) candidate ∧
      cache.Learns generate later (candidatePatterns candidate) := by
  obtain ⟨kind, rfl, rfl, rfl⟩ | ⟨kind, reply, _, expanding, rfl⟩ := expand_cases course
  · simp only [candidateExpanded, candidatePatterns, kind]
    exact ⟨kept, trivial, .nil⟩
  · obtain ⟨still, rfl, learns⟩ := expandPattern_result generates kept expanding
    simp only [candidateExpanded, candidatePatterns, kind]
    exact ⟨still, trivial, learns⟩

/-- What has been collected when exactly these hosts have been named, and the cache only knows what the
generator would say. -/
structure Harvest.Collects (marker : String) (expansion : String → Option (List String))
    (generate : String → Except GeneratorError (List String)) (hosts : List HostName)
    (harvest : Harvest) : Prop where
  desired : harvest.desired = .ofList (hosts.map (HostAlias.ofHostName · marker))
  cache : harvest.cache.expansion generate = expansion

namespace Harvest

variable {planner : Planner} {router : Router} {candidate : Candidate} {harvest next : Harvest}
  {expansion : String → Option (List String)} {hosts : List HostName}

theorem addError_result {error : ExpansionError}
    (course : world.Course drifts (addError router candidate harvest error) before steps (some next) after) :
    after = before ∧ next = { harvest with issues := harvest.issues ++ [.expansion router.name error] } := by
  unfold addError at course
  cases error with
  | generation pattern cause =>
    simp only [Program.bind_eq, World.course_bind_some, World.course_log, World.course_measure] at course
    obtain ⟨_, _, _, _, -, ⟨-, -, rfl⟩, _, _, _, _, -, ⟨-, -, rfl⟩, -, finished, rfl⟩ := course
    cases finished
    exact ⟨rfl, rfl⟩
  | malformed name =>
    simp only [Program.bind_eq, World.course_bind_some, World.course_log] at course
    obtain ⟨_, _, _, _, -, ⟨-, -, rfl⟩, -, finished, rfl⟩ := course
    cases finished
    exact ⟨rfl, rfl⟩

theorem addHost_result {marker : String} {host : HostName}
    (course : world.Course drifts (addHost marker router harvest host) before steps (some next) after) :
    after = before ∧ next = { harvest with
      desired := harvest.desired.insert (HostAlias.ofHostName host marker).key (.ofHostName host marker) } := by
  unfold addHost at course
  simp only [Program.bind_eq] at course
  by_cases known : harvest.desired.contains (HostAlias.ofHostName host marker).key = true
  · simp only [known, ↓reduceIte, World.course_bind_some, World.course_log] at course
    obtain ⟨_, _, _, _, -, ⟨-, -, rfl⟩, -, finished, rfl⟩ := course
    cases finished
    exact ⟨rfl, rfl⟩
  · simp only [known, Bool.false_eq_true, ↓reduceIte] at course
    obtain ⟨-, finished, rfl⟩ := course
    cases finished
    exact ⟨rfl, rfl⟩

def adding (marker : String) (router : Router) (expanded : Expanded) (cache : ExpansionCache) (harvest : Harvest) :
    Harvest where
  desired := (expanded.hosts.map (HostAlias.ofHostName · marker)).foldl
    (fun table entry => table.insert entry.key entry) harvest.desired
  issues := harvest.issues ++ expanded.errors.map (.expansion router.name)
  cache := cache

theorem desired_adding {marker : String} {expanded : Expanded} {cache : ExpansionCache} {entries : List HostAlias}
    (desired : harvest.desired = .ofList entries) : (harvest.adding marker router expanded cache).desired =
      .ofList (entries ++ expanded.hosts.map (HostAlias.ofHostName · marker)) := by
  rw [adding, desired]
  exact List.foldl_append.symm

/-- A candidate is expanded, and what it comes to is added. -/
theorem addCandidate_cases
    (course : world.Course drifts (addCandidate planner router harvest candidate) before steps (some next) after) :
    ∃ expanded cache first,
      world.Course drifts (expand planner.limit harvest.cache candidate) before first (some (expanded, cache)) after ∧
        next = harvest.adding planner.marker router expanded cache := by
  simp only [addCandidate, Program.bind_eq, World.course_bind_some] at course
  obtain ⟨⟨expanded, cache⟩, first, _, middle, -, expanding, told, _, _, last, -, reporting, adds⟩ := course
  have reported := World.Course.foldlM
    (motive := fun past current state => state = middle ∧
      current = ⟨harvest.desired, harvest.issues ++ past.map (.expansion router.name), cache⟩)
    (fun kept _ course => by
      obtain ⟨rfl, rfl⟩ := addError_result course
      obtain ⟨rfl, rfl⟩ := kept
      exact ⟨rfl, by simp only [List.append_assoc, List.map_append, List.map_singleton]⟩)
    ⟨rfl, by rw [List.map_nil, List.append_nil]⟩ reporting
  have added := World.Course.foldlM
    (motive := fun past current state => state = last ∧ current = { told with
      desired := (past.map (HostAlias.ofHostName · planner.marker)).foldl
        (fun table entry => table.insert entry.key entry) told.desired })
    (fun kept _ course => by
      obtain ⟨rfl, rfl⟩ := addHost_result course
      obtain ⟨rfl, rfl⟩ := kept
      exact ⟨rfl, by simp only [List.map_append, List.map_singleton, List.foldl_append, List.foldl_cons,
        List.foldl_nil]⟩)
    ⟨rfl, rfl⟩ adds
  obtain ⟨rfl, rfl⟩ := reported
  obtain ⟨rfl, rfl⟩ := added
  exact ⟨expanded, cache, first, expanding, rfl⟩

/-- The candidates of a rule are added one after the other; a rule that cannot be read only leaves an issue. -/
theorem addRouter_cases
    (course : world.Course drifts (addRouter planner harvest router) before steps (some next) after) :
    (∃ candidates, Rule.candidates router.rule = .ok candidates ∧
      world.Course drifts (candidates.foldlM (addCandidate planner router) harvest) before steps (some next) after) ∨
    ∃ cause, Rule.candidates router.rule = .error cause ∧ after = before ∧
      next = { harvest with issues := harvest.issues ++ [.rule router.name cause] } := by
  unfold addRouter at course
  cases read : Rule.candidates router.rule with
  | ok candidates =>
    rw [read] at course
    exact .inl ⟨candidates, rfl, course⟩
  | error cause =>
    simp only [read, Program.bind_eq, World.course_bind_some, World.course_log, World.course_measure] at course
    obtain ⟨_, _, _, _, -, ⟨-, -, rfl⟩, _, _, _, _, -, ⟨-, -, rfl⟩, -, finished, rfl⟩ := course
    cases finished
    exact .inr ⟨cause, rfl, rfl, rfl⟩

private theorem addCandidate_result (generates : Generates world drifts holds planner.limit generate)
    (collects : harvest.Collects planner.marker expansion generate hosts) (kept : holds before)
    (course : world.Course drifts (addCandidate planner router harvest candidate) before steps
      (some next) after) :
    holds after ∧ next.Collects planner.marker expansion generate
      (hosts ++ (candidateNames expansion candidate).filterMap HostName.ofText?) := by
  obtain ⟨expanded, cache, _, expanding, rfl⟩ := addCandidate_cases course
  obtain ⟨still, rfl, learns⟩ := expand_result generates kept expanding
  refine ⟨still, ?_, learns.expansion.trans collects.cache⟩
  rw [desired_adding collects.desired, candidateExpanded_hosts, ← ExpansionCache.expansion_eq, collects.cache,
    List.map_append]

private theorem addRouter_result (generates : Generates world drifts holds planner.limit generate)
    (collects : harvest.Collects planner.marker expansion generate hosts) (kept : holds before)
    (course : world.Course drifts (addRouter planner harvest router) before steps (some next) after) :
    holds after ∧ next.Collects planner.marker expansion generate
      (hosts ++ (routerNames expansion router).filterMap HostName.ofText?) := by
  unfold routerNames
  obtain ⟨candidates, read, adds⟩ | ⟨cause, read, rfl, rfl⟩ := addRouter_cases course
  · rw [read]
    refine World.Course.foldlM
      (motive := fun past current state => holds state ∧ current.Collects planner.marker expansion generate
        (hosts ++ (past.flatMap (candidateNames expansion)).filterMap HostName.ofText?))
      (fun kept _ course => ?_) ⟨kept, by simpa using collects⟩ adds
    have added := addCandidate_result generates kept.2 kept.1 course
    simpa only [List.flatMap_append, List.flatMap_singleton, List.filterMap_append, List.append_assoc] using added
  · rw [read]
    exact ⟨kept, by simpa using collects.desired, collects.cache⟩

/-- What has been collected are aliases of host names, whatever the generator has said. -/
def Gathered (marker : String) (harvest : Harvest) : Prop :=
  ∃ hosts : List HostName, harvest.desired = .ofList (hosts.map (HostAlias.ofHostName · marker))

private theorem addCandidate_gathered (gathered : harvest.Gathered planner.marker)
    (course : world.Course drifts (addCandidate planner router harvest candidate) before steps (some next) after) :
    next.Gathered planner.marker := by
  obtain ⟨expanded, cache, -, -, rfl⟩ := addCandidate_cases course
  obtain ⟨hosts, same⟩ := gathered
  exact ⟨hosts ++ expanded.hosts, by rw [desired_adding same, List.map_append]⟩

private theorem addRouter_gathered (gathered : harvest.Gathered planner.marker)
    (course : world.Course drifts (addRouter planner harvest router) before steps (some next) after) :
    next.Gathered planner.marker := by
  obtain ⟨candidates, -, adds⟩ | ⟨cause, -, -, rfl⟩ := addRouter_cases course
  · exact World.Course.foldlM (motive := fun _ current _ => current.Gathered planner.marker)
      (fun kept _ course => addCandidate_gathered kept course) gathered adds
  · exact gathered

end Harvest

namespace Planner

variable {planner later : Planner} {routers : List Router} {aliases : List HostAlias}

theorem harvest_gathered {harvest : Harvest}
    (course : world.Course drifts (planner.harvest routers) before steps (some harvest) after) :
    harvest.Gathered planner.marker :=
  World.Course.foldlM (motive := fun _ current _ => current.Gathered planner.marker)
    (fun kept _ course => Harvest.addRouter_gathered kept course) ⟨[], rfl⟩ course

/-- A plan is the difference of what its own harvest has collected and of what is managed. -/
theorem plan_harvest {plan : Plan}
    (course : world.Course drifts (planner.plan routers aliases) before steps (some (plan, later)) after) :
    ∃ harvest first middle, world.Course drifts (planner.harvest routers) before first (some harvest) middle ∧
      plan.operations = diff harvest.desired (planner.managed aliases) ∧
      later = { planner with cache := harvest.cache } := by
  simp only [Planner.plan, Program.bind_eq, World.course_bind_some] at course
  obtain ⟨harvest, first, _, middle, -, harvesting, _, _, _, _, -, -, -, finished, -⟩ := course
  cases finished
  exact ⟨harvest, first, middle, harvesting, rfl, rfl⟩

def expansion (planner : Planner) (generate : String → Except GeneratorError (List String)) :
    String → Option (List String) :=
  planner.cache.expansion generate

def hosts (planner : Planner) (generate : String → Except GeneratorError (List String))
    (routers : List Router) : List HostName :=
  requestedHosts planner.filter (planner.expansion generate) routers

theorem harvest_result (generates : Generates world drifts holds planner.limit generate)
    {harvest : Harvest} (kept : holds before)
    (course : world.Course drifts (planner.harvest routers) before steps (some harvest) after) :
    holds after ∧ harvest.Collects planner.marker (planner.expansion generate) generate
      (planner.hosts generate routers) := by
  refine World.Course.foldlM
    (motive := fun past current state => holds state ∧
      current.Collects planner.marker (planner.expansion generate) generate
        ((past.flatMap (routerNames (planner.expansion generate))).filterMap HostName.ofText?))
    (fun kept _ course => ?_) ⟨kept, rfl, rfl⟩ course
  have added := Harvest.addRouter_result generates kept.2 kept.1 course
  simpa only [List.flatMap_append, List.flatMap_singleton, List.filterMap_append] using added

/-- A planner afterwards knows more expansions and is otherwise the same. -/
structure Continues (generate : String → Except GeneratorError (List String))
    (planner later : Planner) : Prop where
  filter : later.filter = planner.filter
  marker : later.marker = planner.marker
  limit : later.limit = planner.limit
  expansion : later.expansion generate = planner.expansion generate

def desired (planner : Planner) (generate : String → Except GeneratorError (List String))
    (routers : List Router) : AliasTable :=
  .ofList ((planner.hosts generate routers).map (HostAlias.ofHostName · planner.marker))

theorem plan_result (generates : Generates world drifts holds planner.limit generate) {plan : Plan}
    (kept : holds before)
    (course : world.Course drifts (planner.plan routers aliases) before steps (some (plan, later)) after) :
    holds after ∧ planner.Continues generate later ∧
      plan.operations = diff (planner.desired generate routers) (planner.managed aliases) ∧
      plan.desired = (planner.desired generate routers).size ∧
      plan.managed = (planner.managed aliases).size := by
  simp only [Planner.plan, Program.bind_eq, World.course_bind_some] at course
  obtain ⟨harvest, _, _, _, -, harvesting, _, _, _, _, -, measuring, -, finished, rfl⟩ := course
  obtain ⟨still, desired, cache⟩ := harvest_result generates kept harvesting
  obtain ⟨rfl, -⟩ := measuring.silent (Program.uses_measures _)
  cases finished
  exact ⟨still, ⟨rfl, rfl, rfl, cache⟩, congrArg (diff · _) desired, congrArg Std.TreeMap.size desired, rfl⟩

theorem plan_later {plan : Plan}
    (course : world.Course drifts (planner.plan routers aliases) before steps (some (plan, later)) after) :
    ∃ cache, later = { planner with cache := cache } := by
  obtain ⟨harvest, -, -, -, -, same⟩ := plan_harvest course
  exact ⟨harvest.cache, same⟩

/-- To collect from the routers and to plan, nothing but the generator is asked. -/
theorem harvest_uses (planner : Planner) (routers : List Router) :
    (planner.harvest routers).Uses fun request => ∃ pattern, request = .generate pattern planner.limit := by
  have expanding (cache : ExpansionCache) (candidate : Candidate) :
      (expand planner.limit cache candidate).Uses
        fun request => ∃ pattern, request = .generate pattern planner.limit := by
    unfold expand
    cases candidate.kind with
    | literal => trivial
    | pattern =>
      refine Program.Uses.bind ?_ ?_
      · unfold expandPattern
        cases cache.get? candidate.value with
        | some names => trivial
        | none => exact ⟨⟨_, rfl⟩, fun reply => by cases reply <;> trivial⟩
      · rintro ⟨reply, later⟩
        cases reply <;> trivial
  refine Program.Uses.foldlM (fun harvest router _ => ?_) _
  unfold Harvest.addRouter
  cases Rule.candidates router.rule with
  | error cause => trivial
  | ok candidates =>
    refine Program.Uses.foldlM (fun harvest candidate _ => ?_) _
    refine (expanding harvest.cache candidate).bind fun ⟨expanded, cache⟩ => ?_
    refine (Program.Uses.foldlM (fun harvest error _ => ?_) _).bind
      fun harvest => Program.Uses.foldlM (fun harvest host _ => ?_) _
    · cases error <;> trivial
    · unfold Harvest.addHost
      by_cases known : harvest.desired.contains (HostAlias.ofHostName host planner.marker).key = true
      all_goals
        simp only [known, ↓reduceIte]
        trivial

theorem plan_uses (planner : Planner) (routers : List Router) (aliases : List HostAlias) :
    (planner.plan routers aliases).Uses fun request => ∃ pattern, request = .generate pattern planner.limit := by
  refine (planner.harvest_uses routers).bind fun harvest => ?_
  exact (Program.uses_measures _).bind fun _ => trivial

theorem plan_readOnly {planned : Option (Plan × Planner)}
    (course : world.Course drifts (planner.plan routers aliases) before steps planned after) : ReadOnly steps := by
  intro request reply seen
  obtain ⟨pattern, rfl⟩ := course.call_allowed (planner.plan_uses routers aliases) seen
  rfl

private theorem proper_of_mem_hosts {host : HostName} (member : host ∈ planner.hosts generate routers) :
    host.Proper := by
  obtain ⟨name, -, split⟩ := List.mem_filterMap.mp member
  exact (HostName.ofText?_eq_some_iff.mp split).2

/-- Under a key stands the alias of the one host name that has this text. -/
theorem getElem?_desired {key : String} {entry : HostAlias} :
    (planner.desired generate routers)[key]? = some entry ↔
      ∃ host ∈ planner.hosts generate routers, host.text = key ∧ entry = .ofHostName host planner.marker := by
  constructor
  · intro found
    obtain ⟨member, rfl⟩ := AliasTable.mem_of_getElem?_ofList found
    obtain ⟨host, asked, rfl⟩ := List.mem_map.mp member
    exact ⟨host, asked, rfl, rfl⟩
  · rintro ⟨host, asked, rfl, rfl⟩
    have present : host.text ∈ planner.desired generate routers :=
      AliasTable.mem_ofList.mpr ⟨_, List.mem_map_of_mem asked, rfl⟩
    obtain ⟨entry, found⟩ := Option.isSome_iff_exists.mp (Std.TreeMap.mem_iff_isSome_getElem?.mp present)
    obtain ⟨member, same⟩ := AliasTable.mem_of_getElem?_ofList found
    obtain ⟨other, otherAsked, rfl⟩ := List.mem_map.mp member
    obtain rfl := (proper_of_mem_hosts otherAsked).eq_of_text (proper_of_mem_hosts asked) same
    exact found

end Planner

end Sync

end AliasSync
