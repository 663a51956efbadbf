import AliasSync.Proofs.AbortedCycle

/-! The history of the expansion cache. Candidates are expanded one after the other, whatever else happens in between;
what the cache then knows of a pattern is what the generator first said of it with success. -/

namespace AliasSync.Sync

open AliasSync.Rule (Candidate)

variable {σ : Type} {world : World σ} {limit : Nat} {cache later : ExpansionCache} {pattern : String}
  {names : List String} {past calls : List Step} {candidate : Candidate} {expanded : Expanded}

namespace Step

def asks (pattern : String) : Step → Bool
  | .call (.generate asked _) _ => asked = pattern
  | _ => false

def generated (pattern : String) : Step → Option (List String)
  | .call (.generate asked _) (.ok names) => if asked = pattern then some names else none
  | _ => none

private theorem asks_of_generated {step : Step} (generated : step.generated pattern = some names) :
    step.asks pattern = true := by
  cases step with
  | note note => cases generated
  | call request reply =>
    cases request with
    | lookup | aliases | routers | create | delete | apply => cases generated
    | generate asked limit =>
      cases reply with
      | error cause => cases generated
      | ok names =>
        apply decide_eq_true
        apply Classical.byContradiction
        intro other
        rw [Step.generated, if_neg other] at generated
        cases generated

end Step

/-- What is known of a pattern after some calls: what was remembered of it, or else what was first said of it. -/
def recalled (cache : ExpansionCache) (calls : List Step) (pattern : String) : Option (List String) :=
  (cache.get? pattern).or (calls.findSome? (Step.generated pattern))

@[simp] theorem recalled_nil : recalled cache [] = cache.get? := by
  funext pattern
  exact Option.or_none

private theorem recalled_append (remembers : later.get? = recalled cache past) :
    recalled later calls = recalled cache (past ++ calls) := by
  funext pattern
  simp only [recalled, remembers, List.findSome?_append, Option.or_assoc]

private theorem recalled_of_known (known : cache.get? pattern = some names) :
    recalled cache calls pattern = some names := by
  rw [recalled, known]
  rfl

private theorem recalled_of_generated (cache : ExpansionCache) {call : Step} (member : call ∈ calls)
    (generated : call.generated pattern = some names) : ∃ known, recalled cache calls pattern = some known := by
  have said : (calls.findSome? (Step.generated pattern)).isSome = true := by
    rw [List.isSome_findSome?, List.any_eq_true]
    exact ⟨call, member, by rw [generated]; rfl⟩
  apply Option.isSome_iff_exists.mp
  rw [recalled, Option.isSome_or, said, Bool.or_true]

private theorem get?_insert_generated (unknown : cache.get? pattern = none) :
    (cache.insert pattern names).get? = recalled cache [.call (.generate pattern limit) (.ok names)] := by
  funext other
  rw [ExpansionCache.get?_insert]
  by_cases same : pattern = other
  · subst same
    simp [recalled, Step.generated, unknown]
  · simp [recalled, Step.generated, same]

private theorem recalled_failure {cause : GeneratorError} :
    recalled cache [.call (.generate pattern limit) (.error cause)] = cache.get? := by
  funext other
  simp [recalled, Step.generated]

structure Occurrence (σ : Type) where
  candidate : Candidate
  began : Nat
  state : σ

namespace Occurrence

def run (world : World σ) (limit : Nat) (cache : ExpansionCache) (occurrence : Occurrence σ) :
    Run σ (Expanded × ExpansionCache) :=
  world.run none (expand limit cache occurrence.candidate) occurrence.began occurrence.state

/-- What the generator says, when it comes to it, to someone who asks for a pattern now. -/
def answer (world : World σ) (limit : Nat) (occurrence : Occurrence σ) (pattern : String) :
    Except GeneratorError (List String) :=
  let due := occurrence.began + world.wait occurrence.state (.generate pattern limit)
  (world.answer (world.elapse occurrence.began due occurrence.state) (.generate pattern limit)).1

end Occurrence

/-- What a candidate comes to, and with which calls. A literal is a name as it stands, what is known of a pattern is
used, and for any other pattern the generator is asked once. -/
def Expands (limit : Nat) (known : String → Option (List String))
    (answer : String → Except GeneratorError (List String)) (candidate : Candidate) (expanded : Expanded)
    (calls : List Step) : Prop :=
  match candidate.kind with
  | .literal => expanded = .ofNames [candidate.value] ∧ calls = []
  | .pattern =>
    match known candidate.value with
    | some names => expanded = .ofNames names ∧ calls = []
    | none => calls = [.call (.generate candidate.value limit) (answer candidate.value)] ∧
      match answer candidate.value with
      | .ok names => expanded = .ofNames names
      | .error cause => expanded = ⟨[], [.generation candidate.value cause]⟩

/-- A candidate is expanded with what the cache knows, and what is said of it is known from then on. -/
theorem Occurrence.run_expands (world : World σ) (limit : Nat) (cache : ExpansionCache) (occurrence : Occurrence σ) :
    let run := occurrence.run world limit cache
    ∃ expanded later, run.result = some (expanded, later) ∧ later.get? = recalled cache run.calls ∧
      Expands limit cache.get? (occurrence.answer world limit) occurrence.candidate expanded run.calls := by
  obtain ⟨⟨value, kind⟩, now, state⟩ := occurrence
  simp only [Occurrence.run, Occurrence.answer, Expands]
  cases kind with
  | literal => exact ⟨_, _, rfl, recalled_nil.symm, rfl, rfl⟩
  | pattern =>
    cases known : cache.get? value with
    | some names =>
      simp only [expand, expandPattern, known]
      exact ⟨_, _, rfl, recalled_nil.symm, rfl, rfl⟩
    | none =>
      obtain ⟨reply, middle, answered, called⟩ :=
        world.call_none (α := Expanded × ExpansionCache) (.generate value limit)
          (now + world.wait state (.generate value limit)) now state
      have said : (world.answer (world.elapse now (now + world.wait state (.generate value limit)) state)
          (.generate value limit)).1 = reply := congrArg Prod.fst answered
      simp only [expand, expandPattern, known, Program.bind_eq, Program.request, Program.bind, World.run, called, said]
      cases reply with
      | error cause => exact ⟨_, _, rfl, recalled_failure.symm, rfl, rfl⟩
      | ok names => exact ⟨_, _, rfl, get?_insert_generated known, rfl, rfl⟩

namespace Expands

variable {known : String → Option (List String)} {answer : String → Except GeneratorError (List String)}

private theorem calls_cases (expands : Expands limit known answer candidate expanded calls) :
    calls = [] ∨ known candidate.value = none ∧
      calls = [.call (.generate candidate.value limit) (answer candidate.value)] := by
  unfold Expands at expands
  cases kind : candidate.kind with
  | literal =>
    rw [kind] at expands
    exact .inl expands.2
  | pattern =>
    rw [kind] at expands
    cases remembered : known candidate.value with
    | some names =>
      simp only [remembered] at expands
      exact .inl expands.2
    | none =>
      simp only [remembered] at expands
      exact .inr ⟨rfl, expands.1⟩

/-- What is known is not asked for. -/
theorem quiet (expands : Expands limit known answer candidate expanded calls)
    (remembered : known pattern = some names) : ∀ call ∈ calls, call.asks pattern = false := by
  obtain rfl | ⟨unknown, rfl⟩ := expands.calls_cases
  · exact List.forall_mem_nil _
  · intro call member
    obtain rfl := List.mem_singleton.mp member
    apply decide_eq_false
    intro same
    subst same
    cases unknown.symm.trans remembered

/-- What is known counts as said, so a candidate comes to what is said to it. -/
theorem eq_answered (expands : Expands limit cache.get? answer candidate expanded calls) :
    expanded = candidateExpanded (cache.answer answer) candidate := by
  unfold Expands at expands
  unfold candidateExpanded ExpansionCache.answer
  cases kind : candidate.kind with
  | literal =>
    rw [kind] at expands
    exact expands.1
  | pattern =>
    rw [kind] at expands
    cases remembered : cache.get? candidate.value with
    | some names =>
      simp only [remembered] at expands
      exact expands.1
    | none =>
      simp only [remembered] at expands
      obtain ⟨-, comes⟩ := expands
      cases said : answer candidate.value with
      | ok names | error cause =>
        rw [said] at comes
        exact comes

/-- While only what the generator says is known, it does not matter how much of it is. -/
theorem eq_candidateExpanded (expands : Expands limit cache.get? answer candidate expanded calls)
    (consistent : ∀ pattern names, cache.get? pattern = some names → answer pattern = .ok names) :
    expanded = candidateExpanded answer candidate := by
  have same : cache.answer answer = answer := by
    funext pattern
    unfold ExpansionCache.answer
    cases known : cache.get? pattern with
    | some names => exact (consistent pattern names known).symm
    | none => rfl
  rw [expands.eq_answered, same]

private theorem consistent_after (expands : Expands limit cache.get? answer candidate expanded calls)
    (remembers : later.get? = recalled cache calls)
    (consistent : ∀ pattern names, cache.get? pattern = some names → answer pattern = .ok names) :
    ∀ pattern names, later.get? pattern = some names → answer pattern = .ok names := by
  intro pattern names known
  rw [remembers] at known
  obtain nothing | ⟨unknown, called⟩ := expands.calls_cases
  · rw [nothing, recalled_nil] at known
    exact consistent pattern names known
  · rw [called] at known
    cases said : answer candidate.value with
    | error cause =>
      rw [said, recalled_failure] at known
      exact consistent pattern names known
    | ok found =>
      rw [said, ← get?_insert_generated unknown, ExpansionCache.get?_insert] at known
      split at known
      case isTrue same =>
        cases known
        exact same ▸ said
      case isFalse => exact consistent pattern names known

end Expands

def expansions (world : World σ) (limit : Nat) :
    ExpansionCache → List (Occurrence σ) → List (Run σ (Expanded × ExpansionCache))
  | _, [] => []
  | cache, occurrence :: rest =>
    let run := occurrence.run world limit cache
    run :: expansions world limit ((run.result.map Prod.snd).getD cache) rest

def Run.remembers (run : Run σ (Expanded × ExpansionCache)) (pattern : String) : Option (List String) :=
  run.result.bind fun answer => answer.2.get? pattern

section Expansions

variable {occurrences : List (Occurrence σ)}

/-- The first candidate is expanded with the cache, and the others with the cache that this leaves. -/
theorem expansions_cons (world : World σ) (limit : Nat) (cache : ExpansionCache) (occurrence : Occurrence σ)
    (rest : List (Occurrence σ)) :
    let run := occurrence.run world limit cache
    ∃ expanded later, run.result = some (expanded, later) ∧ later.get? = recalled cache run.calls ∧
      Expands limit cache.get? (occurrence.answer world limit) occurrence.candidate expanded run.calls ∧
      expansions world limit cache (occurrence :: rest) = run :: expansions world limit later rest := by
  intro run
  obtain ⟨expanded, later, finished, remembers, expands⟩ := occurrence.run_expands world limit cache
  refine ⟨expanded, later, finished, remembers, expands, ?_⟩
  rw [expansions, show (occurrence.run world limit cache).result = _ from finished]
  rfl

private theorem length_expansions (cache : ExpansionCache) :
    (expansions world limit cache occurrences).length = occurrences.length := by
  induction occurrences generalizing cache with
  | nil => rfl
  | cons occurrence rest ih => exact congrArg Nat.succ (ih _)

/-- Every candidate is expanded with what is known after the calls for the ones before it. -/
theorem expansions_recall {index : Nat} {occurrence : Occurrence σ} (found : occurrences[index]? = some occurrence) :
    let runs := expansions world limit cache occurrences
    let past := (runs.take index).flatMap Run.calls
    ∃ run expanded later, runs[index]? = some run ∧ run.result = some (expanded, later) ∧
      later.get? = recalled cache (past ++ run.calls) ∧
      Expands limit (recalled cache past) (occurrence.answer world limit) occurrence.candidate expanded run.calls := by
  induction occurrences generalizing cache index with
  | nil => cases found
  | cons first rest ih =>
    obtain ⟨expanded, later, finished, remembers, expands, parts⟩ := expansions_cons world limit cache first rest
    rw [parts]
    cases index with
    | zero =>
      cases found
      refine ⟨_, expanded, later, rfl, finished, remembers, ?_⟩
      rw [List.take_zero, List.flatMap_nil, recalled_nil]
      exact expands
    | succ index =>
      obtain ⟨run, further, last, present, ended, recalls, spread⟩ := ih found
      refine ⟨run, further, last, present, ended, ?_, ?_⟩
      · rw [recalls, recalled_append remembers, List.take_succ_cons, List.flatMap_cons, List.append_assoc]
      · rw [recalled_append remembers] at spread
        exact spread

/-- What is remembered of a pattern stays, and the pattern is never asked for. -/
theorem expansions_known (known : cache.get? pattern = some names) :
    ∀ run ∈ expansions world limit cache occurrences,
      run.remembers pattern = some names ∧ ∀ call ∈ run.calls, call.asks pattern = false := by
  induction occurrences generalizing cache with
  | nil => exact List.forall_mem_nil _
  | cons first rest ih =>
    obtain ⟨expanded, later, finished, remembers, expands, parts⟩ := expansions_cons world limit cache first rest
    have kept : later.get? pattern = some names := by
      rw [remembers]
      exact recalled_of_known known
    rw [parts]
    intro run member
    obtain rfl | member := List.mem_cons.mp member
    · refine ⟨?_, expands.quiet known⟩
      rw [Run.remembers, finished]
      exact kept
    · exact ih kept run member

private theorem expansions_keep (world : World σ) (limit : Nat) (cache : ExpansionCache)
    (occurrences : List (Occurrence σ)) :
    (expansions world limit cache occurrences).Pairwise fun run other =>
      ∀ pattern names, run.remembers pattern = some names → other.remembers pattern = some names := by
  induction occurrences generalizing cache with
  | nil => exact .nil
  | cons first rest ih =>
    obtain ⟨expanded, later, finished, -, -, parts⟩ := expansions_cons world limit cache first rest
    rw [parts]
    refine .cons ?_ (ih later)
    intro other member pattern names remembered
    rw [Run.remembers, finished] at remembered
    exact (expansions_known remembered other member).1

/-- Once the generator has been able to expand a pattern it is not asked for it again. -/
theorem expansions_once (world : World σ) (limit : Nat) (cache : ExpansionCache) (occurrences : List (Occurrence σ)) :
    ((expansions world limit cache occurrences).flatMap Run.calls).Pairwise fun call other =>
      ∀ pattern names, call.generated pattern = some names → other.asks pattern = false := by
  induction occurrences generalizing cache with
  | nil => exact .nil
  | cons first rest ih =>
    obtain ⟨expanded, later, finished, remembers, expands, parts⟩ := expansions_cons world limit cache first rest
    rw [parts, List.flatMap_cons]
    refine List.pairwise_append.mpr ⟨?_, ih later, ?_⟩
    · obtain nothing | ⟨-, called⟩ := expands.calls_cases
      · rw [nothing]
        exact .nil
      · rw [called]
        exact List.pairwise_singleton ..
    · intro call member other further pattern names generated
      obtain ⟨run, present, seen⟩ := List.mem_flatMap.mp further
      obtain ⟨known, learned⟩ := recalled_of_generated cache member generated
      rw [← remembers] at learned
      exact (expansions_known learned run present).2 other seen

/-- A pattern is generated with success at most once. -/
theorem expansions_generated (world : World σ) (limit : Nat) (cache : ExpansionCache)
    (occurrences : List (Occurrence σ)) (pattern : String) :
    (((expansions world limit cache occurrences).flatMap Run.calls).filterMap (Step.generated pattern)).length ≤ 1 := by
  have apart : (((expansions world limit cache occurrences).flatMap Run.calls).filterMap
      (Step.generated pattern)).Pairwise fun _ _ => False := by
    apply List.pairwise_filterMap.mpr
    refine (expansions_once world limit cache occurrences).imp ?_
    intro call other once names generated others again
    have quiet := once pattern names generated
    rw [Step.asks_of_generated again] at quiet
    cases quiet
  -- of two successes the later one would have been asked for after the pattern was known
  generalize ((expansions world limit cache occurrences).flatMap Run.calls).filterMap _ = successes at apart
  match successes, apart with
  | [], _ => exact Nat.zero_le 1
  | [_], _ => exact Nat.le_refl 1
  | _ :: second :: _, .cons impossible _ => exact (impossible second List.mem_cons_self).elim

/-- A generator that says the same all along makes the cache invisible. -/
theorem expansions_steady {generate : String → Except GeneratorError (List String)}
    (steady : ∀ occurrence ∈ occurrences, occurrence.answer world limit = generate)
    (consistent : ∀ pattern names, cache.get? pattern = some names → generate pattern = .ok names) :
    (expansions world limit cache occurrences).map (fun run => run.result.map Prod.fst) =
      occurrences.map fun occurrence => some (candidateExpanded generate occurrence.candidate) := by
  induction occurrences generalizing cache with
  | nil => rfl
  | cons first rest ih =>
    obtain ⟨expanded, later, finished, remembers, expands, parts⟩ := expansions_cons world limit cache first rest
    obtain ⟨same, others⟩ := List.forall_mem_cons.mp steady
    rw [same] at expands
    rw [parts, List.map_cons, List.map_cons, ih others (expands.consistent_after remembers consistent), finished,
      expands.eq_candidateExpanded consistent]
    rfl

end Expansions

/-- Whenever candidates are expanded, a literal is a name as it stands, a pattern that is known comes to its names
without a call, and for any other pattern the generator is asked, once. A pattern is known by what the generator first
said of it with success, and that stays; so each pattern is generated with success at most once. If the generator says
the same all along, every candidate comes to what it comes to without a cache. -/
theorem cache_is_transparent_and_stable (world : World σ) (limit : Nat) (cache : ExpansionCache)
    (occurrences : List (Occurrence σ)) :
    let runs := expansions world limit cache occurrences
    let calls := runs.flatMap Run.calls
    runs.length = occurrences.length ∧
      (∀ index occurrence, occurrences[index]? = some occurrence →
        let past := (runs.take index).flatMap Run.calls
        ∃ run expanded later, runs[index]? = some run ∧ run.result = some (expanded, later) ∧
          later.get? = recalled cache (past ++ run.calls) ∧
          Expands limit (recalled cache past) (occurrence.answer world limit) occurrence.candidate expanded run.calls) ∧
      (calls.Pairwise fun call other =>
        ∀ pattern names, call.generated pattern = some names → other.asks pattern = false) ∧
      (∀ pattern, (calls.filterMap (Step.generated pattern)).length ≤ 1) ∧
      (runs.Pairwise fun run other =>
        ∀ pattern names, run.remembers pattern = some names → other.remembers pattern = some names) ∧
      (∀ pattern names, cache.get? pattern = some names → ∀ run ∈ runs,
        run.remembers pattern = some names ∧ ∀ call ∈ run.calls, call.asks pattern = false) ∧
      ∀ generate : String → Except GeneratorError (List String),
        (∀ occurrence ∈ occurrences, occurrence.answer world limit = generate) →
        (∀ pattern names, cache.get? pattern = some names → generate pattern = .ok names) →
        runs.map (fun run => run.result.map Prod.fst) =
          occurrences.map fun occurrence => (occurrence.run world limit .empty).result.map Prod.fst := by
  intro runs calls
  refine ⟨length_expansions cache, fun index occurrence => expansions_recall, expansions_once world limit cache _,
    expansions_generated world limit cache _, expansions_keep world limit cache _,
    fun pattern names => expansions_known, ?_⟩
  intro generate steady consistent
  rw [expansions_steady steady consistent]
  apply List.map_congr_left
  intro occurrence member
  obtain ⟨expanded, later, finished, -, expands⟩ := occurrence.run_expands world limit .empty
  rw [steady occurrence member] at expands
  have known (pattern : String) (names : List String) (found : ExpansionCache.empty.get? pattern = some names) :
      generate pattern = .ok names := by
    rw [ExpansionCache.get?_empty] at found
    cases found
  rw [finished, expands.eq_candidateExpanded known]
  rfl

/-- The generator fails, then it has names, and then it would have others; a literal comes in between. -/
theorem cache_is_transparent_and_stable_rehearsed :
    let scene (entry : Rehearsal.GeneratorEntry) : Rehearsal.Scene := .calm "dns.lan" [] [] [("p", entry)]
    let occurrences : List (Occurrence Rehearsal.Scene) :=
      [⟨⟨"p", .pattern⟩, 0, scene (.failure .emptyPattern)⟩, ⟨⟨"p", .pattern⟩, 1, scene (.names ["a.b", "bad"] false)⟩,
        ⟨⟨"x.y", .literal⟩, 2, scene (.names ["c.d"] false)⟩, ⟨⟨"p", .pattern⟩, 3, scene (.names ["c.d"] false)⟩]
    let runs := expansions Rehearsal.world 10 .empty occurrences
    (runs.flatMap Run.calls).length = 2 ∧
      ((runs.flatMap Run.calls).filterMap (Step.generated "p")).length ≤ 1 ∧
      ∃ run later, runs[3]? = some run ∧ run.result = some (.ofNames ["a.b", "bad"], later) ∧ run.calls = [] := by
  intro scene occurrences runs
  obtain ⟨-, each, -, once, -⟩ := cache_is_transparent_and_stable Rehearsal.world 10 .empty occurrences
  obtain ⟨run, expanded, later, found, finished, -, expands⟩ := each 3 _ rfl
  have known : recalled .empty ((runs.take 3).flatMap Run.calls) "p" = some ["a.b", "bad"] := by decide +kernel
  simp only [Expands] at expands
  rw [show recalled .empty ((List.take 3 (expansions Rehearsal.world 10 .empty occurrences)).flatMap Run.calls) "p" = _
    from known] at expands
  obtain ⟨rfl, silent⟩ := expands
  exact ⟨by decide +kernel, once "p", run, later, found, finished, silent⟩

end AliasSync.Sync
