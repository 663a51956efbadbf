import AliasSync.Sync.Run

/-! Courses: what a program can do in a world, time left out. Every timed run, cut off or not, is a
course, so whatever holds along all courses holds of all runs. -/

namespace AliasSync.Sync

def Step.isCall : Step → Bool
  | .call _ _ => true
  | .note _ => false

@[simp] theorem Step.isCall_note (note : Note) : (Step.note note).isCall = false := rfl

def Run.trace (run : Run σ α) : List Step := run.steps.map Prod.snd

def ReadOnly (steps : List Step) : Prop :=
  ∀ request reply, Step.call request reply ∈ steps → request.isChange = false

namespace ReadOnly

theorem nil : ReadOnly [] := fun _ _ impossible => by cases impossible

theorem append {first last : List Step} (readOnly : ReadOnly first) (also : ReadOnly last) :
    ReadOnly (first ++ last) := by
  intro request reply seen
  obtain seen | seen := List.mem_append.mp seen
  · exact readOnly request reply seen
  · exact also request reply seen

theorem lookup {steps : List Step} (readOnly : ReadOnly steps) {fqdn : String}
    {answer : Except StoreError (Option String)} : ReadOnly (.call (.lookup fqdn) answer :: steps) := by
  intro request reply seen
  cases seen with
  | head => rfl
  | tail _ seen => exact readOnly request reply seen

end ReadOnly

namespace World

variable {σ : Type}

/-- While a request waits the world drifts, and then it answers. -/
def Reacts (world : World σ) (drifts : σ → σ → Prop) (before : σ) (request : Request)
    (reply : request.Reply) (after : σ) : Prop :=
  ∃ waited, drifts before waited ∧ world.answer waited request = (reply, after)

/-- The ways in which the two snapshots can arrive: in either order, with the second one given up
when the first one fails, and with an interruption before either. -/
inductive Fetch (world : World σ) (drifts : σ → σ → Prop) (parent : String) :
    σ → List Step → Option (Except CycleError Snapshots) → σ → Prop where
  | interrupted {before after} (waits : drifts before after) :
      Fetch world drifts parent before [] none after
  | aliasesFail {before cause after}
      (aliases : world.Reacts drifts before (.aliases parent) (.error cause) after) :
      Fetch world drifts parent before [.call (.aliases parent) (.error cause)]
        (some (.error (.store cause))) after
  | routersFail {before cause after}
      (routers : world.Reacts drifts before .routers (.error cause) after) :
      Fetch world drifts parent before [.call .routers (.error cause)]
        (some (.error (.routes cause))) after
  | aliasesOnly {before listed middle after}
      (aliases : world.Reacts drifts before (.aliases parent) (.ok listed) middle)
      (waits : drifts middle after) :
      Fetch world drifts parent before [.call (.aliases parent) (.ok listed)] none after
  | routersOnly {before served middle after}
      (routers : world.Reacts drifts before .routers (.ok served) middle)
      (waits : drifts middle after) :
      Fetch world drifts parent before [.call .routers (.ok served)] none after
  | routersLast {before listed middle reply after}
      (aliases : world.Reacts drifts before (.aliases parent) (.ok listed) middle)
      (routers : world.Reacts drifts middle .routers reply after) :
      Fetch world drifts parent before [.call (.aliases parent) (.ok listed), .call .routers reply]
        (some ((reply.mapError .routes).map fun served => (listed, served))) after
  | aliasesLast {before served middle reply after}
      (routers : world.Reacts drifts before .routers (.ok served) middle)
      (aliases : world.Reacts drifts middle (.aliases parent) reply after) :
      Fetch world drifts parent before [.call .routers (.ok served), .call (.aliases parent) reply]
        (some ((reply.mapError .store).map fun listed => (listed, served))) after

/-- A course of a program from one state of the world to another. It has no result when the program is
interrupted while it waits. -/
def Course (world : World σ) (drifts : σ → σ → Prop) :
    Program α → σ → List Step → Option α → σ → Prop
  | .done value, before, steps, result, after =>
    steps = [] ∧ result = some value ∧ after = before
  | .note note rest, before, steps, result, after =>
    ∃ later, steps = .note note :: later ∧ world.Course drifts rest before later result after
  | .ask request next, before, steps, result, after =>
    (steps = [] ∧ result = none ∧ drifts before after) ∨
      ∃ reply middle later, world.Reacts drifts before request reply middle ∧
        steps = .call request reply :: later ∧
        world.Course drifts (next reply) middle later result after
  | .snapshots parent next, before, steps, result, after =>
    (result = none ∧ world.Fetch drifts parent before steps none after) ∨
      ∃ reply middle first last, world.Fetch drifts parent before first (some reply) middle ∧
        steps = first ++ last ∧ world.Course drifts (next reply) middle last result after

variable {world : World σ} {drifts : σ → σ → Prop} {before after : σ} {steps : List Step}

theorem course_bind {program : Program α} {next : α → Program β} {result : Option β} :
    world.Course drifts (program.bind next) before steps result after ↔
      (result = none ∧ world.Course drifts program before steps none after) ∨
      ∃ value first last middle, steps = first ++ last ∧
        world.Course drifts program before first (some value) middle ∧
        world.Course drifts (next value) middle last result after := by
  induction program generalizing before steps with
  | done value =>
    constructor
    · intro course
      exact .inr ⟨value, [], steps, before, rfl, ⟨rfl, rfl, rfl⟩, course⟩
    · rintro (⟨-, -, impossible, -⟩ | ⟨_, first, last, middle, rfl, ⟨rfl, same, rfl⟩, course⟩)
      · cases impossible
      · cases same
        exact course
  | note note rest ih =>
    constructor
    · rintro ⟨later, rfl, course⟩
      obtain ⟨stopped, course⟩ | ⟨value, first, last, middle, rfl, course, further⟩ := ih.mp course
      · exact .inl ⟨stopped, later, rfl, course⟩
      · exact .inr ⟨value, .note note :: first, last, middle, rfl, ⟨first, rfl, course⟩, further⟩
    · rintro (⟨stopped, later, rfl, course⟩ | ⟨value, _, last, middle, rfl, ⟨first, rfl, course⟩, further⟩)
      · exact ⟨later, rfl, ih.mpr (.inl ⟨stopped, course⟩)⟩
      · exact ⟨first ++ last, rfl, ih.mpr (.inr ⟨value, first, last, middle, rfl, course, further⟩)⟩
  | ask request next ih =>
    constructor
    · rintro (⟨rfl, stopped, waits⟩ | ⟨reply, state, later, reacts, rfl, course⟩)
      · exact .inl ⟨stopped, .inl ⟨rfl, rfl, waits⟩⟩
      · obtain ⟨stopped, course⟩ | ⟨value, first, last, middle, rfl, course, further⟩ := (ih reply).mp course
        · exact .inl ⟨stopped, .inr ⟨reply, state, later, reacts, rfl, course⟩⟩
        · exact .inr ⟨value, .call request reply :: first, last, middle, rfl,
            .inr ⟨reply, state, first, reacts, rfl, course⟩, further⟩
    · rintro (⟨stopped, ⟨rfl, -, waits⟩ | ⟨reply, state, later, reacts, rfl, course⟩⟩ |
        ⟨value, _, last, middle, rfl, ⟨-, impossible, -⟩ | ⟨reply, state, first, reacts, rfl, course⟩, further⟩)
      · exact .inl ⟨rfl, stopped, waits⟩
      · exact .inr ⟨reply, state, later, reacts, rfl, (ih reply).mpr (.inl ⟨stopped, course⟩)⟩
      · cases impossible
      · exact .inr ⟨reply, state, first ++ last, reacts, rfl,
          (ih reply).mpr (.inr ⟨value, first, last, middle, rfl, course, further⟩)⟩
  | snapshots parent next ih =>
    constructor
    · rintro (⟨stopped, fetch⟩ | ⟨reply, state, fetched, later, fetch, rfl, course⟩)
      · exact .inl ⟨stopped, .inl ⟨rfl, fetch⟩⟩
      · obtain ⟨stopped, course⟩ | ⟨value, first, last, middle, rfl, course, further⟩ := (ih reply).mp course
        · exact .inl ⟨stopped, .inr ⟨reply, state, fetched, later, fetch, rfl, course⟩⟩
        · exact .inr ⟨value, fetched ++ first, last, middle, (List.append_assoc ..).symm,
            .inr ⟨reply, state, fetched, first, fetch, rfl, course⟩, further⟩
    · rintro (⟨stopped, ⟨-, fetch⟩ | ⟨reply, state, fetched, later, fetch, rfl, course⟩⟩ |
        ⟨value, _, last, middle, rfl, ⟨impossible, -⟩ | ⟨reply, state, fetched, first, fetch, rfl, course⟩, further⟩)
      · exact .inl ⟨stopped, fetch⟩
      · exact .inr ⟨reply, state, fetched, later, fetch, rfl, (ih reply).mpr (.inl ⟨stopped, course⟩)⟩
      · cases impossible
      · exact .inr ⟨reply, state, fetched, first ++ last, fetch, List.append_assoc ..,
          (ih reply).mpr (.inr ⟨value, first, last, middle, rfl, course, further⟩)⟩

theorem course_bind_some {program : Program α} {next : α → Program β} {value : β} :
    world.Course drifts (program.bind next) before steps (some value) after ↔
      ∃ middle first last state, steps = first ++ last ∧
        world.Course drifts program before first (some middle) state ∧
        world.Course drifts (next middle) state last (some value) after := by
  rw [course_bind]
  constructor
  · rintro (⟨impossible, -⟩ | course)
    · cases impossible
    · exact course
  · exact .inr

theorem course_request {request : Request} {result : Option request.Reply} :
    world.Course drifts (.request request) before steps result after ↔
      (steps = [] ∧ result = none ∧ drifts before after) ∨
        ∃ reply, world.Reacts drifts before request reply after ∧
          steps = [.call request reply] ∧ result = some reply := by
  constructor
  · rintro (halted | ⟨reply, middle, later, reacts, rfl, rfl, rfl, rfl⟩)
    · exact .inl halted
    · exact .inr ⟨reply, reacts, rfl, rfl⟩
  · rintro (halted | ⟨reply, reacts, rfl, rfl⟩)
    · exact .inl halted
    · exact .inr ⟨reply, after, [], reacts, rfl, rfl, rfl, rfl⟩

theorem course_fetchSnapshots {parent : String}
    {result : Option (Except CycleError Snapshots)} :
    world.Course drifts (.fetchSnapshots parent) before steps result after ↔
      world.Fetch drifts parent before steps result after := by
  constructor
  · rintro (⟨rfl, fetch⟩ | ⟨reply, middle, first, last, fetch, rfl, rfl, rfl, rfl⟩)
    · exact fetch
    · rwa [List.append_nil]
  · intro fetch
    cases result with
    | none => exact .inl ⟨rfl, fetch⟩
    | some reply => exact .inr ⟨reply, after, steps, [], fetch, (List.append_nil _).symm, rfl, rfl, rfl⟩

@[simp] theorem course_log {record : Log.Record} {result : Option Unit} :
    world.Course drifts (.log record) before steps result after ↔
      steps = [.note (.log record)] ∧ result = some () ∧ after = before := by
  constructor
  · rintro ⟨_, rfl, rfl, finished⟩
    exact ⟨rfl, finished⟩
  · rintro ⟨rfl, finished⟩
    exact ⟨[], rfl, rfl, finished⟩

@[simp] theorem course_measure {metric : Metric} {result : Option Unit} :
    world.Course drifts (.measure metric) before steps result after ↔
      steps = [.note (.metric metric)] ∧ result = some () ∧ after = before := by
  constructor
  · rintro ⟨_, rfl, rfl, finished⟩
    exact ⟨rfl, finished⟩
  · rintro ⟨rfl, finished⟩
    exact ⟨[], rfl, rfl, finished⟩

/-- What a loop keeps from one element to the next, its steps included, holds of everything it has gone through. -/
theorem Course.foldlM_steps {items : List α} {step : β → α → Program β} {start result : β}
    (motive : List α → β → List Step → σ → Prop)
    (each : ∀ {past item current shown middle steps next after}, motive past current shown middle →
      item ∈ items → world.Course drifts (step current item) middle steps (some next) after →
      motive (past ++ [item]) next (shown ++ steps) after)
    (initial : motive [] start [] before)
    (course : world.Course drifts (items.foldlM step start) before steps (some result) after) :
    motive items result steps after := by
  suffices general : ∀ (rest past : List α) current shown state later, past ++ rest = items →
      motive past current shown state →
      world.Course drifts (rest.foldlM step current) state later (some result) after →
      motive items result (shown ++ later) after from general items [] start [] before steps rfl initial course
  intro rest
  induction rest with
  | nil =>
    rintro past current shown state _ whole kept ⟨rfl, same, rfl⟩
    cases same
    rw [List.append_nil] at whole ⊢
    exact whole ▸ kept
  | cons item rest ih =>
    intro past current shown state _ whole kept course
    rw [List.foldlM_cons, Program.bind_eq, course_bind_some] at course
    obtain ⟨next, first, last, middle, rfl, first, further⟩ := course
    rw [← List.append_assoc]
    refine ih (past ++ [item]) next _ middle last (by simpa using whole) ?_ further
    exact each kept (whole ▸ by simp) first

/-- What a loop keeps from one element to the next holds of everything it has gone through. -/
theorem Course.foldlM {items : List α} {step : β → α → Program β} {start result : β}
    (motive : List α → β → σ → Prop)
    (each : ∀ {past item current middle steps next after}, motive past current middle →
      item ∈ items → world.Course drifts (step current item) middle steps (some next) after →
      motive (past ++ [item]) next after)
    (initial : motive [] start before)
    (course : world.Course drifts (items.foldlM step start) before steps (some result) after) :
    motive items result after :=
  foldlM_steps (fun past current _ state => motive past current state) each initial course

end World

namespace Program

/-- Every request that the program can come to ask is allowed. -/
def Uses (allowed : Request → Prop) : Program α → Prop
  | .done _ => True
  | .note _ rest => rest.Uses allowed
  | .ask request next => allowed request ∧ ∀ reply, (next reply).Uses allowed
  | .snapshots parent next =>
    allowed (.aliases parent) ∧ allowed .routers ∧ ∀ reply, (next reply).Uses allowed

theorem Uses.mono {allowed wider : Request → Prop} {program : Program α} (uses : program.Uses allowed)
    (within : ∀ request, allowed request → wider request) : program.Uses wider := by
  induction program with
  | done value => trivial
  | note note rest ih => exact ih uses
  | ask request next ih => exact ⟨within _ uses.1, fun reply => ih reply (uses.2 reply)⟩
  | snapshots parent next ih =>
    exact ⟨within _ uses.1, within _ uses.2.1, fun reply => ih reply (uses.2.2 reply)⟩

theorem Uses.bind {allowed : Request → Prop} {program : Program α} {next : α → Program β}
    (first : program.Uses allowed) (rest : ∀ value, (next value).Uses allowed) :
    (program.bind next).Uses allowed := by
  induction program with
  | done value => exact rest value
  | note note program ih => exact ih first
  | ask request reply ih => exact ⟨first.1, fun answer => ih answer (first.2 answer)⟩
  | snapshots parent reply ih =>
    exact ⟨first.1, first.2.1, fun answer => ih answer (first.2.2 answer)⟩

theorem Uses.foldlM {allowed : Request → Prop} {items : List α} {step : β → α → Program β}
    (each : ∀ current, ∀ item ∈ items, (step current item).Uses allowed) (start : β) :
    (items.foldlM step start).Uses allowed := by
  induction items generalizing start with
  | nil => trivial
  | cons item rest ih =>
    rw [List.foldlM_cons, bind_eq]
    refine (each start item List.mem_cons_self).bind fun next => ih ?_ next
    exact fun current other member => each current other (List.mem_cons_of_mem _ member)

theorem Uses.forM {allowed : Request → Prop} {items : List α} {step : α → Program Unit}
    (each : ∀ item ∈ items, (step item).Uses allowed) : (items.forM step).Uses allowed := by
  induction items with
  | nil => trivial
  | cons item rest ih =>
    change ((step item).bind fun _ => rest.forM step).Uses allowed
    refine (each item List.mem_cons_self).bind fun _ => ih ?_
    exact fun other member => each other (List.mem_cons_of_mem _ member)

theorem uses_measures {allowed : Request → Prop} (metrics : List Metric) :
    (metrics.forM measure).Uses allowed :=
  .forM fun _ _ => trivial

/-- Every note that the program can come to make is allowed. -/
def Reports (allowed : Note → Prop) : Program α → Prop
  | .done _ => True
  | .note report rest => allowed report ∧ rest.Reports allowed
  | .ask _ next => ∀ reply, (next reply).Reports allowed
  | .snapshots _ next => ∀ reply, (next reply).Reports allowed

namespace Reports

variable {allowed : Note → Prop}

theorem bind {program : Program α} {next : α → Program β} (first : program.Reports allowed)
    (rest : ∀ value, (next value).Reports allowed) : (program.bind next).Reports allowed := by
  induction program with
  | done value => exact rest value
  | note note program ih => exact ⟨first.1, ih first.2⟩
  | ask request reply ih => exact fun answer => ih answer (first answer)
  | snapshots parent reply ih => exact fun answer => ih answer (first answer)

theorem foldlM {items : List α} {step : β → α → Program β}
    (each : ∀ current item, (step current item).Reports allowed) (start : β) :
    (items.foldlM step start).Reports allowed := by
  induction items generalizing start with
  | nil => trivial
  | cons item rest ih =>
    rw [List.foldlM_cons, bind_eq]
    exact (each start item).bind ih

theorem forM {step : α → Program Unit} (each : ∀ item, (step item).Reports allowed) (items : List α) :
    (items.forM step).Reports allowed := by
  induction items with
  | nil => trivial
  | cons item rest ih =>
    change ((step item).bind fun _ => rest.forM step).Reports allowed
    exact (each item).bind fun _ => ih

theorem measures (within : ∀ metric, allowed (.metric metric)) (metrics : List Metric) :
    (metrics.forM measure).Reports allowed := by
  refine forM (fun metric => ?_) metrics
  exact ⟨within metric, trivial⟩

end Reports

end Program

namespace World

variable {σ : Type} {world : World σ} {drifts : σ → σ → Prop} {before after : σ} {steps : List Step}
  {allowed : Request → Prop}

theorem Fetch.request {parent : String} {fetched : Option (Except CycleError Snapshots)}
    (fetch : world.Fetch drifts parent before steps fetched after) {request : Request}
    {reply : request.Reply} (seen : Step.call request reply ∈ steps) :
    request = .aliases parent ∨ request = .routers := by
  cases fetch <;>
    simp only [List.mem_cons, List.not_mem_nil, or_false, Step.call.injEq] at seen
  all_goals grind only

theorem Fetch.readOnly {parent : String} {fetched : Option (Except CycleError Snapshots)}
    (fetch : world.Fetch drifts parent before steps fetched after) : ReadOnly steps := by
  intro request reply seen
  obtain rfl | rfl := fetch.request seen <;> rfl

/-- When both snapshots arrived, both were answered, one after the other. -/
theorem Fetch.both {parent : String} {listed : List HostAlias} {served : List Router}
    (fetch : world.Fetch drifts parent before steps (some (.ok (listed, served))) after) :
    Step.call (.aliases parent) (.ok listed) ∈ steps ∧ ∃ middle,
      (world.Reacts drifts before (.aliases parent) (.ok listed) middle ∧
        world.Reacts drifts middle .routers (.ok served) after) ∨
      (world.Reacts drifts before .routers (.ok served) middle ∧
        world.Reacts drifts middle (.aliases parent) (.ok listed) after) := by
  generalize finished : some (Except.ok (listed, served)) = result at fetch
  cases fetch with
  | interrupted | aliasesFail | routersFail | aliasesOnly | routersOnly => cases finished
  | @routersLast _ _ reply _ aliases routers =>
    cases reply <;> cases finished
    exact ⟨List.mem_cons_self, _, .inl ⟨aliases, routers⟩⟩
  | @aliasesLast _ _ reply _ routers aliases =>
    cases reply <;> cases finished
    exact ⟨List.mem_cons_of_mem _ List.mem_cons_self, _, .inr ⟨routers, aliases⟩⟩

theorem Course.call_allowed {program : Program α} {result : Option α} (uses : program.Uses allowed)
    (course : world.Course drifts program before steps result after) {request : Request}
    {reply : request.Reply} (seen : Step.call request reply ∈ steps) : allowed request := by
  induction program generalizing before steps with
  | done value =>
    obtain ⟨rfl, -⟩ := course
    cases seen
  | note note rest ih =>
    obtain ⟨later, rfl, course⟩ := course
    cases seen with
    | tail _ seen => exact ih uses course seen
  | ask asked next ih =>
    obtain ⟨rfl, -⟩ | ⟨answer, middle, later, -, rfl, course⟩ := course
    · cases seen
    · cases seen with
      | head => exact uses.1
      | tail _ seen => exact ih answer (uses.2 answer) course seen
  | snapshots parent next ih =>
    have fetched {steps fetched middle} (fetch : world.Fetch drifts parent before steps fetched middle)
        (seen : Step.call request reply ∈ steps) : allowed request := by
      obtain rfl | rfl := fetch.request seen
      · exact uses.1
      · exact uses.2.1
    obtain ⟨-, fetch⟩ | ⟨answer, middle, first, last, fetch, rfl, course⟩ := course
    · exact fetched fetch seen
    · obtain seen | seen := List.mem_append.mp seen
      · exact fetched fetch seen
      · exact ih answer (uses.2.2 answer) course seen

theorem Course.note_allowed {allowed : Note → Prop} {program : Program α} {result : Option α}
    (reports : program.Reports allowed) (course : world.Course drifts program before steps result after)
    {note : Note} (seen : Step.note note ∈ steps) : allowed note := by
  induction program generalizing before steps with
  | done value =>
    obtain ⟨rfl, -⟩ := course
    cases seen
  | note reported rest ih =>
    obtain ⟨later, rfl, course⟩ := course
    cases seen with
    | head => exact reports.1
    | tail _ seen => exact ih reports.2 course seen
  | ask request next ih =>
    obtain ⟨rfl, -⟩ | ⟨answer, middle, later, -, rfl, course⟩ := course
    · cases seen
    · cases seen with
      | tail _ seen => exact ih answer (reports answer) course seen
  | snapshots parent next ih =>
    have unseen {steps fetched middle} (fetch : world.Fetch drifts parent before steps fetched middle) :
        Step.note note ∉ steps := by
      cases fetch <;> simp
    obtain ⟨-, fetch⟩ | ⟨answer, middle, first, last, fetch, rfl, course⟩ := course
    · exact absurd seen (unseen fetch)
    · rcases List.mem_append.mp seen with seen | seen
      · exact absurd seen (unseen fetch)
      · exact ih answer (reports answer) course seen

/-- A program that asks nothing comes to its end and leaves the world alone. -/
theorem Course.silent {program : Program α} {result : Option α} (uses : program.Uses fun _ => False)
    (course : world.Course drifts program before steps result after) :
    after = before ∧ (∃ value, result = some value) ∧ ∀ step ∈ steps, step.isCall = false := by
  induction program generalizing steps with
  | done value =>
    obtain ⟨rfl, rfl, rfl⟩ := course
    exact ⟨rfl, ⟨value, rfl⟩, fun _ impossible => by cases impossible⟩
  | note note rest ih =>
    obtain ⟨later, rfl, course⟩ := course
    obtain ⟨same, finished, silent⟩ := ih uses course
    refine ⟨same, finished, fun step member => ?_⟩
    cases member with
    | head => rfl
    | tail _ member => exact silent step member
  | ask request next ih => exact uses.1.elim
  | snapshots parent next ih => exact uses.1.elim

/-- An assertion about the world that drifting and the allowed requests keep is kept by the program. -/
theorem Course.keeps (holds : σ → Prop) {program : Program α} {result : Option α}
    (uses : program.Uses allowed)
    (waiting : ∀ {first last}, drifts first last → holds first → holds last)
    (acting : ∀ {first request reply last}, allowed request →
      world.Reacts drifts first request reply last → holds first → holds last)
    (course : world.Course drifts program before steps result after) (kept : holds before) :
    holds after := by
  induction program generalizing before steps with
  | done value =>
    obtain ⟨-, -, rfl⟩ := course
    exact kept
  | note note rest ih =>
    obtain ⟨later, -, course⟩ := course
    exact ih uses course kept
  | ask request next ih =>
    obtain ⟨-, -, waits⟩ | ⟨answer, middle, later, reacts, -, course⟩ := course
    · exact waiting waits kept
    · exact ih answer (uses.2 answer) course (acting uses.1 reacts kept)
  | snapshots parent next ih =>
    have fetched {steps reply after} (fetch : world.Fetch drifts parent before steps reply after) :
        holds after := by
      cases fetch with
      | interrupted waits => exact waiting waits kept
      | aliasesFail aliases => exact acting uses.1 aliases kept
      | routersFail routers => exact acting uses.2.1 routers kept
      | aliasesOnly aliases waits => exact waiting waits (acting uses.1 aliases kept)
      | routersOnly routers waits => exact waiting waits (acting uses.2.1 routers kept)
      | routersLast aliases routers => exact acting uses.2.1 routers (acting uses.1 aliases kept)
      | aliasesLast routers aliases => exact acting uses.1 aliases (acting uses.2.1 routers kept)
    obtain ⟨-, fetch⟩ | ⟨answer, middle, first, last, fetch, -, course⟩ := course
    · exact fetched fetch
    · exact ih answer (uses.2.2 answer) course (fetched fetch)

end World

end AliasSync.Sync
