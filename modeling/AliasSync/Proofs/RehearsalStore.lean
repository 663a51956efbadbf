import AliasSync.Rehearsal

/-! The rehearsal world while nothing is scripted: nobody else changes it, its store hands out ids that
are not in use, and its generator keeps to its table. -/

namespace AliasSync.Rehearsal

open AliasSync.Sync (Request)

private theorem uuid_injective {first second : Nat}
    (same : "uuid-" ++ toString first = "uuid-" ++ toString second) : first = second := by
  have digits : Nat.toDigits 10 first = Nat.toDigits 10 second := by
    have characters := congrArg String.toList same
    simpa only [String.toList_append, List.append_cancel_left_eq, Nat.toString_eq_repr, Nat.toList_repr]
      using characters
  rw [← Nat.ofDigitChars_ten_toDigits (n := first), digits, Nat.ofDigitChars_ten_toDigits]

def Change.sparesStore : Change → Bool
  | .seed _ | .clear => false
  | _ => true

namespace Scene

/-- A scene in which nothing fails, nothing takes time and nobody else changes anything. -/
def calm (overrideFqdn : String) (routers : List Router) (aliases : List HostAlias)
    (generator : GeneratorTable) : Scene where
  overrideFqdn := overrideFqdn
  overrideId := "override"
  faults := ⟨false, false, false, false⟩
  waits := ⟨0, 0, 0, 0, 0⟩
  failKeys := []
  routers := routers
  aliases := aliases
  nextId := 0
  generator := generator
  upcoming := []

def QuietUpTo (moment : Nat) (scene : Scene) : Prop := ∀ event ∈ scene.upcoming, moment < event.1

theorem QuietUpTo.of_upcoming_nil {scene : Scene} (quiet : scene.upcoming = []) (moment : Nat) :
    scene.QuietUpTo moment := fun _ member => by
  rw [quiet] at member
  cases member

theorem elapse_quiet {scene : Scene} {now moment : Nat} (quiet : scene.QuietUpTo moment)
    (early : now ≤ moment) : scene.elapse now = scene := by
  have nothing : (scene.upcoming.takeWhile fun event => event.1 ≤ now) = [] := by
    cases script : scene.upcoming with
    | nil => rfl
    | cons event later =>
      have after := quiet event (script ▸ List.mem_cons_self)
      have pending : ¬ event.1 ≤ now := by omega
      simp [pending]
  simp only [elapse, nothing, List.foldl_nil, List.length_nil, List.drop_zero]

def SparesStore (scene : Scene) : Prop := ∀ event ∈ scene.upcoming, event.2.sparesStore = true

instance (scene : Scene) : Decidable scene.SparesStore :=
  inferInstanceAs (Decidable (∀ event ∈ scene.upcoming, event.2.sparesStore = true))

private theorem change_spares {scene : Scene} {change : Change} (spared : change.sparesStore = true) :
    (scene.change change).aliases = scene.aliases ∧ (scene.change change).upcoming = scene.upcoming := by
  cases change with
  | seed | clear => cases spared
  | routers | failKeys | overrideFqdn | generator | faults => exact ⟨rfl, rfl⟩

theorem elapse_spares {scene : Scene} (spared : scene.SparesStore) (now : Nat) :
    (scene.elapse now).aliases = scene.aliases ∧ (scene.elapse now).SparesStore := by
  have folded (due : List (Nat × Change)) (spared : ∀ event ∈ due, event.2.sparesStore = true) (start : Scene) :
      let after := due.foldl (fun scene event => scene.change event.2) start
      after.aliases = start.aliases ∧ after.upcoming = start.upcoming := by
    induction due generalizing start with
    | nil => exact ⟨rfl, rfl⟩
    | cons event rest ih =>
      obtain ⟨first, script⟩ := start.change_spares (spared event List.mem_cons_self)
      obtain ⟨later, kept⟩ := ih (fun other member => spared other (List.mem_cons_of_mem _ member))
        (start.change event.2)
      exact ⟨later.trans first, kept.trans script⟩
  obtain ⟨same, script⟩ := folded (scene.upcoming.takeWhile fun event => event.1 ≤ now)
    (fun event member => spared event ((List.takeWhile_sublist _).mem member))
    { scene with upcoming := scene.upcoming.drop (scene.upcoming.takeWhile fun event => event.1 ≤ now).length }
  refine ⟨same, fun event member => ?_⟩
  unfold elapse at member
  rw [script] at member
  exact spared event (List.mem_of_mem_drop member)

/-- What is scripted and what the proxy and the generator say does not depend on what is asked. -/
theorem answer_keeps (scene : Scene) (request : Request) :
    let after := (scene.answer request).2
    after.upcoming = scene.upcoming ∧ after.generator = scene.generator ∧ after.routers = scene.routers ∧
      after.faults = scene.faults ∧ after.failKeys = scene.failKeys ∧
      after.overrideFqdn = scene.overrideFqdn ∧ after.overrideId = scene.overrideId := by
  cases request with
  | lookup fqdn => simp only [answer]; split <;> simp
  | aliases parent => simp only [answer]; split <;> simp
  | routers => simp only [answer]; split <;> simp
  | create entry parent => simp only [answer]; split <;> simp [freshId]
  | delete entry =>
    simp only [answer]
    split
    · simp
    · split <;> simp
  | apply => simp only [answer]; split <;> simp
  | generate pattern limit => simp [answer]

theorem answer_of_reading (scene : Scene) {request : Request} (reading : request.isChange = false) :
    (scene.answer request).2 = scene := by
  cases request with
  | create | delete | apply => cases reading
  | lookup | aliases | routers => simp only [answer]; split <;> rfl
  | generate => rfl

/-- Nothing is scripted, and the ids in use are among those that have been given out. What is asked may fail. -/
structure Alone (routers : List Router) (table : GeneratorTable) (scene : Scene) : Prop where
  quiet : scene.upcoming = []
  override : scene.overrideId = "override"
  serving : scene.routers = routers
  generator : scene.generator = table
  given : ∀ entry ∈ scene.aliases, ∀ number, entry.id = some ("uuid-" ++ toString number) → number < scene.nextId

variable {overrideFqdn : String} {routers : List Router} {table : GeneratorTable} {scene : Scene}

namespace Alone

variable (alone : scene.Alone routers table)
include alone

theorem elapse (moment : Nat) : scene.elapse moment = scene :=
  elapse_quiet (.of_upcoming_nil alone.quiet moment) (Nat.le_refl _)

theorem fresh : ∀ entry ∈ scene.aliases, entry.id ≠ some ("uuid-" ++ toString scene.nextId) :=
  fun entry member same => Nat.lt_irrefl _ (alone.given entry member _ same)

/-- Only the ids in use have to be looked after. -/
theorem answer {request : Request} {reply : request.Reply} {after : Scene}
    (answered : scene.answer request = (reply, after))
    (given : ∀ entry ∈ after.aliases, ∀ number,
      entry.id = some ("uuid-" ++ toString number) → number < after.nextId) : after.Alone routers table := by
  have kept := scene.answer_keeps request
  rw [answered] at kept
  obtain ⟨upcoming, generator, served, -, -, -, id⟩ := kept
  exact ⟨upcoming.trans alone.quiet, id.trans alone.override, served.trans alone.serving,
    generator.trans alone.generator, given⟩

/-- An alias that gets the next id leaves the ids in use among those that have been given out. -/
theorem given_next (entry : HostAlias) :
    ∀ other ∈ scene.aliases ++ [{ entry with id := some ("uuid-" ++ toString scene.nextId) }], ∀ number,
      other.id = some ("uuid-" ++ toString number) → number < scene.nextId + 1 := by
  intro other member number named
  rcases List.mem_append.mp member with member | added
  · exact Nat.lt_succ_of_lt (alone.given other member number named)
  · rw [List.mem_singleton.mp added] at named
    rw [Rehearsal.uuid_injective (Option.some.inj named)]
    exact Nat.lt_succ_self _

end Alone

/-- Nothing fails, nothing is scripted, and the ids in use are among those that have been given out. -/
structure Settled (overrideFqdn : String) (routers : List Router) (table : GeneratorTable) (scene : Scene) :
    Prop where
  quiet : scene.upcoming = []
  faultless : scene.faults = ⟨false, false, false, false⟩
  accepting : scene.failKeys = []
  override : scene.overrideFqdn = overrideFqdn ∧ scene.overrideId = "override"
  serving : scene.routers = routers
  generator : scene.generator = table
  given : ∀ entry ∈ scene.aliases, ∀ number, entry.id = some ("uuid-" ++ toString number) → number < scene.nextId

namespace Settled

variable (settled : scene.Settled overrideFqdn routers table)
include settled

theorem alone : scene.Alone routers table :=
  ⟨settled.quiet, settled.override.2, settled.serving, settled.generator, settled.given⟩

theorem answer {request : Request} {reply : request.Reply} {after : Scene}
    (answered : scene.answer request = (reply, after))
    (given : ∀ entry ∈ after.aliases, ∀ number,
      entry.id = some ("uuid-" ++ toString number) → number < after.nextId) :
    after.Settled overrideFqdn routers table := by
  obtain ⟨quiet, override, serving, generator, given⟩ := settled.alone.answer answered given
  have kept := scene.answer_keeps request
  rw [answered] at kept
  obtain ⟨-, -, -, faults, failKeys, fqdn, -⟩ := kept
  exact ⟨quiet, faults.trans settled.faultless, failKeys.trans settled.accepting,
    ⟨fqdn.trans settled.override.1, override⟩, serving, generator, given⟩

end Settled

end Scene

end AliasSync.Rehearsal
