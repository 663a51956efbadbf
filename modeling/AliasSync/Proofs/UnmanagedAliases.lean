import AliasSync.Proofs.CalmReading
import AliasSync.Proofs.Isolation
import AliasSync.Proofs.StoredAliases

/-! Aliases without the marker outlive every cycle. In a store that does as it is told and tells its aliases
apart by their ids, a turn that nobody disturbs leaves them as they are. -/

namespace AliasSync.Sync

variable {σ : Type} {world : World σ} {before after : σ} {steps : List Step} {marker : String}

/-- A store that lists nothing it does not hold, and that changes on an order, if it does, only in that it
takes the new alias in under some id or drops what has the given id. -/
structure FaithfulStore (world : World σ) (aliases : σ → List HostAlias) : Prop where
  listing : ∀ {state parent listed}, (world.answer state (.aliases parent)).1 = .ok listed →
    ∀ entry ∈ listed, entry ∈ aliases state
  creation : ∀ state entry parent, let after := (world.answer state (.create entry parent)).2
    aliases after = aliases state ∨ ∃ id, (aliases after).Perm ({ entry with id := some id } :: aliases state)
  deletion : ∀ state entry, let after := (world.answer state (.delete entry)).2
    aliases after = aliases state ∨
      ∃ id, entry.id = some id ∧ (aliases after).Perm (dropId id (aliases state))
  others : ∀ state request, request.isChange = false ∨ request = .apply →
    aliases (world.answer state request).2 = aliases state

/-- Nobody else changes the aliases while a turn lasts: there is an assertion that holds at its beginning and
that neither an answer nor, until the end of the turn, the passing of time ends, and while it holds the
passing of time leaves the aliases alone. -/
structure Turn.Undisturbed (world : World σ) (aliases : σ → List HostAlias) (holds : σ → Prop)
    (turn : Turn σ) : Prop where
  begins : holds turn.state
  answer : ∀ state request, holds state → holds (world.answer state request).2
  elapse : ∀ first last state, turn.began ≤ first → last ≤ (turn.run world).ended →
    Calm aliases holds state (world.elapse first last state)

theorem faithfulStore_rehearsal : FaithfulStore Rehearsal.world Rehearsal.Scene.aliases where
  listing := by
    intro scene parent listed answered
    change (scene.answer (.aliases parent)).1 = _ at answered
    simp only [Rehearsal.Scene.answer] at answered
    split at answered
    · cases answered
    · cases answered
      exact fun _ member => member
  creation := by
    intro scene entry parent
    change (scene.answer (.create entry parent)).2.aliases = _ ∨ ∃ id, (scene.answer _).2.aliases.Perm _
    simp only [Rehearsal.Scene.answer]
    split
    · exact .inl rfl
    · exact .inr ⟨_, List.perm_append_singleton ..⟩
  deletion := by
    intro scene entry
    change (scene.answer (.delete entry)).2.aliases = _ ∨ ∃ id, _ ∧ (scene.answer _).2.aliases.Perm _
    simp only [Rehearsal.Scene.answer]
    split
    · exact .inl rfl
    · cases named : entry.id with
      | none => exact .inl rfl
      | some id => exact .inr ⟨id, rfl, .refl _⟩
  others := by
    intro scene request reading
    change (scene.answer request).2.aliases = scene.aliases
    cases request with
    | create | delete => obtain impossible | impossible := reading <;> cases impossible
    | lookup | aliases | routers | apply => simp only [Rehearsal.Scene.answer]; split <;> rfl
    | generate => rfl

/-- Nobody disturbs a turn of a rehearsal when no change is scripted to come before its end. -/
theorem undisturbed_rehearsal {turn : Turn Rehearsal.Scene}
    (quiet : turn.state.QuietUpTo (turn.run Rehearsal.world).ended) :
    turn.Undisturbed Rehearsal.world Rehearsal.Scene.aliases
      (Rehearsal.Scene.QuietUpTo (turn.run Rehearsal.world).ended) where
  begins := quiet
  answer scene request kept := by
    have scripted : (Rehearsal.world.answer scene request).2.upcoming = scene.upcoming :=
      (scene.answer_keeps request).1
    unfold Rehearsal.Scene.QuietUpTo
    rw [scripted]
    exact kept
  elapse first last scene _ early kept := by
    have still : Rehearsal.world.elapse first last scene = scene := Rehearsal.Scene.elapse_quiet kept early
    rw [still]
    exact ⟨kept, rfl⟩

section Store

variable {aliases : σ → List HostAlias} {holds : σ → Prop} {parent : String} {listed : List HostAlias}

variable (store : FaithfulStore world aliases)
  (answer : ∀ state request, holds state → holds (world.answer state request).2)
include store answer

namespace FaithfulStore

private theorem calm_reading : CalmReading world aliases holds := fun state request reading kept =>
  ⟨answer state request kept, store.others state request (.inl reading)⟩

/-- The snapshot holds aliases that are in the store when it is begun. -/
theorem fetch_listed {served : List Router} (kept : holds before)
    (fetch : world.Fetch (Calm aliases holds) parent before steps (some (.ok (listed, served))) after) :
    ∀ entry ∈ listed, entry ∈ aliases before := by
  obtain ⟨waited, -, same, answered⟩ := (store.calm_reading answer).fetch_listing kept fetch
  rw [← same]
  exact store.listing answered

/-- A call that a cycle may make once it has taken its snapshots leaves the unmanaged aliases alone. -/
theorem acts (unique : UniqueIds listed) {request : Request} {reply : request.Reply}
    (marked : request.Marked marker listed)
    (reacts : world.Reacts (Calm aliases holds) before request reply after)
    (kept : holds before ∧ (unmanaged marker (aliases before)).Perm (unmanaged marker listed)) :
    holds after ∧ (unmanaged marker (aliases after)).Perm (unmanaged marker listed) := by
  obtain ⟨waited, drift, answered⟩ := reacts
  obtain ⟨still, same⟩ := drift kept.1
  have afterwards := answer waited request still
  rw [answered] at afterwards
  refine ⟨afterwards, ?_⟩
  have waiting : (unmanaged marker (aliases waited)).Perm (unmanaged marker listed) := same ▸ kept.2
  cases request with
  | create entry parent =>
    have created := store.creation waited entry parent
    rw [answered] at created
    obtain unchanged | ⟨id, taken⟩ := created
    · exact unchanged ▸ waiting
    · refine (unmanaged_perm taken).trans ?_
      rw [unmanaged_cons_of_marked]
      · exact waiting
      · exact marked.1
  | delete entry =>
    have deleted := store.deletion waited entry
    rw [answered] at deleted
    obtain unchanged | ⟨id, named, dropped⟩ := deleted
    · exact unchanged ▸ waiting
    · refine (unmanaged_perm dropped).trans ?_
      rw [unmanaged_dropId, ← unique.dropId_unmanaged marked.1 named marked.2]
      exact dropId_perm waiting
  | apply =>
    have unchanged := store.others waited .apply (.inr rfl)
    rw [answered] at unchanged
    exact unchanged ▸ waiting
  | generate pattern limit =>
    have unchanged := store.others waited (.generate pattern limit) (.inl rfl)
    rw [answered] at unchanged
    exact unchanged ▸ waiting
  | lookup | aliases | routers => exact marked.elim

private theorem cycle {syncer : Syncer} {result : Option (Except CycleError Summary × Syncer)} (kept : holds before)
    (unique : UniqueIds (aliases before))
    (course : syncer.CycleCourse world (Calm aliases holds) before steps result after) :
    (unmanaged syncer.planner.marker (aliases after)).Perm
      (unmanaged syncer.planner.marker (aliases before)) := by
  have unchanged (calm : Calm aliases holds before after) :
      (unmanaged syncer.planner.marker (aliases after)).Perm
        (unmanaged syncer.planner.marker (aliases before)) := by rw [(calm kept).2]
  have reading := store.calm_reading answer
  cases course with
  | lookupWaits waits => exact unchanged waits
  | lookupFails reacts | overrideMissing reacts => exact unchanged (reading.reacts rfl reacts)
  | snapshotsWait found fetch | snapshotsFail found fetch =>
    exact unchanged ((reading.reacts rfl found).trans (reading.fetch fetch))
  | planWaits found fetch computes =>
    exact unchanged (((reading.reacts rfl found).trans (reading.fetch fetch)).trans (reading.plan computes))
  | acts found fetch computes carries =>
    have looked := reading.reacts rfl found
    have planned := (looked.trans (reading.fetch fetch)).trans (reading.plan computes)
    have snapshot := store.fetch_listed answer (looked kept).1 fetch
    rw [(looked kept).2] at snapshot
    have marked := (Planner.plan_marked computes).mono snapshot
    refine (carries.keeps (fun state => holds state ∧ (unmanaged syncer.planner.marker (aliases state)).Perm
      (unmanaged syncer.planner.marker (aliases before))) (marked.act_uses _ _) ?_ (store.acts answer unique) ?_).2
    · intro first last waits ⟨still, same⟩
      exact ⟨(waits still).1, (waits still).2.symm ▸ same⟩
    · exact ⟨(planned kept).1, by rw [(planned kept).2]⟩

end FaithfulStore

end Store

/-- A turn that nobody disturbs leaves the unmanaged aliases as they are, wherever it is cut off. -/
theorem Turn.keeps_unmanaged {aliases : σ → List HostAlias} {holds : σ → Prop} {turn : Turn σ}
    (store : FaithfulStore world aliases) (undisturbed : turn.Undisturbed world aliases holds)
    (unique : UniqueIds (aliases turn.state)) :
    (unmanaged turn.syncer.planner.marker (aliases (turn.run world).state)).Perm
      (unmanaged turn.syncer.planner.marker (aliases turn.state)) :=
  store.cycle undisturbed.answer undisturbed.begins unique (turn.course _ undisturbed.elapse)

/-- A run of the tool: cycles that are called for again and again, each with whatever cache, from whatever
moment and state of the world and up to whatever shutdown, or a run of the reconciler. -/
inductive Operates (world : World σ) (marker : String) : List (Turn σ) → List Step → Prop where
  | repeated {turns : List (Turn σ)} (marked : ∀ turn ∈ turns, turn.syncer.planner.marker = marker) :
      Operates world marker turns (turns.flatMap (Turn.calls world))
  | reconciled {reconciler : Reconciler} (marked : reconciler.syncer.planner.marker = marker)
      (stop : Option Nat) (once : Bool) (now : Nat) (state : σ) :
      Operates world marker (reconciler.turns world stop once now state)
        (reconciler.run world stop once now state).calls

private theorem Operates.turns_marked {turns : List (Turn σ)} {calls : List Step}
    (operates : Operates world marker turns calls) :
    calls = turns.flatMap (Turn.calls world) ∧ ∀ turn ∈ turns, turn.syncer.planner.marker = marker := by
  cases operates with
  | repeated marked => exact ⟨rfl, marked⟩
  | reconciled marked stop once now state =>
    refine ⟨Reconciler.run_calls .., fun turn member => ?_⟩
    obtain ⟨cache, same⟩ := Reconciler.turns_settings turn member
    rw [same]
    exact marked

/-- A run of the tool deletes and creates nothing but aliases with the marker. Its calls are those of its turns,
and where the store does as it is told, ids are unique, and nobody else changes the aliases while a turn
lasts, the aliases without the marker are at every moment of the turn those that were there at its
beginning. -/
theorem unmanaged_aliases_are_isolated (world : World σ) (marker : String) (turns : List (Turn σ))
    (calls : List Step) (operates : Operates world marker turns calls) :
    Isolated marker calls ∧ calls = turns.flatMap (Turn.calls world) ∧
      ∀ turn ∈ turns, ∀ (stop : Option Nat) (aliases : σ → List HostAlias) (holds : σ → Prop),
        let seen := { turn with stop := stop }
        FaithfulStore world aliases → seen.Undisturbed world aliases holds → UniqueIds (aliases turn.state) →
        (unmanaged marker (aliases (seen.run world).state)).Perm (unmanaged marker (aliases turn.state)) := by
  obtain ⟨same, marked⟩ := operates.turns_marked
  refine ⟨?_, same, ?_⟩
  · rw [same]
    refine .flatMap fun turn member => ?_
    rw [← marked turn member]
    exact turn.isolated world
  · intro turn member stop aliases holds seen store undisturbed unique
    rw [← marked turn member]
    exact Turn.keeps_unmanaged store undisturbed unique

/-- One name has an alias with the marker and one without; only the first of them is deleted. -/
theorem unmanaged_aliases_are_isolated_rehearsed :
    let routers : List Router := [⟨"plain", "file", [], "Host(`a.b`)"⟩]
    let stored : List HostAlias :=
      [⟨some "1", "old", "b", "managed"⟩, ⟨some "2", "old", "b", "own"⟩, ⟨some "3", "a", "b", "own"⟩]
    let turn : Turn Rehearsal.Scene :=
      ⟨⟨⟨⟨[], [], [], []⟩, "managed", 10, .empty⟩, "dns.lan", false⟩, none, 0, .calm "dns.lan" routers stored []⟩
    (turn.calls Rehearsal.world).length = 6 ∧ Isolated "managed" (turn.calls Rehearsal.world) ∧
      (unmanaged "managed" (turn.run Rehearsal.world).state.aliases).Perm
        [⟨some "2", "old", "b", "own"⟩, ⟨some "3", "a", "b", "own"⟩] := by
  intro routers stored turn
  obtain ⟨isolated, -, kept⟩ := unmanaged_aliases_are_isolated Rehearsal.world "managed" [turn] _
    (.repeated fun other member => by rw [List.mem_singleton.mp member])
  refine ⟨by decide +kernel, ?_, ?_⟩
  · simpa using isolated
  · exact kept turn List.mem_cons_self none Rehearsal.Scene.aliases _ faithfulStore_rehearsal
      (undisturbed_rehearsal (.of_upcoming_nil rfl _)) (by decide)

end AliasSync.Sync
