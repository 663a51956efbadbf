import AliasSync.Proofs.Harvest

/-! Reading leaves the aliases of the world as they are: looking the host override up, taking the snapshots and
planning, with any number of pauses in between. -/

namespace AliasSync.Sync

variable {σ : Type} {world : World σ} {aliases : σ → List HostAlias} {holds : σ → Prop}
  {before middle after : σ} {steps : List Step}

/-- While an assertion holds, it goes on to hold and the aliases stay as they are. -/
def Calm (aliases : σ → List HostAlias) (holds : σ → Prop) (before after : σ) : Prop :=
  holds before → holds after ∧ aliases after = aliases before

private theorem Calm.refl : Calm aliases holds before before := fun kept => ⟨kept, rfl⟩

theorem Calm.trans (first : Calm aliases holds before middle) (last : Calm aliases holds middle after) :
    Calm aliases holds before after := by
  intro kept
  obtain ⟨still, same⟩ := first kept
  obtain ⟨ever, equal⟩ := last still
  exact ⟨ever, equal.trans same⟩

/-- The reply is what the world says once it has waited, with the aliases as they were. -/
theorem World.Reacts.calm_reply {request : Request} {reply expected : request.Reply}
    (reacts : world.Reacts (Calm aliases holds) before request reply after) (kept : holds before)
    (answer : ∀ {waited}, holds waited → aliases waited = aliases before →
      (world.answer waited request).1 = expected) : reply = expected := by
  obtain ⟨waited, drift, answered⟩ := reacts
  obtain ⟨still, same⟩ := drift kept
  rw [← answer still same, answered]

/-- Only requests that order a change disturb the aliases. -/
def CalmReading (world : World σ) (aliases : σ → List HostAlias) (holds : σ → Prop) : Prop :=
  ∀ state request, request.isChange = false → Calm aliases holds state (world.answer state request).2

namespace CalmReading

variable (calm : CalmReading world aliases holds)
include calm

theorem reacts {request : Request} {reply : request.Reply} (reading : request.isChange = false)
    (reacts : world.Reacts (Calm aliases holds) before request reply after) :
    Calm aliases holds before after := by
  obtain ⟨waited, drift, answered⟩ := reacts
  have answer := calm waited request reading
  rw [answered] at answer
  exact drift.trans answer

theorem course {program : Program α} {result : Option α}
    (course : world.Course (Calm aliases holds) program before steps result after)
    (uses : program.Uses fun request => request.isChange = false) : Calm aliases holds before after := by
  intro kept
  exact course.keeps (fun state => holds state ∧ aliases state = aliases before) uses
    (fun waits still => Calm.trans (fun _ => still) waits kept)
    (fun reading reacts still => Calm.trans (fun _ => still) (calm.reacts reading reacts) kept)
    ⟨kept, rfl⟩

theorem fetch {parent : String} {fetched : Option (Except CycleError Snapshots)}
    (fetch : world.Fetch (Calm aliases holds) parent before steps fetched after) :
    Calm aliases holds before after :=
  calm.course (World.course_fetchSnapshots.mpr fetch) ⟨rfl, rfl, fun _ => trivial⟩

/-- The snapshot of the aliases is what the world lists while it holds the same aliases as when it was asked. -/
theorem fetch_listing {parent : String} {listed : List HostAlias} {served : List Router} (kept : holds before)
    (fetch : world.Fetch (Calm aliases holds) parent before steps (some (.ok (listed, served))) after) :
    ∃ waited, holds waited ∧ aliases waited = aliases before ∧
      (world.answer waited (.aliases parent)).1 = .ok listed := by
  have listing {first last} (drifted : Calm aliases holds before first)
      (reacts : world.Reacts (Calm aliases holds) first (.aliases parent) (.ok listed) last) :
      ∃ waited, holds waited ∧ aliases waited = aliases before ∧
        (world.answer waited (.aliases parent)).1 = .ok listed := by
    obtain ⟨waited, drift, answered⟩ := reacts
    obtain ⟨still, same⟩ := drifted.trans drift kept
    exact ⟨waited, still, same, congrArg Prod.fst answered⟩
  obtain ⟨-, middle, ⟨asked, -⟩ | ⟨routers, asked⟩⟩ := fetch.both
  · exact listing .refl asked
  · exact listing (calm.reacts rfl routers) asked

theorem plan {planner : Planner} {served : List Router} {listed : List HostAlias}
    {planned : Option (Plan × Planner)}
    (course : world.Course (Calm aliases holds) (planner.plan served listed) before steps planned after) :
    Calm aliases holds before after :=
  calm.course course ((planner.plan_uses served listed).mono fun _ ⟨_, same⟩ => same ▸ rfl)

end CalmReading

end AliasSync.Sync
