import AliasSync.Proofs.Diary
import AliasSync.Proofs.UnmanagedAliases
import Mathlib.Data.List.Nodup

/-! No duplicate is ever introduced. In a store that only the tool writes to, the managed aliases keep keys of their own
from one call to the next: a plan creates a key once at most, and only one that no managed alias has, and between
the snapshot and the last operation nobody else takes it. -/

namespace AliasSync

variable {marker : String} {aliases others : List HostAlias}

def DistinctKeys (marker : String) (aliases : List HostAlias) : Prop :=
  ((aliases.filter (·.description == marker)).map HostAlias.key).Nodup

instance (marker : String) (aliases : List HostAlias) : Decidable (DistinctKeys marker aliases) :=
  inferInstanceAs (Decidable ((aliases.filter (·.description == marker)).map HostAlias.key).Nodup)

theorem distinctKeys_iff : DistinctKeys marker aliases ↔ ∀ key, copies marker key aliases ≤ 1 := by
  have counted (key : String) : copies marker key aliases =
      ((aliases.filter (·.description == marker)).map HostAlias.key).count key := by
    rw [List.count, List.countP_map, List.countP_filter, copies]
    refine List.countP_congr fun entry _ => ?_
    simp [and_comm]
  simp only [DistinctKeys, counted, List.nodup_iff_count]

theorem DistinctKeys.perm (distinct : DistinctKeys marker aliases) (relists : aliases.Perm others) :
    DistinctKeys marker others :=
  ((relists.filter _).map _).nodup_iff.mp distinct

namespace Sync

open AliasSync.Operation (creations)

variable {σ : Type} {world : World σ} {stored : σ → List HostAlias} {tidy : σ → Prop} {before after : σ}
  {steps : List Step} {parent : String} {operations : List Operation}

/-- While the managed keys are distinct, under each stands the one alias that has it. -/
theorem Planner.getElem?_managed_of_distinct {planner : Planner} (distinct : DistinctKeys planner.marker aliases)
    {key : String} {entry : HostAlias} :
    (planner.managed aliases)[key]? = some entry ↔
      entry ∈ aliases ∧ entry.description = planner.marker ∧ entry.key = key := by
  constructor
  · exact Planner.managed_entry
  · rintro ⟨member, marked, rfl⟩
    have present : entry.key ∈ planner.managed aliases := Planner.mem_managed.mpr ⟨entry, member, marked, rfl⟩
    obtain ⟨other, found⟩ := Option.isSome_iff_exists.mp (Std.TreeMap.mem_iff_isSome_getElem?.mp present)
    obtain ⟨otherMember, otherMarked, same⟩ := Planner.managed_entry found
    have equal : other = entry := by
      refine List.inj_on_of_nodup_map distinct ?_ ?_ same
      · exact List.mem_filter.mpr ⟨otherMember, beq_iff_eq.mpr otherMarked⟩
      · exact List.mem_filter.mpr ⟨member, beq_iff_eq.mpr marked⟩
    rw [found, equal]

/-- A store that only the tool writes to and that lists all that it holds, seen through an assertion that lasts for as
long as the managed aliases have keys of their own. -/
structure TidyStore (world : World σ) (stored : σ → List HostAlias) (marker : String) (tidy : σ → Prop) : Prop
    extends FaithfulStore world stored where
  complete : ∀ {state parent listed}, tidy state → (world.answer state (.aliases parent)).1 = .ok listed →
    ∀ entry ∈ stored state, entry ∈ listed
  elapse : ∀ first last state, Calm stored tidy state (world.elapse first last state)
  distinct : ∀ {state}, tidy state → DistinctKeys marker (stored state)
  answer : ∀ {state} request, tidy state → DistinctKeys marker (stored (world.answer state request).2) →
    tidy (world.answer state request).2

/-- The operations create no key twice, and none that a managed alias has. -/
structure Room (marker : String) (operations : List Operation) (aliases : List HostAlias) : Prop where
  once : ((creations operations).map HostAlias.key).Nodup
  free : ∀ entry ∈ creations operations, copies marker entry.key aliases = 0

namespace TidyStore

variable (store : TidyStore world stored marker tidy)
include store

private theorem calm_reading : CalmReading world stored tidy := by
  intro state request reading kept
  have same := store.others state request (.inl reading)
  exact ⟨store.answer request kept (same.symm ▸ store.distinct kept), same⟩

/-- A call leaves the store tidy if it leaves the keys distinct, and it works on the aliases that were there before. -/
theorem settles {request : Request} {reply : request.Reply} (kept : tidy before)
    (reacts : world.Reacts (Calm stored tidy) before request reply after) :
    ∃ waited, stored waited = stored before ∧ (world.answer waited request).2 = after ∧
      (DistinctKeys marker (stored after) → tidy after) := by
  obtain ⟨waited, drift, answered⟩ := reacts
  obtain ⟨still, same⟩ := drift kept
  have tidied := store.answer request still
  have final : (world.answer waited request).2 = after := congrArg Prod.snd answered
  rw [final] at tidied
  exact ⟨waited, same, final, tidied⟩

/-- A deletion leaves no key with more aliases than it had. -/
theorem deletes {entry : HostAlias} {reply : Except StoreError Unit} (kept : tidy before)
    (reacts : world.Reacts (Calm stored tidy) before (.delete entry) reply after) :
    tidy after ∧ ∀ key, copies marker key (stored after) ≤ copies marker key (stored before) := by
  obtain ⟨waited, same, final, tidied⟩ := store.settles kept reacts
  have deleted := store.deletion waited entry
  rw [final] at deleted
  have fewer : ∀ key, copies marker key (stored after) ≤ copies marker key (stored before) := by
    intro key
    rw [← same]
    obtain unchanged | ⟨id, -, dropped⟩ := deleted
    · exact Nat.le_of_eq (congrArg _ unchanged)
    · rw [copies_perm dropped]
      exact copies_dropId_le
  have distinct := distinctKeys_iff.mp (store.distinct kept)
  exact ⟨tidied (distinctKeys_iff.mpr fun key => Nat.le_trans (fewer key) (distinct key)), fewer⟩

/-- A creation under a key that no managed alias has gives this key one alias, and no other key a further one. -/
theorem creates {entry : HostAlias} {reply : Except StoreError String} (kept : tidy before)
    (free : copies marker entry.key (stored before) = 0)
    (reacts : world.Reacts (Calm stored tidy) before (.create entry parent) reply after) :
    tidy after ∧ ∀ key, key ≠ entry.key → copies marker key (stored after) ≤ copies marker key (stored before) := by
  obtain ⟨waited, same, final, tidied⟩ := store.settles kept reacts
  have created := store.creation waited entry parent
  rw [final] at created
  have grown : ∀ key, copies marker key (stored after) ≤
      copies marker key (stored before) + if entry.key = key then 1 else 0 := by
    intro key
    rw [← same]
    obtain unchanged | ⟨id, added⟩ := created
    · rw [unchanged]
      exact Nat.le_add_right _ _
    · rw [copies_perm added, copies_cons]
      have own : ({ entry with id := some id } : HostAlias).key = entry.key := rfl
      rw [own]
      split
      case isTrue both => exact Nat.le_of_eq (by rw [if_pos both.2])
      case isFalse => omega
  have distinct := distinctKeys_iff.mp (store.distinct kept)
  refine ⟨tidied (distinctKeys_iff.mpr fun key => ?_), fun key apart => ?_⟩
  · have bound := grown key
    by_cases same : entry.key = key
    · subst same
      rw [if_pos rfl] at bound
      omega
    · have single := distinct key
      rw [if_neg same] at bound
      omega
  · have bound := grown key
    rw [if_neg fun same => apart same.symm] at bound
    omega

/-- One operation leaves room for those that come after it. -/
theorem operates {operation : Operation} {reply : (operation.request parent).Reply} (kept : tidy before)
    (room : Room marker (operation :: operations) (stored before))
    (reacts : world.Reacts (Calm stored tidy) before (operation.request parent) reply after) :
    tidy after ∧ Room marker operations (stored after) := by
  obtain ⟨once, free⟩ := room
  cases operation with
  | delete entry =>
    obtain ⟨tidied, fewer⟩ := store.deletes kept reacts
    refine ⟨tidied, once, fun other member => ?_⟩
    have none := free other member
    have bound := fewer other.key
    omega
  | create entry =>
    obtain ⟨tidied, others⟩ := store.creates kept (free entry List.mem_cons_self) reacts
    obtain ⟨fresh, once⟩ := List.nodup_cons.mp once
    refine ⟨tidied, once, fun other member => ?_⟩
    have apart : other.key ≠ entry.key := fun same => fresh (same ▸ List.mem_map_of_mem member)
    have none := free other (List.mem_cons_of_mem _ member)
    have bound := others other.key apart
    omega

/-- The operations keep the store tidy, wherever they are cut off. -/
theorem performs {outcomes : Option (List OperationOutcome)} (kept : tidy before)
    (room : Room marker operations (stored before))
    (course : world.Course (Calm stored tidy) (operations.mapM (perform parent)) before steps outcomes after) :
    tidy after := by
  induction operations generalizing before steps outcomes with
  | nil =>
    obtain ⟨-, -, rfl⟩ := course
    exact kept
  | cons operation rest ih =>
    rw [List.mapM_cons, Program.bind_eq, World.course_bind] at course
    obtain ⟨-, first⟩ | ⟨outcome, _, _, middle, -, first, later⟩ := course
    · obtain ⟨-, waits⟩ | ⟨reply, reacts⟩ := perform_cases first
      · exact (waits kept).1
      · exact (store.operates kept room reacts).1
    · obtain ⟨impossible, -⟩ | ⟨reply, reacts⟩ := perform_cases first
      · cases impossible
      obtain ⟨tidied, room⟩ := store.operates kept room reacts
      obtain ⟨-, remaining⟩ | ⟨_, _, _, _, -, remaining, -, -, rfl⟩ := World.course_bind.mp later
      · exact ih tidied room remaining
      · exact ih tidied room remaining

private theorem applies {program : Program α} {result : Option α} (uses : program.Uses (· = .apply))
    (kept : tidy before)
    (course : world.Course (Calm stored tidy) program before steps result after) : tidy after := by
  refine course.keeps tidy uses (fun waits still => (waits still).1) ?_ kept
  rintro first _ reply last rfl reacts still
  obtain ⟨waited, same, final, tidied⟩ := store.settles still reacts
  have unchanged := store.others waited .apply (.inr rfl)
  rw [final, same] at unchanged
  exact tidied (unchanged.symm ▸ store.distinct still)

private theorem executes {execution : Option Execution} (kept : tidy before)
    (room : Room marker operations (stored before))
    (course : world.Course (Calm stored tidy) (execute parent operations) before steps execution after) :
    tidy after := by
  obtain ⟨closing, uses, same⟩ := execute_split parent operations
  rw [same, World.course_bind] at course
  obtain ⟨-, performing⟩ | ⟨outcomes, _, _, middle, -, performing, applying⟩ := course
  · exact store.performs kept room performing
  · exact store.applies (uses outcomes) (store.performs kept room performing) applying

private theorem acts {plan : Plan} {dryRun : Bool} {reply : Option (Except CycleError Summary)} (kept : tidy before)
    (room : Room marker plan.operations (stored before))
    (course : world.Course (Calm stored tidy) (act parent dryRun plan) before steps reply after) : tidy after := by
  by_cases idle : plan.operations = [] ∨ dryRun = true
  · obtain ⟨-, -, rfl⟩ := act_idle_course idle course
    exact kept
  · obtain ⟨due, live⟩ := not_or.mp idle
    rw [eq_false_of_ne_true live, act_of_due due, World.course_bind] at course
    obtain ⟨-, executing⟩ | ⟨_, _, _, _, -, executing, -, -, rfl⟩ := course
    · exact store.executes kept room executing
    · exact store.executes kept room executing

end TidyStore

/-- A plan has room in every store that holds nothing but what the plan has seen. -/
theorem Planner.plan_room {drifts : σ → σ → Prop} {planner later : Planner} {routers : List Router}
    {listed held : List HostAlias} {plan : Plan} (seen : ∀ entry ∈ held, entry ∈ listed)
    (course : world.Course drifts (planner.plan routers listed) before steps (some (plan, later)) after) :
    Room planner.marker plan.operations held := by
  obtain ⟨harvest, _, _, harvesting, operations, -⟩ := plan_harvest course
  obtain ⟨hosts, collected⟩ := harvest_gathered harvesting
  have keyed : harvest.desired.Keyed := by
    rw [collected]
    exact AliasTable.keyed_ofList _
  rw [operations]
  constructor
  · exact (creations_diff.map HostAlias.key).nodup_iff.mpr (keyed.nodup_missingFrom _)
  · intro entry member
    obtain ⟨-, unmanaged⟩ := keyed.mem_missingFrom.mp (creations_diff.mem_iff.mp member)
    refine Nat.eq_zero_of_not_pos fun some => unmanaged (Planner.mem_managed.mpr ?_)
    obtain ⟨other, otherHeld, marked, same⟩ := copies_pos.mp some
    exact ⟨other, seen other otherHeld, marked, same⟩

private theorem TidyStore.cycle {syncer : Syncer} {result : Option (Except CycleError Summary × Syncer)}
    (store : TidyStore world stored syncer.planner.marker tidy) (kept : tidy before)
    (course : syncer.CycleCourse world (Calm stored tidy) before steps result after) : tidy after := by
  have reading := store.calm_reading
  cases course with
  | lookupWaits waits => exact (waits kept).1
  | lookupFails reacts | overrideMissing reacts => exact (reading.reacts rfl reacts kept).1
  | snapshotsWait found fetch | snapshotsFail found fetch =>
    exact ((reading.reacts rfl found).trans (reading.fetch fetch) kept).1
  | planWaits found fetch computes =>
    exact (((reading.reacts rfl found).trans (reading.fetch fetch)).trans (reading.plan computes) kept).1
  | acts found fetch computes carries =>
    obtain ⟨looked, -⟩ := reading.reacts rfl found kept
    obtain ⟨planned, unchanged⟩ := (reading.fetch fetch).trans (reading.plan computes) looked
    obtain ⟨waited, still, same, answered⟩ := reading.fetch_listing looked fetch
    have seen := store.complete still answered
    rw [same, ← unchanged] at seen
    exact store.acts planned (Planner.plan_room seen computes) carries

/-- A store that only the tool writes to: it lists all that it holds, and there is an assertion that lasts and under
which nobody else changes the aliases. -/
structure SoleWriter (world : World σ) (aliases : σ → List HostAlias) (holds : σ → Prop) : Prop
    extends FaithfulStore world aliases where
  complete : ∀ {state parent listed}, holds state → (world.answer state (.aliases parent)).1 = .ok listed →
    ∀ entry ∈ aliases state, entry ∈ listed
  answer : ∀ state request, holds state → holds (world.answer state request).2
  elapse : ∀ first last state, Calm aliases holds state (world.elapse first last state)

/-- Now and after each call so far, the managed aliases have keys of their own. -/
structure Diary.Tidy (stored : σ → List HostAlias) (holds : σ → Prop) (marker : String) (page : Diary σ) : Prop where
  holds : holds page.now
  distinct : DistinctKeys marker (stored page.now)
  visited : ∀ seen ∈ page.visited, DistinctKeys marker (stored seen)

section Writer

variable {holds : σ → Prop} (writer : SoleWriter world stored holds)
include writer

private theorem SoleWriter.tidyStore (marker : String) :
    TidyStore world.diary (fun page => stored page.now) marker (Diary.Tidy stored holds marker) where
  listing answered := writer.listing answered
  creation page := writer.creation page.now
  deletion page := writer.deletion page.now
  others page := writer.others page.now
  complete tidy answered := writer.complete tidy.holds answered
  elapse first last page tidy := by
    obtain ⟨still, same⟩ := writer.elapse first last page.now tidy.holds
    exact ⟨⟨still, same.symm ▸ tidy.distinct, tidy.visited⟩, same⟩
  distinct tidy := tidy.distinct
  answer {page} request tidy distinct := by
    refine ⟨writer.answer page.now request tidy.holds, distinct, fun seen member => ?_⟩
    rw [World.diary_visited, List.mem_append, List.mem_singleton] at member
    obtain earlier | rfl := member
    · exact tidy.visited seen earlier
    · exact distinct

/-- A run of the tool keeps the keys of the managed aliases apart: after each of its calls, cut off or not, no two
managed aliases have the same key. -/
theorem keys_stay_distinct (reconciler : Reconciler) (stop : Option Nat) (once : Bool) (now : Nat) (state : σ)
    (begins : holds state) (distinct : DistinctKeys reconciler.syncer.planner.marker (stored state)) :
    let run := reconciler.run world stop once now state
    let recorded := reconciler.run world.diary stop once now ⟨state, []⟩
    recorded.forget = run ∧ recorded.state.visited.length = run.calls.length ∧
      (∀ seen ∈ recorded.state.visited, DistinctKeys reconciler.syncer.planner.marker (stored seen)) ∧
      holds run.state ∧ DistinctKeys reconciler.syncer.planner.marker (stored run.state) := by
  intro run recorded
  -- the world with its diary is a tidy store too, so that what a cycle keeps of the store it keeps of all pages
  have store := writer.tidyStore reconciler.syncer.planner.marker
  have records := reconciler.run_records world stop once now ⟨state, []⟩
  have tidy : Diary.Tidy stored holds reconciler.syncer.planner.marker recorded.state := by
    refine Reconciler.run_keeps (fun first last page kept => (store.elapse first last page kept).1) ?_
      ⟨begins, distinct, fun seen impossible => by cases impossible⟩
    rintro turn ⟨cache, same⟩ kept
    have marked : turn.syncer.planner.marker = reconciler.syncer.planner.marker := by rw [same]; rfl
    rw [← marked] at store kept ⊢
    exact store.cycle kept (turn.course _ fun first last page _ _ => store.elapse first last page)
  have pages := records.pages
  have final := records.state
  refine ⟨records.same, ?_, tidy.visited, final ▸ tidy.holds, final ▸ tidy.distinct⟩
  rw [pages, List.length_nil, Nat.zero_add]
  unfold Run.calls Run.trace
  rw [records.steps]

end Writer

open Rehearsal (Scene) in
private theorem soleWriter_rehearsal : SoleWriter Rehearsal.world Scene.aliases Scene.SparesStore where
  toFaithfulStore := faithfulStore_rehearsal
  complete := by
    intro scene parent listed _ answered
    change (scene.answer (.aliases parent)).1 = _ at answered
    simp only [Scene.answer] at answered
    split at answered
    · cases answered
    · cases answered
      exact fun _ member => member
  answer scene request spared := by
    have scripted : (Rehearsal.world.answer scene request).2.upcoming = scene.upcoming :=
      (scene.answer_keeps request).1
    unfold Scene.SparesStore
    rw [scripted]
    exact spared
  elapse first last scene spared := by
    obtain ⟨same, still⟩ := Scene.elapse_spares spared last
    exact ⟨still, same⟩

open Rehearsal (Scene) in
/-- A run of three seconds in which a deletion and a creation are refused for a while, the routers change, and the
shutdown comes before the last creation. -/
theorem keys_stay_distinct_rehearsed :
    let before : List Router := [⟨"plain", "file", [], "Host(`a.b`) || Host(`c.d`)"⟩]
    let later : List Router := [⟨"plain", "file", [], "Host(`a.b`) || Host(`e.f`)"⟩]
    let stored : List HostAlias := [⟨some "1", "old", "b", "managed"⟩, ⟨some "2", "a", "b", "managed"⟩]
    let scene : Scene := { Scene.calm "dns.lan" before stored [] with
      waits := ⟨0, 0, 0, 100, 100⟩
      failKeys := ["old.b", "c.d"]
      upcoming := [(1500, .failKeys []), (2500, .routers later)] }
    let reconciler : Reconciler := ⟨⟨⟨⟨[], [], [], []⟩, "managed", 10, .empty⟩, "dns.lan", false⟩, 1000⟩
    let recorded := reconciler.run Rehearsal.world.diary (some 3350) false 0 ⟨scene, []⟩
    recorded.state.visited.length = 20 ∧
      ∀ seen ∈ recorded.state.visited, DistinctKeys "managed" seen.aliases := by
  intro before later stored scene reconciler recorded
  obtain ⟨-, pages, distinct, -⟩ := keys_stay_distinct soleWriter_rehearsal reconciler (some 3350) false 0 scene
    (by decide) (by decide)
  exact ⟨pages.trans (by decide +kernel), distinct⟩

end Sync

end AliasSync
