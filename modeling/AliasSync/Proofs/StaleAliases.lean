import AliasSync.Proofs.Convergence
import AliasSync.Proofs.Isolation

/-! What a plan does about managed aliases that nobody desires. A plan knows the managed aliases by their keys, and of
several aliases with one key it knows the last one of the snapshot. That one is deleted, and the others are left
for later plans. -/

namespace AliasSync.Sync

open AliasSync.Operation (deletions)

variable {σ : Type} {world : World σ}

namespace Planner

variable {planner later : Planner} {routers : List Router} {listed : List HostAlias} {entry : HostAlias}

/-- Under the key of a managed alias stands this alias, unless a later one has the key too. -/
theorem getElem?_managed {earlier following : List HostAlias} (once : entry ∉ following)
    (marked : entry.description = planner.marker) :
    (planner.managed (earlier ++ entry :: following))[entry.key]? = some entry ↔
      ¬ ∃ other ∈ following, other.description = planner.marker ∧ other.key = entry.key := by
  have split : (earlier ++ entry :: following).filter (·.description == planner.marker) =
      earlier.filter (·.description == planner.marker) ++
        entry :: following.filter (·.description == planner.marker) := by
    rw [List.filter_append, List.filter_cons_of_pos (by simp [marked])]
  rw [managed, AliasTable.getElem?_ofList, split, List.reverse_append, List.reverse_cons, List.find?_append,
    List.find?_append]
  cases found : (following.filter (·.description == planner.marker)).reverse.find? (·.key == entry.key) with
  | none =>
    have free : ¬ ∃ other ∈ following, other.description = planner.marker ∧ other.key = entry.key := by
      rintro ⟨other, member, otherMarked, same⟩
      have passed := List.find?_eq_none.mp found other (by simp [member, otherMarked])
      exact passed (by simp [same])
    simp [free]
  | some other =>
    have member : other ∈ following ∧ other.description = planner.marker := by
      simpa using List.mem_of_find?_eq_some found
    have same : other.key = entry.key := by simpa using List.find?_some found
    have differs : other ≠ entry := fun equal => once (equal ▸ member.1)
    have taken : ∃ other ∈ following, other.description = planner.marker ∧ other.key = entry.key :=
      ⟨other, member.1, member.2, same⟩
    simp [taken, differs]

/-- A managed alias is deleted if its key is not desired and no later alias has it. -/
theorem mem_deletions {desired : AliasTable} :
    entry ∈ deletions (diff desired (planner.managed listed)) ↔
      (planner.managed listed)[entry.key]? = some entry ∧ entry.key ∉ desired := by
  rw [deletions_diff.mem_iff, managed_keyed.mem_missingFrom]

private theorem countP_deletions {desired : AliasTable} {earlier following : List HostAlias}
    (identified : Identified (earlier ++ entry :: following)) (marked : entry.description = planner.marker)
    (undesired : entry.key ∉ desired) :
    (deletions (diff desired (planner.managed (earlier ++ entry :: following)))).countP (·.id == entry.id) =
      if ∃ other ∈ following, other.description = planner.marker ∧ other.key = entry.key then 0 else 1 := by
  have member : entry ∈ earlier ++ entry :: following := by simp
  have named := identified.named entry member
  have once : entry ∉ following := by
    intro again
    obtain ⟨id, same⟩ := Option.ne_none_iff_exists'.mp named
    have apart := identified.unique.perm List.perm_middle.symm
    exact (uniqueIds_cons.mp apart).1 id same entry (by simp [again]) same
  have stored := deletions_stored planner desired (earlier ++ entry :: following)
  rw [identified.unique.countP_id stored.1 stored.2 member named]
  have deleted : entry ∈ deletions (diff desired (planner.managed (earlier ++ entry :: following))) ↔
      ¬ ∃ other ∈ following, other.description = planner.marker ∧ other.key = entry.key := by
    rw [mem_deletions, getElem?_managed once marked, and_iff_left undesired]
  simp only [deleted, ite_not]

/-- After one cycle nothing is left to do, unless a key that nobody desires had several managed aliases. -/
theorem settled_iff {generate : String → Except GeneratorError (List String)} {now : List HostAlias}
    (progress : ∀ key, copies planner.marker key now = planner.copiesAfter generate routers listed 1 key) :
    diff (planner.desired generate routers) (planner.managed now) = [] ↔
      ∀ key, ¬ planner.Desires generate routers key → copies planner.marker key listed ≤ 1 := by
  have gap := gap_after progress
  rw [← planned_pos, List.length_pos_iff] at gap
  have alone : 1 < max (planner.surplus generate routers listed) (planner.shortage generate routers listed) ↔
      1 < planner.surplus generate routers listed := by
    have little : ¬ 1 < planner.shortage generate routers listed := by simp [lt_shortage]
    omega
  rw [alone, lt_surplus] at gap
  constructor
  · intro nothing key unwanted
    exact Nat.not_lt.mp fun more => gap.mpr ⟨key, unwanted, more⟩ nothing
  · intro single
    refine Classical.byContradiction fun due => ?_
    obtain ⟨key, unwanted, more⟩ := gap.mp due
    exact absurd (single key unwanted) (Nat.not_le.mpr more)

end Planner

/-- Where no call fails, a plan is carried out in full, and what is then left to plan depends on the stale keys alone. -/
theorem ReliableStore.replans {aliases : σ → List HostAlias} {valid : σ → Prop} {fqdn parent : String}
    {routers : List Router} {generate : String → Except GeneratorError (List String)} {planner later : Planner}
    {plan : Plan} {now : Nat} {state : σ}
    (store : ReliableStore world aliases valid fqdn parent routers planner.limit generate) (kept : valid state)
    (identified : Identified (aliases state))
    (finished : (world.run none (planner.plan routers (aliases state)) now state).result = some (plan, later)) :
    let planned := world.run none (planner.plan routers (aliases state)) now state
    let carried := world.run none (execute parent plan.operations) planned.ended planned.state
    (∃ execution, carried.result = some execution ∧ execution.isSuccess = true) ∧
      ∃ next latest, (world.run none (later.plan routers (aliases carried.state)) carried.ended carried.state).result =
          some (next, latest) ∧
        (next.operations = [] ↔
          ∀ key, ¬ planner.Desires generate routers key → copies planner.marker key (aliases state) ≤ 1) := by
  intro planned carried
  have drifting (start finish : Nat) : world.DriftsWithin (Calm aliases valid) start finish :=
    fun first last state _ _ => store.elapse first last state
  have planning := world.run_course none (planner.plan routers (aliases state)) now state _ (drifting _ _)
  rw [finished] at planning
  obtain ⟨ready, continues, operations, -⟩ := Planner.plan_result store.generates kept planning
  obtain ⟨-, same⟩ := store.reading.plan planning kept
  obtain ⟨execution, executed⟩ := world.run_completes (execute parent plan.operations) planned.ended planned.state
  have executing := world.run_course none (execute parent plan.operations) planned.ended planned.state _ (drifting _ _)
  rw [executed] at executing
  have deleting := deletions_stored planner (planner.desired generate routers) (aliases state)
  rw [← operations] at deleting
  obtain ⟨success, moved⟩ := store.executes ready (same.symm ▸ identified) (same.symm ▸ deleting.1) deleting.2 executing
  refine ⟨⟨execution, executed, success⟩, ?_⟩
  obtain ⟨⟨next, latest⟩, replanned⟩ :=
    world.run_completes (later.plan routers (aliases carried.state)) carried.ended carried.state
  have replanning := world.run_course none (later.plan routers (aliases carried.state)) carried.ended carried.state _
    (drifting _ _)
  rw [replanned] at replanning
  obtain ⟨-, -, left, -⟩ := Planner.plan_result (continues.limit ▸ store.generates) moved.still replanning
  refine ⟨next, latest, replanned, ?_⟩
  have balanced : Balances aliases valid (diff (planner.desired generate routers) (planner.managed (aliases state)))
      state carried.state := by
    rw [← operations]
    exact moved.congr moved.still same.symm rfl
  rw [left, continues.desired, continues.managed]
  exact Planner.settled_iff balanced.copies_after

/-- Of the managed aliases of a stale key a plan deletes exactly one, the last one of the snapshot, whatever the
generator says. Carried out where no call fails, it leaves nothing to plan exactly if no stale key had several
managed aliases. -/
theorem plan_deletes_one_alias_of_stale_key (world : World σ) (planner : Planner) (routers : List Router)
    (listed : List HostAlias) (identified : Identified listed) (now : Nat) (state : σ) :
    let planned := world.run none (planner.plan routers listed) now state
    ∃ harvest plan later, (world.run none (planner.harvest routers) now state).result = some harvest ∧
      planned.result = some (plan, later) ∧
      (∀ earlier entry following, listed = earlier ++ entry :: following → entry.description = planner.marker →
        entry.key ∉ harvest.desired →
        (deletions plan.operations).countP (·.id == entry.id) =
          if ∃ other ∈ following, other.description = planner.marker ∧ other.key = entry.key then 0 else 1) ∧
      ∀ (aliases : σ → List HostAlias) (valid : σ → Prop) (fqdn parent : String)
        (generate : String → Except GeneratorError (List String)),
        ReliableStore world aliases valid fqdn parent routers planner.limit generate → valid state →
        aliases state = listed →
        let carried := world.run none (execute parent plan.operations) planned.ended planned.state
        (∃ execution, carried.result = some execution ∧ execution.isSuccess = true) ∧
          ∃ next latest, (world.run none (later.plan routers (aliases carried.state)) carried.ended
              carried.state).result = some (next, latest) ∧
            (next.operations = [] ↔
              ∀ key, ¬ planner.Desires generate routers key → copies planner.marker key listed ≤ 1) := by
  intro planned
  obtain ⟨harvest, plan, later, harvested, finished, operations, -⟩ := planner.plan_run world routers listed now state
  refine ⟨harvest, plan, later, harvested, finished, ?_, ?_⟩
  · rintro earlier entry following rfl marked undesired
    rw [operations]
    exact Planner.countP_deletions identified marked undesired
  · rintro aliases valid fqdn parent generate store kept rfl
    exact store.replans kept identified finished

/-- Two aliases of one stale key, the name cut at different dots. The plan deletes the last one alone, and although
nothing fails, the next plan still has the first one to delete. -/
theorem stale_alias_outlives_plan :
    let planner : Planner := ⟨⟨[], [], [], []⟩, "managed", 10, .empty⟩
    let first : HostAlias := ⟨some "1", "a", "b.c", "managed"⟩
    let last : HostAlias := ⟨some "2", "a.b", "c", "managed"⟩
    let scene := Rehearsal.Scene.calm "dns.lan" [] [first, last] []
    let carried := Rehearsal.world.run none (execute "override" [.delete last]) 0 scene
    (Rehearsal.world.run none (planner.plan [] scene.aliases) 0 scene).result.map (·.1.operations) =
        some [.delete last] ∧
      carried.result.map Execution.isSuccess = some true ∧
      (Rehearsal.world.run none (planner.plan [] carried.state.aliases) 0 carried.state).result.map (·.1.operations) =
        some [.delete first] := by
  decide +kernel

/-- A stale key has one alias and a desired one has two: the plan deletes the first, and then nothing is left to plan. -/
theorem plan_deletes_one_alias_of_stale_key_rehearsed :
    let planner : Planner := ⟨⟨[], [], [], []⟩, "managed", 10, .empty⟩
    let routers : List Router := [⟨"plain", "file", [], "Host(`a.b`)"⟩]
    let stale : HostAlias := ⟨some "1", "old", "b", "managed"⟩
    let stored : List HostAlias := [stale, ⟨some "2", "a", "b", "managed"⟩, ⟨some "3", "a", "b", "managed"⟩]
    let scene := Rehearsal.Scene.calm "dns.lan" routers stored []
    let planned := Rehearsal.world.run none (planner.plan routers stored) 0 scene
    Identified stored ∧ ∃ plan later, planned.result = some (plan, later) ∧
      (deletions plan.operations).countP (·.id == some "1") = 1 ∧
      let carried := Rehearsal.world.run none (execute "override" plan.operations) planned.ended planned.state
      ∃ next latest, (Rehearsal.world.run none (later.plan routers carried.state.aliases) carried.ended
        carried.state).result = some (next, latest) ∧ next.operations = [] := by
  intro planner routers stale stored scene planned
  have identified : Identified stored := ⟨by decide, by decide⟩
  refine ⟨identified, ?_⟩
  obtain ⟨harvest, plan, later, harvested, finished, deleted, carried⟩ :=
    plan_deletes_one_alias_of_stale_key Rehearsal.world planner routers stored identified 0 scene
  refine ⟨plan, later, finished, ?_, ?_⟩
  · have collected : (Rehearsal.world.run none (planner.harvest routers) 0 scene).result.map
        (·.desired.contains stale.key) = some false := by decide +kernel
    rw [harvested] at collected
    refine (deleted [] stale _ rfl rfl ?_).trans (by decide)
    intro member
    rw [Std.TreeMap.mem_iff_contains] at member
    simp [member] at collected
  · have settled : scene.Settled "dns.lan" routers [] := by
      refine ⟨rfl, rfl, rfl, ⟨rfl, rfl⟩, rfl, rfl, fun entry member number same => ?_⟩
      have foreign : entry.id ∈ stored.map HostAlias.id := List.mem_map_of_mem member
      rw [same] at foreign
      simp [stored, stale, String.ext_iff] at foreign
    obtain ⟨-, next, latest, replanned, settles⟩ := carried Rehearsal.Scene.aliases _ "dns.lan" "override" _
      (reliableStore_rehearsal "dns.lan" routers 10 []) settled rfl
    refine ⟨next, latest, replanned, settles.mpr fun key unwanted => ?_⟩
    have single : planner.surplus (Rehearsal.GeneratorTable.generate [] · 10) routers stored ≤ 1 := by decide +kernel
    refine Nat.le_of_not_lt fun more => Nat.not_lt.mpr single ?_
    exact Planner.lt_surplus.mpr ⟨key, unwanted, more⟩

end AliasSync.Sync
