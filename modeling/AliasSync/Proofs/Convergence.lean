import AliasSync.Proofs.ReliableStore
import AliasSync.Proofs.Turn

/-! Convergence. Each cycle creates what is missing and takes one alias away for every key that nobody desires, so
after as many cycles as the most common of these keys has aliases, and at least one if something is missing,
the managed keys are the desired ones and stay so. -/

namespace AliasSync.Sync

open AliasSync.Operation (creations deletions)

variable {σ : Type} {world : World σ} {aliases : σ → List HostAlias} {valid : σ → Prop}
  {fqdn parent : String} {routers : List Router} {limit : Nat}
  {generate : String → Except GeneratorError (List String)} {before after : σ}

private theorem lt_foldr_max {count : Nat} {values : List Nat} :
    count < values.foldr max 0 ↔ ∃ value ∈ values, count < value := by
  induction values with
  | nil => simp
  | cons value rest ih =>
    have split : count < max value (rest.foldr max 0) ↔ count < value ∨ count < rest.foldr max 0 := by omega
    rw [List.foldr_cons, split, ih]
    simp

namespace Planner

variable {planner later : Planner} {stored : List HostAlias} {key : String}

/-- The largest number of managed aliases that share a key which is not desired. -/
def surplus (planner : Planner) (generate : String → Except GeneratorError (List String))
    (routers : List Router) (stored : List HostAlias) : Nat :=
  (((stored.map HostAlias.key).filter (· ∉ planner.desired generate routers)).map
    (copies planner.marker · stored)).foldr max 0

/-- One if some desired name has no managed alias, and else zero. -/
def shortage (planner : Planner) (generate : String → Except GeneratorError (List String))
    (routers : List Router) (stored : List HostAlias) : Nat :=
  if ∃ host ∈ planner.hosts generate routers, copies planner.marker host.text stored = 0 then 1 else 0

theorem manages_iff : planner.Manages stored key ↔ 0 < copies planner.marker key stored := copies_pos.symm

theorem lt_surplus {count : Nat} : count < planner.surplus generate routers stored ↔
    ∃ key, ¬ planner.Desires generate routers key ∧ count < copies planner.marker key stored := by
  simp only [surplus, lt_foldr_max, List.mem_map, List.mem_filter, decide_eq_true_eq, mem_desired]
  constructor
  · rintro ⟨_, ⟨key, ⟨-, undesired⟩, rfl⟩, more⟩
    exact ⟨key, undesired, more⟩
  · rintro ⟨key, undesired, more⟩
    obtain ⟨entry, member, -, rfl⟩ := copies_pos.mp (Nat.zero_lt_of_lt more)
    exact ⟨_, ⟨entry.key, ⟨⟨entry, member, rfl⟩, undesired⟩, rfl⟩, more⟩

theorem lt_shortage {count : Nat} : count < planner.shortage generate routers stored ↔
    count = 0 ∧ ∃ key, planner.Desires generate routers key ∧ ¬ planner.Manages stored key := by
  have missing : (∃ host ∈ planner.hosts generate routers, copies planner.marker host.text stored = 0) ↔
      ∃ key, planner.Desires generate routers key ∧ ¬ planner.Manages stored key := by
    simp only [manages_iff, Nat.not_lt, Nat.le_zero]
    constructor
    · rintro ⟨host, asked, none⟩
      exact ⟨host.text, ⟨⟨host, (mem_hosts.mp asked).1, rfl⟩, (mem_hosts.mp asked).2⟩, none⟩
    · rintro ⟨_, ⟨⟨host, proper, rfl⟩, asked⟩, none⟩
      exact ⟨host, mem_hosts.mpr ⟨proper, asked⟩, none⟩
  rw [← missing, shortage]
  split
  case isTrue lacking => simp [lacking]
  case isFalse complete => simp [complete]

/-- How many managed aliases of a key there are after a number of cycles: at least one if it is desired, and else one
less with every cycle. -/
def copiesAfter (planner : Planner) (generate : String → Except GeneratorError (List String))
    (routers : List Router) (stored : List HostAlias) (cycles : Nat) (key : String) : Nat :=
  let now := copies planner.marker key stored
  if key ∈ planner.desired generate routers then (if cycles = 0 then now else max now 1) else now - cycles

private theorem copiesAfter_of_desired {cycles : Nat} (wanted : planner.Desires generate routers key) :
    planner.copiesAfter generate routers stored cycles key =
      if cycles = 0 then copies planner.marker key stored else max (copies planner.marker key stored) 1 :=
  if_pos (mem_desired.mpr wanted)

private theorem copiesAfter_of_undesired {cycles : Nat} (unwanted : ¬ planner.Desires generate routers key) :
    planner.copiesAfter generate routers stored cycles key = copies planner.marker key stored - cycles :=
  if_neg (mt mem_desired.mp unwanted)

private theorem copiesAfter_succ {now : List HostAlias} {cycles : Nat}
    (same : copies planner.marker key now = planner.copiesAfter generate routers stored cycles key) :
    planner.copiesAfter generate routers now 1 key =
      planner.copiesAfter generate routers stored (cycles + 1) key := by
  by_cases wanted : planner.Desires generate routers key
  · rw [copiesAfter_of_desired wanted] at same
    rw [copiesAfter_of_desired wanted, copiesAfter_of_desired wanted, same, if_neg Nat.one_ne_zero,
      if_neg (Nat.succ_ne_zero cycles)]
    split <;> omega
  · rw [copiesAfter_of_undesired wanted] at same
    rw [copiesAfter_of_undesired wanted, copiesAfter_of_undesired wanted, same]
    omega

/-- What is missing or stale after a number of cycles: what was missing at first, before the first cycle, and a key that
had more aliases than there were cycles. -/
theorem gap_after {now : List HostAlias} {cycles : Nat}
    (progress : ∀ key, copies planner.marker key now = planner.copiesAfter generate routers stored cycles key) :
    (∃ key, (planner.Desires generate routers key ∧ ¬ planner.Manages now key) ∨
        (planner.Manages now key ∧ ¬ planner.Desires generate routers key)) ↔
      cycles < max (planner.surplus generate routers stored) (planner.shortage generate routers stored) := by
  have split : cycles < max (planner.surplus generate routers stored) (planner.shortage generate routers stored) ↔
      cycles < planner.surplus generate routers stored ∨ cycles < planner.shortage generate routers stored := by omega
  rw [split, lt_surplus, lt_shortage]
  constructor
  · rintro ⟨key, ⟨wanted, missing⟩ | ⟨held, unwanted⟩⟩
    · rw [manages_iff, progress, copiesAfter_of_desired wanted] at missing
      have start : cycles = 0 := by
        split at missing <;> omega
      rw [if_pos start] at missing
      exact .inr ⟨start, key, wanted, mt manages_iff.mp missing⟩
    · rw [manages_iff, progress, copiesAfter_of_undesired unwanted] at held
      exact .inl ⟨key, unwanted, by omega⟩
  · rintro (⟨key, unwanted, more⟩ | ⟨rfl, key, wanted, missing⟩)
    · refine ⟨key, .inr ⟨manages_iff.mpr ?_, unwanted⟩⟩
      rw [progress, copiesAfter_of_undesired unwanted]
      omega
    · refine ⟨key, .inl ⟨wanted, fun held => missing (manages_iff.mpr ?_)⟩⟩
      rw [manages_iff, progress, copiesAfter_of_desired wanted, if_pos rfl] at held
      exact held

private theorem Continues.refl : planner.Continues generate planner := ⟨rfl, rfl, rfl, rfl⟩

private theorem Continues.trans {last : Planner} (first : planner.Continues generate later)
    (second : later.Continues generate last) : planner.Continues generate last :=
  ⟨second.filter.trans first.filter, second.marker.trans first.marker, second.limit.trans first.limit,
    second.expansion.trans first.expansion⟩

theorem Continues.desired (continues : planner.Continues generate later) :
    later.desired generate routers = planner.desired generate routers := by
  unfold Planner.desired hosts
  rw [continues.filter, continues.marker, continues.expansion]

theorem Continues.managed (continues : planner.Continues generate later) :
    later.managed stored = planner.managed stored := by
  unfold Planner.managed
  rw [continues.marker]

theorem desired_marked {entry : HostAlias}
    (member : entry ∈ (planner.desired generate routers).missingFrom (planner.managed stored)) :
    entry.description = planner.marker := by
  obtain ⟨key, found, -⟩ := AliasTable.mem_missingFrom.mp member
  obtain ⟨host, -, -, rfl⟩ := getElem?_desired.mp found
  rfl

private theorem managed_marked {entry : HostAlias}
    (member : entry ∈ (planner.managed stored).missingFrom (planner.desired generate routers)) :
    entry.description = planner.marker := by
  obtain ⟨key, found, -⟩ := AliasTable.mem_missingFrom.mp member
  exact (managed_entry found).2.1

private theorem missing_iff : key ∈
    ((planner.desired generate routers).missingFrom (planner.managed stored)).map HostAlias.key ↔
    planner.Desires generate routers key ∧ ¬ planner.Manages stored key := by
  rw [desired_keyed.key_mem_missingFrom, mem_desired, mem_managed]

private theorem stale_iff : key ∈
    ((planner.managed stored).missingFrom (planner.desired generate routers)).map HostAlias.key ↔
    planner.Manages stored key ∧ ¬ planner.Desires generate routers key := by
  rw [managed_keyed.key_mem_missingFrom, mem_desired, mem_managed]

/-- A desired key is missing once if it has no managed alias. -/
theorem copies_missing :
    copies planner.marker key ((planner.desired generate routers).missingFrom (planner.managed stored)) =
      if key ∈ planner.desired generate routers then 1 - copies planner.marker key stored else 0 := by
  rw [copies_of_nodup (fun _ => desired_marked) (desired_keyed.nodup_missingFrom _)]
  by_cases wanted : planner.Desires generate routers key
  · rw [if_pos (mem_desired.mpr wanted)]
    split
    case isTrue missing =>
      have none := mt manages_iff.mpr (missing_iff.mp missing).2
      omega
    case isFalse present =>
      have held : planner.Manages stored key :=
        Classical.byContradiction fun none => present (missing_iff.mpr ⟨wanted, none⟩)
      have some := manages_iff.mp held
      omega
  · rw [if_neg (mt mem_desired.mp wanted), if_neg fun missing => wanted (missing_iff.mp missing).1]

/-- A key that is not desired is stale once if it has managed aliases. -/
theorem copies_stale :
    copies planner.marker key ((planner.managed stored).missingFrom (planner.desired generate routers)) =
      if key ∈ planner.desired generate routers then 0 else min 1 (copies planner.marker key stored) := by
  rw [copies_of_nodup (fun _ => managed_marked) (managed_keyed.nodup_missingFrom _)]
  by_cases wanted : planner.Desires generate routers key
  · rw [if_pos (mem_desired.mpr wanted), if_neg fun stale => (stale_iff.mp stale).2 wanted]
  · rw [if_neg (mt mem_desired.mp wanted)]
    split
    case isTrue stale =>
      have some := manages_iff.mp (stale_iff.mp stale).1
      omega
    case isFalse absent =>
      have none := mt manages_iff.mpr fun held => absent (stale_iff.mpr ⟨held, wanted⟩)
      omega

theorem planned_pos : 0 < (diff (planner.desired generate routers) (planner.managed stored)).length ↔
    ∃ key, (planner.Desires generate routers key ∧ ¬ planner.Manages stored key) ∨
      (planner.Manages stored key ∧ ¬ planner.Desires generate routers key) := by
  simp only [List.length_pos_iff_exists_mem, ← missing_iff, ← stale_iff, List.mem_map]
  constructor
  · rintro ⟨operation, member⟩
    cases operation with
    | create entry => exact ⟨entry.key, .inl ⟨entry, create_mem_diff.mp member, rfl⟩⟩
    | delete entry => exact ⟨entry.key, .inr ⟨entry, delete_mem_diff.mp member, rfl⟩⟩
  · rintro ⟨_, ⟨entry, missing, rfl⟩ | ⟨entry, stale, rfl⟩⟩
    · exact ⟨.create entry, create_mem_diff.mpr missing⟩
    · exact ⟨.delete entry, delete_mem_diff.mpr stale⟩

end Planner

section Balance

variable {planner : Planner}
  (moved : Balances aliases valid
    (diff (planner.desired generate routers) (planner.managed (aliases before))) before after)
include moved

theorem Balances.copies_after (key : String) :
    copies planner.marker key (aliases after) = planner.copiesAfter generate routers (aliases before) 1 key := by
  have total := moved.tally planner.marker key
  rw [copies_perm deletions_diff, copies_perm creations_diff, Planner.copies_missing, Planner.copies_stale] at total
  rw [Planner.copiesAfter, if_neg Nat.one_ne_zero]
  split at total
  case isTrue wanted => rw [if_pos wanted]; omega
  case isFalse unwanted => rw [if_neg unwanted]; omega

private theorem Balances.unmanaged_after :
    (unmanaged planner.marker (aliases after)).Perm (unmanaged planner.marker (aliases before)) := by
  obtain ⟨created, names, balance⟩ := moved.balance
  have deletedMarked : ∀ entry ∈ deletions (diff (planner.desired generate routers)
      (planner.managed (aliases before))), entry.description = planner.marker :=
    fun entry member => Planner.managed_marked (deletions_diff.mem_iff.mp member)
  have createdMarked : ∀ entry ∈ created, entry.description = planner.marker := by
    intro entry member
    have nameless := List.mem_map_of_mem (f := HostAlias.anonymous) member
    rw [names] at nameless
    obtain ⟨origin, ordered, same⟩ := List.mem_map.mp nameless
    have described : origin.anonymous.description = entry.anonymous.description :=
      congrArg HostAlias.description same
    have marked : origin.description = planner.marker :=
      Planner.desired_marked (creations_diff.mem_iff.mp ordered)
    exact described.symm.trans marked
  have kept : (unmanaged planner.marker _).Perm (unmanaged planner.marker _) := unmanaged_perm balance
  rwa [unmanaged_append, unmanaged_append, unmanaged_of_marked deletedMarked, unmanaged_of_marked createdMarked,
    List.append_nil, List.nil_append] at kept

end Balance

/-- A turn that is run to its end, is not a dry run, and begins with an id of its own for every alias of the store. -/
structure Turn.Ready (aliases : σ → List HostAlias) (valid : σ → Prop) (fqdn : String) (limit : Nat)
    (turn : Turn σ) : Prop where
  uncut : turn.stop = none
  live : turn.syncer.dryRun = false
  named : turn.syncer.hostOverride = fqdn
  bound : turn.syncer.planner.limit = limit
  begins : valid turn.state
  identified : Identified (aliases turn.state)

def Turn.gap (aliases : σ → List HostAlias) (generate : String → Except GeneratorError (List String))
    (routers : List Router) (turn : Turn σ) : List Operation :=
  diff (turn.syncer.planner.desired generate routers) (turn.syncer.planner.managed (aliases turn.state))

/-- A turn succeeds with a plan that closes the gap, and leaves everything ready for the next one. -/
theorem ReliableStore.turn (store : ReliableStore world aliases valid fqdn parent routers limit generate)
    {turn : Turn σ} (ready : turn.Ready aliases valid fqdn limit) (pause : Nat) :
    (∃ summary later, (turn.run world).result = some (.ok summary, later) ∧
        summary.planned = (turn.gap aliases generate routers).length) ∧
      (turn.next world pause).Ready aliases valid fqdn limit ∧
      turn.syncer.planner.Continues generate (turn.next world pause).syncer.planner ∧
      Balances aliases valid (turn.gap aliases generate routers) turn.state (turn.next world pause).state := by
  obtain ⟨⟨reply, later⟩, finished⟩ : ∃ value, (turn.run world).result = some value := by
    rw [Turn.run, ready.uncut]
    exact world.run_completes ..
  have course := turn.course (Calm aliases valid) fun first last state _ _ => store.elapse first last state
  rw [finished] at course
  obtain ⟨⟨summary, rfl, planned⟩, same, continues, moved⟩ :=
    store.cycle ready.begins ready.identified ready.live ready.named ready.bound course
  have syncer : (turn.next world pause).syncer = later := by
    rw [Turn.next, finished]
    rfl
  obtain ⟨begins, unchanged⟩ := store.elapse (turn.run world).ended ((turn.run world).ended + pause) _ moved.still
  have moved := moved.congr begins rfl unchanged
  refine ⟨⟨summary, later, finished, planned⟩, ⟨ready.uncut, ?_, ?_, ?_, begins, moved.identified⟩,
    syncer.symm ▸ continues, moved⟩
  · rw [syncer, same]
    exact ready.live
  · rw [syncer, same]
    exact ready.named
  · rw [syncer, continues.limit]
    exact ready.bound

structure Turn.Progress (aliases : σ → List HostAlias) (valid : σ → Prop) (fqdn : String) (limit : Nat)
    (generate : String → Except GeneratorError (List String)) (routers : List Router) (first : Turn σ)
    (count : Nat) (turn : Turn σ) : Prop where
  ready : turn.Ready aliases valid fqdn limit
  continues : first.syncer.planner.Continues generate turn.syncer.planner
  copies : ∀ key, copies first.syncer.planner.marker key (aliases turn.state) =
    first.syncer.planner.copiesAfter generate routers (aliases first.state) count key
  unmanaged : (unmanaged first.syncer.planner.marker (aliases turn.state)).Perm
    (unmanaged first.syncer.planner.marker (aliases first.state))

private theorem ReliableStore.progress (store : ReliableStore world aliases valid fqdn parent routers limit generate)
    {first : Turn σ} (ready : first.Ready aliases valid fqdn limit) (pauses : Nat → Nat) (count : Nat) :
    first.Progress aliases valid fqdn limit generate routers count (first.nth world pauses count) := by
  induction count with
  | zero =>
    refine ⟨ready, .refl, fun key => ?_, .refl _⟩
    simp [Planner.copiesAfter, Turn.nth]
  | succ count ih =>
    obtain ⟨-, ready, continues, moved⟩ := store.turn ih.ready (pauses count)
    rw [Turn.gap, ih.continues.desired, ih.continues.managed] at moved
    refine ⟨ready, ih.continues.trans continues, fun key => ?_, moved.unmanaged_after.trans ih.unmanaged⟩
    exact (moved.copies_after key).trans (Planner.copiesAfter_succ (ih.copies key))

/-- Cycle after cycle succeeds in a world in which no call fails and only the tool changes the aliases, whatever the
pauses between them, whatever the cache knows at the beginning and whatever the store then holds. The plan is
not empty in just as many cycles as it takes to delete the most common of the managed keys that are not
desired, or to create what is missing. From then on the managed keys are the desired ones, a key that was
missing at the beginning has a single managed alias, and the other aliases are still those of the beginning. -/
theorem sync_converges (world : World σ) (aliases : σ → List HostAlias) (valid : σ → Prop) (fqdn parent : String)
    (routers : List Router) (limit : Nat) (generate : String → Except GeneratorError (List String))
    (store : ReliableStore world aliases valid fqdn parent routers limit generate) (first : Turn σ)
    (ready : first.Ready aliases valid fqdn limit) (pauses : Nat → Nat) (count : Nat) :
    let planner := first.syncer.planner
    let atFirst := aliases first.state
    let turn := first.nth world pauses count
    let now := aliases turn.state
    let cycles := max (planner.surplus generate routers atFirst) (planner.shortage generate routers atFirst)
    ∃ summary later, (turn.run world).result = some (.ok summary, later) ∧
      (0 < summary.planned ↔ count < cycles) ∧
      (cycles ≤ count →
        (∀ key, planner.Manages now key ↔ planner.Desires generate routers key) ∧
        (∀ key, planner.Desires generate routers key → ¬ planner.Manages atFirst key →
          copies planner.marker key now = 1) ∧
        (unmanaged planner.marker now).Perm (unmanaged planner.marker atFirst)) := by
  intro planner atFirst turn now cycles
  have progress := store.progress ready pauses count
  obtain ⟨⟨summary, later, finished, planned⟩, -⟩ := store.turn progress.ready 0
  have gap := Planner.gap_after progress.copies
  refine ⟨summary, later, finished, ?_, fun enough => ?_⟩
  · rw [planned, Turn.gap, progress.continues.desired, progress.continues.managed, Planner.planned_pos]
    exact gap
  · have level := mt gap.mp (Nat.not_lt.mpr enough)
    refine ⟨fun key => ⟨fun held => ?_, fun wanted => ?_⟩, fun key wanted missing => ?_, progress.unmanaged⟩
    · exact Classical.byContradiction fun unwanted => level ⟨key, .inr ⟨held, unwanted⟩⟩
    · exact Classical.byContradiction fun missing => level ⟨key, .inl ⟨wanted, missing⟩⟩
    · have started : count ≠ 0 := by
        rintro rfl
        have short : 0 < planner.shortage generate routers atFirst :=
          Planner.lt_shortage.mpr ⟨rfl, key, wanted, missing⟩
        omega
      have none : copies first.syncer.planner.marker key (aliases first.state) = 0 :=
        Nat.eq_zero_of_not_pos (mt Planner.manages_iff.mpr missing)
      rw [progress.copies, Planner.copiesAfter_of_desired wanted, if_neg started, none]
      rfl

/-- A key that is not desired has two managed aliases, and a desired one has none: after two cycles, a minute apart,
everything is in place. -/
theorem sync_converges_rehearsed :
    let routers : List Router := [⟨"plain", "file", [], "Host(`a.b`)"⟩]
    let stored : List HostAlias :=
      [⟨some "1", "old", "b", "managed"⟩, ⟨some "2", "old", "b", "managed"⟩, ⟨some "3", "own", "b", "other"⟩]
    let planner : Planner := ⟨⟨[], [], [], []⟩, "managed", 10, .empty⟩
    let first : Turn Rehearsal.Scene := ⟨⟨planner, "dns.lan", false⟩, none, 0, .calm "dns.lan" routers stored []⟩
    let generate (pattern : String) := Rehearsal.GeneratorTable.generate [] pattern 10
    let third := first.nth Rehearsal.world (fun _ => 60000) 2
    planner.surplus generate routers stored = 2 ∧ planner.shortage generate routers stored = 1 ∧
      (∀ key, planner.Manages third.state.aliases key ↔ planner.Desires generate routers key) ∧
      copies "managed" "a.b" third.state.aliases = 1 ∧
      (unmanaged "managed" third.state.aliases).Perm [⟨some "3", "own", "b", "other"⟩] := by
  intro routers stored planner first generate third
  have surplus : planner.surplus generate routers stored = 2 := by decide +kernel
  have shortage : planner.shortage generate routers stored = 1 := by decide +kernel
  have settled : first.state.Settled "dns.lan" routers [] := by
    refine ⟨rfl, rfl, rfl, ⟨rfl, rfl⟩, rfl, rfl, fun entry member number same => ?_⟩
    have foreign : entry.id ∈ stored.map HostAlias.id := List.mem_map_of_mem member
    rw [same] at foreign
    simp [stored, String.ext_iff] at foreign
  have ready : first.Ready Rehearsal.Scene.aliases (Rehearsal.Scene.Settled "dns.lan" routers []) "dns.lan" 10 :=
    ⟨rfl, rfl, rfl, rfl, settled, by decide, by decide⟩
  obtain ⟨-, -, -, -, done⟩ := sync_converges Rehearsal.world Rehearsal.Scene.aliases _ "dns.lan" "override" routers 10
    generate (reliableStore_rehearsal "dns.lan" routers 10 []) first ready (fun _ => 60000) 2
  obtain ⟨same, single, others⟩ := done (Nat.max_le.mpr ⟨Nat.le_of_eq surplus, Nat.le_succ_of_le (Nat.le_of_eq shortage)⟩)
  refine ⟨surplus, shortage, same, single "a.b" ?_ ?_, others⟩
  · exact Planner.mem_desired.mp (by decide +kernel)
  · exact mt Planner.mem_managed.mpr (by decide +kernel)

end AliasSync.Sync
