import AliasSync.Alias

/-! Aliases as a store holds them: those that the tool has no business with, and ids that tell aliases
apart. -/

namespace AliasSync

def unmanaged (marker : String) (aliases : List HostAlias) : List HostAlias :=
  aliases.filter (·.description != marker)

def dropId (id : String) (aliases : List HostAlias) : List HostAlias :=
  aliases.filter (·.id != some id)

def UniqueIds (aliases : List HostAlias) : Prop := (aliases.filterMap HostAlias.id).Nodup

instance (aliases : List HostAlias) : Decidable (UniqueIds aliases) :=
  inferInstanceAs (Decidable (aliases.filterMap HostAlias.id).Nodup)

variable {marker id : String} {aliases others : List HostAlias} {entry : HostAlias}

@[simp] theorem mem_unmanaged : entry ∈ unmanaged marker aliases ↔ entry ∈ aliases ∧ entry.description ≠ marker := by
  simp [unmanaged]

@[simp] theorem mem_dropId : entry ∈ dropId id aliases ↔ entry ∈ aliases ∧ entry.id ≠ some id := by
  simp [dropId]

theorem unmanaged_perm (same : others.Perm aliases) :
    (unmanaged marker others).Perm (unmanaged marker aliases) := same.filter _

theorem dropId_perm (same : others.Perm aliases) : (dropId id others).Perm (dropId id aliases) := same.filter _

theorem unmanaged_cons_of_marked (marked : entry.description = marker) :
    unmanaged marker (entry :: aliases) = unmanaged marker aliases :=
  List.filter_cons_of_neg (by simp [marked])

theorem unmanaged_append : unmanaged marker (aliases ++ others) = unmanaged marker aliases ++ unmanaged marker others :=
  List.filter_append ..

theorem unmanaged_of_marked (marked : ∀ entry ∈ aliases, entry.description = marker) :
    unmanaged marker aliases = [] :=
  List.filter_eq_nil_iff.mpr fun entry member => by simp [marked entry member]

theorem unmanaged_dropId : unmanaged marker (dropId id aliases) = dropId id (unmanaged marker aliases) := by
  simp only [unmanaged, dropId, List.filter_filter, Bool.and_comm]

private theorem dropId_eq_self : dropId id aliases = aliases ↔ ∀ entry ∈ aliases, entry.id ≠ some id := by
  simp [dropId, List.filter_eq_self]

theorem uniqueIds_cons : UniqueIds (entry :: aliases) ↔
    (∀ id, entry.id = some id → ∀ other ∈ aliases, other.id ≠ some id) ∧ UniqueIds aliases := by
  unfold UniqueIds
  rw [List.Nodup, List.pairwise_filterMap, List.pairwise_cons, ← List.pairwise_filterMap]
  refine and_congr_left fun _ => ?_
  constructor
  · exact fun apart id named other member same => apart other member id named id same rfl
  · rintro apart other member id named _ same rfl
    exact apart id named other member same

theorem UniqueIds.perm (unique : UniqueIds aliases) (same : others.Perm aliases) : UniqueIds others :=
  (same.filterMap _).nodup_iff.mpr unique

/-- To drop an id is to take the one alias away that has it. -/
theorem UniqueIds.perm_cons_dropId (unique : UniqueIds aliases) (member : entry ∈ aliases)
    (named : entry.id = some id) : aliases.Perm (entry :: dropId id aliases) := by
  induction aliases with
  | nil => cases member
  | cons head rest ih =>
    obtain ⟨apart, unique⟩ := uniqueIds_cons.mp unique
    obtain rfl | later := List.mem_cons.mp member
    · have fresh : dropId id (entry :: rest) = rest := by
        rw [dropId, List.filter_cons_of_neg (by simp [named])]
        exact dropId_eq_self.mpr (apart id named)
      rw [fresh]
    · have other : head.id ≠ some id := fun same => apart id same entry later named
      rw [dropId, List.filter_cons_of_pos (by simpa using other)]
      exact ((ih unique later).cons head).trans (.swap ..)

theorem UniqueIds.eq_of_id {other : HostAlias} (unique : UniqueIds aliases) (member : entry ∈ aliases)
    (otherMember : other ∈ aliases) (named : entry.id = some id) (same : other.id = some id) :
    other = entry := by
  have found := (unique.perm_cons_dropId member named).mem_iff.mp otherMember
  obtain equal | dropped := List.mem_cons.mp found
  · exact equal
  · exact absurd same (mem_dropId.mp dropped).2

/-- Among aliases with ids of their own, an id counts just the alias that has it. -/
theorem UniqueIds.countP_id {chosen : List HostAlias} (unique : UniqueIds aliases)
    (within : ∀ other ∈ chosen, other ∈ aliases) (once : chosen.Nodup) (member : entry ∈ aliases)
    (named : entry.id ≠ none) :
    chosen.countP (·.id == entry.id) = if entry ∈ chosen then 1 else 0 := by
  obtain ⟨id, same⟩ := Option.ne_none_iff_exists'.mp named
  rw [← once.count]
  refine List.countP_congr fun other chosenMember => ?_
  simp only [beq_iff_eq]
  constructor
  · intro equal
    exact unique.eq_of_id member (within other chosenMember) same (equal.trans same)
  · rintro rfl
    rfl

/-- To drop a marked alias leaves the others. -/
theorem UniqueIds.dropId_unmanaged (unique : UniqueIds aliases) (member : entry ∈ aliases)
    (named : entry.id = some id) (marked : entry.description = marker) :
    dropId id (unmanaged marker aliases) = unmanaged marker aliases := by
  refine dropId_eq_self.mpr fun other otherMember same => ?_
  obtain ⟨listed, unmarked⟩ := mem_unmanaged.mp otherMember
  exact unmarked (unique.eq_of_id member listed named same ▸ marked)

structure Identified (aliases : List HostAlias) : Prop where
  named : ∀ entry ∈ aliases, entry.id ≠ none
  unique : UniqueIds aliases

theorem Identified.perm (identified : Identified aliases) (same : others.Perm aliases) : Identified others :=
  ⟨fun entry member => identified.named entry (same.mem_iff.mp member), identified.unique.perm same⟩

theorem Identified.cons {id : String} (identified : Identified aliases) (named : entry.id = some id)
    (fresh : ∀ other ∈ aliases, other.id ≠ some id) : Identified (entry :: aliases) where
  named other member := by
    obtain rfl | member := List.mem_cons.mp member
    · simp [named]
    · exact identified.named other member
  unique := by
    refine uniqueIds_cons.mpr ⟨fun id same => ?_, identified.unique⟩
    cases named.symm.trans same
    exact fresh

theorem Identified.dropId (identified : Identified aliases) : Identified (dropId id aliases) :=
  ⟨fun entry member => identified.named entry (mem_dropId.mp member).1,
    List.Nodup.sublist (List.filter_sublist.filterMap _) identified.unique⟩

def copies (marker key : String) (aliases : List HostAlias) : Nat :=
  aliases.countP fun entry => entry.description == marker && entry.key == key

def HostAlias.anonymous (entry : HostAlias) : HostAlias := { entry with id := none }

variable {key : String}

theorem copies_pos : 0 < copies marker key aliases ↔
    ∃ entry ∈ aliases, entry.description = marker ∧ entry.key = key := by
  simp [copies, List.countP_pos_iff]

theorem copies_cons : copies marker key (entry :: aliases) =
    copies marker key aliases + if entry.description = marker ∧ entry.key = key then 1 else 0 := by
  simp [copies, List.countP_cons]

theorem copies_dropId_le : copies marker key (dropId id aliases) ≤ copies marker key aliases :=
  List.filter_sublist.countP_le

theorem copies_append : copies marker key (aliases ++ others) = copies marker key aliases + copies marker key others :=
  List.countP_append

theorem copies_perm (same : others.Perm aliases) : copies marker key others = copies marker key aliases :=
  same.countP_eq _

theorem copies_anonymous : copies marker key (aliases.map HostAlias.anonymous) = copies marker key aliases := by
  rw [copies, List.countP_map]
  rfl

theorem copies_of_nodup (marked : ∀ entry ∈ aliases, entry.description = marker)
    (once : (aliases.map HostAlias.key).Nodup) :
    copies marker key aliases = if key ∈ aliases.map HostAlias.key then 1 else 0 := by
  have counted : copies marker key aliases = (aliases.map HostAlias.key).count key := by
    rw [copies, List.count, List.countP_map]
    refine List.countP_congr fun entry member => ?_
    simp [marked entry member]
  rw [counted, once.count]

end AliasSync
