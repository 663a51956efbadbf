import AliasSync.Alias.Diff

/-! Alias tables and their difference: which changes a difference holds, and that it holds each once. -/

namespace AliasSync

namespace AliasTable

def Keyed (table : AliasTable) : Prop :=
  ∀ (key : String) (entry : HostAlias), table[key]? = some entry → entry.key = key

private theorem ofList_append (aliases : List HostAlias) (entry : HostAlias) :
    ofList (aliases ++ [entry]) = (ofList aliases).insert entry.key entry :=
  List.foldl_append

/-- Under a key stands the last alias of the list that has it. -/
theorem getElem?_ofList (aliases : List HostAlias) (key : String) :
    (ofList aliases)[key]? = aliases.reverse.find? (·.key == key) := by
  rw [← aliases.reverse_reverse]
  induction aliases.reverse with
  | nil => simp [ofList]
  | cons entry rest ih =>
    simp only [List.reverse_cons, ofList_append, Std.TreeMap.getElem?_insert, Std.LawfulEqCmp.compare_eq_iff_eq,
      List.reverse_append, List.reverse_nil, List.nil_append, List.singleton_append, List.find?_cons, ih]
    by_cases same : entry.key = key
    · simp [same]
    · simp [same, beq_false_of_ne same]

theorem mem_of_getElem?_ofList {aliases : List HostAlias} {key : String} {entry : HostAlias}
    (found : (ofList aliases)[key]? = some entry) : entry ∈ aliases ∧ entry.key = key := by
  rw [getElem?_ofList] at found
  exact ⟨List.mem_reverse.mp (List.mem_of_find?_eq_some found),
    by simpa using List.find?_some found⟩

theorem mem_ofList {aliases : List HostAlias} {key : String} :
    key ∈ ofList aliases ↔ ∃ entry ∈ aliases, entry.key = key := by
  rw [Std.TreeMap.mem_iff_isSome_getElem?, getElem?_ofList]
  simp

theorem keyed_ofList (aliases : List HostAlias) : Keyed (ofList aliases) :=
  fun _ _ found => (mem_of_getElem?_ofList found).2

theorem mem_missingFrom {table other : AliasTable} {entry : HostAlias} :
    entry ∈ table.missingFrom other ↔ ∃ key, table[key]? = some entry ∧ key ∉ other := by
  simp only [missingFrom, List.mem_map, List.mem_filter, Prod.exists, exists_eq_right,
    Std.TreeMap.mem_toList_iff_getElem?_eq_some, Bool.not_eq_true', ← Std.TreeMap.contains_iff_mem,
    Bool.not_eq_true]

theorem Keyed.mem_missingFrom {table other : AliasTable} (keyed : Keyed table) {entry : HostAlias} :
    entry ∈ table.missingFrom other ↔ table[entry.key]? = some entry ∧ entry.key ∉ other := by
  rw [AliasTable.mem_missingFrom]
  constructor
  · rintro ⟨key, found, absent⟩
    obtain rfl := keyed key entry found
    exact ⟨found, absent⟩
  · exact fun ⟨found, absent⟩ => ⟨entry.key, found, absent⟩

theorem Keyed.key_mem_missingFrom {table other : AliasTable} (keyed : Keyed table) {key : String} :
    key ∈ (table.missingFrom other).map HostAlias.key ↔ key ∈ table ∧ key ∉ other := by
  simp only [List.mem_map, keyed.mem_missingFrom]
  constructor
  · rintro ⟨entry, ⟨found, absent⟩, rfl⟩
    exact ⟨Std.TreeMap.mem_iff_isSome_getElem?.mpr (by rw [found]; rfl), absent⟩
  · rintro ⟨present, absent⟩
    obtain ⟨entry, found⟩ := Option.isSome_iff_exists.mp (Std.TreeMap.mem_iff_isSome_getElem?.mp present)
    obtain rfl := keyed key entry found
    exact ⟨entry, ⟨found, absent⟩, rfl⟩

/-- The keys of the missing aliases are keys of the table, so none comes twice. -/
theorem Keyed.nodup_missingFrom {table : AliasTable} (keyed : Keyed table) (other : AliasTable) :
    ((table.missingFrom other).map HostAlias.key).Nodup := by
  have own : (table.missingFrom other).map HostAlias.key =
      (table.toList.filter fun pair => !other.contains pair.1).map Prod.fst := by
    rw [missingFrom, List.map_map]
    refine List.map_congr_left fun pair member => ?_
    exact keyed _ _ (Std.TreeMap.mem_toList_iff_getElem?_eq_some.mp (List.mem_filter.mp member).1)
  rw [own]
  refine List.Nodup.sublist (List.filter_sublist.map Prod.fst) ?_
  rw [Std.TreeMap.map_fst_toList_eq_keys]
  exact Std.TreeMap.nodup_keys

end AliasTable

namespace Operation

def creations (operations : List Operation) : List HostAlias :=
  operations.filterMap fun
    | create entry => some entry
    | delete _ => none

def deletions (operations : List Operation) : List HostAlias :=
  operations.filterMap fun
    | create _ => none
    | delete entry => some entry

variable (operations others : List Operation) (aliases : List HostAlias)

theorem creations_append : creations (operations ++ others) = creations operations ++ creations others :=
  List.filterMap_append

theorem deletions_append : deletions (operations ++ others) = deletions operations ++ deletions others :=
  List.filterMap_append

theorem creations_map_create : creations (aliases.map create) = aliases := by
  rw [creations, List.filterMap_map]
  exact List.filterMap_some

theorem creations_map_delete : creations (aliases.map delete) = [] := by
  rw [creations, List.filterMap_map]
  exact List.filterMap_eq_nil_iff.mpr fun _ _ => rfl

theorem deletions_map_create : deletions (aliases.map create) = [] := by
  rw [deletions, List.filterMap_map]
  exact List.filterMap_eq_nil_iff.mpr fun _ _ => rfl

theorem deletions_map_delete : deletions (aliases.map delete) = aliases := by
  rw [deletions, List.filterMap_map]
  exact List.filterMap_some

end Operation

theorem byFoldedKey_perm (aliases : List HostAlias) : (byFoldedKey aliases).Perm aliases :=
  List.mergeSort_perm ..

variable {desired current : AliasTable}

theorem create_mem_diff {entry : HostAlias} :
    .create entry ∈ diff desired current ↔ entry ∈ desired.missingFrom current := by
  simp [diff, (byFoldedKey_perm _).mem_iff]

theorem delete_mem_diff {entry : HostAlias} :
    .delete entry ∈ diff desired current ↔ entry ∈ current.missingFrom desired := by
  simp [diff, (byFoldedKey_perm _).mem_iff]

theorem creations_diff : (Operation.creations (diff desired current)).Perm (desired.missingFrom current) := by
  rw [diff, Operation.creations_append, Operation.creations_map_delete, Operation.creations_map_create]
  exact byFoldedKey_perm _

theorem deletions_diff : (Operation.deletions (diff desired current)).Perm (current.missingFrom desired) := by
  rw [diff, Operation.deletions_append, Operation.deletions_map_delete, Operation.deletions_map_create,
    List.append_nil]
  exact byFoldedKey_perm _

private theorem AliasTable.missingFrom_congr {table again other another : AliasTable}
    (same : ∀ key : String, table[key]? = again[key]?) (also : ∀ key : String, other[key]? = another[key]?) :
    table.missingFrom other = again.missingFrom another := by
  have entries : table.toList = again.toList := (Std.TreeMap.Equiv.of_forall_constGet?_eq same).toList_eq
  have present : other.contains = another.contains := by
    funext key
    rw [Std.TreeMap.contains_eq_isSome_getElem?, Std.TreeMap.contains_eq_isSome_getElem?, also]
  rw [missingFrom, missingFrom, entries, present]

/-- Tables with the same aliases under the same keys have the same differences. -/
theorem diff_congr {other : AliasTable} (same : ∀ key : String, desired[key]? = other[key]?) :
    diff desired current = diff other current := by
  rw [diff, diff, AliasTable.missingFrom_congr (fun _ => rfl) same, AliasTable.missingFrom_congr same fun _ => rfl]

theorem diff_congr_current {other : AliasTable} (same : ∀ key : String, current[key]? = other[key]?) :
    diff desired current = diff desired other := by
  rw [diff, diff, AliasTable.missingFrom_congr same fun _ => rfl, AliasTable.missingFrom_congr (fun _ => rfl) same]

/-- No key is changed twice by a difference, be it by deletion or by creation. -/
theorem nodup_diff (desiredKeyed : desired.Keyed) (currentKeyed : current.Keyed) :
    ((diff desired current).map Operation.key).Nodup := by
  have keys (aliases : List HostAlias) (kind : HostAlias → Operation)
      (same : ∀ entry, (kind entry).key = entry.key) :
      (((byFoldedKey aliases).map kind).map Operation.key).Perm (aliases.map HostAlias.key) := by
    rw [List.map_map, show Operation.key ∘ kind = HostAlias.key from funext same]
    exact (byFoldedKey_perm aliases).map _
  rw [diff, List.map_append, List.nodup_append]
  refine ⟨(keys _ .delete fun _ => rfl).nodup_iff.mpr (currentKeyed.nodup_missingFrom desired),
    (keys _ .create fun _ => rfl).nodup_iff.mpr (desiredKeyed.nodup_missingFrom current), ?_⟩
  intro key deleted other created same
  subst same
  rw [(keys _ .delete fun _ => rfl).mem_iff] at deleted
  rw [(keys _ .create fun _ => rfl).mem_iff] at created
  obtain ⟨old, oldMissing, rfl⟩ := List.mem_map.mp deleted
  obtain ⟨new, newMissing, same⟩ := List.mem_map.mp created
  have absent := (currentKeyed.mem_missingFrom.mp oldMissing).2
  have present := (desiredKeyed.mem_missingFrom.mp newMissing).1
  rw [same] at present
  exact absent (Std.TreeMap.mem_iff_isSome_getElem?.mpr (by rw [present]; rfl))

end AliasSync
