import AliasSync.Proofs.ByteOrder
import AliasSync.Proofs.ChangeOrder
import Mathlib.Data.List.Nodup

/-! The difference of two alias tables, as a list: which changes it holds, that it holds each once, and where each of
them stands. No other list holds the same changes in that order. -/

namespace AliasSync

open AliasSync.Text (lowerCase bytes bytes_lt_iff)

namespace Operation

/-- Deletions precede creations. Within a kind the bytes of the keys decide, in lower case, and as they are where they
agree in lower case. -/
def Precedes (first second : Operation) : Prop :=
  first.kind = .delete ∧ second.kind = .create ∨
    first.kind = second.kind ∧
      (bytes (lowerCase first.key) < bytes (lowerCase second.key) ∨
        lowerCase first.key = lowerCase second.key ∧ bytes first.key < bytes second.key)

instance (first second : Operation) : Decidable (first.Precedes second) := by
  unfold Precedes
  infer_instance

variable {first second : Operation}

private theorem Precedes.asymm (earlier : first.Precedes second) : ¬ second.Precedes first := by
  intro later
  obtain ⟨deletes, creates⟩ | ⟨same, forth⟩ := earlier
  · obtain ⟨again, -⟩ | ⟨same, -⟩ := later
    · cases creates.symm.trans again
    · cases creates.symm.trans (same.trans deletes)
  · obtain ⟨again, creates⟩ | ⟨-, back⟩ := later
    · cases again.symm.trans (same.symm.trans creates)
    · obtain less | ⟨tie, below⟩ := forth
      · obtain greater | ⟨tie, -⟩ := back
        · exact List.lt_asymm less greater
        · rw [tie] at less
          exact List.lt_irrefl _ less
      · obtain greater | ⟨-, above⟩ := back
        · rw [tie] at greater
          exact List.lt_irrefl _ greater
        · exact List.lt_asymm below above

/-- The order of the aliases is the order of the operations of one kind. -/
theorem Precedes.of_entries (same : first.kind = second.kind) (earlier : first.entry.Precedes second.entry) :
    first.Precedes second := by
  obtain ⟨below, tie⟩ := earlier
  refine .inr ⟨same, ?_⟩
  rw [bytes_lt_iff, bytes_lt_iff]
  obtain less | equal := lt_or_eq_of_le below
  · exact .inl less
  · exact .inr ⟨equal, compareOfLessAndEq_eq_lt.mp (tie equal.ge)⟩

end Operation

/-- The operations are the changes that lead from one table to the keys of another, each once and in its place. -/
structure Arranged (desired current : AliasTable) (operations : List Operation) : Prop where
  deletions : ∀ entry, .delete entry ∈ operations ↔ ∃ key, current[key]? = some entry ∧ key ∉ desired
  creations : ∀ entry, .create entry ∈ operations ↔ ∃ key, desired[key]? = some entry ∧ key ∉ current
  once : (operations.map Operation.key).Nodup
  ordered : operations.Pairwise Operation.Precedes

variable {desired current : AliasTable} {operations others : List Operation}

private theorem pairwise_diff (desiredKeyed : desired.Keyed) (currentKeyed : current.Keyed) :
    (diff desired current).Pairwise Operation.Precedes := by
  have part {table other : AliasTable} (keyed : table.Keyed) {change : HostAlias → Operation}
      (kind : ∀ entry other, (change entry).kind = (change other).kind)
      (own : ∀ entry, (change entry).entry = entry) :
      ((byFoldedKey (table.missingFrom other)).map change).Pairwise Operation.Precedes := by
    rw [List.pairwise_map]
    refine (pairwise_byFoldedKey (keyed.pairwise_missingFrom other)).imp ?_
    intro first second earlier
    apply Operation.Precedes.of_entries (kind first second)
    rwa [own, own]
  rw [diff, List.pairwise_append]
  refine ⟨part currentKeyed (fun _ _ => rfl) fun _ => rfl, part desiredKeyed (fun _ _ => rfl) fun _ => rfl, ?_⟩
  intro first deleted second created
  obtain ⟨old, -, rfl⟩ := List.mem_map.mp deleted
  obtain ⟨new, -, rfl⟩ := List.mem_map.mp created
  exact .inl ⟨rfl, rfl⟩

private theorem arranged_diff (desiredKeyed : desired.Keyed) (currentKeyed : current.Keyed) :
    Arranged desired current (diff desired current) where
  deletions _ := delete_mem_diff.trans AliasTable.mem_missingFrom
  creations _ := create_mem_diff.trans AliasTable.mem_missingFrom
  once := nodup_diff desiredKeyed currentKeyed
  ordered := pairwise_diff desiredKeyed currentKeyed

private theorem Arranged.unique (arranged : Arranged desired current operations)
    (also : Arranged desired current others) :
    operations = others := by
  refine List.Perm.eq_of_pairwise ?_ arranged.ordered also.ordered ?_
  · intro first second _ _ forth back
    cases forth.asymm back
  · apply (List.perm_ext_iff_of_nodup (.of_map _ arranged.once) (.of_map _ also.once)).mpr
    intro operation
    cases operation with
    | create entry => rw [arranged.creations, also.creations]
    | delete entry => rw [arranged.deletions, also.deletions]

private theorem creations_diff_eq (desired current : AliasTable) :
    Operation.creations (diff desired current) = byFoldedKey (desired.missingFrom current) := by
  rw [diff, Operation.creations_append, Operation.creations_map_delete, Operation.creations_map_create,
    List.nil_append]

private theorem deletions_diff_eq (desired current : AliasTable) :
    Operation.deletions (diff desired current) = byFoldedKey (current.missingFrom desired) := by
  rw [diff, Operation.deletions_append, Operation.deletions_map_delete, Operation.deletions_map_create,
    List.append_nil]

private theorem AliasTable.missingFrom_eq_nil {table other : AliasTable} :
    table.missingFrom other = [] ↔ ∀ key ∈ table, key ∈ other := by
  rw [List.eq_nil_iff_forall_not_mem]
  constructor
  · intro nothing key present
    obtain ⟨entry, found⟩ := Option.isSome_iff_exists.mp (Std.TreeMap.mem_iff_isSome_getElem?.mp present)
    refine Decidable.byContradiction fun absent => ?_
    exact nothing entry (mem_missingFrom.mpr ⟨key, found, absent⟩)
  · intro within entry missing
    obtain ⟨key, found, absent⟩ := mem_missingFrom.mp missing
    exact absent (within key (Std.TreeMap.mem_iff_isSome_getElem?.mpr (by rw [found]; rfl)))

private theorem diff_eq_nil_iff : diff desired current = [] ↔ ∀ key, key ∈ desired ↔ key ∈ current := by
  have sorted (aliases : List HostAlias) : byFoldedKey aliases = [] ↔ aliases = [] := by
    rw [← List.length_eq_zero_iff, (byFoldedKey_perm aliases).length_eq, List.length_eq_zero_iff]
  rw [diff, List.append_eq_nil_iff, List.map_eq_nil_iff, List.map_eq_nil_iff, sorted, sorted,
    AliasTable.missingFrom_eq_nil, AliasTable.missingFrom_eq_nil]
  constructor
  · intro included key
    obtain ⟨stale, missing⟩ := included
    exact ⟨missing key, stale key⟩
  · intro same
    exact ⟨fun key => (same key).mpr, fun key => (same key).mp⟩

/-- A difference is the one arrangement of its changes. It is empty just for tables with the same keys, and the other
way round it creates what it deletes and deletes what it creates. -/
theorem diff_is_exact (desiredKeyed : desired.Keyed) (currentKeyed : current.Keyed) :
    (∀ operations, Arranged desired current operations ↔ operations = diff desired current) ∧
      (diff desired current = [] ↔ ∀ key, key ∈ desired ↔ key ∈ current) ∧
      Operation.creations (diff current desired) = Operation.deletions (diff desired current) ∧
      Operation.deletions (diff current desired) = Operation.creations (diff desired current) := by
  have arranged := arranged_diff desiredKeyed currentKeyed
  refine ⟨fun operations => ⟨?_, ?_⟩, diff_eq_nil_iff, ?_, ?_⟩
  · intro also
    exact also.unique arranged
  · intro same
    rw [same]
    exact arranged
  · rw [creations_diff_eq, deletions_diff_eq]
  · rw [creations_diff_eq, deletions_diff_eq]

/-- `É` and `é` are two names, and so are `B` and `b`, though each two agree in lower case. -/
theorem diff_is_exact_folded :
    let desired : AliasTable := .ofList
      [⟨none, "b", "x", "m"⟩, ⟨none, "É", "x", "m"⟩, ⟨none, "B", "x", "m"⟩, ⟨none, "keep", "x", "m"⟩]
    let current : AliasTable := .ofList
      [⟨some "1", "keep", "x", "other"⟩, ⟨some "2", "é", "x", "m"⟩, ⟨some "3", "Zed", "x", "m"⟩]
    desired.Keyed ∧ current.Keyed ∧ diff desired current =
      [.delete ⟨some "3", "Zed", "x", "m"⟩, .delete ⟨some "2", "é", "x", "m"⟩, .create ⟨none, "B", "x", "m"⟩,
        .create ⟨none, "b", "x", "m"⟩, .create ⟨none, "É", "x", "m"⟩] := by
  intro desired current
  have desiredKeyed : desired.Keyed := AliasTable.keyed_ofList _
  have currentKeyed : current.Keyed := AliasTable.keyed_ofList _
  refine ⟨desiredKeyed, currentKeyed, (((diff_is_exact desiredKeyed currentKeyed).1 _).mp ?_).symm⟩
  have stale : current.missingFrom desired = [⟨some "3", "Zed", "x", "m"⟩, ⟨some "2", "é", "x", "m"⟩] := by
    decide +kernel
  have missing : desired.missingFrom current =
      [⟨none, "B", "x", "m"⟩, ⟨none, "b", "x", "m"⟩, ⟨none, "É", "x", "m"⟩] := by
    decide +kernel
  refine ⟨fun entry => ?_, fun entry => ?_, by decide +kernel, by decide +kernel⟩
  · rw [← AliasTable.mem_missingFrom, stale]
    simp
  · rw [← AliasTable.mem_missingFrom, missing]
    simp

end AliasSync
