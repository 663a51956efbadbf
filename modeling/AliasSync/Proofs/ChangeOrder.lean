import AliasSync.Proofs.AliasTable

/-! The order in which a difference lists its changes. Tables list their aliases by ascending key and the sort by
folded keys is stable, so aliases with one folded key come in the order of their keys. No two aliases tie, and the
order of the changes is a function of which changes there are. -/

namespace AliasSync

private theorem pair_sublist_of_mem {items : List α} {first second : α} (member : first ∈ items)
    (other : second ∈ items)
    (apart : first ≠ second) : [first, second].Sublist items ∨ [second, first].Sublist items := by
  induction items with
  | nil => cases member
  | cons head rest ih =>
    rcases List.mem_cons.mp member with rfl | memberLater
    · rcases List.mem_cons.mp other with rfl | otherLater
      · exact absurd rfl apart
      · exact .inl ((List.singleton_sublist.mpr otherLater).cons_cons first)
    · rcases List.mem_cons.mp other with rfl | otherLater
      · exact .inr ((List.singleton_sublist.mpr memberLater).cons_cons second)
      · exact (ih memberLater otherLater).imp (.cons head) (.cons head)

/-- Without repetition, of two members one comes first. -/
theorem not_pair_sublist_of_nodup {items : List α} (once : items.Nodup) {first second : α}
    (forth : [first, second].Sublist items) : ¬ [second, first].Sublist items := by
  obtain ⟨front, back, rfl, inFront, inBack⟩ := List.cons_sublist_iff.mp forth
  have apart := (List.nodup_append.mp once).2.2
  intro reverse
  obtain ⟨left, right, whole, within, beyond⟩ := List.sublist_append_iff.mp reverse
  cases left with
  | nil =>
    rw [List.nil_append] at whole
    subst whole
    have later : first ∈ back := beyond.mem (List.mem_cons_of_mem _ List.mem_cons_self)
    exact apart first inFront first later rfl
  | cons head left =>
    obtain ⟨rfl, -⟩ := List.cons.inj whole
    exact apart second (within.mem List.mem_cons_self) second (List.singleton_sublist.mp inBack) rfl

/-- By folded key, and by key where the folded keys agree. -/
def HostAlias.Precedes (first second : HostAlias) : Prop :=
  Text.lowerCase first.key ≤ Text.lowerCase second.key ∧
    (Text.lowerCase second.key ≤ Text.lowerCase first.key → compare first.key second.key = .lt)

private theorem HostAlias.Precedes.asymm {first second : HostAlias} (earlier : first.Precedes second) :
    ¬ second.Precedes first := by
  intro later
  have below := earlier.2 later.1
  have above := later.2 earlier.1
  exact Std.OrientedCmp.not_lt_of_lt above below

variable {aliases others : List HostAlias} {table : AliasTable}

theorem AliasTable.Keyed.pairwise_missingFrom (keyed : Keyed table) (other : AliasTable) :
    (table.missingFrom other).Pairwise fun first second => compare first.key second.key = .lt := by
  rw [missingFrom, List.pairwise_map]
  refine (Std.TreeMap.ordered_keys_toList.filter _).imp_of_mem ?_
  intro first second member other ascending
  have own {pair : String × HostAlias} (listed : pair ∈ table.toList) : pair.2.key = pair.1 :=
    keyed _ _ (Std.TreeMap.mem_toList_iff_getElem?_eq_some.mp listed)
  rw [own (List.mem_filter.mp member).1, own (List.mem_filter.mp other).1]
  exact ascending

theorem pairwise_byFoldedKey (ascending : aliases.Pairwise fun first second => compare first.key second.key = .lt) :
    (byFoldedKey aliases).Pairwise HostAlias.Precedes := by
  have once : aliases.Nodup := ascending.imp fun below same => by
    subst same
    exact Std.OrientedCmp.not_lt_of_lt below below
  have transitive (first second third : HostAlias)
      (below : decide (Text.lowerCase first.key ≤ Text.lowerCase second.key) = true)
      (above : decide (Text.lowerCase second.key ≤ Text.lowerCase third.key) = true) :
      decide (Text.lowerCase first.key ≤ Text.lowerCase third.key) = true :=
    decide_eq_true (String.le_trans (of_decide_eq_true below) (of_decide_eq_true above))
  have total (first second : HostAlias) :
      (decide (Text.lowerCase first.key ≤ Text.lowerCase second.key) ||
        decide (Text.lowerCase second.key ≤ Text.lowerCase first.key)) = true := by
    rcases String.le_total (Text.lowerCase first.key) (Text.lowerCase second.key) with below | above
    · rw [decide_eq_true below, Bool.true_or]
    · rw [decide_eq_true above, Bool.or_true]
  have sorted := List.pairwise_mergeSort transitive total aliases
  have nodup : (byFoldedKey aliases).Nodup := (byFoldedKey_perm aliases).nodup_iff.mpr once
  refine List.pairwise_iff_forall_sublist.mpr fun {first second} pair => ?_
  have below := of_decide_eq_true (List.pairwise_iff_forall_sublist.mp sorted pair)
  refine ⟨below, fun tie => ?_⟩
  have apart : first ≠ second := List.pairwise_iff_forall_sublist.mp nodup pair
  have members : ∀ entry ∈ [first, second], entry ∈ aliases :=
    fun entry member => (byFoldedKey_perm aliases).mem_iff.mp (pair.mem member)
  -- the sort is stable, so that among equal folded keys the order of the list before it remains
  rcases pair_sublist_of_mem (members first (by simp)) (members second (by simp)) apart with forth | back
  · exact List.pairwise_iff_forall_sublist.mp ascending forth
  · have kept := List.pair_sublist_mergeSort transitive total (decide_eq_true tie) back
    exact absurd kept (not_pair_sublist_of_nodup nodup pair)

private theorem eq_of_precedes (ordered : aliases.Pairwise HostAlias.Precedes)
    (also : others.Pairwise HostAlias.Precedes)
    (same : aliases.Perm others) : aliases = others :=
  List.Perm.eq_of_pairwise (fun _ _ _ _ forth back => absurd back forth.asymm) ordered also same

/-- A difference lists just those of the changes of another one that it has, in the order of that one. -/
theorem diff_of_sublist {desired current again : AliasTable} {changes : List Operation} (desiredKeyed : desired.Keyed)
    (currentKeyed : current.Keyed) (againKeyed : again.Keyed) (inOrder : changes.Sublist (diff desired current))
    (stale : ∀ entry, entry ∈ again.missingFrom desired ↔ entry ∈ Operation.deletions changes)
    (missing : ∀ entry, entry ∈ desired.missingFrom again ↔ entry ∈ Operation.creations changes) :
    diff desired again = changes := by
  have part {table former other another : AliasTable} (keyed : table.Keyed) (formerKeyed : former.Keyed)
      {listed : List HostAlias} (within : listed.Sublist (byFoldedKey (former.missingFrom another)))
      (same : ∀ entry, entry ∈ table.missingFrom other ↔ entry ∈ listed) :
      byFoldedKey (table.missingFrom other) = listed := by
    have once {table : AliasTable} (keyed : table.Keyed) (other : AliasTable) : (table.missingFrom other).Nodup :=
      List.Pairwise.of_map HostAlias.key (fun _ _ apart same => apart (congrArg HostAlias.key same))
        (keyed.nodup_missingFrom other)
    have single : listed.Nodup := ((byFoldedKey_perm _).nodup_iff.mpr (once formerKeyed another)).sublist within
    refine eq_of_precedes (pairwise_byFoldedKey (keyed.pairwise_missingFrom other)) ?_ ?_
    · exact (pairwise_byFoldedKey (formerKeyed.pairwise_missingFrom another)).sublist within
    · exact (byFoldedKey_perm _).trans ((List.perm_ext_iff_of_nodup (once keyed other) single).mpr same)
  obtain ⟨_, _, rfl, first, last⟩ := List.sublist_append_iff.mp inOrder
  obtain ⟨deleted, deletedWithin, rfl⟩ := List.sublist_map_iff.mp first
  obtain ⟨created, createdWithin, rfl⟩ := List.sublist_map_iff.mp last
  rw [Operation.deletions_append, Operation.deletions_map_delete, Operation.deletions_map_create,
    List.append_nil] at stale
  rw [Operation.creations_append, Operation.creations_map_delete, Operation.creations_map_create,
    List.nil_append] at missing
  rw [diff, part againKeyed currentKeyed deletedWithin stale, part desiredKeyed desiredKeyed createdWithin missing]

end AliasSync
