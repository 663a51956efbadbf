import AliasSync.Proofs.ExpansionHistory
import AliasSync.Proofs.LostCandidates

/-! Names and keys. A name is split at its first dot, and the alias that is built from its parts has the name as its
key, so an alias that is desired is known by its key. Every name that a candidate stands for gives a host or is
reported. -/

namespace AliasSync

variable {text : String} {name : HostName}

private theorem HostAlias.key_eq_text (entry : HostAlias) : entry.key = HostName.text ⟨entry.hostname, entry.domain⟩ :=
    rfl

namespace Sync

open AliasSync.Rule (Candidate)

variable {σ : Type} {world : World σ} {limit : Nat} {cache : ExpansionCache} {candidate : Candidate}
  {expanded : Expanded} {names : List String} {hosts : List HostName} {errors : List ExpansionError}

/-- What becomes of names, one after the other: one that can be split gives a host, and any other one is reported. -/
inductive Parted : List String → List HostName → List ExpansionError → Prop
  | nil : Parted [] [] []
  | host {name : HostName} {names : List String} {hosts : List HostName} {errors : List ExpansionError}
      (proper : name.Proper) (rest : Parted names hosts errors) : Parted (name.text :: names) (name :: hosts) errors
  | malformed {text : String} {names : List String} {hosts : List HostName} {errors : List ExpansionError}
      (refused : ¬ HostName.Splittable text) (rest : Parted names hosts errors) :
      Parted (text :: names) hosts (.malformed text :: errors)

private theorem ofNames_host (split : HostName.ofText? text = some name) (names : List String) :
    Expanded.ofNames (text :: names) =
      ⟨name :: (Expanded.ofNames names).hosts, (Expanded.ofNames names).errors⟩ := by
  simp [Expanded.ofNames, split]

private theorem ofNames_malformed (refused : HostName.ofText? text = none) (names : List String) :
    Expanded.ofNames (text :: names) =
      ⟨(Expanded.ofNames names).hosts, .malformed text :: (Expanded.ofNames names).errors⟩ := by
  simp [Expanded.ofNames, refused]

private theorem parted_iff : Parted names hosts errors ↔ Expanded.ofNames names = ⟨hosts, errors⟩ := by
  constructor
  · intro parted
    induction parted with
    | nil => rfl
    | host proper rest ih => rw [ofNames_host (HostName.ofText?_text proper), ih]
    | malformed refused rest ih =>
      have unsplit := Option.not_isSome_iff_eq_none.mp (mt HostName.isSome_ofText?_iff.mp refused)
      rw [ofNames_malformed unsplit, ih]
  · intro same
    induction names generalizing hosts errors with
    | nil =>
      cases same
      exact .nil
    | cons text names ih =>
      cases split : HostName.ofText? text with
      | some name =>
        rw [ofNames_host split] at same
        cases same
        obtain ⟨rfl, proper⟩ := HostName.ofText?_eq_some_iff.mp split
        exact .host proper (ih rfl)
      | none =>
        rw [ofNames_malformed split] at same
        cases same
        refine .malformed (fun splittable => ?_) (ih rfl)
        rw [← HostName.isSome_ofText?_iff, split] at splittable
        cases splittable

private theorem proper_of_mem_ofNames (member : name ∈ (Expanded.ofNames names).hosts) : name.Proper := by
  obtain ⟨text, -, split⟩ := List.mem_filterMap.mp member
  exact (HostName.ofText?_eq_some_iff.mp split).2

/-- An alias that a planner with the marker has come to desire, in whatever world and for whatever routers. -/
inductive Desired (marker : String) : HostAlias → Prop
  | collected {σ : Type} {world : World σ} {planner : Planner} {routers : List Router} {stop : Option Nat} {now : Nat}
      {state : σ} {harvest : Harvest} {key : String} {entry : HostAlias} (marked : planner.marker = marker)
      (harvested : (world.run stop (planner.harvest routers) now state).result = some harvest)
      (found : harvest.desired[key]? = some entry) : Desired marker entry

private theorem Comes.proper (comes : Comes cache candidate expanded) : ∀ host ∈ expanded.hosts, host.Proper := by
  unfold Comes at comes
  intro host member
  cases kind : candidate.kind with
  | literal =>
    rw [kind] at comes
    subst comes
    exact proper_of_mem_ofNames member
  | pattern =>
    rw [kind] at comes
    obtain ⟨names, -, rfl⟩ | ⟨cause, rfl⟩ := comes
    · exact proper_of_mem_ofNames member
    · cases member

variable {marker : String} {entry another : HostAlias}

private theorem Desired.exists_proper (desired : Desired marker entry) :
    ∃ host : HostName, host.Proper ∧ entry = .ofHostName host marker := by
  obtain ⟨rfl, harvested, found⟩ := desired
  obtain ⟨contributions, -, credits⟩ := Planner.harvest_credits (World.free_course_of_result harvested)
  rw [credits.desired] at found
  obtain ⟨host, named, rfl⟩ := List.mem_map.mp (AliasTable.mem_of_getElem?_ofList found).1
  obtain ⟨contribution, member, own⟩ := List.mem_flatMap.mp named
  exact ⟨host, (credits.comes contribution member).proper host own, rfl⟩

private theorem Desired.eq_ofHostName (desired : Desired marker entry) (proper : name.Proper)
    (same : entry.key = name.text) :
    entry = .ofHostName name marker := by
  obtain ⟨host, hostProper, rfl⟩ := desired.exists_proper
  rw [hostProper.eq_of_text proper same]

private theorem Desired.eq_of_key (desired : Desired marker entry) (also : Desired marker another)
    (same : entry.key = another.key) : entry = another := by
  obtain ⟨host, proper, rfl⟩ := also.exists_proper
  exact desired.eq_ofHostName proper same

/-- A name can be split just when something stands before its first dot and something after it. Its hostname then has
no dot, and the alias that is built from its parts has the name as its key; no other alias that is ever desired has
this key, so aliases that are desired are equal when their keys are. The names that a candidate stands for give, in
their order, one host for each that can be split and one error for each other one. And a hostname without a dot and a
domain, neither of them empty, are found again when the key is split. -/
theorem names_and_keys_correspond (world : World σ) (marker : String) :
    (∀ text, (HostName.ofText? text).isSome = true ↔ HostName.Splittable text) ∧
      (∀ text name, HostName.ofText? text = some name →
        '.' ∉ name.hostname.toList ∧ name.text = text ∧ (HostAlias.ofHostName name marker).key = text ∧
          ∀ entry, Desired marker entry → entry.key = text → entry = .ofHostName name marker) ∧
      (∀ entry another, Desired marker entry → Desired marker another → entry.key = another.key → entry = another) ∧
      (∀ limit cache (occurrence : Occurrence σ), ∃ expanded later,
        (occurrence.run world limit cache).result = some (expanded, later) ∧
        (occurrence.candidate.kind = .literal →
          ∀ hosts errors, Parted [occurrence.candidate.value] hosts errors ↔ expanded = ⟨hosts, errors⟩) ∧
        (occurrence.candidate.kind = .pattern → ∀ names,
          cache.answer (occurrence.answer world limit) occurrence.candidate.value = .ok names →
          ∀ hosts errors, Parted names hosts errors ↔ expanded = ⟨hosts, errors⟩)) ∧
      ∀ entry : HostAlias, '.' ∉ entry.hostname.toList → entry.hostname ≠ "" → entry.domain ≠ "" →
        HostName.ofText? entry.key = some ⟨entry.hostname, entry.domain⟩ := by
  refine ⟨fun text => HostName.isSome_ofText?_iff, ?_, fun entry another => Desired.eq_of_key, ?_, ?_⟩
  · intro text name split
    obtain ⟨rfl, proper⟩ := HostName.ofText?_eq_some_iff.mp split
    exact ⟨proper.undotted, rfl, rfl, fun entry desired => desired.eq_ofHostName proper⟩
  · intro limit cache occurrence
    obtain ⟨expanded, later, finished, -, expands⟩ := occurrence.run_expands world limit cache
    have comes := expands.eq_answered
    unfold candidateExpanded at comes
    refine ⟨expanded, later, finished, fun kind hosts errors => ?_, fun kind names said hosts errors => ?_⟩
    · rw [kind] at comes
      rw [comes, parted_iff]
    · simp only [kind, said] at comes
      rw [comes, parted_iff]
  · intro entry undotted hostname domain
    have proper : HostName.Proper ⟨entry.hostname, entry.domain⟩ := ⟨undotted, hostname, domain⟩
    rw [HostAlias.key_eq_text, HostName.ofText?_text proper]

/-- Two routers ask for a name with two dots in a row, the one as it stands and the other with a pattern. Of the other
names of the pattern one ends with a dot and can be split; those without a part before or after their first dot, or
without a dot, are reported. -/
theorem names_and_keys_correspond_rehearsed :
    let scene := Rehearsal.Scene.calm "dns.lan" [] [] [("p", .names ["a..b", ".x", "x.", "plain", "c.d."] false)]
    let planner : Planner := ⟨⟨[], [], [], []⟩, "managed", 10, .empty⟩
    let asked (rule : String) : Option HostAlias :=
      (Rehearsal.world.run none (planner.harvest [⟨"r", "file", [], rule⟩]) 0 scene).result.bind
        fun harvest => harvest.desired["a..b"]?
    let expanded (candidate : Candidate) : Option Expanded :=
      ((⟨candidate, 0, scene⟩ : Occurrence Rehearsal.Scene).run Rehearsal.world 10 .empty).result.map Prod.fst
    HostName.ofText? "a..b" = some ⟨"a", ".b"⟩ ∧
      (∃ entry another, asked "Host(`a..b`)" = some entry ∧ asked "HostRegexp(`p`)" = some another ∧
        entry.key = another.key ∧ entry = another ∧ entry = .ofHostName ⟨"a", ".b"⟩ "managed") ∧
      expanded ⟨".x", .literal⟩ = some ⟨[], [.malformed ".x"]⟩ ∧
      expanded ⟨"p", .pattern⟩ =
        some ⟨[⟨"a", ".b"⟩, ⟨"c", "d."⟩], [.malformed ".x", .malformed "x.", .malformed "plain"]⟩ ∧
      HostName.ofText? (HostAlias.mk (some "1") "a" ".b" "other").key = some ⟨"a", ".b"⟩ := by
  intro scene planner asked expanded
  obtain ⟨splits, built, distinct, expands, again⟩ := names_and_keys_correspond Rehearsal.world "managed"
  have double : HostName.Proper ⟨"a", ".b"⟩ := ⟨by decide, by decide, by decide⟩
  have ended : HostName.Proper ⟨"c", "d."⟩ := ⟨by decide, by decide, by decide⟩
  have refused (text : String) (nothing : HostName.ofText? text = none) : ¬ HostName.Splittable text := by
    rw [← splits, nothing]
    exact Bool.false_ne_true
  have desired {rule : String} {entry : HostAlias} (found : asked rule = some entry) : Desired "managed" entry := by
    obtain ⟨harvest, harvested, present⟩ := Option.bind_eq_some_iff.mp found
    exact .collected rfl harvested present
  have split : HostName.ofText? "a..b" = some ⟨"a", ".b"⟩ :=
    again ⟨none, "a", ".b", ""⟩ (by decide) (by decide) (by decide)
  refine ⟨split, ?_, ?_, ?_, again _ (by decide) (by decide) (by decide)⟩
  · have keys : (asked "Host(`a..b`)").map HostAlias.key = some "a..b" ∧
        (asked "HostRegexp(`p`)").map HostAlias.key = some "a..b" := by decide +kernel
    obtain ⟨entry, found, key⟩ := Option.map_eq_some_iff.mp keys.1
    obtain ⟨another, alsoFound, alsoKey⟩ := Option.map_eq_some_iff.mp keys.2
    have same := key.trans alsoKey.symm
    exact ⟨entry, another, found, alsoFound, same, distinct _ _ (desired found) (desired alsoFound) same,
      (built _ _ split).2.2.2 entry (desired found) key⟩
  · obtain ⟨comes, later, finished, literal, -⟩ := expands 10 .empty ⟨⟨".x", .literal⟩, 0, scene⟩
    have parted := (literal rfl _ _).mp (.malformed (refused ".x" (by decide)) .nil)
    simp only [expanded, finished, parted, Option.map_some]
  · obtain ⟨comes, later, finished, -, pattern⟩ := expands 10 .empty ⟨⟨"p", .pattern⟩, 0, scene⟩
    have parted := (pattern rfl ["a..b", ".x", "x.", "plain", "c.d."] (by rfl) _ _).mp
      (.host double (.malformed (refused ".x" (by decide)) (.malformed (refused "x." (by decide))
        (.malformed (refused "plain" (by decide)) (.host ended .nil)))))
    simp only [expanded, finished, parted, Option.map_some]

end Sync

end AliasSync
