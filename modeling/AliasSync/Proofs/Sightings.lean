import AliasSync.Rule.Candidates
import Mathlib.Data.List.Basic

/-! What is known of host values once all of them have been met: which there are, which of them came first, and which
were patterns. The order and the kinds grow in step, so every value in the order has a kind. -/

namespace AliasSync.Rule

def firstMention (hosts : List Candidate) (value : String) : Nat := (hosts.map Candidate.value).idxOf value

def kindAmong (hosts : List Candidate) (value : String) : Option HostKind :=
  if ⟨value, .pattern⟩ ∈ hosts then some .pattern
  else if ⟨value, .literal⟩ ∈ hosts then some .literal
  else none

variable {hosts : List Candidate} {host : Candidate} {value other : String} {seen : Sightings} {order : List String}

private theorem firstMention_append (member : value ∈ hosts.map Candidate.value) (later : List Candidate) :
    firstMention (hosts ++ later) value = firstMention hosts value := by
  rw [firstMention, List.map_append, List.idxOf_append_of_mem member, firstMention]

private theorem firstMention_lt (member : value ∈ hosts.map Candidate.value) (fresh : other ∉ hosts.map Candidate.value)
    (kind : HostKind) :
    firstMention (hosts ++ [⟨other, kind⟩]) value < firstMention (hosts ++ [⟨other, kind⟩]) other := by
  have last : firstMention (hosts ++ [⟨other, kind⟩]) other = hosts.length := by
    rw [firstMention, List.map_append, List.idxOf_append_of_notMem fresh]
    simp
  have before := List.idxOf_lt_length_of_mem member
  rw [List.length_map] at before
  rw [firstMention_append member, last]
  exact before

private theorem kindAmong_eq_none : kindAmong hosts value = none ↔ value ∉ hosts.map Candidate.value := by
  have split : value ∈ hosts.map Candidate.value ↔ ⟨value, .pattern⟩ ∈ hosts ∨ ⟨value, .literal⟩ ∈ hosts := by
    rw [List.mem_map]
    constructor
    · intro ⟨⟨named, kind⟩, member, same⟩
      subst same
      cases kind with
      | literal => exact .inr member
      | pattern => exact .inl member
    · intro either
      obtain member | member := either
      all_goals exact ⟨_, member, rfl⟩
  unfold kindAmong
  split_ifs <;> simp_all

private theorem kindAmong_other (apart : other ≠ value) (kind : HostKind) :
    kindAmong (hosts ++ [⟨other, kind⟩]) value = kindAmong hosts value := by
  simp [kindAmong, apart.symm]

private theorem kindAmong_pattern : kindAmong (hosts ++ [⟨value, .pattern⟩]) value = some .pattern := by
  simp [kindAmong]

/-- A value that has been a pattern stays one. -/
theorem kindAmong_literal :
    kindAmong (hosts ++ [⟨value, .literal⟩]) value = some ((kindAmong hosts value).getD .literal) := by
  by_cases pattern : ⟨value, .pattern⟩ ∈ hosts
  · simp [kindAmong, pattern]
  · by_cases literal : ⟨value, .literal⟩ ∈ hosts <;> simp [kindAmong, pattern, literal]

/-- The distinct values of the hosts, in the order of first mention. -/
structure FirstMentions (hosts : List Candidate) (order : List String) : Prop where
  listed : ∀ value, value ∈ order ↔ value ∈ hosts.map Candidate.value
  ordered : order.Pairwise fun first second => firstMention hosts first < firstMention hosts second

namespace FirstMentions

private theorem later (mentions : FirstMentions hosts order) (host : Candidate) :
    order.Pairwise fun first second =>
      firstMention (hosts ++ [host]) first < firstMention (hosts ++ [host]) second := by
  refine mentions.ordered.imp_of_mem ?_
  intro first second member other before
  rwa [firstMention_append ((mentions.listed first).mp member),
    firstMention_append ((mentions.listed second).mp other)]

private theorem again (mentions : FirstMentions hosts order) (known : value ∈ hosts.map Candidate.value)
    (kind : HostKind) :
    FirstMentions (hosts ++ [⟨value, kind⟩]) order := by
  refine ⟨?_, mentions.later _⟩
  intro other
  rw [mentions.listed, List.map_append, List.mem_append]
  constructor
  · exact .inl
  · intro either
    obtain member | last := either
    · exact member
    · rw [List.mem_singleton.mp last]
      exact known

private theorem fresh (mentions : FirstMentions hosts order) (fresh : value ∉ hosts.map Candidate.value)
    (kind : HostKind) :
    FirstMentions (hosts ++ [⟨value, kind⟩]) (order ++ [value]) := by
  constructor
  · intro other
    rw [List.mem_append, mentions.listed, List.map_append, List.mem_append]
    exact Iff.rfl
  · rw [List.pairwise_append]
    refine ⟨mentions.later _, List.pairwise_singleton .., ?_⟩
    intro earlier member last same
    rw [List.mem_singleton.mp same]
    exact firstMention_lt ((mentions.listed earlier).mp member) fresh kind

end FirstMentions

namespace Sightings

/-- What has been noted of the hosts that have been met. -/
structure Of (hosts : List Candidate) (seen : Sightings) : Prop where
  order : FirstMentions hosts seen.order
  kinds : ∀ value, seen.kinds[value]? = kindAmong hosts value

private theorem Of.empty : Of [] empty where
  order := ⟨fun _ => Iff.rfl, .nil⟩
  kinds value := by simp [Sightings.empty, kindAmong]

private theorem kinds_insert {kind : HostKind} (kinds : ∀ value, seen.kinds[value]? = kindAmong hosts value)
    (own : kindAmong (hosts ++ [⟨value, kind⟩]) value = some kind) (other : String) :
    (seen.kinds.insert value kind)[other]? = kindAmong (hosts ++ [⟨value, kind⟩]) other := by
  rw [Std.TreeMap.getElem?_insert]
  split
  case isTrue same =>
    obtain rfl := Std.LawfulEqCmp.compare_eq_iff_eq.mp same
    exact own.symm
  case isFalse apart =>
    rw [kinds, kindAmong_other fun same => apart (Std.LawfulEqCmp.compare_eq_iff_eq.mpr same)]

private theorem Of.note (knows : Of hosts seen) (host : Candidate) : Of (hosts ++ [host]) (seen.note host) := by
  obtain ⟨value, kind⟩ := host
  unfold Sightings.note
  cases found : seen.kinds[value]? with
  | none =>
    have fresh : value ∉ hosts.map Candidate.value := kindAmong_eq_none.mp ((knows.kinds value).symm.trans found)
    refine ⟨knows.order.fresh fresh kind, kinds_insert knows.kinds ?_⟩
    cases kind with
    | pattern => exact kindAmong_pattern
    | literal =>
      rw [kindAmong_literal, kindAmong_eq_none.mpr fresh]
      rfl
  | some former =>
    have known : value ∈ hosts.map Candidate.value := by
      refine Decidable.byContradiction fun fresh => ?_
      rw [knows.kinds, kindAmong_eq_none.mpr fresh] at found
      cases found
    cases kind with
    | pattern => exact ⟨knows.order.again known .pattern, kinds_insert knows.kinds kindAmong_pattern⟩
    | literal =>
      refine ⟨knows.order.again known .literal, fun other => ?_⟩
      rw [knows.kinds]
      by_cases same : value = other
      · subst same
        rw [kindAmong_literal, ← knows.kinds, found]
        rfl
      · rw [kindAmong_other same]

private theorem Of.foldl {earlier : List Candidate} (knows : Of earlier seen) (later : List Candidate) :
    Of (earlier ++ later) (later.foldl Sightings.note seen) := by
  induction later generalizing earlier seen with
  | nil =>
    rw [List.append_nil]
    exact knows
  | cons host later ih =>
    have noted := ih (knows.note host)
    rwa [List.append_assoc] at noted

theorem of_ofHosts (hosts : List Candidate) : Of hosts (ofHosts hosts) := Of.empty.foldl hosts

/-- Every value in the order has a kind. -/
theorem exists_kind (listed : value ∈ (ofHosts hosts).order) : ∃ kind, (ofHosts hosts).kinds[value]? = some kind := by
  have knows := of_ofHosts hosts
  have known := (knows.order.listed value).mp listed
  rw [knows.kinds]
  exact Option.ne_none_iff_exists'.mp (mt kindAmong_eq_none.mp (not_not_intro known))

end Sightings

namespace HostValues

open Sightings (ofHosts of_ofHosts exists_kind)

theorem values_candidates (hosts : HostValues) :
    hosts.candidates.map Candidate.value = (ofHosts hosts.positive).order.filter (· ∉ hosts.negative) := by
  have found (value : String) (member : value ∈ (ofHosts hosts.positive).order.filter (· ∉ hosts.negative)) :
      ((ofHosts hosts.positive).kinds[value]?.map fun kind => Candidate.mk value kind).map Candidate.value =
        some value := by
    obtain ⟨kind, known⟩ := exists_kind (List.mem_of_mem_filter member)
    rw [known]
    rfl
  rw [candidates, List.map_filterMap, List.filterMap_congr found]
  exact List.filterMap_some

theorem mem_candidates_iff {hosts : HostValues} {candidate : Candidate} :
    candidate ∈ hosts.candidates ↔
      kindAmong hosts.positive candidate.value = some candidate.kind ∧ candidate.value ∉ hosts.negative := by
  have knows := of_ofHosts hosts.positive
  obtain ⟨value, kind⟩ := candidate
  simp only [candidates, List.mem_filterMap, List.mem_filter, decide_eq_true_eq, knows.kinds, Option.map_eq_some_iff]
  constructor
  · intro ⟨named, ⟨listed, allowed⟩, own, known, same⟩
    cases same
    exact ⟨known, allowed⟩
  · intro ⟨known, allowed⟩
    have listed : value ∈ (ofHosts hosts.positive).order := by
      rw [knows.order.listed]
      refine Decidable.byContradiction fun absent => ?_
      rw [kindAmong_eq_none.mpr absent] at known
      cases known
    exact ⟨value, ⟨listed, allowed⟩, kind, known, rfl⟩

/-- The candidates have the positive values that are not among the negative ones. -/
theorem mem_candidates {hosts : HostValues} {value : String} :
    (∃ candidate ∈ hosts.candidates, candidate.value = value) ↔
      (∃ host ∈ hosts.positive, host.value = value) ∧ value ∉ hosts.negative := by
  have listed : (∃ candidate ∈ hosts.candidates, candidate.value = value) ↔
      value ∈ hosts.candidates.map Candidate.value := List.mem_map.symm
  rw [listed, values_candidates, List.mem_filter, decide_eq_true_eq, (of_ofHosts _).order.listed, List.mem_map]

end HostValues

end AliasSync.Rule
