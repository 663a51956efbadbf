import AliasSync.Proofs.RoutedNames
import Mathlib.Data.List.Nodup

/-! The candidates of a rule against its leaves: each host value that some leaf names and none negates, once, in the
order of first mention, and a pattern if any mention of it is one. -/

namespace AliasSync.Rule

open Matcher (folded)

/-- What is found is what the host values name without excluding it. -/
structure HostValues.Extracted (hosts : HostValues) (found : List Candidate) : Prop where
  values : ∀ value, (∃ candidate ∈ found, candidate.value = value) ↔
    (∃ host ∈ hosts.positive, host.value = value) ∧ value ∉ hosts.negative
  once : (found.map Candidate.value).Nodup
  ordered : found.Pairwise fun first second =>
    firstMention hosts.positive first.value < firstMention hosts.positive second.value
  kinds : ∀ candidate ∈ found,
    candidate.kind = if ⟨candidate.value, .pattern⟩ ∈ hosts.positive then .pattern else .literal

variable {hosts : HostValues} {found others : List Candidate} {rule : String} {expr : Expr}

private theorem kind_of_kindAmong {hosts : List Candidate} {value : String} {kind : HostKind}
    (known : kindAmong hosts value = some kind) : kind = if ⟨value, .pattern⟩ ∈ hosts then .pattern else .literal := by
  unfold kindAmong at known
  split_ifs at known ⊢ <;> exact (Option.some.inj known).symm

namespace HostValues

private theorem extracted_candidates (hosts : HostValues) : hosts.Extracted hosts.candidates := by
  have order := (Sightings.of_ofHosts hosts.positive).order
  have values : (hosts.candidates.map Candidate.value).Pairwise fun first second =>
      firstMention hosts.positive first < firstMention hosts.positive second := by
    rw [values_candidates]
    exact order.ordered.filter _
  refine ⟨fun _ => mem_candidates, ?_, by rwa [List.pairwise_map] at values, ?_⟩
  · refine values.imp fun before same => ?_
    rw [same] at before
    exact Nat.lt_irrefl _ before
  · intro candidate member
    exact kind_of_kindAmong (mem_candidates_iff.mp member).1

private theorem Extracted.mem_iff (extracted : hosts.Extracted found) {candidate : Candidate} :
    candidate ∈ found ↔ (∃ host ∈ hosts.positive, host.value = candidate.value) ∧ candidate.value ∉ hosts.negative ∧
      candidate.kind = if ⟨candidate.value, .pattern⟩ ∈ hosts.positive then .pattern else .literal := by
  constructor
  · intro member
    obtain ⟨named, allowed⟩ := (extracted.values candidate.value).mp ⟨candidate, member, rfl⟩
    exact ⟨named, allowed, extracted.kinds candidate member⟩
  · intro ⟨named, allowed, kind⟩
    obtain ⟨other, member, same⟩ := (extracted.values candidate.value).mpr ⟨named, allowed⟩
    have alike : other.kind = candidate.kind := by
      rw [extracted.kinds other member, kind, same]
    rwa [← show other = candidate from congr (congrArg Candidate.mk same) alike]

/-- Nothing else can be extracted. -/
theorem Extracted.unique (extracted : hosts.Extracted found) (also : hosts.Extracted others) : found = others := by
  refine List.Perm.eq_of_pairwise ?_ extracted.ordered also.ordered ?_
  · intro first second _ _ forth back
    cases Nat.lt_asymm forth back
  · apply (List.perm_ext_iff_of_nodup (.of_map _ extracted.once) (.of_map _ also.once)).mpr
    intro candidate
    rw [extracted.mem_iff, also.mem_iff]

end HostValues

/-- The candidates of a rule that can be read are what is extracted from the host values of its leaves, and nothing
else; on the way the kind of every value is found. A rule that cannot be read has the error of the reader. -/
theorem extraction_is_exact (rule : String) :
    (∀ cause, candidates rule = .error cause ↔ parse rule = .error cause) ∧
      ∀ expr, parse rule = .ok expr →
        let hosts := HostValues.ofCalls (Predicate.ofExpr expr).leaves
        let seen := Sightings.ofHosts hosts.positive
        (∃ found, candidates rule = .ok found) ∧
          (∀ found, candidates rule = .ok found ↔ hosts.Extracted found) ∧
          ∀ value ∈ seen.order, ∃ kind, seen.kinds[value]? = some kind := by
  constructor
  · intro cause
    rw [candidates]
    cases parse rule <;> simp [Except.map]
  · intro expr read hosts seen
    have own : candidates rule = .ok hosts.candidates := by
      rw [candidates, read, Except.map, Predicate.hostValues_eq]
    refine ⟨⟨_, own⟩, fun found => ?_, fun value listed => Sightings.exists_kind listed⟩
    rw [own, Except.ok.injEq]
    constructor
    · intro same
      rw [← same]
      exact hosts.extracted_candidates
    · exact hosts.extracted_candidates.unique

/-- `b` is a literal first and a pattern later, and `a` is excluded in another spelling. -/
theorem extraction_is_exact_mixed :
    let rule := "Host(`B`, `a`) || HostRegexp(`b`) || !Host(`A`)"
    let expr : Expr := .or [.call .host ["B", "a"], .call .hostRegexp ["b"], .not (.call .host ["A"])]
    let hosts := HostValues.ofCalls (Predicate.ofExpr expr).leaves
    parse rule = .ok expr ∧ candidates rule = .ok [⟨"b", .pattern⟩] ∧ hosts.Extracted [⟨"b", .pattern⟩] := by
  intro rule expr hosts
  have call (name : String) (matcher : Matcher) (args : List String) (known : folded name = folded matcher.name) :
      Unary (.call matcher args) (.name name :: .open :: (args.map .text).intersperse .comma ++ [.close]) 1 :=
    .call known args
  have literals : Conjunction (.call .host ["B", "a"]) _ 1 := .single (call "Host" .host _ (by decide))
  have pattern : Conjunction (.call .hostRegexp ["b"]) _ 1 := .single (call "HostRegexp" .hostRegexp _ (by decide))
  have excluded : Conjunction (.not (.call .host ["A"])) _ 2 := .single (.not (call "Host" .host _ (by decide)))
  have derived : Disjunction expr _ 2 := .several (.more literals (.more pattern (.last excluded))) (by decide)
  have read : parse rule = .ok expr := parse_of_tokens (by decide +kernel) derived (by decide)
  obtain ⟨⟨found, extracted⟩, exact, -⟩ := (extraction_is_exact rule).2 expr read
  have shown : (candidates rule).toOption = some [⟨"b", .pattern⟩] := by decide +kernel
  rw [extracted] at shown
  obtain rfl : found = _ := Option.some.inj shown
  exact ⟨read, extracted, (exact _).mp extracted⟩

end AliasSync.Rule
