import AliasSync.Proofs.RuleGrammar
import AliasSync.Proofs.RulePredicate
import AliasSync.Proofs.Sightings
import Mathlib.Data.Set.Defs

/-! A name that a rule routes for the sake of its host calls is named by one of them, and the value that names it is
a candidate of the rule unless the rule also negates it. -/

namespace AliasSync.Rule

open Matcher (folded)
open AliasSync.Text (lowerCase)

/-- The values of a call that speaks of host names, in lower case; no other call has any. -/
def SignedCall.hosts (call : SignedCall) : List Candidate :=
  match call.matcher.hostKind? with
  | none => []
  | some kind => call.args.map fun arg => ⟨lowerCase arg, kind⟩

namespace HostValues

def ofCalls (calls : List SignedCall) : HostValues where
  positive := (calls.filter fun call => !call.negated).flatMap SignedCall.hosts
  negative := ((calls.filter fun call => call.negated).flatMap SignedCall.hosts).map Candidate.value

private theorem ofCalls_append (first last : List SignedCall) : ofCalls
    (first ++ last) = ofCalls first ++ ofCalls last := by
  change ofCalls (first ++ last) = append (ofCalls first) (ofCalls last)
  simp only [ofCalls, append, List.filter_append, List.flatMap_append, List.map_append]

theorem mem_positive_ofCalls {calls : List SignedCall} {host : Candidate} :
    host ∈ (ofCalls calls).positive ↔ ∃ call ∈ calls, call.negated = false ∧ host ∈ call.hosts := by
  simp only [ofCalls, List.mem_flatMap, List.mem_filter, Bool.not_eq_true', and_assoc]

private theorem mem_negative_ofCalls {calls : List SignedCall} {value : String} :
    value ∈ (ofCalls calls).negative ↔
      ∃ call ∈ calls, call.negated = true ∧ ∃ host ∈ call.hosts, host.value = value := by
  simp only [ofCalls, List.mem_map, List.mem_flatMap, List.mem_filter]
  constructor
  · intro ⟨host, ⟨call, ⟨member, negated⟩, named⟩, same⟩
    exact ⟨call, member, negated, host, named, same⟩
  · intro ⟨call, member, negated, host, named, same⟩
    exact ⟨host, ⟨call, ⟨member, negated⟩, named⟩, same⟩

end HostValues

namespace Predicate

private theorem hostValues_leaf (matcher : Matcher) (negated : Bool) (values : List String) :
    (leaf matcher negated values).hostValues = .ofCalls [⟨matcher, negated, values⟩] := by
  cases speaks : matcher.hostKind? with
  | none =>
    have silent : (SignedCall.mk matcher negated values).hosts = [] := by simp only [SignedCall.hosts, speaks]
    cases negated <;> simp [hostValues, leafHostValues, HostValues.ofCalls, HostValues.empty, speaks, silent]
  | some kind =>
    have named : (SignedCall.mk matcher negated values).hosts = values.map fun value => ⟨lowerCase value, kind⟩ := by
      simp only [SignedCall.hosts, speaks]
    cases negated <;> simp [hostValues, leafHostValues, HostValues.ofCalls, Function.comp_def, speaks, named]

private theorem hostValuesAll_eq {operands : List Predicate}
    (each : ∀ operand ∈ operands, operand.hostValues = .ofCalls operand.leaves) :
    hostValuesAll operands = .ofCalls (operands.flatMap fun operand => operand.leaves) := by
  induction operands with
  | nil => rfl
  | cons operand rest ih =>
    have later := ih fun other member => each other (List.mem_cons_of_mem _ member)
    rw [hostValuesAll, List.flatMap_cons, HostValues.ofCalls_append, each operand List.mem_cons_self, later]

theorem hostValues_eq (predicate : Predicate) : predicate.hostValues = .ofCalls predicate.leaves := by
  induction predicate using Predicate.induction with
  | leaf matcher negated values => rw [hostValues_leaf, leaves]
  | and operands ih => rw [hostValues, leaves, hostValuesAll_eq ih]
  | or operands ih => rw [hostValues, leaves, hostValuesAll_eq ih]

end Predicate

def Candidate.Accepts (language : String → Set String) (name : String) (host : Candidate) : Prop :=
  match host.kind with
  | .literal => host.value = name
  | .pattern => name ∈ language host.value

section Routing

variable (others : Matcher → List String → Bool) (language : String → Set String)
  [∀ pattern, DecidablePred (· ∈ language pattern)]

/-- The truth of calls at a host name. A call that speaks of no host names is true or not whatever the name. -/
def truthAt (name : String) : Matcher → List String → Bool
  | .host, args => args.any fun arg => lowerCase arg == name
  | .hostRegexp, args => args.any fun arg => name ∈ language (lowerCase arg)
  | matcher, args => others matcher args

variable {others language} {name : String} {call : SignedCall}

private theorem truthAt_of_hostKind?_eq_none (other : call.matcher.hostKind? = none) :
    truthAt others language name call.matcher call.args = others call.matcher call.args := by
  unfold truthAt
  split
  case h_1 same => rw [same] at other; cases other
  case h_2 same => rw [same] at other; cases other
  case h_3 => rfl

private theorem exists_host_of_truthAt (speaks : call.matcher.hostKind? ≠ none)
    (holds : truthAt others language name call.matcher call.args = true) :
    ∃ host ∈ call.hosts, host.Accepts language name := by
  obtain ⟨matcher, negated, args⟩ := call
  cases matcher with
  | host =>
    obtain ⟨arg, member, same⟩ := List.any_eq_true.mp holds
    exact ⟨⟨lowerCase arg, .literal⟩, List.mem_map_of_mem member, eq_of_beq same⟩
  | hostRegexp =>
    obtain ⟨arg, member, inside⟩ := List.any_eq_true.mp holds
    have stands : name ∈ language (lowerCase arg) := of_decide_eq_true inside
    exact ⟨⟨lowerCase arg, .pattern⟩, List.mem_map_of_mem member, stands⟩
  | _ => cases speaks rfl

/-- A rule that holds at a name, and not at one for which none of its host calls holds, names the first one by a
value of a host call that it does not negate. The value is a candidate, unless a host call that is negated has it. -/
theorem routed_name_is_named {rule : String} {expr : Expr} (accepted : parse rule = .ok expr) {idle : String}
    (routed : expr.holds (truthAt others language name) = true)
    (unrouted : expr.holds (truthAt others language idle) = false)
    (apart : ∀ call ∈ expr.signedCalls false, call.matcher.hostKind? ≠ none →
      truthAt others language idle call.matcher call.args = false) :
    let leaves := (Predicate.ofExpr expr).leaves
    ∃ leaf ∈ leaves, leaf.negated = false ∧ ∃ host ∈ leaf.hosts, host.Accepts language name ∧
      ∃ found, candidates rule = .ok found ∧
        ((∃ candidate ∈ found, candidate.value = host.value) ↔
          ¬ ∃ other ∈ leaves, other.negated = true ∧ ∃ excluded ∈ other.hosts, excluded.value = host.value) := by
  intro leaves
  have lowered (name : String) : (Predicate.ofExpr expr).holds (truthAt others language name) =
      expr.holds (truthAt others language name) := by
    rw [Predicate.ofExpr, Predicate.holds_lower, Bool.bne_false]
  -- negations stand at the leaves only, so some leaf by itself tells the two names apart
  obtain ⟨leaf, member, holds, fails⟩ :=
    Predicate.exists_leaf_of_holds ((lowered name).trans routed) ((lowered idle).trans unrouted)
  have called : leaf ∈ expr.signedCalls false := by
    rw [← Predicate.leaves_lower]
    exact member
  have speaks : leaf.matcher.hostKind? ≠ none := by
    intro other
    rw [SignedCall.holds, truthAt_of_hostKind?_eq_none other] at holds fails
    exact Bool.false_ne_true (fails.symm.trans holds)
  have positive : leaf.negated = false := by
    rw [SignedCall.holds, apart leaf called speaks] at fails
    simpa using fails
  rw [SignedCall.holds, positive, Bool.bne_false] at holds
  obtain ⟨host, named, accepts⟩ := exists_host_of_truthAt speaks holds
  refine ⟨leaf, member, positive, host, named, accepts, _, by rw [candidates, accepted]; rfl, ?_⟩
  rw [HostValues.mem_candidates, Predicate.hostValues_eq, HostValues.mem_negative_ofCalls]
  apply and_iff_right
  exact ⟨host, HostValues.mem_positive_ofCalls.mpr ⟨leaf, member, positive, named⟩, rfl⟩

end Routing

def onlyPattern (pattern : String) (names : List String) : String → Set String :=
  fun other => {name | other = pattern ∧ name ∈ names}

instance (pattern : String) (names : List String) (other : String) :
    DecidablePred (· ∈ onlyPattern pattern names other) :=
  fun name => inferInstanceAs (Decidable (other = pattern ∧ name ∈ names))

/-- The rule negates the host `x.y`, for which its pattern stands too; `x.z` comes through, and by the pattern. -/
theorem routed_name_is_named_by_pattern :
    let rule := "(Host(`A.b`) || HostRegexp(`X.*`)) && !(Host(`x.y`) || Path(`/p`))"
    let expr : Expr := .and [.or [.call .host ["A.b"], .call .hostRegexp ["X.*"]],
      .not (.or [.call .host ["x.y"], .call .path ["/p"]])]
    let truth := truthAt (fun _ _ => false) (onlyPattern "x.*" ["x.y", "x.z"])
    parse rule = .ok expr ∧ expr.holds (truth "x.z") = true ∧ expr.holds (truth "idle") = false ∧
      (∀ call ∈ expr.signedCalls false, call.matcher.hostKind? ≠ none →
        truth "idle" call.matcher call.args = false) ∧
      ∃ leaf ∈ (Predicate.ofExpr expr).leaves, leaf.negated = false ∧ ∃ host ∈ leaf.hosts,
        host.Accepts (onlyPattern "x.*" ["x.y", "x.z"]) "x.z" ∧
          ∃ found, candidates rule = .ok found ∧ ∃ candidate ∈ found, candidate.value = host.value := by
  intro rule expr truth
  have call (name : String) (matcher : Matcher) (value : String) (known : folded name = folded matcher.name) :
      Conjunction (.call matcher [value]) [.name name, .open, .text value, .close] 1 := .single (.call known [value])
  have either {first last : Expr} {tokens others : List Token} (left : Conjunction first tokens 1)
      (right : Conjunction last others 1) :
      Unary (.or [first, last]) (.open :: (tokens ++ .or :: others) ++ [.close]) 2 :=
    .group (.several (.more left (.last right)) (Nat.le_refl 2))
  have named := either (call "Host" .host "A.b" (by decide)) (call "HostRegexp" .hostRegexp "X.*" (by decide))
  have excluded := either (call "Host" .host "x.y" (by decide)) (call "Path" .path "/p" (by decide))
  have derived : Disjunction expr _ 3 := .single (.several (.more named (.last (.not excluded))) (Nat.le_refl 2))
  have accepted : parse rule = .ok expr := parse_of_tokens (by decide +kernel) derived (by decide)
  have holds (name : String) : expr.holds (truth name) =
      ((truth name .host ["A.b"] || truth name .hostRegexp ["X.*"]) &&
        !(truth name .host ["x.y"] || truth name .path ["/p"])) := by simp [expr]
  have routed : expr.holds (truth "x.z") = true := by
    rw [holds]
    decide +kernel
  have unrouted : expr.holds (truth "idle") = false := by
    rw [holds]
    decide +kernel
  have called : expr.signedCalls false = [⟨.host, false, ["A.b"]⟩, ⟨.hostRegexp, false, ["X.*"]⟩,
      ⟨.host, true, ["x.y"]⟩, ⟨.path, true, ["/p"]⟩] := by simp [expr, Expr.signedCalls]
  have leaves : (Predicate.ofExpr expr).leaves = expr.signedCalls false := Predicate.leaves_lower false expr
  have apart : ∀ call ∈ expr.signedCalls false, call.matcher.hostKind? ≠ none →
      truth "idle" call.matcher call.args = false := by
    rw [called]
    decide +kernel
  have unexcluded : ∀ leaf ∈ (Predicate.ofExpr expr).leaves, leaf.negated = false → ∀ host ∈ leaf.hosts,
      ¬ ∃ other ∈ (Predicate.ofExpr expr).leaves, other.negated = true ∧
        ∃ excluded ∈ other.hosts, excluded.value = host.value := by
    rw [leaves, called]
    decide +kernel
  obtain ⟨leaf, member, positive, host, named, accepts, found, listed, kept⟩ :=
    routed_name_is_named accepted routed unrouted apart
  have remains := kept.mpr (unexcluded leaf member positive host named)
  exact ⟨accepted, routed, unrouted, apart, leaf, member, positive, host, named, accepts, found, listed, remains⟩

end AliasSync.Rule
