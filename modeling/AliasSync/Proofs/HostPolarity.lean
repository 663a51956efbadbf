import AliasSync.Proofs.RoutedNames

/-! The sign of a host value. A call of an expression names its hosts for the candidates when it stands under an even
number of negations, and against them when it stands under an odd one. How conjunctions and disjunctions join the calls
makes no difference. -/

namespace AliasSync.Rule

open Matcher (folded)
open AliasSync.Text (lowerCase)

structure NestedCall where
  matcher : Matcher
  args : List String
  negations : Nat
  deriving DecidableEq, Repr

def Expr.calls : Expr → List NestedCall
  | call matcher args => [⟨matcher, args, 0⟩]
  | not operand => operand.calls.map fun call => { call with negations := call.negations + 1 }
  | and operands => operands.flatMap fun operand => operand.calls
  | or operands => operands.flatMap fun operand => operand.calls

namespace NestedCall

def isNegated (call : NestedCall) : Bool := call.negations % 2 = 1

def signed (call : NestedCall) : SignedCall := ⟨call.matcher, call.isNegated, call.args⟩

/-- The arguments of a host call in lower case, tagged with how the matcher reads them. -/
def hosts (call : NestedCall) : List Candidate :=
  match call.matcher with
  | .host => call.args.map fun arg => ⟨lowerCase arg, .literal⟩
  | .hostRegexp => call.args.map fun arg => ⟨lowerCase arg, .pattern⟩
  | _ => []

theorem hosts_signed (call : NestedCall) : call.signed.hosts = call.hosts := by
  obtain ⟨matcher, args, negations⟩ := call
  cases matcher <;> rfl

/-- One negation more turns the sign around. -/
theorem isNegated_succ (matcher : Matcher) (args : List String) (negations : Nat) :
    isNegated ⟨matcher, args, negations + 1⟩ = !isNegated ⟨matcher, args, negations⟩ := by
  obtain even | odd := Nat.mod_two_eq_zero_or_one negations
  · simp [isNegated, Nat.add_mod, even]
  · simp [isNegated, Nat.add_mod, odd]

end NestedCall

/-- With a negation pending around the expression all of its calls change their signs. -/
theorem Expr.signedCalls_eq (negated : Bool) (expr : Expr) :
    expr.signedCalls negated = expr.calls.map fun call => ⟨call.matcher, call.isNegated != negated, call.args⟩ := by
  -- for both values of the pending negation at once, since a negation on the way turns it around
  induction expr using Expr.induction generalizing negated with
  | call matcher args =>
    rw [signedCalls, calls, List.map_singleton]
    cases negated <;> rfl
  | not operand ih =>
    rw [signedCalls, calls, ih, List.map_map]
    refine List.map_congr_left fun call _ => ?_
    simp only [Function.comp_apply, NestedCall.isNegated_succ]
    cases call.isNegated <;> cases negated <;> rfl
  | and operands ih | or operands ih =>
    rw [signedCalls, calls, List.map_flatMap]
    exact List.flatMap_congr fun operand member => ih operand member negated

private theorem Predicate.leaves_ofExpr (expr : Expr) : (ofExpr expr).leaves = expr.calls.map NestedCall.signed := by
  rw [ofExpr, leaves_lower, Expr.signedCalls_eq]
  refine List.map_congr_left fun call _ => ?_
  rw [Bool.bne_false, NestedCall.signed]

/-- The host values depend on nothing but the calls with their signs. -/
theorem Predicate.hostValues_ofExpr (expr : Expr) :
    (ofExpr expr).hostValues = .ofCalls (expr.calls.map NestedCall.signed) := by
  rw [hostValues_eq, leaves_ofExpr]

/-- The leaves of a predicate are the calls of its expression as they are and in their order, and negated when an odd
number of negations stands around them. The positive host values are those of the calls that are not negated, and the
negative ones those of the calls that are, from left to right. Nothing else enters into the candidates of a rule. -/
theorem hosts_follow_parity (expr : Expr) :
    let predicate := Predicate.ofExpr expr
    predicate.leaves = expr.calls.map NestedCall.signed ∧
      predicate.hostValues.positive = (expr.calls.filter (·.negations % 2 = 0)).flatMap NestedCall.hosts ∧
      predicate.hostValues.negative =
        ((expr.calls.filter (·.negations % 2 = 1)).flatMap NestedCall.hosts).map Candidate.value ∧
      ∀ other : Expr, other.calls.map NestedCall.signed = expr.calls.map NestedCall.signed →
        (Predicate.ofExpr other).hostValues.candidates = predicate.hostValues.candidates ∧
          ∀ rule again, parse rule = .ok expr → parse again = .ok other → candidates again = candidates rule := by
  intro predicate
  have values : predicate.hostValues = _ := Predicate.hostValues_ofExpr expr
  refine ⟨Predicate.leaves_ofExpr expr, ?_, ?_, ?_⟩
  · have even (call : NestedCall) : (!call.signed.negated) = decide (call.negations % 2 = 0) := by
      change (!decide (call.negations % 2 = 1)) = _
      rw [← decide_not, decide_eq_decide]
      exact Nat.mod_two_ne_one
    rw [values, HostValues.ofCalls]
    simp only [List.filter_map, Function.comp_def, even, List.flatMap_map, NestedCall.hosts_signed]
  · have odd (call : NestedCall) : call.signed.negated = decide (call.negations % 2 = 1) := rfl
    rw [values, HostValues.ofCalls]
    simp only [List.filter_map, Function.comp_def, odd, List.flatMap_map, NestedCall.hosts_signed]
  · intro other same
    have found : (Predicate.ofExpr other).hostValues.candidates = predicate.hostValues.candidates := by
      rw [values, Predicate.hostValues_ofExpr, same]
    refine ⟨found, ?_⟩
    intro rule again read also
    rw [candidates, candidates, read, also, Except.map, Except.map, found]

/-- The rules join the same calls in different ways, and negate the path once and three times. -/
theorem hosts_follow_parity_joined :
    let rule := "!(Host(`A`) || Path(`/p`)) && HostRegexp(`C`)"
    let again := "!Host(`A`) || !!!Path(`/p`) && HostRegexp(`C`)"
    let expr : Expr := .and [.not (.or [.call .host ["A"], .call .path ["/p"]]), .call .hostRegexp ["C"]]
    let other : Expr :=
      .or [.not (.call .host ["A"]), .and [.not (.not (.not (.call .path ["/p"]))), .call .hostRegexp ["C"]]]
    parse rule = .ok expr ∧ parse again = .ok other ∧
      other.calls.map NestedCall.signed = expr.calls.map NestedCall.signed ∧
      (Predicate.ofExpr expr).hostValues = ⟨[⟨"c", .pattern⟩], ["a"]⟩ ∧ candidates again = candidates rule := by
  intro rule again expr other
  have call (name : String) (matcher : Matcher) (value : String) (known : folded name = folded matcher.name) :
      Unary (.call matcher [value]) [.name name, .open, .text value, .close] 1 := .call known [value]
  have host := call "Host" .host "A" (by decide)
  have path := call "Path" .path "/p" (by decide)
  have pattern := call "HostRegexp" .hostRegexp "C" (by decide)
  have alone : Conjunction (.call .host ["A"]) _ 1 := .single host
  have either : Disjunction (.or [.call .host ["A"], .call .path ["/p"]]) _ 1 :=
    .several (.more alone (.last (.single path))) (Nat.le_refl 2)
  have derived : Disjunction expr _ 3 :=
    .single (.several (.more (.not (.group either)) (.last pattern)) (Nat.le_refl 2))
  have thrice : Conjunction (.and [.not (.not (.not (.call .path ["/p"]))), .call .hostRegexp ["C"]]) _ 4 :=
    .several (.more (.not (.not (.not path))) (.last pattern)) (Nat.le_refl 2)
  have negated : Conjunction (.not (.call .host ["A"])) _ 2 := .single (.not host)
  have also : Disjunction other _ 4 := .several (.more negated (.last thrice)) (Nat.le_refl 2)
  have read : parse rule = .ok expr := parse_of_tokens (by decide +kernel) derived (by decide)
  have readAgain : parse again = .ok other := parse_of_tokens (by decide +kernel) also (by decide)
  have calls : expr.calls = [⟨.host, ["A"], 1⟩, ⟨.path, ["/p"], 1⟩, ⟨.hostRegexp, ["C"], 0⟩] := by
    simp [expr, Expr.calls]
  have otherCalls : other.calls = [⟨.host, ["A"], 1⟩, ⟨.path, ["/p"], 3⟩, ⟨.hostRegexp, ["C"], 0⟩] := by
    simp [other, Expr.calls]
  have same : other.calls.map NestedCall.signed = expr.calls.map NestedCall.signed := by
    rw [calls, otherCalls]
    decide
  obtain ⟨-, -, -, alike⟩ := hosts_follow_parity expr
  refine ⟨read, readAgain, same, ?_, (alike other same).2 rule again read readAgain⟩
  rw [Predicate.hostValues_ofExpr, calls]
  decide +kernel

end AliasSync.Rule
