import AliasSync.Proofs.NestingCounter
import AliasSync.Proofs.RulePredicate
import AliasSync.Proofs.RulePrinting
import Mathlib.Data.List.MinMax
import Mathlib.Order.Nat

/-! How deep the functions on expressions and predicates recurse. The height of an expression is bounded by how deep
its calls are nested, and pushing negation down to the calls makes nothing higher. -/

namespace AliasSync.Rule

section Maxima

variable {items : List α} {size other : α → Nat}

private theorem le_foldr_max (size : α → Nat) {item : α} (member : item ∈ items) :
    size item ≤ (items.map size).foldr max 0 :=
  List.le_max_of_le (List.mem_map_of_mem member) (Nat.le_refl _)

private theorem foldr_max_le {bound : Nat} :
    (items.map size).foldr max 0 ≤ bound ↔ ∀ item ∈ items, size item ≤ bound := by
  constructor
  · exact fun bounded item member => Nat.le_trans (le_foldr_max size member) bounded
  · exact fun each => List.max_le_of_forall_le _ bound (List.forall_mem_map.mpr each)

private theorem foldr_max_mono (each : ∀ item ∈ items, size item ≤ other item) :
    (items.map size).foldr max 0 ≤ (items.map other).foldr max 0 :=
  foldr_max_le.mpr fun item member => Nat.le_trans (each item member) (le_foldr_max other member)

/-- Visiting all of the items needs as much room as visiting the largest of them. -/
theorem mapM_within {visit : α → Option β} {value : α → β} {room : Nat}
    (each : ∀ item ∈ items, visit item = if size item ≤ room then some (value item) else none) :
    items.mapM visit = if (items.map size).foldr max 0 ≤ room then some (items.map value) else none := by
  induction items with
  | nil => simp
  | cons item rest ih =>
    obtain ⟨first, others⟩ := List.forall_mem_cons.mp each
    simp only [List.mapM_cons, first, ih others, List.map_cons, List.foldr_cons, Nat.max_le]
    by_cases fits : size item ≤ room <;>
      by_cases later : (rest.map size).foldr max 0 ≤ room <;> simp [fits, later]

end Maxima

namespace Expr

/-- The number of nodes on the longest way from the root down to a call. -/
def height : Expr → Nat
  | call _ _ => 1
  | not operand => operand.height + 1
  | and operands => (operands.map fun operand => operand.height).foldr max 0 + 1
  | or operands => (operands.map fun operand => operand.height).foldr max 0 + 1

/-- The number of operands of each conjunction and disjunction, and none for a call, in the order in which the nodes
are written. Negations are left out. -/
def operandCounts : Expr → List Nat
  | call _ _ => [0]
  | not operand => operand.operandCounts
  | and operands => operands.length :: operands.flatMap fun operand => operand.operandCounts
  | or operands => operands.length :: operands.flatMap fun operand => operand.operandCounts

variable {expr operand : Expr} {operands : List Expr} {nesting least : Nat}

/-- Parentheses make up for an operand that binds less tightly than its place asks for. -/
theorem height_enclosed (bounded : operand.height + operand.binding ≤ 2 * nesting + 1) (tightest : least ≤ 2) :
    operand.height + least ≤ 2 * operand.enclosedNesting least nesting + 1 := by
  unfold enclosedNesting
  split <;> omega

private theorem height_operands (some : operands ≠ []) (tightest : least ≤ 2)
    (each : ∀ operand ∈ operands, operand.height + operand.binding ≤ 2 * operand.nesting + 1) :
    (operands.map fun operand => operand.height).foldr max 0 + least ≤
      2 * (operands.map fun operand => operand.enclosedNesting least operand.nesting).foldr max 0 + 1 := by
  generalize whole : (operands.map fun operand => operand.enclosedNesting least operand.nesting).foldr max 0 = deepest
  have bounded : ∀ operand ∈ operands, operand.height + least ≤ 2 * deepest + 1 := by
    intro operand member
    have enclosed := height_enclosed (each operand member) tightest
    have within := le_foldr_max (fun operand => operand.enclosedNesting least operand.nesting) member
    rw [whole] at within
    omega
  have highest : (operands.map fun operand => operand.height).foldr max 0 ≤ 2 * deepest + 1 - least := by
    rw [foldr_max_le]
    exact fun operand member => Nat.le_sub_of_add_le (bounded operand member)
  obtain ⟨operand, member⟩ := List.exists_mem_of_ne_nil operands some
  have room := bounded operand member
  omega

/-- Each level of nesting has room for a disjunction and a conjunction. -/
theorem WellFormed.height_le (formed : expr.WellFormed) : expr.height + expr.binding ≤ 2 * expr.nesting + 1 := by
  induction formed with
  | call matcher args => simp [height, binding, nesting]
  | @not operand inner ih =>
    have enclosed := height_enclosed ih (Nat.le_refl 2)
    simp only [height, binding, nesting]
    omega
  | and count each ih =>
    have bounded := height_operands (List.ne_nil_of_length_pos (by omega)) (Nat.le_refl 2) ih
    simp only [height, binding, nesting]
    omega
  | or count each ih =>
    have bounded := height_operands (List.ne_nil_of_length_pos (by omega)) (by decide : 1 ≤ 2) ih
    simp only [height, binding, nesting]
    omega

end Expr

namespace Predicate

def height : Predicate → Nat
  | leaf _ _ _ => 1
  | and operands => (operands.map fun operand => operand.height).foldr max 0 + 1
  | or operands => (operands.map fun operand => operand.height).foldr max 0 + 1

def operandCounts : Predicate → List Nat
  | leaf _ _ _ => [0]
  | and operands => operands.length :: operands.flatMap fun operand => operand.operandCounts
  | or operands => operands.length :: operands.flatMap fun operand => operand.operandCounts

/-- Pushes a pending negation down to the calls, on a stack that holds so many activations. -/
def lowerWithin : Nat → Bool → Expr → Option Predicate
  | 0, _, _ => none
  | _ + 1, negate, .call matcher args => some (.leaf matcher negate args)
  | room + 1, negate, .not operand => lowerWithin room (!negate) operand
  | room + 1, negate, .and operands => (operands.mapM (lowerWithin room negate)).map (if negate then .or else .and)
  | room + 1, negate, .or operands => (operands.mapM (lowerWithin room negate)).map (if negate then .and else .or)

def hostValuesWithin : Nat → Predicate → Option HostValues
  | 0, _ => none
  | _ + 1, leaf matcher negated values => some (leafHostValues matcher negated values)
  | room + 1, and operands => (operands.mapM (hostValuesWithin room)).map (List.foldr (· ++ ·) .empty)
  | room + 1, or operands => (operands.mapM (hostValuesWithin room)).map (List.foldr (· ++ ·) .empty)

private theorem lowerAll_eq_map (negate : Bool) (operands : List Expr) :
    lowerAll negate operands = operands.map (lower negate) := by
  have same : (lowerAll negate operands).map id = operands.map (lower negate) := map_lowerAll fun _ _ => rfl
  rwa [List.map_id] at same

private theorem hostValuesAll_eq_foldr (operands : List Predicate) :
    hostValuesAll operands = (operands.map hostValues).foldr (· ++ ·) .empty := by
  induction operands with
  | nil => rfl
  | cons operand rest ih => rw [hostValuesAll, ih, List.map_cons, List.foldr_cons]

private theorem lowerWithin_eq (room : Nat) (negate : Bool) (expr : Expr) :
    lowerWithin room negate expr = if expr.height ≤ room then some (lower negate expr) else none := by
  induction room generalizing negate expr with
  | zero =>
    have high : 0 < expr.height := by cases expr <;> simp [Expr.height]
    rw [lowerWithin, if_neg (Nat.not_le_of_lt high)]
  | succ room ih =>
    cases expr with
    | call matcher args => simp [lowerWithin, Expr.height, lower]
    | not operand => simp [lowerWithin, Expr.height, lower, ih]
    | and operands | or operands =>
      rw [lowerWithin, mapM_within fun operand _ => ih negate operand, lower, lowerAll_eq_map]
      by_cases fits : (operands.map Expr.height).foldr max 0 ≤ room <;> cases negate <;> simp [Expr.height, fits]

private theorem hostValuesWithin_eq (room : Nat) (predicate : Predicate) :
    hostValuesWithin room predicate = if predicate.height ≤ room then some predicate.hostValues else none := by
  induction room generalizing predicate with
  | zero =>
    have high : 0 < predicate.height := by cases predicate <;> simp [height]
    rw [hostValuesWithin, if_neg (Nat.not_le_of_lt high)]
  | succ room ih =>
    cases predicate with
    | leaf matcher negated values => simp [hostValuesWithin, height, hostValues]
    | and operands | or operands =>
      rw [hostValuesWithin, mapM_within fun operand _ => ih operand, hostValues, hostValuesAll_eq_foldr]
      by_cases fits : (operands.map height).foldr max 0 ≤ room <;> simp [height, fits]

/-- Negations leave no node, and every other node of an expression has its counterpart. -/
theorem height_lower_le (negate : Bool) (expr : Expr) : (lower negate expr).height ≤ expr.height := by
  induction expr using Expr.induction generalizing negate with
  | call matcher args => simp [lower, height, Expr.height]
  | not operand ih =>
    rw [lower, Expr.height]
    exact Nat.le_succ_of_le (ih _)
  | and operands ih | or operands ih =>
    have bounded := foldr_max_mono fun operand member => ih operand member negate
    rw [lower, lowerAll_eq_map, Expr.height]
    cases negate <;> simpa [height, Function.comp_def] using bounded

private theorem operandCounts_lower (negate : Bool) (expr : Expr) :
    (lower negate expr).operandCounts = expr.operandCounts := by
  induction expr using Expr.induction generalizing negate with
  | call matcher args => rw [lower, operandCounts, Expr.operandCounts]
  | not operand ih => rw [lower, ih, Expr.operandCounts]
  | and operands ih | or operands ih =>
    have each := flatMap_lowerAll fun operand member => ih operand member negate
    have length : (lowerAll negate operands).length = operands.length := by rw [lowerAll_eq_map, List.length_map]
    rw [lower, Expr.operandCounts, ← each, ← length]
    cases negate <;> simp only [Bool.false_eq_true, ↓reduceIte, operandCounts]

end Predicate

open Predicate (ofExpr lowerWithin hostValuesWithin)

/-- However long a rule is, what recurses on it needs no more room than the nesting that is allowed makes necessary. -/
theorem recursion_stays_bounded (rule : String) :
    (∀ stop room, Counted.Restores (Counted.operand stop room)) ∧
    (∃ after, Counted.parse (maxNesting + 1) rule = ((parse rule).mapError .rejected, after) ∧
      after.peak ≤ maxNesting + 1) ∧
    (∀ expr, parse rule = .ok expr → expr.WellFormed ∧ expr.height ≤ 2 * maxNesting + 1 ∧
      lowerWithin (2 * maxNesting + 1) false expr = some (ofExpr expr) ∧
      hostValuesWithin (2 * maxNesting + 1) (ofExpr expr) = some (ofExpr expr).hostValues) ∧
    ∀ expr, (ofExpr expr).height ≤ expr.height ∧ (ofExpr expr).operandCounts = expr.operandCounts := by
  refine ⟨Counted.operand_restores, Counted.parse_agrees (Nat.lt_succ_self _) rule, ?_, ?_⟩
  · intro expr accepted
    obtain ⟨formed, shallow⟩ := parse_fits accepted
    have low : expr.height ≤ 2 * maxNesting + 1 := by
      have bounded := formed.height_le
      omega
    have lower : (ofExpr expr).height ≤ 2 * maxNesting + 1 := Nat.le_trans (Predicate.height_lower_le false expr) low
    refine ⟨formed, low, ?_, ?_⟩
    · rw [Predicate.lowerWithin_eq, if_pos low, ofExpr]
    · rw [Predicate.hostValuesWithin_eq, if_pos lower]
  · exact fun expr => ⟨Predicate.height_lower_le false expr, Predicate.operandCounts_lower false expr⟩

/-- The second call is the deepest, with two negations and a pair of parentheses around it. -/
theorem recursion_stays_bounded_negated :
    let rule := "!(Host(`a`) && !Path(`/b`))"
    let expr : Expr := .not (.and [.call .host ["a"], .not (.call .path ["/b"])])
    parse rule = .ok expr ∧ expr.height = 4 ∧ expr.WellFormed ∧ (ofExpr expr).height = 2 ∧
      (ofExpr expr).operandCounts = [2, 0, 0] ∧ lowerWithin (2 * maxNesting + 1) false expr = some (ofExpr expr) ∧
      (Counted.parse (maxNesting + 1) rule).2 = ⟨0, 4⟩ := by
  intro rule expr
  have host : Unary (.call .host ["a"]) [.name "Host", .open, .text "a", .close] 1 := .call (by decide) ["a"]
  have path : Unary (.call .path ["/b"]) [.name "Path", .open, .text "/b", .close] 1 := .call (by decide) ["/b"]
  have derived : Unary expr _ 4 := .not (.group (.single (.several (.more host (.last (.not path))) (Nat.le_refl 2))))
  have read : parse rule = .ok expr := parse_of_tokens (by decide +kernel) (.single (.single derived)) (by decide)
  obtain ⟨-, -, accepted, lowered⟩ := recursion_stays_bounded rule
  obtain ⟨formed, -, within, -⟩ := accepted expr read
  refine ⟨read, ?_, formed, ?_, ?_, within, by decide +kernel⟩
  · simp [expr, Expr.height]
  · simp [expr, ofExpr, Predicate.lower, Predicate.lowerAll, Predicate.height]
  · rw [(lowered expr).2]
    simp [expr, Expr.operandCounts]

end AliasSync.Rule
