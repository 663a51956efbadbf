import AliasSync.Rule.Predicate

/-! Pushing negation down to the calls changes neither the truth of a rule nor its calls: those under an odd
number of negations come out negated, and all of them stay in their order. -/

namespace AliasSync.Rule

@[elab_as_elim]
theorem Expr.induction {motive : Expr → Prop} (call : ∀ matcher args, motive (.call matcher args))
    (not : ∀ operand, motive operand → motive (.not operand))
    (and : ∀ operands, (∀ operand ∈ operands, motive operand) → motive (.and operands))
    (or : ∀ operands, (∀ operand ∈ operands, motive operand) → motive (.or operands)) : ∀ expr, motive expr
  | .call matcher args => call matcher args
  | .not operand => not operand (induction call not and or operand)
  | .and operands => and operands fun operand _ => induction call not and or operand
  | .or operands => or operands fun operand _ => induction call not and or operand

@[elab_as_elim]
theorem Predicate.induction {motive : Predicate → Prop}
    (leaf : ∀ matcher negated values, motive (.leaf matcher negated values))
    (and : ∀ operands, (∀ operand ∈ operands, motive operand) → motive (.and operands))
    (or : ∀ operands, (∀ operand ∈ operands, motive operand) → motive (.or operands)) : ∀ predicate, motive predicate
  | .leaf matcher negated values => leaf matcher negated values
  | .and operands => and operands fun operand _ => induction leaf and or operand
  | .or operands => or operands fun operand _ => induction leaf and or operand

variable {truth : Matcher → List String → Bool}

namespace Expr

@[simp] theorem holds_call (matcher : Matcher) (args : List String) :
    (call matcher args).holds truth = truth matcher args := by rw [holds]

@[simp] theorem holds_not (operand : Expr) : operand.not.holds truth = !operand.holds truth := by rw [holds]

@[simp] theorem holds_and (operands : List Expr) :
    (and operands).holds truth = operands.all fun operand => operand.holds truth := by simp [holds]

@[simp] theorem holds_or (operands : List Expr) :
    (or operands).holds truth = operands.any fun operand => operand.holds truth := by simp [holds]

end Expr

structure SignedCall where
  matcher : Matcher
  negated : Bool
  args : List String
  deriving DecidableEq, Repr

def SignedCall.holds (truth : Matcher → List String → Bool) (call : SignedCall) : Bool :=
  truth call.matcher call.args != call.negated

/-- The calls of an expression from left to right. Every negation around a call changes its sign. -/
def Expr.signedCalls (negated : Bool) : Expr → List SignedCall
  | call matcher args => [⟨matcher, negated, args⟩]
  | not operand => operand.signedCalls (!negated)
  | and operands => operands.flatMap fun operand => operand.signedCalls negated
  | or operands => operands.flatMap fun operand => operand.signedCalls negated

namespace Predicate

def leaves : Predicate → List SignedCall
  | leaf matcher negated values => [⟨matcher, negated, values⟩]
  | and operands => operands.flatMap fun operand => operand.leaves
  | or operands => operands.flatMap fun operand => operand.leaves

@[simp] theorem holds_leaf (matcher : Matcher) (negated : Bool) (values : List String) :
    (leaf matcher negated values).holds truth = (truth matcher values != negated) := by rw [holds]

@[simp] theorem holds_and (operands : List Predicate) :
    (and operands).holds truth = operands.all fun operand => operand.holds truth := by simp [holds]

@[simp] theorem holds_or (operands : List Predicate) :
    (or operands).holds truth = operands.any fun operand => operand.holds truth := by simp [holds]

section Negation

variable {negate : Bool} {operands : List Expr}

theorem map_lowerAll {view : Predicate → β} {value : Expr → β}
    (each : ∀ operand ∈ operands, view (lower negate operand) = value operand) :
    (lowerAll negate operands).map view = operands.map value := by
  induction operands with
  | nil => rfl
  | cons operand rest ih =>
    have later := ih fun other member => each other (List.mem_cons_of_mem _ member)
    rw [lowerAll, List.map_cons, List.map_cons, each operand List.mem_cons_self, later]

private theorem all_lowerAll
    (each : ∀ operand ∈ operands, (lower negate operand).holds truth = (operand.holds truth != negate)) :
    ((lowerAll negate operands).all fun lowered => lowered.holds truth) =
      operands.all fun operand => operand.holds truth != negate := by
  have same := congrArg (List.all · id) (map_lowerAll each)
  simpa only [List.all_map, Function.comp_def, id] using same

private theorem any_lowerAll
    (each : ∀ operand ∈ operands, (lower negate operand).holds truth = (operand.holds truth != negate)) :
    ((lowerAll negate operands).any fun lowered => lowered.holds truth) =
      operands.any fun operand => operand.holds truth != negate := by
  have same := congrArg (List.any · id) (map_lowerAll each)
  simpa only [List.any_map, Function.comp_def, id] using same

theorem flatMap_lowerAll {view : Predicate → List β} {value : Expr → List β}
    (each : ∀ operand ∈ operands, view (lower negate operand) = value operand) :
    (lowerAll negate operands).flatMap view = operands.flatMap value := by
  have same := congrArg List.flatten (map_lowerAll each)
  simpa only [List.flatMap_def] using same

end Negation

/-- A negation that is still pending turns the truth around, and nothing else does. -/
theorem holds_lower (negate : Bool) (expr : Expr) :
    (lower negate expr).holds truth = (expr.holds truth != negate) := by
  -- for both values of the pending negation at once, since a negation on the way turns it around
  induction expr using Expr.induction generalizing negate with
  | call matcher args => rw [lower, holds_leaf, Expr.holds_call]
  | not operand ih =>
    rw [lower, ih, Expr.holds_not]
    cases operand.holds truth <;> cases negate <;> rfl
  | and operands ih =>
    rw [lower, Expr.holds_and]
    have each := fun operand member => ih operand member negate
    cases negate with
    | false =>
      rw [if_neg Bool.false_ne_true, holds_and, all_lowerAll each]
      simp only [Bool.bne_false]
    | true =>
      rw [if_pos rfl, holds_or, any_lowerAll each]
      simp only [Bool.bne_true, List.not_all_eq_any_not]
  | or operands ih =>
    rw [lower, Expr.holds_or]
    have each := fun operand member => ih operand member negate
    cases negate with
    | false =>
      rw [if_neg Bool.false_ne_true, holds_or, any_lowerAll each]
      simp only [Bool.bne_false]
    | true =>
      rw [if_pos rfl, holds_and, all_lowerAll each]
      simp only [Bool.bne_true, List.not_any_eq_all_not]

/-- A rule and its predicate hold under the same assignments of truth values to calls. -/
theorem negation_pushdown_keeps_truth (truth : Matcher → List String → Bool) (expr : Expr) :
    (ofExpr expr).holds truth = expr.holds truth := by
  have lowered : (lower false expr).holds truth = (expr.holds truth != false) := holds_lower false expr
  rw [ofExpr, lowered, Bool.bne_false]

theorem leaves_lower (negate : Bool) (expr : Expr) : (lower negate expr).leaves = expr.signedCalls negate := by
  induction expr using Expr.induction generalizing negate with
  | call matcher args => rw [lower, leaves, Expr.signedCalls]
  | not operand ih => rw [lower, ih, Expr.signedCalls]
  | and operands ih =>
    have each := flatMap_lowerAll fun operand member => ih operand member negate
    rw [lower, Expr.signedCalls, ← each]
    cases negate <;> simp only [Bool.false_eq_true, ↓reduceIte, leaves]
  | or operands ih =>
    have each := flatMap_lowerAll fun operand member => ih operand member negate
    rw [lower, Expr.signedCalls, ← each]
    cases negate <;> simp only [Bool.false_eq_true, ↓reduceIte, leaves]

/-- What one assignment satisfies and another does not has a leaf that tells the two apart in the same way. -/
theorem exists_leaf_of_holds {other : Matcher → List String → Bool} {predicate : Predicate}
    (holds : predicate.holds truth = true) (fails : predicate.holds other = false) :
    ∃ leaf ∈ predicate.leaves, leaf.holds truth = true ∧ leaf.holds other = false := by
  induction predicate using Predicate.induction with
  | leaf matcher negated values =>
    rw [holds_leaf] at holds fails
    exact ⟨⟨matcher, negated, values⟩, by rw [leaves]; exact List.mem_singleton_self _, holds, fails⟩
  | and operands ih =>
    rw [holds_and, List.all_eq_true] at holds
    rw [holds_and, List.all_eq_false] at fails
    obtain ⟨operand, member, failing⟩ := fails
    obtain ⟨leaf, found, apart⟩ := ih operand member (holds operand member) (eq_false_of_ne_true failing)
    exact ⟨leaf, by rw [leaves]; exact List.mem_flatMap.mpr ⟨operand, member, found⟩, apart⟩
  | or operands ih =>
    rw [holds_or, List.any_eq_true] at holds
    rw [holds_or, List.any_eq_false] at fails
    obtain ⟨operand, member, holding⟩ := holds
    obtain ⟨leaf, found, apart⟩ := ih operand member holding (eq_false_of_ne_true (fails operand member))
    exact ⟨leaf, by rw [leaves]; exact List.mem_flatMap.mpr ⟨operand, member, found⟩, apart⟩

end Predicate

end AliasSync.Rule
