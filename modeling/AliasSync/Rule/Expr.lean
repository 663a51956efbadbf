import AliasSync.Rule.Matcher

/-! Rule expressions, and what they mean once every matcher call has a truth value. -/

namespace AliasSync.Rule

/-- A rule as written: calls joined by negation, conjunction and disjunction. -/
inductive Expr where
  | call (matcher : Matcher) (args : List String)
  | not (operand : Expr)
  | and (operands : List Expr)
  | or (operands : List Expr)
  deriving Repr, BEq

namespace Expr

/-- Truth of an expression under an assignment of truth values to calls. -/
def holds (truth : Matcher → List String → Bool) : Expr → Bool
  | call matcher args => truth matcher args
  | not operand => !operand.holds truth
  | and operands => operands.attach.all fun ⟨operand, _⟩ => operand.holds truth
  | or operands => operands.attach.any fun ⟨operand, _⟩ => operand.holds truth

end Expr

end AliasSync.Rule
