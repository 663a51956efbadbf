import AliasSync.Rule.Expr
import AliasSync.Text.LowerCase

/-! Rules with negation pushed down to the calls. Under an odd number of negations conjunction and
disjunction change places, so the truth of the rule is kept. -/

namespace AliasSync.Rule

open AliasSync.Text (lowerCase)

/-- A rule in which only calls are negated. -/
inductive Predicate where
  | leaf (matcher : Matcher) (negated : Bool) (values : List String)
  | and (operands : List Predicate)
  | or (operands : List Predicate)
  deriving Repr, BEq

structure Candidate where
  value : String
  kind : HostKind
  deriving DecidableEq, Repr

/-- The host values of a rule, in the order of the rule, by the sign of their calls. -/
structure HostValues where
  positive : List Candidate
  negative : List String
  deriving DecidableEq, Repr

namespace HostValues

def empty : HostValues := ⟨[], []⟩

def append (first second : HostValues) : HostValues :=
  ⟨first.positive ++ second.positive, first.negative ++ second.negative⟩

instance : Append HostValues := ⟨append⟩

end HostValues

namespace Predicate

mutual

/-- Pushes a pending negation down to the calls. -/
def lower (negate : Bool) : Expr → Predicate
  | .call matcher args => .leaf matcher negate args
  | .not operand => lower (!negate) operand
  | .and operands => if negate then .or (lowerAll negate operands) else .and (lowerAll negate operands)
  | .or operands => if negate then .and (lowerAll negate operands) else .or (lowerAll negate operands)

def lowerAll (negate : Bool) : List Expr → List Predicate
  | [] => []
  | operand :: rest => lower negate operand :: lowerAll negate rest

end

def ofExpr (expr : Expr) : Predicate := lower false expr

def holds (truth : Matcher → List String → Bool) : Predicate → Bool
  | leaf matcher negated values => truth matcher values != negated
  | and operands => operands.attach.all fun ⟨operand, _⟩ => operand.holds truth
  | or operands => operands.attach.any fun ⟨operand, _⟩ => operand.holds truth

def leafHostValues (matcher : Matcher) (negated : Bool) (values : List String) : HostValues :=
  match matcher.hostKind? with
  | none => .empty
  | some kind =>
    if negated then ⟨[], values.map lowerCase⟩
    else ⟨values.map fun value => ⟨lowerCase value, kind⟩, []⟩

mutual

def hostValues : Predicate → HostValues
  | leaf matcher negated values => leafHostValues matcher negated values
  | and operands => hostValuesAll operands
  | or operands => hostValuesAll operands

def hostValuesAll : List Predicate → HostValues
  | [] => .empty
  | operand :: rest => hostValues operand ++ hostValuesAll rest

end

end Predicate

end AliasSync.Rule
