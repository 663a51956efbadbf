/-! Sets of code points given as closed ranges. -/

namespace AliasSync.Text

def isInRanges (ranges : List (Nat × Nat)) (code : Nat) : Bool :=
  ranges.any fun (low, high) => decide (low ≤ code ∧ code ≤ high)

end AliasSync.Text
