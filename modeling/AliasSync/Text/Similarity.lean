/-! How similar two texts are, by the measure of Jaro: the share of characters that both have at about the
same place, and of those the share that come in the same order. -/

namespace AliasSync.Text

/-- The index of the first character that equals `c`, lies in the window and is not taken yet. -/
def partner? (c : Char) (low high : Nat) (taken : List Nat) (text : List Char) : Option Nat :=
  (text.zipIdx.find? fun (d, index) =>
    decide (low ≤ index) && decide (index < high) && d == c && !taken.contains index).map (·.2)

/-- The characters of the first text that have a partner in the second, and the partners' places. -/
def partners (reach : Nat) (second : List Char) :
    List (Char × Nat) → List Nat → List Char × List Nat
  | [], taken => ([], taken)
  | (c, index) :: rest, taken =>
    match partner? c (index - reach) (index + reach + 1) taken second with
    | some place =>
      let (matched, taken) := partners reach second rest (place :: taken)
      (c :: matched, taken)
    | none => partners reach second rest taken

def similarity (first second : List Char) : Float :=
  if first.isEmpty && second.isEmpty then 1
  else
    let reach := max first.length second.length / 2 - 1
    let (matched, taken) := partners reach second first.zipIdx []
    let partnered := (second.zipIdx.filter fun (_, index) => taken.contains index).map (·.1)
    let swapped := ((matched.zip partnered).filter fun (a, b) => a != b).length / 2
    let count := matched.length
    if count = 0 then 0
    else
      (count.toFloat / first.length.toFloat + count.toFloat / second.length.toFloat +
        (count - swapped).toFloat / count.toFloat) / 3

end AliasSync.Text
