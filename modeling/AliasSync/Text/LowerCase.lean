import AliasSync.Text.CaseTable

/-! Lower case of a text. Every character has its small form whatever surrounds it, the capital sigma
excepted: at the end of a word it becomes `ς`, elsewhere `σ`. -/

namespace AliasSync.Text

def shiftIn (c : Nat) : Nat × Nat × Nat × Int → Option Int
  | (low, high, stride, shift) =>
    if low ≤ c ∧ c ≤ high ∧ (c - low) % stride = 0 then some shift else none

/-- The small form of one character, out of any context. Only the dotted capital I has a small form
of two characters. -/
def smallForm (c : Char) : List Char :=
  if c.toNat < 0x80 then [c.toLower]
  else if c = 'İ' then ['i', '\u0307']
  else match smallFormRows.findSome? (shiftIn c.toNat) with
    | some shift => [Char.ofNat (c.toNat + shift).toNat]
    | none => [c]

def isCased (c : Char) : Bool := isInRanges casedRanges c.toNat

def isCaseIgnorable (c : Char) : Bool := isInRanges caseIgnorableRanges c.toNat

def casedNext (text : List Char) : Bool :=
  match text.dropWhile isCaseIgnorable with
  | [] => false
  | c :: _ => isCased c

/-- A capital sigma ends a word when a letter precedes it and none follows. -/
def sigmaForm (before after : List Char) : Char :=
  if casedNext before && !casedNext after then 'ς' else 'σ'

/-- Lower case of a text, given the characters before it, nearest first. -/
def lowerAfter (before : List Char) : List Char → List Char
  | [] => []
  | c :: after =>
    (if c = 'Σ' then [sigmaForm before after] else smallForm c) ++ lowerAfter (c :: before) after

def lowerCase (text : String) : String := String.ofList (lowerAfter [] text.toList)

end AliasSync.Text
