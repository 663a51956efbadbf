import AliasSync.Text.CompositionTable

/-! Canonical composition: of all ways to write the same characters with marks the one that uses composed
characters, marks that do not interact being put in order of their classes first. -/

namespace AliasSync.Text

/-- The class of a mark, which is 0 for all that stands on its own. -/
def combiningClass (code : Nat) : Nat :=
  ((combiningClasses.find? fun (_, ranges) => isInRanges ranges code).map (·.1)).getD 0

/-- The parts of a Hangul syllable: a lead consonant, a vowel and perhaps a final consonant. -/
def syllableParts? (code : Nat) : Option (List Nat) :=
  if 0xAC00 ≤ code ∧ code ≤ 0xD7A3 then
    let index := code - 0xAC00
    let final := index % 28
    some ([0x1100 + index / 588, 0x1161 + index % 588 / 28] ++
      if final = 0 then [] else [0x11A7 + final])
  else none

def syllable? (first second : Nat) : Option Nat :=
  if 0x1100 ≤ first ∧ first < 0x1113 ∧ 0x1161 ≤ second ∧ second < 0x1176 then
    some (0xAC00 + ((first - 0x1100) * 21 + (second - 0x1161)) * 28)
  else if 0xAC00 ≤ first ∧ first ≤ 0xD7A3 ∧ (first - 0xAC00) % 28 = 0 ∧
      0x11A7 < second ∧ second < 0x11C3 then
    some (first + (second - 0x11A7))
  else none

/-- The characters that a composed character consists of, taken apart at most `depth` times. -/
def decomposed : Nat → Nat → List Nat
  | 0, code => [code]
  | depth + 1, code =>
    match syllableParts? code with
    | some parts => parts
    | none =>
      match compositionItems.findSome? (CodeItem.value? code) with
      | some [first, second] => decomposed depth first ++ [second]
      | _ => [code]

/-- Puts a character in front of others, behind marks of smaller classes. -/
def placeMark (code : Nat) : List Nat → List Nat
  | [] => [code]
  | next :: rest =>
    if 0 < combiningClass next ∧ combiningClass next < combiningClass code then
      next :: placeMark code rest
    else code :: next :: rest

def composite? (first second : Nat) : Option Nat :=
  match syllable? first second with
  | some code => some code
  | none => compositionItems.findSome? (CodeItem.source? [first, second])

/-- Combines a character with what follows it. The marks that have been passed over do not combine with
it, and keep marks of the same class from doing so. -/
def combine (base : Nat) (passed : List Nat) : List Nat → List Nat
  | [] => base :: passed.reverse
  | code :: rest =>
    let free := match passed with
      | [] => true
      | last :: _ => decide (combiningClass last < combiningClass code)
    match if free then composite? base code else none with
    | some composed => combine composed passed rest
    | none =>
      if combiningClass code = 0 then base :: passed.reverse ++ combine code [] rest
      else combine base (code :: passed) rest

/-- Combines characters. Marks without anything before them stay as they are. -/
def combineAll : List Nat → List Nat
  | [] => []
  | code :: rest =>
    if combiningClass code = 0 then combine code [] rest else code :: combineAll rest

/-- The composed form of a sequence. ASCII has no other form. -/
def composed (codes : List Nat) : List Nat :=
  if codes.all (· < 0x80) then codes
  else combineAll ((codes.flatMap (decomposed 4)).foldr placeMark [])

end AliasSync.Text
