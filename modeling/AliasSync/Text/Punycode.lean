import AliasSync.Text.Digits
import AliasSync.Text.Split

/-! Punycode: any sequence of code points written in ASCII. The ASCII ones stand in front; each other one is
inserted at a place of its own, and the distance from one insertion to the next, in order of the code points
and then of the places, is a number whose digits adapt to the numbers before it. -/

namespace AliasSync.Text.Punycode

def initialBias : Nat := 72

def digitChar (value : Nat) : Char :=
  if value < 26 then Char.ofNat ('a'.toNat + value) else Char.ofNat ('0'.toNat + (value - 26))

def digitValue? (c : Char) : Option Nat :=
  if 'a' ≤ c ∧ c ≤ 'z' then some (c.toNat - 'a'.toNat)
  else if 'A' ≤ c ∧ c ≤ 'Z' then some (c.toNat - 'A'.toNat)
  else if c.isDigit then some (c.toNat - '0'.toNat + 26)
  else none

/-- A digit below the threshold ends a number. -/
def threshold (place bias : Nat) : Nat :=
  if place ≤ bias then 1 else min 26 (place - bias)

theorem threshold_bounds (place bias : Nat) : 1 ≤ threshold place bias ∧ threshold place bias ≤ 26 := by
  unfold threshold
  split <;> omega

/-- Divides until little is left, counting places. -/
def settle (delta place : Nat) : Nat × Nat :=
  if 455 < delta then settle (delta / 35) (place + 36) else (delta, place)
termination_by delta
decreasing_by exact Nat.div_lt_self (by omega) (by omega)

/-- The bias after a distance, when there are `size` code points in all. -/
def adapt (delta size : Nat) (first : Bool) : Nat :=
  let scaled := if first then delta / 700 else delta / 2
  let (rest, place) := settle (scaled + scaled / size) 0
  place + 36 * rest / (rest + 38)

def digits (bias place number : Nat) : List Char :=
  let least := threshold place bias
  if number < least then [digitChar number]
  else
    digitChar (least + (number - least) % (36 - least)) ::
      digits bias (place + 36) ((number - least) / (36 - least))
termination_by number
decreasing_by
  have bounds := threshold_bounds place bias
  calc (number - threshold place bias) / (36 - threshold place bias)
      ≤ number - threshold place bias := Nat.div_le_self _ _
    _ < number := by omega

/-- What has been written, the distance since then, the bias and the number of code points in place. -/
structure Progress where
  written : List Char
  distance : Nat
  bias : Nat
  placed : Nat

/-- Passes a code point of the sequence while `code` is being inserted. -/
def pass (basic code : Nat) (progress : Progress) (next : Nat) : Progress :=
  if next < code then { progress with distance := progress.distance + 1 }
  else if next = code then
    { written := progress.written ++ digits progress.bias 36 progress.distance
      distance := 0
      bias := adapt progress.distance (progress.placed + 1) (progress.placed == basic)
      placed := progress.placed + 1 }
  else progress

/-- Inserts code points in ascending order, all below `from_` being in place. -/
def insertAll (sequence : List Nat) (basic : Nat) : Nat → List Nat → Progress → Progress
  | _, [], progress => progress
  | low, code :: rest, progress =>
    let reached := { progress with distance := progress.distance + (code - low) * (progress.placed + 1) }
    let passed := sequence.foldl (pass basic code) reached
    insertAll sequence basic (code + 1) rest { passed with distance := passed.distance + 1 }

/-- The code points beyond ASCII, each once, in ascending order. -/
def extended (sequence : List Nat) : List Nat :=
  ((sequence.filter (0x80 ≤ ·)).mergeSort (· ≤ ·)).eraseDups

def encode (sequence : List Nat) : List Char :=
  let basic := sequence.filter (· < 0x80)
  let start : Progress := ⟨[], 0, initialBias, basic.length⟩
  basic.map Char.ofNat ++ (if basic.isEmpty then [] else ['-']) ++
    (insertAll sequence basic.length 0x80 (extended sequence) start).written

/-- What has been read: the code points in place, the next insertion, and the number that is being read. -/
structure Reading where
  placed : List Nat
  code : Nat
  start : Nat
  number : Nat
  weight : Nat
  place : Nat
  bias : Nat

/-- Inserts a code point once its number is complete. -/
def insertNext (reading : Reading) : Option Reading := do
  let size := reading.placed.length + 1
  let code := reading.code + reading.number / size
  guard (code < 0xD800 ∨ 0xDFFF < code ∧ code ≤ 0x10FFFF)
  let index := reading.number % size
  pure
    { placed := reading.placed.take index ++ code :: reading.placed.drop index
      code := code
      start := index + 1
      number := index + 1
      weight := 1
      place := 36
      bias := adapt (reading.number - reading.start) size (reading.start == 0) }

/-- Reads digits to the end, where no number may be open. The weights of digits have 32 bits. -/
def readAll (reading : Reading) : List Char → Option (List Nat)
  | [] => if reading.place = 36 then some reading.placed else none
  | c :: rest => do
    let value ← digitValue? c
    let least := threshold reading.place reading.bias
    let grown := { reading with number := reading.number + value * reading.weight }
    if value < least then readAll (← insertNext grown) rest
    else
      let weight := grown.weight * (36 - least)
      guard (weight < 4294967296)
      readAll { grown with weight := weight, place := grown.place + 36 } rest

/-- Cuts a text at its last hyphen. Without one, or where it comes first, nothing stands in front. -/
def cutAtHyphen (text : List Char) : List Char × List Char :=
  match cutAtLast '-' text with
  | some (first :: more, rest) => (first :: more, rest)
  | _ => ([], text)

def decode? (text : List Char) : Option (List Nat) :=
  let (basic, rest) := cutAtHyphen text
  if basic.all (·.toNat < 0x80) then
    readAll ⟨basic.map Char.toNat, 0x80, 0, 0, 1, 36, initialBias⟩ rest
  else none

end AliasSync.Text.Punycode
