/-! Numbers of double precision in decimal: the fewest digits that no other such number is nearer to.
All arithmetic is exact. -/

namespace AliasSync.Decimal

/-- A positive number `mantissa * 2 ^ exponent` of double precision. -/
structure Binary where
  mantissa : Nat
  exponent : Int
  deriving DecidableEq, Repr

/-- The magnitude behind the bits of a finite number. -/
def Binary.ofBits (bits : UInt64) : Binary :=
  let field : Nat := bits.toNat / Nat.pow 2 52 % 2048
  let fraction : Nat := bits.toNat % Nat.pow 2 52
  if field = 0 then ⟨fraction, -1074⟩ else ⟨Nat.pow 2 52 + fraction, (field : Int) - 1075⟩

/-- Decimal digits before a power of ten. -/
structure Digits where
  digits : Nat
  exponent : Int
  deriving DecidableEq, Repr

structure Ratio where
  numerator : Nat
  denominator : Nat

namespace Ratio

/-- `factor * base ^ exponent`. -/
def scaled (factor base : Nat) (exponent : Int) : Ratio :=
  if 0 ≤ exponent then ⟨factor * Nat.pow base exponent.toNat, 1⟩
  else ⟨factor, Nat.pow base (-exponent).toNat⟩

def le (a b : Ratio) : Bool := decide (a.numerator * b.denominator ≤ b.numerator * a.denominator)

def lt (a b : Ratio) : Bool := !b.le a

/-- How many times `step` goes into `a`. -/
def quotient (a step : Ratio) : Nat :=
  a.numerator * step.denominator / (a.denominator * step.numerator)

end Ratio

/-- The numbers that round to a given one lie between the middles to its neighbours, which belong to
it if its mantissa is even. The values are four times too large, so that all are whole. -/
def Binary.bounds (number : Binary) : Ratio × Ratio :=
  let below := if number.mantissa = Nat.pow 2 52 ∧ -1074 < number.exponent then 1 else 2
  (.scaled (4 * number.mantissa - below) 2 (number.exponent - 2),
    .scaled (4 * number.mantissa + 2) 2 (number.exponent - 2))

def Binary.rounds (number : Binary) (candidate : Digits) : Bool :=
  let (low, high) := number.bounds
  let value := Ratio.scaled candidate.digits 10 candidate.exponent
  if number.mantissa % 2 = 0 then low.le value && value.le high
  else low.lt value && value.lt high

/-- The exponent of the first decimal digit, found among the `steps` exponents up to `top`. -/
def leadingExponent (value : Ratio) : Nat → Int → Int
  | 0, top => top
  | steps + 1, top =>
    if (Ratio.scaled 1 10 top).le value then top else leadingExponent value steps (top - 1)

/-- The best decimal with its last digit at a place, if one rounds to the number. -/
def Binary.onGrid? (number : Binary) (place : Int) : Option Digits :=
  let value := Ratio.scaled number.mantissa 2 number.exponent
  let below := value.quotient (.scaled 1 10 place)
  let lower : Digits := ⟨below, place⟩
  let upper : Digits := ⟨below + 1, place⟩
  if number.rounds lower && number.rounds upper then
    let middle := Ratio.scaled (10 * below + 5) 10 (place - 1)
    if value.lt middle || (value.le middle && below % 2 = 0) then some lower else some upper
  else if number.rounds lower then some lower
  else if number.rounds upper then some upper
  else none

def Digits.trimmed (steps : Nat) (number : Digits) : Digits :=
  match steps with
  | 0 => number
  | steps + 1 =>
    if number.digits % 10 = 0 ∧ number.digits ≠ 0 then
      Digits.trimmed steps ⟨number.digits / 10, number.exponent + 1⟩
    else number

/-- The shortest decimal that rounds to a positive number. -/
def shortest (number : Binary) : Digits :=
  let first := leadingExponent (.scaled number.mantissa 2 number.exponent) 640 309
  let found := (List.range 17).findSome? fun (count : Nat) =>
    number.onGrid? (first - count)
  (found.getD ⟨0, 0⟩).trimmed 20

end AliasSync.Decimal
