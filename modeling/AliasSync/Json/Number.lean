import AliasSync.Decimal.Shortest
import AliasSync.Json.Basic
import AliasSync.Text.Digits

/-! The value of a JSON number: an integer of 64 bits where it is written as one and fits, and else a
number of double precision. -/

namespace AliasSync.Json

open AliasSync.Text (number?)

inductive Number where
  | nonnegative (value : Nat)
  | negative (magnitude : Nat)
  /-- A finite number of double precision, given by its bits. -/
  | double (bits : UInt64)
  deriving DecidableEq, Repr

/-- Leading digits as a number of 64 bits, and how many digits did not fit any more. -/
def significand : Nat → List Char → Nat × Nat
  | value, [] => (value, 0)
  | value, c :: rest =>
    let next := value * 10 + (c.toNat - '0'.toNat)
    if next < UInt64.size then significand next rest else (value, (c :: rest).length)

/-- `value * 10 ^ exponent` in double precision, by one rounded multiplication or division. Powers
beyond the range are taken in steps; there is no result beyond the largest finite number. -/
def scale : Nat → Float → Int → Option Float
  | 0, value, _ => some value
  | steps + 1, value, exponent =>
    if exponent.natAbs ≤ 308 then
      let power := Float.ofScientific 1 false exponent.natAbs
      let result := if 0 ≤ exponent then value * power else value / power
      if result.isInf then none else some result
    else if value == 0.0 then some value
    else if 0 ≤ exponent then none
    else scale steps (value / Float.ofScientific 1 false 308) (exponent + 308)

namespace Numeral

/-- The digits that are kept, and the power of ten they stand before when the exponent is left out. -/
def leading (numeral : Numeral) : Nat × Int :=
  let (whole, dropped) := significand 0 numeral.digits
  match numeral.fraction with
  | none => (whole, dropped)
  | some fraction =>
    if 0 < dropped ∧ UInt64.size ≤ whole * 10 + (((fraction.head?.map Char.toNat).getD 48) - 48) then
      (whole, dropped)
    else
      let (all, left) := significand whole fraction
      (all, (dropped : Int) - ((fraction.length : Int) - left))

def double? (numeral : Numeral) : Option UInt64 := do
  let (kept, place) := numeral.leading
  let exponent : Int := match numeral.exponent with
    | none => 0
    | some (negative, digits) =>
      let size := (number? 10 digits).getD 0
      if negative then -(size : Int) else size
  let magnitude ←
    if 2147483648 ≤ exponent.natAbs then
      if 0 < exponent ∧ kept ≠ 0 then none else some 0.0
    else scale 8 (UInt64.ofNat kept).toFloat (place + exponent)
  pure (if numeral.negative then (-magnitude).toBits else magnitude.toBits)

def value? (numeral : Numeral) : Option Number :=
  if numeral.fraction.isNone && numeral.exponent.isNone then
    let size := (number? 10 numeral.digits).getD 0
    if numeral.negative then
      if 0 < size ∧ size ≤ UInt64.size / 2 then some (.negative size) else numeral.double?.map .double
    else if size < UInt64.size then some (.nonnegative size)
    else numeral.double?.map .double
  else numeral.double?.map .double

end Numeral

/-- Numbers from `10 ^ -5` up to `10 ^ 16` are written positionally with at least one digit after the
point, all others with an exponent and its sign. -/
def doubleText (bits : UInt64) : String :=
  let sign := if UInt64.size / 2 ≤ bits.toNat then "-" else ""
  let binary := Decimal.Binary.ofBits bits
  if binary.mantissa = 0 then sign ++ "0.0"
  else
    let shortest := Decimal.shortest binary
    let digits := Nat.toDigits 10 shortest.digits
    let first : Int := shortest.exponent + digits.length - 1
    let zeros (n : Nat) : List Char := List.replicate n '0'
    let body : List Char :=
      if -5 ≤ first ∧ first < 16 then
        if first < 0 then '0' :: '.' :: zeros (-first - 1).toNat ++ digits
        else if (digits.length : Int) ≤ first + 1 then
          digits ++ zeros (first + 1 - digits.length).toNat ++ ['.', '0']
        else digits.take (first + 1).toNat ++ '.' :: digits.drop (first + 1).toNat
      else
        let power := (if first < 0 then '-' else '+') :: Nat.toDigits 10 first.natAbs
        match digits with
        | [single] => single :: 'e' :: power
        | leading :: rest => leading :: '.' :: rest ++ 'e' :: power
        | [] => []
    sign ++ String.ofList body

def Number.text : Number → String
  | .nonnegative value => toString value
  | .negative magnitude => "-" ++ toString magnitude
  | .double bits => doubleText bits

end AliasSync.Json
