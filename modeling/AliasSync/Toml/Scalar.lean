import AliasSync.Toml.Lexer
import AliasSync.Toml.Value

/-! Numbers and points in time in TOML. -/

namespace AliasSync.Toml

open AliasSync.Text (Reader digit? number?)

/-- Digits with single underscores between them, the underscores left out. -/
def underscored (isDigit : Char → Bool) : Nat → Reader (List Char)
  | 0, _ => none
  | steps + 1, text =>
    let digits := text.takeWhile isDigit
    if digits.isEmpty then none
    else match text.dropWhile isDigit with
      | '_' :: rest => do
        let (more, rest) ← underscored isDigit steps rest
        pure (digits ++ more, rest)
      | rest => some (digits, rest)

def digits (base : Nat) : Reader (List Char) := fun text =>
  underscored (fun c => (digit? base c).isSome) (text.length + 1) text

def sign : List Char → Bool × List Char
  | '-' :: rest => (true, rest)
  | '+' :: rest => (false, rest)
  | text => (false, text)

def plainDigits : Reader (List Char) := fun text => do
  let (found, rest) ← digits 10 text
  guard (found.length = 1 || found.head? != some '0')
  pure (found, rest)

def inWordRange (value : Int) : Bool := decide (-9223372036854775808 ≤ value ∧ value ≤ 9223372036854775807)

/-- An integer of 64 bits in any of the four bases. -/
def integer : Reader Value := fun text => do
  let (value, rest) ←
    match text with
    | '0' :: 'x' :: more => based 16 more
    | '0' :: 'o' :: more => based 8 more
    | '0' :: 'b' :: more => based 2 more
    | _ => do
      let (negative, more) := sign text
      let (found, rest) ← plainDigits more
      let value ← number? 10 found
      pure (if negative then -(value : Int) else (value : Int), rest)
  guard (inWordRange value)
  pure (.integer value, rest)
where
  based (base : Nat) : Reader Int := fun text => do
    let (found, rest) ← digits base text
    let value ← number? base found
    pure ((value : Int), rest)

/-- The decimal number `digits * 10 ^ exponent` is beyond the largest finite number of double
precision, rounding included. -/
def isInfinite (digits : List Char) (exponent : Int) : Bool :=
  let significant := digits.dropWhile (· == '0')
  let magnitude := (significant.length : Int) + exponent
  if significant.isEmpty || magnitude < 300 then false
  else if 320 < magnitude then true
  else
    let value := (number? 10 significant).getD 0
    let bound := Nat.pow 2 1024 - Nat.pow 2 970
    if 0 ≤ exponent then decide (bound ≤ value * Nat.pow 10 exponent.toNat)
    else decide (bound * Nat.pow 10 (-exponent).toNat ≤ value)

def fraction : List Char → Option (Option (List Char) × List Char)
  | '.' :: rest => (digits 10 rest).map fun (found, rest) => (some found, rest)
  | text => some (none, text)

def exponent : List Char → Option (Option Int × List Char)
  | 'e' :: rest | 'E' :: rest => do
    let (negative, rest) := sign rest
    let (found, rest) ← digits 10 rest
    let value ← number? 10 found
    pure (some (if negative then -(value : Int) else (value : Int)), rest)
  | text => some (none, text)

/-- A floating-point number: it has a fraction, an exponent or both, and does not overflow. -/
def float : Reader Value := fun text => do
  let (negative, unsigned) := sign text
  match "inf".toList.isPrefixOf? unsigned, "nan".toList.isPrefixOf? unsigned with
  | some rest, _ => pure (.float, rest)
  | _, some rest => pure (.float, rest)
  | none, none =>
    let (whole, rest) ← plainDigits unsigned
    let (part, rest) ← fraction rest
    let (power, rest) ← exponent rest
    guard (part.isSome || power.isSome)
    let decimals := part.getD []
    guard (negative || !isInfinite (whole ++ decimals) (power.getD 0 - decimals.length))
    pure (.float, rest)

def fixedNumber (length low high : Nat) : Reader Nat := fun text => do
  let found := text.take length
  guard (found.length = length)
  let value ← number? 10 found
  guard (low ≤ value && value ≤ high)
  pure (value, text.drop length)

def daysIn (year month : Nat) : Nat :=
  if month = 2 then
    if year % 4 = 0 ∧ (year % 100 ≠ 0 ∨ year % 400 = 0) then 29 else 28
  else if [4, 6, 9, 11].contains month then 30
  else 31

def date? (text : List Char) : Option (List Char) := do
  let (year, rest) ← fixedNumber 4 0 9999 text
  let rest ← ['-'].isPrefixOf? rest
  let (month, rest) ← fixedNumber 2 1 12 rest
  let rest ← ['-'].isPrefixOf? rest
  let (_, rest) ← fixedNumber 2 1 (daysIn year month) rest
  pure rest

def time? (text : List Char) : Option (List Char) := do
  let (_, rest) ← fixedNumber 2 0 23 text
  let rest ← [':'].isPrefixOf? rest
  let (_, rest) ← fixedNumber 2 0 59 rest
  let rest ← [':'].isPrefixOf? rest
  let (_, rest) ← fixedNumber 2 0 60 rest
  match rest with
  | '.' :: digits =>
    guard ((digits.head?.map Char.isDigit).getD false)
    pure (digits.dropWhile Char.isDigit)
  | _ => pure rest

def offset? (text : List Char) : Option (List Char) :=
  match text with
  | 'Z' :: rest | 'z' :: rest => some rest
  | '+' :: rest | '-' :: rest => do
    let (_, rest) ← fixedNumber 2 0 23 rest
    let rest ← [':'].isPrefixOf? rest
    let (_, rest) ← fixedNumber 2 0 59 rest
    pure rest
  | _ => none

/-- A date, a time, or both with or without an offset. -/
def datetime : Reader Value := fun text =>
  let rest? :=
    match date? text with
    | some rest =>
      match rest with
      | c :: more =>
        if c = 'T' ∨ c = 't' ∨ c = ' ' then
          match time? more with
          | some rest => some ((offset? rest).getD rest)
          | none => some rest
        else some rest
      | [] => some []
    | none => time? text
  rest?.map fun rest => (.datetime, rest)

def scalar : Reader Value := fun text =>
  match text with
  | '"' :: _ | '\'' :: _ => (stringText text).map fun (value, rest) => (.string value, rest)
  | 't' :: _ => ("true".toList.isPrefixOf? text).map fun rest => (.boolean true, rest)
  | 'f' :: _ => ("false".toList.isPrefixOf? text).map fun rest => (.boolean false, rest)
  | _ => datetime text <|> float text <|> integer text

end AliasSync.Toml
