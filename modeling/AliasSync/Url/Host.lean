import AliasSync.Text.Digits
import AliasSync.Url.Error

/-! Hosts that are addresses: IPv4 in its many spellings and IPv6. -/

namespace AliasSync.Url

open AliasSync.Text (number?)

inductive Host where
  | domain (name : String)
  | ipv4 (address : Nat)
  | ipv6 (pieces : List Nat)
  deriving DecidableEq, Repr

/-- A number within an IPv4 address: hexadecimal after `0x`, octal after `0`, and else decimal. Only
a prefix stands for zero. -/
def ipv4Number? : List Char → Option Nat
  | [] => none
  | '0' :: 'x' :: digits | '0' :: 'X' :: digits => orZero 16 digits
  | '0' :: d :: digits => number? 8 (d :: digits)
  | digits => number? 10 digits
where
  orZero (base : Nat) (digits : List Char) : Option Nat :=
    if digits.isEmpty then some 0 else number? base digits

/-- The parts of a domain between its dots, a final dot left out. -/
def dottedParts (domain : List Char) : List (List Char) :=
  let parts := domain.splitOn '.'
  if 1 < parts.length && parts.getLast? == some [] then parts.dropLast else parts

/-- The domain is meant to be an IPv4 address: its last part is a number. -/
def endsInNumber (domain : List Char) : Bool :=
  match (dottedParts domain).getLast? with
  | none => false
  | some last => (!last.isEmpty && last.all Char.isDigit) || (ipv4Number? last).isSome

/-- The address that a domain denotes: up to four numbers, the last of which fills the rest. -/
def ipv4? (domain : List Char) : Option Nat := do
  let parts := dottedParts domain
  guard (parts.length ≤ 4)
  let numbers ← parts.mapM ipv4Number?
  let last ← numbers.getLast?
  let leading := numbers.dropLast
  guard (last < Nat.pow 256 (4 - leading.length))
  guard (leading.all (· < 256))
  pure (leading.zipIdx.foldl (fun address (number, index) => address + number * Nat.pow 256 (3 - index)) last)

def decimalByte? (digits : List Char) : Option Nat := do
  let value ← number? 10 digits
  guard (value < 256)
  guard (digits.length = 1 || digits.head? != some '0')
  pure value

def embeddedIpv4? (text : List Char) : Option (List Nat) := do
  match ← (text.splitOn '.').mapM decimalByte? with
  | [a, b, c, d] => pure [a * 256 + b, c * 256 + d]
  | _ => none

/-- One piece: up to four hexadecimal digits. -/
def ipv6Piece? (text : List Char) : Option Nat := do
  guard (text.length ≤ 4)
  number? 16 text

/-- Pieces between colons. An IPv4 address may stand for the last two if `tail` says so. -/
def ipv6Pieces? (tail : Bool) (text : List Char) : Option (List Nat) :=
  if text.isEmpty then some []
  else
    let groups := text.splitOn ':'
    match groups.getLast? with
    | none => none
    | some last =>
      if tail && last.contains '.' then do
        let pieces ← groups.dropLast.mapM ipv6Piece?
        let final ← embeddedIpv4? last
        pure (pieces ++ final)
      else groups.mapM ipv6Piece?

def cutAtGap : List Char → Option (List Char × List Char)
  | [] => none
  | ':' :: ':' :: rest => some ([], rest)
  | c :: rest => (cutAtGap rest).map fun (before, after) => (c :: before, after)

/-- The eight pieces of an address. A double colon stands for at least one piece of zero. -/
def ipv6? (text : List Char) : Option (List Nat) :=
  match cutAtGap text with
  | none => do
    let pieces ← ipv6Pieces? true text
    guard (pieces.length = 8)
    pure pieces
  | some (before, after) => do
    let first ← ipv6Pieces? false before
    let last ← ipv6Pieces? true after
    guard (first.length + last.length ≤ 7)
    pure (first ++ List.replicate (8 - first.length - last.length) 0 ++ last)

def zeroRun (pieces : List Nat) : Nat := (pieces.takeWhile (· == 0)).length

/-- Where the first of the longest runs of zeros starts, and its length. -/
def longestZeroRun (pieces : List Nat) : Nat × Nat :=
  (List.range pieces.length).foldl (fun (start, length) index =>
    let run := zeroRun (pieces.drop index)
    if length < run then (index, run) else (start, length)) (0, 0)

def hexText (n : Nat) : String := String.ofList (Nat.toDigits 16 n)

def ipv6Text (pieces : List Nat) : String :=
  let join (part : List Nat) : String := ":".intercalate (part.map hexText)
  let (start, length) := longestZeroRun pieces
  if length < 2 then join pieces
  else join (pieces.take start) ++ "::" ++ join (pieces.drop (start + length))

def ipv4Text (address : Nat) : String :=
  ".".intercalate ([3, 2, 1, 0].map fun place => toString (address / Nat.pow 256 place % 256))

def Host.text : Host → String
  | .domain name => name
  | .ipv4 address => ipv4Text address
  | .ipv6 pieces => "[" ++ ipv6Text pieces ++ "]"

end AliasSync.Url
