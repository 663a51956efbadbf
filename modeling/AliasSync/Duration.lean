/-! Spans of time, and the text in which messages show them. -/

namespace AliasSync

structure Duration where
  nanoseconds : Nat
  deriving DecidableEq, Repr

namespace Duration

def ofMilliseconds (n : Nat) : Duration := ⟨n * 1000000⟩

def ofSeconds (n : Nat) : Duration := ⟨n * 1000000000⟩

/-- The digits of `part / 10 ^ places`, without trailing zeros. -/
def fraction (part places : Nat) : String :=
  let digits := Nat.toDigits 10 part
  let padded := List.replicate (places - digits.length) '0' ++ digits
  let kept := (padded.reverse.dropWhile (· == '0')).reverse
  if kept.isEmpty then "" else String.ofList ('.' :: kept)

/-- A number of units of `10 ^ places` nanoseconds, exactly. -/
def inUnits (places : Nat) (name : String) (nanoseconds : Nat) : String :=
  toString (nanoseconds / Nat.pow 10 places) ++ fraction (nanoseconds % Nat.pow 10 places) places ++ name

/-- The duration in the largest unit of which it holds at least one. -/
def text (duration : Duration) : String :=
  if 1000000000 ≤ duration.nanoseconds then inUnits 9 "s" duration.nanoseconds
  else if 1000000 ≤ duration.nanoseconds then inUnits 6 "ms" duration.nanoseconds
  else if 1000 ≤ duration.nanoseconds then inUnits 3 "µs" duration.nanoseconds
  else inUnits 0 "ns" duration.nanoseconds

end Duration

end AliasSync
