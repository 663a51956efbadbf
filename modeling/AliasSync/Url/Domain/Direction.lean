import AliasSync.Url.Domain.DirectionTable

/-! The direction in which domain names are written. Where one label holds letters written from right to
left, every label has to run one way: what it begins and ends with says where it lies in a line, whatever
stands around it. -/

namespace AliasSync.Url

open AliasSync.Text (isInRanges)

inductive Direction where
  | leftToRight
  | rightToLeft
  | arabicNumber
  | europeanNumber
  | nonspacing
  | neutral
  deriving DecidableEq, Repr

namespace Direction

def ofChar (c : Char) : Direction :=
  if isInRanges rightToLeftRanges c.toNat then rightToLeft
  else if isInRanges arabicNumberRanges c.toNat then arabicNumber
  else if isInRanges europeanNumberRanges c.toNat then europeanNumber
  else if isInRanges nonspacingRanges c.toNat then nonspacing
  else if isInRanges neutralRanges c.toNat then neutral
  else leftToRight

/-- One such character makes a domain name subject to the rule. -/
def turns : Direction → Bool
  | rightToLeft | arabicNumber => true
  | _ => false

/-- The directions after the first one, of which those at the end do not count that are only marks. -/
def settled (directions : List Direction) : List Direction :=
  (directions.reverse.dropWhile (· == nonspacing)).reverse

/-- A label that begins from left to right has nothing that turns, and ends in a letter or a digit. -/
def runsForward (rest : List Direction) : Bool :=
  rest.all (fun direction => !direction.turns) &&
    rest.getLast?.all fun last => last == leftToRight || last == europeanNumber

/-- A label that begins from right to left has no letter of the other way, ends in a letter or a digit,
and has digits of one kind only. -/
def runsBackward (rest : List Direction) : Bool :=
  rest.all (· != leftToRight) &&
    (rest.getLast?.all fun last => last.turns || last == europeanNumber) &&
    !(rest.contains europeanNumber && rest.contains arabicNumber)

/-- A label begins with a letter, and runs the way of that letter. -/
def fit : List Direction → Bool
  | [] => true
  | leftToRight :: rest => runsForward (settled rest)
  | rightToLeft :: rest => runsBackward (settled rest)
  | _ => false

end Direction

/-- The labels of a domain name run one way each, if any of them holds what turns the line. -/
def directionsFit (labels : List (List Char)) : Bool :=
  let directions := labels.map (·.map Direction.ofChar)
  !directions.any (·.any Direction.turns) || directions.all Direction.fit

end AliasSync.Url
