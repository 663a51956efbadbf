import AliasSync.Text.Composition
import AliasSync.Url.Domain.JoiningTable

/-! The invisible characters that join letters or keep them apart. They are only allowed in domain names
where they show. -/

namespace AliasSync.Url

open AliasSync.Text (combiningClass isInRanges)

def nonJoiner : Char := '\u200c'

def joiner : Char := '\u200d'

/-- The mark suppresses the vowel of the letter before it. -/
def isVirama (c : Char) : Bool := combiningClass c.toNat == 9

/-- Of the characters on one side the first one that is not passed over lies in one of the ranges. -/
def reaches (ranges : List (Nat × Nat)) (side : List Char) : Bool :=
  match side.dropWhile (isInRanges transparentRanges ·.toNat) with
  | [] => false
  | c :: _ => isInRanges ranges c.toNat

/-- Letters on both sides would be joined. The nearest character before comes first. -/
def keepsApart (before after : List Char) : Bool :=
  reaches (joinedOnBothSides ++ joinedToNext) before && reaches (joinedOnBothSides ++ joinedToPrevious) after

/-- The invisible characters stand behind a mark that suppresses a vowel, or keep apart what would be
joined. The characters before the label come first, the nearest one foremost. -/
def joinersFit (before : List Char) : List Char → Bool
  | [] => true
  | c :: after =>
    (if c = nonJoiner then before.head?.any isVirama || keepsApart before after
      else if c = joiner then before.head?.any isVirama
      else true) && joinersFit (c :: before) after

end AliasSync.Url
