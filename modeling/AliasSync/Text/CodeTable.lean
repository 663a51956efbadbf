import AliasSync.Text.CodeRange
import AliasSync.Text.Digits

/-! Tables of code points written as text. Numbers are hexadecimal, and blanks separate items. A range is
one number or two with a hyphen between them. An item `low-high>first` maps a range onto as many code points
from the first on, with `/2` before the arrow every second one of them; an item `low>a,b.c` lists the
sequences that the code points from the low one on are mapped to. -/

namespace AliasSync.Text

inductive CodeItem where
  | shifted (low high step first : Nat)
  | listed (low : Nat) (values : List (List Nat))
  deriving DecidableEq, Repr

namespace CodeItem

def value? (code : Nat) : CodeItem → Option (List Nat)
  | shifted low high step first =>
    if low ≤ code ∧ code ≤ high ∧ (code - low) % step = 0 then some [first + (code - low)] else none
  | listed low values => if low ≤ code then values[code - low]? else none

def source? (value : List Nat) : CodeItem → Option Nat
  | shifted low high step first =>
    match value with
    | [code] =>
      if first ≤ code ∧ low + (code - first) ≤ high ∧ (code - first) % step = 0 then
        some (low + (code - first))
      else none
    | _ => none
  | listed low values => (values.findIdx? (· == value)).map (low + ·)

end CodeItem

def hexNumber (text : List Char) : Nat := (number? 16 text).getD 0

def codeRange (text : List Char) : Nat × Nat :=
  match text.splitOn '-' with
  | [low, high] => (hexNumber low, hexNumber high)
  | _ => (hexNumber text, hexNumber text)

/-- The parts of a table between blanks and line breaks. -/
def tableParts (text : String) : List (List Char) :=
  ((text.toList.splitOn '\n').flatMap (List.splitOn ' ')).filter (!·.isEmpty)

def codeRanges (text : String) : List (Nat × Nat) := (tableParts text).map codeRange

def codeItem (text : List Char) : CodeItem :=
  match text.splitOn '>' with
  | [sources, targets] =>
    if '-' ∈ sources then
      match sources.splitOn '/' with
      | [sources, step] =>
        .shifted (codeRange sources).1 (codeRange sources).2 (hexNumber step) (hexNumber targets)
      | _ => .shifted (codeRange sources).1 (codeRange sources).2 1 (hexNumber targets)
    else
      .listed (hexNumber sources)
        ((targets.splitOn ',').map fun target => (target.splitOn '.').map hexNumber)
  | _ => .listed 0 []

def codeItems (text : String) : List CodeItem := (tableParts text).map codeItem

end AliasSync.Text
