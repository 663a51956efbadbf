import AliasSync.Text.CodeRange

/-! White space: the Unicode property, and cutting it off the ends of a text. -/

namespace AliasSync.Text

/-- Ranges of the characters with the White_Space property. -/
def blankRanges : List (Nat × Nat) :=
  [(0x09, 0x0D), (0x20, 0x20), (0x85, 0x85), (0xA0, 0xA0), (0x1680, 0x1680), (0x2000, 0x200A),
   (0x2028, 0x2029), (0x202F, 0x202F), (0x205F, 0x205F), (0x3000, 0x3000)]

def isBlank (c : Char) : Bool := isInRanges blankRanges c.toNat

def trimStart (text : List Char) : List Char := text.dropWhile isBlank

def dropEndWhile (p : Char → Bool) (text : List Char) : List Char :=
  (text.reverse.dropWhile p).reverse

def trim (text : String) : String :=
  String.ofList (dropEndWhile isBlank (trimStart text.toList))

def isBlankText (text : String) : Bool := text.toList.all isBlank

end AliasSync.Text
