import AliasSync.Text.PrintableTable

/-! The quoted form in which messages show a text or a character that came from outside. -/

namespace AliasSync.Text

def isPrintable (c : Char) : Bool := !isInRanges unprintableRanges c.toNat

def isGraphemeExtend (c : Char) : Bool := isInRanges graphemeExtendRanges c.toNat

/-- The code point of a character in hexadecimal, between `\u\x7b` and `\x7d`. -/
def codePointEscape (c : Char) : List Char :=
  "\\u\x7b".toList ++ Nat.toDigits 16 c.toNat ++ ['\x7d']

/-- One character between the given quotes. A character that would attach to the one before it is
written by its code point. -/
def escapeChar (quote : Char) (c : Char) : List Char :=
  if c = '\x00' then ['\\', '0']
  else if c = '\t' then ['\\', 't']
  else if c = '\r' then ['\\', 'r']
  else if c = '\n' then ['\\', 'n']
  else if c = '\\' ∨ c = quote then ['\\', c]
  else if isGraphemeExtend c || !isPrintable c then codePointEscape c
  else [c]

def quoteString (text : String) : String :=
  String.ofList ('"' :: text.toList.flatMap (escapeChar '"') ++ ['"'])

def quoteChar (c : Char) : String :=
  String.ofList ('\'' :: escapeChar '\'' c ++ ['\''])

end AliasSync.Text
