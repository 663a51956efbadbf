import AliasSync.Json.Basic
import AliasSync.Text.Digits
import AliasSync.Text.Split

/-! Reading JSON. -/

namespace AliasSync.Json

open AliasSync.Text (Reader number?)

def isSpace (c : Char) : Bool := c == ' ' || c == '\n' || c == '\t' || c == '\r'

def skipSpace (text : List Char) : List Char := text.dropWhile isSpace

/-- Four hexadecimal digits. -/
def unit : Reader Nat := fun text => do
  let digits := text.take 4
  guard (digits.length = 4)
  pure (← number? 16 digits, text.drop 4)

/-- What a backslash stands for together with what follows it; half a character stands for nothing. -/
def escape : Reader (Option Char)
  | '"' :: rest => some (some '"', rest)
  | '\\' :: rest => some (some '\\', rest)
  | '/' :: rest => some (some '/', rest)
  | 'b' :: rest => some (some '\x08', rest)
  | 'f' :: rest => some (some '\x0c', rest)
  | 'n' :: rest => some (some '\n', rest)
  | 'r' :: rest => some (some '\r', rest)
  | 't' :: rest => some (some '\t', rest)
  | 'u' :: rest => do
    let (high, rest) ← unit rest
    if high < 0xD800 ∨ 0xDFFF < high then pure (some (Char.ofNat high), rest)
    else
      match rest with
      | '\\' :: 'u' :: more => do
        let (low, after) ← unit more
        if high < 0xDC00 ∧ 0xDC00 ≤ low ∧ low ≤ 0xDFFF then
          pure (some (Char.ofNat (0x10000 + (high - 0xD800) * 0x400 + (low - 0xDC00))), after)
        else pure (none, rest)
      | _ => pure (none, rest)
  | _ => none

/-- What stands before the closing quote of a string, escapes left as they are, and what follows it. -/
def beforeQuote : Reader (List Char)
  | '"' :: rest => some ([], rest)
  | '\\' :: c :: rest => (beforeQuote rest).map fun (inner, rest) => ('\\' :: c :: inner, rest)
  | c :: rest => do
    guard (0x20 ≤ c.toNat)
    let (inner, rest) ← beforeQuote rest
    pure (c :: inner, rest)
  | [] => none

/-- The characters that the inside of a string denotes. The count bounds them. -/
def unescaped : Nat → List Char → Option (Option (List Char))
  | _, [] => some (some [])
  | 0, _ => none
  | steps + 1, '\\' :: rest => do
    let (c, rest) ← escape rest
    let later ← unescaped steps rest
    pure (do pure ((← c) :: (← later)))
  | steps + 1, c :: rest => (unescaped steps rest).map fun later => later.map (c :: ·)

def quoted : Reader (Option String) := fun text => do
  let (inner, rest) ← beforeQuote text
  let value ← unescaped inner.length inner
  pure (value.map String.ofList, rest)

def digits : Reader (List Char) := fun text =>
  let found := text.takeWhile Char.isDigit
  if found.isEmpty then none else some (found, text.dropWhile Char.isDigit)

def fraction : List Char → Option (Option (List Char) × List Char)
  | '.' :: rest => (digits rest).map fun (found, rest) => (some found, rest)
  | text => some (none, text)

def exponentDigits (negative : Bool) (text : List Char) :
    Option (Option (Bool × List Char) × List Char) :=
  (digits text).map fun (found, rest) => (some (negative, found), rest)

def exponent : List Char → Option (Option (Bool × List Char) × List Char)
  | 'e' :: rest | 'E' :: rest =>
    match rest with
    | '-' :: rest => exponentDigits true rest
    | '+' :: rest => exponentDigits false rest
    | _ => exponentDigits false rest
  | text => some (none, text)

/-- A number. A zero in front of other digits is not allowed. -/
def numeral : Reader Numeral := fun text => do
  let (negative, unsigned) := match text with
    | '-' :: rest => (true, rest)
    | _ => (false, text)
  let (whole, rest) ← digits unsigned
  guard (whole.length = 1 || whole.head? != some '0')
  let (part, rest) ← fraction rest
  let (power, rest) ← exponent rest
  pure (⟨negative, whole, part, power⟩, rest)

mutual

/-- A value. The count bounds the steps and is at least the length of the text. -/
def value : Nat → Reader Json
  | 0, _ => none
  | steps + 1, text =>
    match skipSpace text with
    | '"' :: rest => (quoted rest).map fun (text, rest) => (.string text, rest)
    | '[' :: rest =>
      match skipSpace rest with
      | ']' :: rest => some (.array [], rest)
      | rest => (items steps rest).map fun (found, rest) => (.array found, rest)
    | '\x7b' :: rest =>
      match skipSpace rest with
      | '\x7d' :: rest => some (.object [], rest)
      | rest => (members steps rest).map fun (found, rest) => (.object found, rest)
    | 't' :: rest => ("rue".toList.isPrefixOf? rest).map fun rest => (.bool true, rest)
    | 'f' :: rest => ("alse".toList.isPrefixOf? rest).map fun rest => (.bool false, rest)
    | 'n' :: rest => ("ull".toList.isPrefixOf? rest).map fun rest => (.null, rest)
    | text => (numeral text).map fun (found, rest) => (.number found, rest)

def items : Nat → Reader (List Json)
  | 0, _ => none
  | steps + 1, text => do
    let (item, rest) ← value steps text
    match skipSpace rest with
    | ',' :: rest => do
      let (later, rest) ← items steps rest
      pure (item :: later, rest)
    | ']' :: rest => pure ([item], rest)
    | _ => none

def members : Nat → Reader (List (Option String × Json))
  | 0, _ => none
  | steps + 1, text =>
    match skipSpace text with
    | '"' :: rest => do
      let (name, rest) ← quoted rest
      match skipSpace rest with
      | ':' :: rest => do
        let (found, rest) ← value steps rest
        match skipSpace rest with
        | ',' :: rest => do
          let (later, rest) ← members steps rest
          pure ((name, found) :: later, rest)
        | '\x7d' :: rest => pure ([(name, found)], rest)
        | _ => none
      | _ => none
    | _ => none

end

def parse? (text : String) : Option Json := do
  let (found, rest) ← value (2 * text.length + 2) text.toList
  guard (skipSpace rest).isEmpty
  pure found

end AliasSync.Json
