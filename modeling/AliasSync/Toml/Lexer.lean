import AliasSync.Text.Digits
import AliasSync.Text.Split

/-! The pieces of TOML text: white space, comments, keys and strings. -/

namespace AliasSync.Toml

open AliasSync.Text (Reader digit? number?)

def isSpace (c : Char) : Bool := c == ' ' || c == '\t'

def skipSpace (text : List Char) : List Char := text.dropWhile isSpace

def lineBreak? : List Char → Option (List Char)
  | '\n' :: rest => some rest
  | '\r' :: '\n' :: rest => some rest
  | _ => none

/-- The character may stand in a comment, or as itself in a string but for quotes and backslash. -/
def isPlain (c : Char) : Bool := c == '\t' || (decide (0x20 ≤ c.toNat) && c != '\x7f')

def skipComment : List Char → List Char
  | '#' :: rest => rest.dropWhile isPlain
  | text => text

/-- The rest after the end of a line, with blanks and a comment before it. -/
def endLine? (text : List Char) : Option (List Char) :=
  match skipComment (skipSpace text) with
  | [] => some []
  | rest => lineBreak? rest

/-- Skips blanks, line breaks and comments. The count bounds the steps and is at least the length of
the text. -/
def skipBlankLines : Nat → List Char → List Char
  | 0, text => text
  | steps + 1, text =>
    let rest := skipComment (skipSpace text)
    match lineBreak? rest with
    | some more => skipBlankLines steps more
    | none => rest

def codePoint (length : Nat) : Reader Char := fun text => do
  let digits := text.take length
  guard (digits.length = length)
  let code ← number? 16 digits
  guard (code < 0xD800 ∨ 0xDFFF < code)
  guard (code < 0x110000)
  pure (Char.ofNat code, text.drop length)

def escape : Reader Char
  | 'b' :: rest => some ('\x08', rest)
  | 't' :: rest => some ('\t', rest)
  | 'n' :: rest => some ('\n', rest)
  | 'f' :: rest => some ('\x0c', rest)
  | 'r' :: rest => some ('\r', rest)
  | '"' :: rest => some ('"', rest)
  | '\\' :: rest => some ('\\', rest)
  | 'u' :: rest => codePoint 4 rest
  | 'U' :: rest => codePoint 8 rest
  | _ => none

def basicString : Nat → Reader (List Char)
  | 0, _ => none
  | steps + 1, text =>
    match text with
    | '"' :: rest => some ([], rest)
    | '\\' :: rest => do
      let (c, rest) ← escape rest
      let (value, rest) ← basicString steps rest
      pure (c :: value, rest)
    | c :: rest => do
      guard (isPlain c)
      let (value, rest) ← basicString steps rest
      pure (c :: value, rest)
    | [] => none

def literalString : Reader (List Char)
  | '\'' :: rest => some ([], rest)
  | c :: rest => do
    guard (isPlain c)
    let (value, rest) ← literalString rest
    pure (c :: value, rest)
  | [] => none

/-- Closing quotes of a string of several lines: three of them, and up to two that belong to it. -/
def closing? (quote : Char) (text : List Char) : Option (List Char × List Char) :=
  let run := (text.takeWhile (· == quote)).length
  if run < 3 then none
  else
    let own := min (run - 3) 2
    some (List.replicate own quote, text.drop (own + 3))

/-- The rest after a backslash at the end of a line and all white space that follows. -/
def continuation? (text : List Char) : Option (List Char) :=
  (lineBreak? (skipSpace text)).map fun rest => skipLines rest.length rest
where
  skipLines : Nat → List Char → List Char
    | 0, text => text
    | steps + 1, text =>
      match lineBreak? (skipSpace text) with
      | some rest => skipLines steps rest
      | none => skipSpace text

def basicBlock : Nat → Reader (List Char)
  | 0, _ => none
  | steps + 1, text =>
    match closing? '"' text with
    | some found => some found
    | none =>
      match lineBreak? text with
      | some rest => (basicBlock steps rest).map fun (value, rest) => ('\n' :: value, rest)
      | none =>
        match text with
        | '\\' :: rest =>
          match continuation? rest with
          | some rest => basicBlock steps rest
          | none => do
            let (c, rest) ← escape rest
            let (value, rest) ← basicBlock steps rest
            pure (c :: value, rest)
        | c :: rest => do
          guard (isPlain c)
          let (value, rest) ← basicBlock steps rest
          pure (c :: value, rest)
        | [] => none

def literalBlock : Nat → Reader (List Char)
  | 0, _ => none
  | steps + 1, text =>
    match closing? '\'' text with
    | some found => some found
    | none =>
      match lineBreak? text with
      | some rest => (literalBlock steps rest).map fun (value, rest) => ('\n' :: value, rest)
      | none =>
        match text with
        | c :: rest => do
          guard (isPlain c)
          let (value, rest) ← literalBlock steps rest
          pure (c :: value, rest)
        | [] => none

/-- The text after a line break that directly follows an opening delimiter. -/
def dropFirstBreak (text : List Char) : List Char := (lineBreak? text).getD text

def stringText : Reader String := fun text =>
  let found : Option (List Char × List Char) :=
    match text with
    | '"' :: '"' :: '"' :: rest =>
      let body := dropFirstBreak rest
      basicBlock (body.length + 1) body
    | '\'' :: '\'' :: '\'' :: rest =>
      let body := dropFirstBreak rest
      literalBlock (body.length + 1) body
    | '"' :: rest => basicString (rest.length + 1) rest
    | '\'' :: rest => literalString rest
    | _ => none
  found.map fun (value, rest) => (String.ofList value, rest)

def isBareKey (c : Char) : Bool := c.isAlphanum || c == '_' || c == '-'

def keyPart : Reader String := fun text =>
  match text with
  | '"' :: rest => (basicString (rest.length + 1) rest).map fun (value, rest) =>
      (String.ofList value, rest)
  | '\'' :: rest => (literalString rest).map fun (value, rest) => (String.ofList value, rest)
  | _ =>
    let name := text.takeWhile isBareKey
    if name.isEmpty then none else some (String.ofList name, text.dropWhile isBareKey)

/-- The parts of a dotted key, with the blanks around it. -/
def keyParts : Nat → Reader (List String)
  | 0, _ => none
  | steps + 1, text => do
    let (part, rest) ← keyPart (skipSpace text)
    match skipSpace rest with
    | '.' :: rest => do
      let (parts, rest) ← keyParts steps rest
      pure (part :: parts, rest)
    | rest => pure ([part], rest)

def maxDepth : Nat := 79

/-- A key, split into the path and its last part. -/
def key : Reader (List String × String) := fun text => do
  let (parts, rest) ← keyParts (text.length + 1) text
  guard (parts.length ≤ maxDepth)
  let last ← parts.getLast?
  pure ((parts.dropLast, last), rest)

end AliasSync.Toml
