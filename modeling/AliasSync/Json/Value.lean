import AliasSync.Json.Number
import Std.Data.TreeMap

/-! JSON values read for what they say, and their compact text: no white space, members by ascending
name, of which the last of each name counts. -/

namespace AliasSync.Json

def quote (text : String) : String :=
  String.ofList ('"' :: text.toList.flatMap escaped ++ ['"'])
where
  escaped (c : Char) : List Char :=
    if c = '"' ∨ c = '\\' then ['\\', c]
    else if c = '\x08' then ['\\', 'b']
    else if c = '\x0c' then ['\\', 'f']
    else if c = '\n' then ['\\', 'n']
    else if c = '\r' then ['\\', 'r']
    else if c = '\t' then ['\\', 't']
    else if c.toNat < 0x20 then
      ['\\', 'u', '0', '0', Nat.digitChar (c.toNat / 16), Nat.digitChar (c.toNat % 16)]
    else [c]

def sortedMembers (members : List (String × String)) : List (String × String) :=
  (members.foldl (fun table (name, text) => table.insert name text)
    (∅ : Std.TreeMap String String)).toList

mutual

/-- The compact text of a value nested less than `depth` levels, if it is one: every text must denote
characters and every number be finite. -/
def compact? (depth : Nat) : Json → Option String
  | .null => some "null"
  | .bool value => some (if value then "true" else "false")
  | .number numeral => numeral.value?.map Number.text
  | .string text => text.map quote
  | .array items => do
    guard (1 < depth)
    let texts ← compactItems? (depth - 1) items
    pure ("[" ++ ",".intercalate texts ++ "]")
  | .object members => do
    guard (1 < depth)
    let texts ← compactMembers? (depth - 1) members
    let written := (sortedMembers texts).map fun (name, text) => quote name ++ ":" ++ text
    pure ("\x7b" ++ ",".intercalate written ++ "\x7d")

def compactItems? (depth : Nat) : List Json → Option (List String)
  | [] => some []
  | item :: rest => do
    let text ← compact? depth item
    let texts ← compactItems? depth rest
    pure (text :: texts)

def compactMembers? (depth : Nat) : List (Option String × Json) → Option (List (String × String))
  | [] => some []
  | (name, value) :: rest => do
    let name ← name
    let text ← compact? depth value
    let texts ← compactMembers? depth rest
    pure ((name, text) :: texts)

end

def maxDepth : Nat := 128

end AliasSync.Json
