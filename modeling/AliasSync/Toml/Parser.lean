import AliasSync.Toml.Scalar

/-! Reading TOML documents. -/

namespace AliasSync.Toml

open AliasSync.Text (Reader)

/-- The rest of an array after its opening bracket. The count bounds the elements. -/
def arrayItems (value : Reader Value) : Nat → Reader (List Value)
  | 0, _ => none
  | steps + 1, text =>
    match skipBlankLines text.length text with
    | ']' :: rest => some ([], rest)
    | text => do
      let (item, rest) ← value text
      match skipBlankLines rest.length rest with
      | ',' :: rest => do
        let (items, rest) ← arrayItems value steps rest
        pure (item :: items, rest)
      | ']' :: rest => pure ([item], rest)
      | _ => none

def keyValue (value : Reader Value) : Reader ((List String × String) × Value) := fun text => do
  let (name, rest) ← key text
  let rest ← ['='].isPrefixOf? rest
  let (found, rest) ← value (skipSpace rest)
  pure ((name, found), rest)

/-- The entries of a table in braces, at least one, after what has been read of it. -/
def inlineEntries (value : Reader Value) : Nat → Entries → Reader Entries
  | 0, _, _ => none
  | steps + 1, entries, text => do
    let (((path, name), found), rest) ← keyValue value text
    let entries ← addDotted path name found .inline entries
    match skipSpace rest with
    | ',' :: rest => inlineEntries value steps entries rest
    | '\x7d' :: rest => pure (entries, rest)
    | _ => none

/-- A value in which arrays and tables are nested at most so deep. -/
def value : Nat → Reader Value
  | 0, text => scalar text
  | depth + 1, text =>
    match text with
    | '[' :: rest => (arrayItems (value depth) (rest.length + 1) rest).map fun (items, rest) =>
        (.array items, rest)
    | '\x7b' :: rest =>
      match skipSpace rest with
      | '\x7d' :: rest => some (.table .inline [], rest)
      | rest => (inlineEntries (value depth) (rest.length + 1) [] rest).map fun (entries, rest) =>
          (.table .inline entries, rest)
    | _ => scalar text

/-- A header after its opening bracket, and whether it starts an element of an array. -/
def header : Reader (Bool × List String × String) := fun text =>
  match text with
  | '[' :: rest => do
    let ((path, name), rest) ← key rest
    let rest ← [']', ']'].isPrefixOf? rest
    pure ((true, path, name), rest)
  | _ => do
    let ((path, name), rest) ← key text
    let rest ← [']'].isPrefixOf? rest
    pure ((false, path, name), rest)

def lines : Nat → Document → List Char → Option Document
  | 0, _, _ => none
  | steps + 1, document, text =>
    match skipSpace text with
    | [] => some document
    | '[' :: rest => do
      let ((isElement, path, name), rest) ← header rest
      let document ← document.openSection isElement path name
      lines steps document (← endLine? rest)
    | rest =>
      match endLine? rest with
      | some rest => lines steps document rest
      | none => do
        let (((path, name), found), rest) ← keyValue (value maxDepth) rest
        let document ← document.add path name found
        lines steps document (← endLine? rest)

/-- The entries of a document. A byte order mark before it is ignored. -/
def parse? (text : String) : Option Entries :=
  let body := match text.toList with
    | '\ufeff' :: rest => rest
    | rest => rest
  (lines (body.length + 1) .empty body).map Document.entries

end AliasSync.Toml
