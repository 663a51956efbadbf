/-! TOML documents as data, and the rules by which keys and headers build them. A table can be defined
once: a header may open a table that so far was only passed through, and dotted keys may extend tables
that dotted keys made, but neither may reopen what the other has defined. -/

namespace AliasSync.Toml

/-- What brought a table about. -/
inductive Origin where
  /-- Its own header, or the start of the document. -/
  | header
  /-- The header of a table below it. -/
  | implied
  /-- A dotted key. -/
  | dotted
  /-- Braces. -/
  | inline
  deriving DecidableEq, Repr

inductive Value where
  | string (text : String)
  | integer (value : Int)
  | float
  | boolean (value : Bool)
  | datetime
  | array (items : List Value)
  | table (origin : Origin) (entries : List (String × Value))
  /-- The tables that headers in double brackets made. -/
  | tables (elements : List (List (String × Value)))
  deriving Repr

abbrev Entries := List (String × Value)

def Entries.replace (entries : Entries) (key : String) (value : Value) : Entries :=
  entries.map fun (name, old) => if name = key then (name, value) else (name, old)

/-- A table of this origin may be passed through: by dotted keys where no header has defined it, by headers
in any case. Braces close a table for both. -/
def Origin.isOpen (byDots : Bool) : Origin → Bool
  | .implied | .dotted => true
  | .header => !byDots
  | .inline => false

/-- Changes the table at the end of a path, making the tables on the way that are missing. In an array
of tables the way leads through the last one. -/
def edit (byDots : Bool) (change : Origin → Entries → Option Entries) :
    List String → Origin → Entries → Option Entries
  | [], origin, entries => change origin entries
  | key :: path, _, entries =>
    match entries.lookup key with
    | none => do
      let made : Origin := if byDots then .dotted else .implied
      let inner ← edit byDots change path made []
      pure (entries ++ [(key, .table made inner)])
    | some (.table origin inner) => do
      guard (origin.isOpen byDots)
      let inner ← edit byDots change path origin inner
      pure (entries.replace key (.table origin inner))
    | some (.tables elements) => do
      let last ← elements.getLast?
      let last ← edit byDots change path .header last
      pure (entries.replace key (.tables (elements.dropLast ++ [last])))
    | some _ => none

/-- Adds a value under a new key. Where dotted keys led here, they must have made the table. -/
def addEntry (dots : Bool) (key : String) (value : Value) (origin : Origin) (entries : Entries) :
    Option Entries := do
  guard ((origin == .dotted) == dots)
  guard (entries.lookup key).isNone
  pure (entries ++ [(key, value)])

def addDotted (path : List String) (key : String) (value : Value) : Origin → Entries → Option Entries :=
  edit true (addEntry (!path.isEmpty) key value) path

def openTable (key : String) (entries : Entries) : Option Entries :=
  match entries.lookup key with
  | none => some (entries ++ [(key, .table .header [])])
  | some (.table .implied inner) => some (entries.replace key (.table .header inner))
  | some _ => none

def openElement (key : String) (entries : Entries) : Option Entries :=
  match entries.lookup key with
  | none => some (entries ++ [(key, .tables [[]])])
  | some (.tables elements) => some (entries.replace key (.tables (elements ++ [[]])))
  | some _ => none

/-- A document so far, with the path of the header that is in force. -/
structure Document where
  entries : Entries
  current : List String

namespace Document

def empty : Document := ⟨[], []⟩

def add (document : Document) (path : List String) (key : String) (value : Value) :
    Option Document := do
  let entries ← edit false (addDotted path key value) document.current .header document.entries
  pure { document with entries := entries }

def openSection (document : Document) (isElement : Bool) (path : List String) (key : String) :
    Option Document := do
  let step : Origin → Entries → Option Entries := fun _ =>
    if isElement then openElement key else openTable key
  let entries ← edit false step path .header document.entries
  pure ⟨entries, path ++ [key]⟩

end Document

end AliasSync.Toml
