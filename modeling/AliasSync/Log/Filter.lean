import AliasSync.Log
import AliasSync.Text.AlphanumericTable
import AliasSync.Text.Blank
import AliasSync.Text.Digits

/-! The choice of the records that are shown, written as directives with commas between them: a level for
everything, or a target with a level of its own. Brackets behind a target hold the name of a span or, in
braces, a field that a record must have. -/

namespace AliasSync.Log

open AliasSync.Text (dropEndWhile isAlphanumeric isBlank readNumber trimStart)

inductive Threshold where
  | off
  | upTo (level : Level)
  deriving DecidableEq, Repr

namespace Threshold

def admits (level : Level) : Threshold → Bool
  | off => false
  | upTo least => decide (least.rank ≤ level.rank)

def ofNumber? : Nat → Option Threshold
  | 0 => some off
  | 1 => some (upTo .error)
  | 2 => some (upTo .warn)
  | 3 => some (upTo .info)
  | 4 => some (upTo .debug)
  | 5 => some (upTo .trace)
  | _ => none

/-- A threshold by its name, whatever its case, or by its number. -/
def ofName? (name : List Char) : Option Threshold :=
  match readNumber 18446744073709551616 name with
  | .ok number => ofNumber? number
  | .error _ =>
    match String.ofList (name.map Char.toLower) with
    | "off" => some .off
    | "error" => some (.upTo .error)
    | "warn" => some (.upTo .warn)
    | "info" => some (.upTo .info)
    | "debug" => some (.upTo .debug)
    | "trace" => some (.upTo .trace)
    | _ => none

end Threshold

structure FieldMatch where
  name : String
  value : Option String
  deriving DecidableEq, Repr

structure Directive where
  /-- What the targets begin with. -/
  target : Option String
  /-- The span in which the records are made. -/
  span : Option String
  field : Option FieldMatch
  threshold : Threshold
  deriving DecidableEq, Repr

inductive DirectiveFault where
  | malformed
  | level
  deriving DecidableEq, Repr

def DirectiveFault.message : DirectiveFault → String
  | malformed => "invalid filter directive"
  | level => "error parsing level filter: expected one of \"off\", \"error\", \"warn\", \"info\", " ++
      "\"debug\", \"trace\", or a number 0-5"

namespace Directive

/-- A directive begins with such a character, or with a bracket. -/
def isStart (c : Char) : Bool := c == '-' || c == ':' || c == '_' || isAlphanumeric c

/-- The part of a directive that is being read, with the place where it starts. -/
inductive Part where
  | start
  | target (first : Nat)
  | span (first : Nat)
  | field (first : Nat)
  | endOfFields
  | endOfSpan
  | level (first : Nat)
  deriving DecidableEq, Repr

def slice (text : List Char) (first next : Nat) : String :=
  String.ofList ((text.take next).drop first)

/-- A field as it is written, with an equals sign before its value. -/
def fieldMatch (text : String) : FieldMatch :=
  match text.toList.splitOn '=' with
  | name :: value :: _ => ⟨String.ofList name, some (String.ofList value)⟩
  | _ => ⟨text, none⟩

def step (text : List Char) (place : Nat) (c : Char) (read : Directive) :
    Part → Option (Part × Directive)
  | .start =>
    if c == '[' then some (.span (place + 1), read)
    else if isStart c then some (.target place, read)
    else none
  | .target first =>
    if c == '=' then some (.level (place + 1), { read with target := some (slice text first place) })
    else if c == '[' then some (.span (place + 1), { read with target := some (slice text first place) })
    else some (.target first, read)
  | .span first =>
    if c == ']' then some (.endOfSpan, { read with span := some (slice text first place) })
    else if c == '\x7b' then
      let name := slice text first place
      some (.field (place + 1), { read with span := if name.isEmpty then none else some name })
    else some (.span first, read)
  | .field first =>
    if c == '\x7d' then
      let written := slice text first place
      if written.isEmpty then none
      else some (.endOfFields, { read with field := some (fieldMatch written) })
    else some (.field first, read)
  | .endOfFields => if c == ']' then some (.endOfSpan, read) else none
  | .endOfSpan => if c == '=' then some (.level (place + 1), read) else none
  | .level first => some (.level first, read)

def steps (text : List Char) : Nat → List Char → Part × Directive → Option (Part × Directive)
  | _, [], state => some state
  | place, c :: rest, (part, read) => do steps text (place + 1) rest (← step text place c read part)

/-- Reads a directive. A level alone stands for all targets, and without a level everything goes through.
Places are counted without the blanks at the front, while the parts are cut from the text with them. -/
def parse (text : List Char) : Except DirectiveFault Directive :=
  let everything : Directive := ⟨none, none, none, .upTo .trace⟩
  let inner := dropEndWhile isBlank (trimStart text)
  match steps text 0 inner (.start, everything) with
  | some (.target first, read) =>
    match Threshold.ofName? (text.drop first) with
    | some threshold => .ok { read with threshold := threshold }
    | none => .ok { read with target := some (String.ofList (text.drop first)) }
  | some (.level first, read) =>
    if (text.drop first).isEmpty then .ok read
    else match Threshold.ofName? (text.drop first) with
      | some threshold => .ok { read with threshold := threshold }
      | none => .error .level
  | some (.endOfSpan, read) => .ok read
  | _ => .error .malformed

/-- A directive without a span and without the value of a field is about records wherever they are made. -/
def concerns (record : Record) (directive : Directive) : Bool :=
  directive.span.isNone &&
    (directive.target.all fun target => target.toList.isPrefixOf record.origin.target.toList) &&
    directive.field.all fun field => field.value.isNone && record.fieldNames.contains field.name

def rank (directive : Directive) : Nat × String :=
  ((directive.target.map (·.utf8ByteSize + 1)).getD 0, (directive.field.map FieldMatch.name).getD "")

/-- The first directive does not describe records more closely than the second one does: its target is
shorter, or it asks for no field while the other one does, or for one that is sorted before. -/
def notCloser (first second : Directive) : Bool :=
  let (size, name) := first.rank
  let (size', name') := second.rank
  decide (size < size' ∨ size = size' ∧ (first.field.isNone ∨ second.field.isSome ∧ name ≤ name'))

end Directive

structure Filter where
  directives : List Directive
  deriving DecidableEq, Repr

namespace Filter

def parts (text : String) : List (List Char) := (text.toList.splitOn ',').filter (!·.isEmpty)

def parse? (text : String) : Option Filter :=
  ((parts text).mapM fun part => (Directive.parse part).toOption).map Filter.mk

/-- Reads the directives that are well formed. Where there is none, errors go through. -/
def ofText (text : String) : Filter :=
  let found := (parts text).filterMap fun part => (Directive.parse part).toOption
  ⟨if found.isEmpty then [⟨none, none, none, .upTo .error⟩] else found⟩

def complaints (text : String) : List String :=
  (parts text).filterMap fun part =>
    match Directive.parse part with
    | .ok _ => none
    | .error fault => some ("ignoring \x60" ++ String.ofList part ++ "\x60: " ++ fault.message)

/-- Of two directives about a record the closer one counts, and of equals the later one. -/
def closer (best : Option Directive) (next : Directive) : Option Directive :=
  match best with
  | none => some next
  | some earlier => if Directive.notCloser earlier next then some next else some earlier

def admits (filter : Filter) (record : Record) : Bool :=
  match (filter.directives.filter (Directive.concerns record)).foldl closer none with
  | some directive => directive.threshold.admits record.level
  | none => false

end Filter

end AliasSync.Log
