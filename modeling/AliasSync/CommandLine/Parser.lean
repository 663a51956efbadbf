import AliasSync.CommandLine.Basic

/-! Reading the arguments of the program, from left to right. The value of an option that stands as an
argument of its own is only judged when the next option or the end is reached. -/

namespace AliasSync.CommandLine

structure Scan where
  /-- The options in use, in the order of their first occurrence. -/
  given : List Flag
  config : Option String
  /-- An option that waits for its value, or has one that is still to be judged. -/
  pending : Option (Option String)
  deriving DecidableEq, Repr

inductive Invocation where
  | run (arguments : Arguments)
  | help
  | version
  | misuse (cause : Misuse)
  deriving DecidableEq, Repr

namespace Scan

def start : Scan := ⟨[], none, none⟩

def use (flag : Flag) (scan : Scan) : Scan := { scan with given := scan.given ++ [flag] }

/-- Takes a value of the option that has one. It may be given once and not be empty. -/
def takeValue (value : String) (scan : Scan) : Option Misuse × Scan :=
  if .config ∈ scan.given then
    (some (.repeated .config), { scan with given := scan.given.erase .config })
  else
    let used := scan.use .config
    if value.isEmpty then (some .missingValue, used) else (none, { used with config := some value })

/-- Judges an option that is pending. -/
def settle (scan : Scan) : Option Misuse × Scan :=
  match scan.pending with
  | none => (none, scan)
  | some none => (some .missingValue, { scan with pending := none })
  | some (some value) => { scan with pending := none }.takeValue value

def settled (scan : Scan) (next : Scan → Except Invocation Scan) : Except Invocation Scan :=
  match scan.settle with
  | (some cause, _) => .error (.misuse cause)
  | (none, scan) => next scan

/-- A value that is written together with its option. -/
def attach (value : String) (scan : Scan) : Except Invocation Scan :=
  scan.settled fun scan =>
    match scan.takeValue value with
    | (some cause, _) => .error (.misuse cause)
    | (none, scan) => .ok scan

def plain (flag : Flag) (scan : Scan) : Except Invocation Scan :=
  scan.settled fun scan =>
    match flag with
    | .help => .error .help
    | .version => .error .version
    | .config => .ok { scan with pending := some none }
    | flag =>
      if flag ∈ scan.given then .error (.misuse (.repeated flag)) else .ok (scan.use flag)

def stray (argument : List Char) : Except Invocation Scan :=
  .error (.misuse (.unexpected (String.ofList argument) none []))

def long (name : List Char) (value : Option String) (scan : Scan) : Except Invocation Scan :=
  match Flag.ofName? name, value with
  | some .config, some value => scan.attach value
  | some flag, none => scan.plain flag
  | some flag, some value => .error (.misuse (.unexpectedValue flag value scan.given))
  | none, _ =>
    let similar := Flag.similarTo? name
    let used := scan.settle.2.given ++ similar.toList
    .error (.misuse (.unexpected (String.ofList ('-' :: '-' :: name)) similar used))

def short (letter : Char) (rest : List Char) (scan : Scan) : Except Invocation Scan :=
  match letter, rest with
  | 'c', [] => scan.plain .config
  | 'c', '=' :: value => scan.attach (String.ofList value)
  | 'c', value => scan.attach (String.ofList value)
  | 'h', _ => scan.plain .help
  | 'V', _ => scan.plain .version
  | letter, _ => stray ['-', letter]

def take (argument : List Char) (scan : Scan) : Except Invocation Scan :=
  match argument with
  | '-' :: '-' :: text =>
    match text.dropWhile (· != '=') with
    | [] => scan.long text none
    | _ :: value => scan.long (text.takeWhile (· != '=')) (some (String.ofList value))
  | '-' :: letter :: rest => scan.short letter rest
  | _ =>
    match scan.pending with
    | some none => .ok { scan with pending := some (some (String.ofList argument)) }
    | _ => stray argument

def finish (scan : Scan) : Invocation :=
  match scan.settle with
  | (some cause, _) => .misuse cause
  | (none, scan) => .run ⟨scan.config, .dryRun ∈ scan.given, .once ∈ scan.given⟩

/-- Takes all arguments. After two dashes none is an option any more, and none has a place. -/
def takeAll (scan : Scan) : List (List Char) → Invocation
  | [] => scan.finish
  | ['-', '-'] :: [] => scan.finish
  | ['-', '-'] :: next :: _ => .misuse (.unexpected (String.ofList next) none [])
  | argument :: rest =>
    match scan.take argument with
    | .ok scan => scan.takeAll rest
    | .error invocation => invocation

end Scan

def parse (arguments : List String) : Invocation :=
  Scan.start.takeAll (arguments.map String.toList)

end AliasSync.CommandLine
