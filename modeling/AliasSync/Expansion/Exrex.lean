import AliasSync.Expansion.Generator
import AliasSync.Expansion.Machine
import AliasSync.Text.Blank
import AliasSync.Text.Utf8

/-! The exrex program as a generator of names. It is searched for once, when it is first needed, and what
the search comes to is kept for good. -/

namespace AliasSync

open AliasSync.Text (decodeLossy dropEndWhile isBlankText quoteString trim)

structure Exrex where
  program : String
  timeout : Duration
  /-- The path of the program or why there is none, once it has been searched for. -/
  resolved : Option (Except String String)

namespace Exrex

def start (program : String) (timeout : Duration) : Exrex := ⟨program, timeout, none⟩

def within (directory name : String) : String :=
  if directory.isEmpty then name
  else if directory.toList.getLast? = some '/' then directory ++ name
  else directory ++ "/" ++ name

/-- The places where a program of a plain name may be: the search path first, then the working
directory. -/
def places (machine : Machine) (name : String) : List String :=
  let onPath := (machine.searchPath.map fun path =>
    (path.toList.splitOn ':').map String.ofList).getD []
  (onPath ++ machine.workingDirectory.toList).map (within · name)

/-- Finds a program. A name with a slash is a path. -/
def resolve (machine : Machine) (name : String) : Except String String :=
  if '/' ∈ name.toList then
    if machine.isFile name then .ok name
    else .error ("not executable or not found: " ++ quoteString name)
  else
    match (places machine name).find? machine.isFile with
    | some path => .ok path
    | none =>
      .error ("executable " ++ quoteString name ++ " not found in PATH or working directory")

/-- The path of the program, from memory if it has been searched for. -/
def executable (exrex : Exrex) (machine : Machine) : Except String String × Exrex :=
  let found := exrex.resolved.getD (resolve machine exrex.program)
  (found, { exrex with resolved := some found })

def arguments (pattern : String) (limit : Nat) : List String :=
  ["--max-number", toString limit, pattern]

/-- The lines of an output. Carriage returns at the end of a line and empty lines do not count. -/
def lines (output : List Char) : List String :=
  (((output.splitOn '\n').map (dropEndWhile (· == '\r'))).filter (!·.isEmpty)).map String.ofList

def complaint (status : ExitStatus) (stderr : List UInt8) : String :=
  let said := trim (String.ofList (decodeLossy stderr))
  if said.isEmpty then status.text else said

def settle (exrex : Exrex) (pattern : String) (limit : Nat) :
    ProcessOutcome → Except GeneratorError (List String)
  | .notStarted reason => .error (.spawn reason)
  | .unfinished => .error (.timeout exrex.timeout)
  | .finished status stdout stderr =>
    if status.isSuccess then .ok ((lines (decodeLossy stdout)).take limit)
    else .error (.failed pattern (complaint status stderr))

/-- Runs the program. No argument can hold a NUL. -/
def run (exrex : Exrex) (machine : Machine) (path pattern : String) (limit : Nat) :
    Except GeneratorError (List String) :=
  if '\x00' ∈ pattern.toList then .error (.spawn "nul byte found in provided data")
  else exrex.settle pattern limit (machine.run path (arguments pattern limit))

/-- Expands a pattern into at most `limit` names. -/
def generate (exrex : Exrex) (machine : Machine) (pattern : String) (limit : Nat) :
    Except GeneratorError (List String) × Exrex :=
  if isBlankText pattern then (.error .emptyPattern, exrex)
  else
    match exrex.executable machine with
    | (.error reason, exrex) => (.error (.notAvailable reason), exrex)
    | (.ok path, exrex) => (exrex.run machine path pattern limit, exrex)

end Exrex

end AliasSync
