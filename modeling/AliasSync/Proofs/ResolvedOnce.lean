import AliasSync.Expansion.Exrex
import AliasSync.FileTree
import Mathlib.Data.List.Basic

/-! The search for the generator. It is made once, for the first pattern that is more than blank, and what it comes to
then holds for all later calls, whatever has become of the files. -/

namespace AliasSync.Exrex

open AliasSync.Text (isBlankText quoteString)

variable {exrex : Exrex} {machine : Machine} {program : String} {found : Except String String}

def searched (machine : Machine) : List String :=
  (machine.searchPath.elim [] fun path => (path.toList.splitOn ':').map String.ofList) ++
    machine.workingDirectory.toList

/-- What a search for a program comes to. A name with a slash is the path of a regular file or is not found, and a plain
name is that of a regular file in a directory, of which the first one counts. -/
inductive Resolves (machine : Machine) (name : String) : Except String String → Prop
  | path (slash : '/' ∈ name.toList) (file : machine.isFile name = true) : Resolves machine name (.ok name)
  | noPath (slash : '/' ∈ name.toList) (missing : machine.isFile name = false) :
    Resolves machine name (.error ("not executable or not found: " ++ quoteString name))
  | program {earlier later : List String} {directory : String} (plain : '/' ∉ name.toList)
      (place : searched machine = earlier ++ directory :: later)
      (first : ∀ other ∈ earlier, machine.isFile (within other name) = false)
      (file : machine.isFile (within directory name) = true) :
    Resolves machine name (.ok (within directory name))
  | noProgram (plain : '/' ∉ name.toList)
      (missing : ∀ directory ∈ searched machine, machine.isFile (within directory name) = false) :
    Resolves machine name
      (.error ("executable " ++ quoteString name ++ " not found in PATH or working directory"))

private theorem places_eq (machine : Machine) (name : String) :
    places machine name = (searched machine).map (within · name) := by
  rw [places, searched]
  cases machine.searchPath <;> rfl

private theorem resolve_resolves (machine : Machine) (name : String) :
    Resolves machine name (resolve machine name) := by
  rw [resolve]
  split
  case isTrue slash =>
    split
    case isTrue file => exact .path slash file
    case isFalse missing => exact .noPath slash (Bool.eq_false_iff.mpr missing)
  case isFalse plain =>
    rw [places_eq, List.find?_map]
    cases located : (searched machine).find? (machine.isFile ∘ (within · name)) with
    | none =>
      exact .noProgram plain fun directory member =>
        Bool.eq_false_iff.mpr (List.find?_eq_none.mp located directory member)
    | some directory =>
      obtain ⟨file, earlier, later, place, first⟩ := List.find?_eq_some_iff_append.mp located
      exact .program plain place (fun other member => by simpa using first other member) file

private theorem resolves_iff : Resolves machine program found ↔ resolve machine program = found := by
  constructor
  · intro resolves
    rw [resolve]
    cases resolves with
    | path slash file => rw [if_pos slash, if_pos file]
    | noPath slash missing => rw [if_pos slash, missing, if_neg Bool.false_ne_true]
    | @program earlier later directory plain place first file =>
      have located : (searched machine).find? (machine.isFile ∘ (within · program)) = some directory :=
        List.find?_eq_some_iff_append.mpr
          ⟨file, earlier, later, place, fun other member => by simp [first other member]⟩
      rw [if_neg plain, places_eq, List.find?_map, located]
      rfl
    | noProgram plain missing =>
      have located : (searched machine).find? (machine.isFile ∘ (within · program)) = none :=
        List.find?_eq_none.mpr fun directory member => by simp [missing directory member]
      rw [if_neg plain, places_eq, List.find?_map, located]
      rfl
  · rintro rfl
    exact resolve_resolves machine program

/-- Someone asks for a pattern, on a machine as it is at that moment. -/
structure Call where
  machine : Machine
  pattern : String
  limit : Nat

namespace Call

def isBlank (call : Call) : Bool := isBlankText call.pattern

def generate (call : Call) (exrex : Exrex) : Except GeneratorError (List String) × Exrex :=
  exrex.generate call.machine call.pattern call.limit

/-- What a call comes to when it is settled what the search comes to. At most one program is run: that of the path which
was found, with the limit in digits and the pattern as it is. -/
def answer (call : Call) (exrex : Exrex) (found : Except String String) : Except GeneratorError (List String) :=
  if call.isBlank then .error .emptyPattern
  else match found with
    | .error reason => .error (.notAvailable reason)
    | .ok path =>
      if '\x00' ∈ call.pattern.toList then .error (.spawn "nul byte found in provided data")
      else exrex.settle call.pattern call.limit
        (call.machine.run path ["--max-number", toString call.limit, call.pattern])

variable {call : Call}

/-- A blank pattern is refused whatever is or would be found, and nothing is searched for. -/
theorem generate_blank (blank : call.isBlank = true) (exrex : Exrex) (found : Except String String) :
    call.generate exrex = (call.answer exrex found, exrex) := by
  have refused : call.answer exrex found = .error .emptyPattern := if_pos blank
  rw [refused]
  exact if_pos blank

theorem generate_asked (asked : call.isBlank = false) (exrex : Exrex) :
    call.generate exrex =
      (call.answer exrex (exrex.executable call.machine).1, (exrex.executable call.machine).2) := by
  have filled : ¬isBlankText call.pattern = true := ne_true_of_eq_false asked
  rw [generate, Exrex.generate, if_neg filled, answer.eq_def, if_neg (ne_true_of_eq_false asked), executable]
  cases exrex.resolved.getD (resolve call.machine exrex.program) <;> rfl

end Call

variable {calls : List Call}

def answers (exrex : Exrex) : List Call → List (Except GeneratorError (List String))
  | [] => []
  | call :: later =>
    let (answer, exrex) := call.generate exrex
    answer :: exrex.answers later

private theorem executable_of_resolved (known : exrex.resolved = some found) : exrex.executable machine =
    (found, exrex) := by
  obtain ⟨program, timeout, resolved⟩ := exrex
  cases known
  rfl

private theorem answers_of_resolved (known : exrex.resolved = some found) (calls : List Call) :
    exrex.answers calls = calls.map (·.answer exrex found) := by
  induction calls with
  | nil => rfl
  | cons call calls ih =>
    cases blank : call.isBlank with
    | true => rw [answers, call.generate_blank blank exrex found, List.map_cons, ← ih]
    | false => rw [answers, call.generate_asked blank, executable_of_resolved known, List.map_cons, ← ih]

/-- The generator is asked for patterns, one after the other. Between the calls programs may be installed and removed,
directories may be created, and whatever else may change: each call has the machine as it then is. The first pattern
that is more than blank has the program searched for on the machine of that moment, and this settles all answers. -/
theorem executable_resolved_once (program : String) (timeout : Duration) (calls : List Call) :
    ∃ found, (∀ first, calls.find? (!·.isBlank) = some first → Resolves first.machine program found) ∧
      (start program timeout).answers calls = calls.map (·.answer (start program timeout) found) := by
  induction calls with
  | nil => exact ⟨.error "", nofun, rfl⟩
  | cons call calls ih =>
    cases blank : call.isBlank with
    | true =>
      obtain ⟨found, decided, answered⟩ := ih
      refine ⟨found, ?_, ?_⟩
      · rwa [List.find?_cons_of_neg (by simp [blank])]
      · rw [answers, call.generate_blank blank _ found, List.map_cons, ← answered]
    | false =>
      refine ⟨resolve call.machine program, ?_, ?_⟩
      · rw [List.find?_cons_of_pos (by simp [blank])]
        rintro first ⟨⟩
        exact resolve_resolves _ _
      · have search : (start program timeout).executable call.machine = (resolve call.machine program,
            { start program timeout with resolved := some (resolve call.machine program) }) := rfl
        rw [answers, call.generate_asked blank, search, List.map_cons]
        exact congrArg _ (answers_of_resolved rfl calls)

def workshop (tree : FileTree Unit) : Machine where
  isFile path := tree.lookup ["srv"] path matches .ok (.file _)
  searchPath := some "/opt:/bin"
  workingDirectory := some "/srv"
  run path _ :=
    match tree.lookup ["srv"] path with
    | .ok (.file _) => .unfinished
    | .ok .directory => .notStarted FileError.permissionDenied.message
    | .error cause => .notStarted cause.message

/-- A blank pattern comes before anything is installed. Then the program is found behind a directory of its name, and
its path stays when it is removed, when another one is installed before it, and when it is there again. -/
theorem executable_resolved_once_rehearsed :
    let program : FileNode Unit := .file ()
    let first := (FileTree.empty.insert ["opt", "exrex"] .directory).insert ["bin", "exrex"] program
    let moved := ((first.remove ["bin", "exrex"]).remove ["opt", "exrex"]).insert ["opt", "exrex"] program
    let restored := moved.insert ["bin", "exrex"] program
    let calls : List Call := [⟨workshop .empty, " ", 5⟩, ⟨workshop first, "a", 5⟩, ⟨workshop moved, "a", 5⟩,
      ⟨workshop restored, "b", 5⟩]
    let patience := Duration.ofSeconds 5
    (start "exrex" patience).answers calls = [.error .emptyPattern, .error (.timeout patience),
      .error (.spawn FileError.notFound.message), .error (.timeout patience)] := by
  intro program first moved restored calls patience
  obtain ⟨found, decided, answered⟩ := executable_resolved_once "exrex" patience calls
  have asked : calls.find? (!·.isBlank) = some ⟨workshop first, "a", 5⟩ := by
    rw [List.find?_cons_of_neg, List.find?_cons_of_pos] <;> decide +kernel
  have place : resolve (workshop first) "exrex" = .ok "/bin/exrex" := by decide +kernel
  rw [answered, ← resolves_iff.mp (decided _ asked), place]
  decide +kernel

end AliasSync.Exrex
