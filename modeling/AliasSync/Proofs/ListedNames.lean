import AliasSync.Proofs.ResolvedOnce
import AliasSync.Proofs.Utf8Reading
import AliasSync.Text.Split
import Mathlib.Data.List.DropRight
import Mathlib.Data.List.Forall2

/-! Names in the output of the generator. An output lists the names that are left of its lines, and whatever the ends
of its lines look like and wherever it has blank ones, the names that were written are found in it. -/

namespace AliasSync.Exrex

open AliasSync.Text

variable {line core text rest : List Char} {name : String} {names : List String} {exrex : Exrex} {call : Call}
  {output : List UInt8}

/-- What is left of a line when all carriage returns at its end are gone. -/
def Strips (line core : List Char) : Prop :=
  (∃ count, line = core ++ List.replicate count '\r') ∧ core.getLast? ≠ some '\r'

private theorem dropEndWhile_returns (bare : core.getLast? ≠ some '\r') (count : Nat) :
    dropEndWhile (· == '\r') (core ++ List.replicate count '\r') = core := by
  induction count with
  | zero =>
    rw [List.replicate_zero, List.append_nil]
    apply List.rdropWhile_eq_self_iff.mpr
    intro some last
    exact bare (List.getLast?_eq_some_getLast some ▸ congrArg _ (eq_of_beq last))
  | succ count ih =>
    rw [List.replicate_succ', ← List.append_assoc]
    exact (List.rdropWhile_concat_pos _ _ _ rfl).trans ih

private theorem strips_iff : Strips line core ↔ dropEndWhile (· == '\r') line = core := by
  constructor
  · rintro ⟨⟨count, rfl⟩, bare⟩
    exact dropEndWhile_returns bare count
  · rintro rfl
    -- What is dropped consists of carriage returns, and what stays would not have stayed if it ended with one.
    refine ⟨⟨(line.rtakeWhile (· == '\r')).length, ?_⟩, fun last => ?_⟩
    · have returns : line.rtakeWhile (· == '\r') = List.replicate (line.rtakeWhile (· == '\r')).length '\r' :=
        List.eq_replicate_of_mem fun c member => eq_of_beq (List.mem_rtakeWhile_imp (p := (· == '\r')) member)
      rw [← returns]
      exact List.rdropWhile_append_rtakeWhile.symm
    · have filled : line.rdropWhile (· == '\r') ≠ [] := fun empty => by
        rw [dropEndWhile, ← List.rdropWhile, empty] at last
        cases last
      apply List.rdropWhile_last_not _ _ filled
      exact beq_of_eq (Option.some.inj ((List.getLast?_eq_some_getLast filled).symm.trans last))

/-- The text lists the names: it is cut at its line feeds, the pieces lose the carriage returns at their ends, and the
names are what is left of them but for the empty ones. -/
def Lists (text : List Char) (names : List String) : Prop :=
  ∃ pieces cores : List (List Char),
    (pieces ≠ [] ∧ ['\n'].intercalate pieces = text ∧ ∀ piece ∈ pieces, '\n' ∉ piece) ∧
      List.Forall₂ Strips pieces cores ∧ names = (cores.filter (!·.isEmpty)).map String.ofList

private theorem lists_iff : Lists text names ↔ lines text = names := by
  constructor
  · rintro ⟨pieces, cores, ⟨nonempty, rfl, apart⟩, stripped, rfl⟩
    have cut : pieces.map (dropEndWhile (· == '\r')) = cores := by
      rw [← List.forall₂_eq_eq_eq, List.forall₂_map_left_iff]
      exact stripped.imp fun _ _ => strips_iff.mp
    rw [lines, List.splitOn_intercalate '\n' apart nonempty, cut]
  · rintro rfl
    refine ⟨text.splitOn '\n', (text.splitOn '\n').map (dropEndWhile (· == '\r')),
      ⟨List.splitOn_ne_nil _ _, List.intercalate_splitOn _, fun piece => apart_of_mem_splitOn⟩, ?_, rfl⟩
    exact List.forall₂_map_right_iff.mpr (List.forall₂_same.mpr fun _ _ => strips_iff.mpr rfl)

structure IsName (name : String) : Prop where
  filled : name ≠ ""
  single : '\n' ∉ name.toList
  bare : name.toList.getLast? ≠ some '\r'

/-- A list of names as it is written: each in a line, with blank lines anywhere. A line ends with a line feed, which may
follow any number of carriage returns, and the last one may go without the line feed. -/
inductive Written : List String → List Char → Prop
  | nothing (count : Nat) : Written [] (List.replicate count '\r')
  | unended {name : String} (fits : IsName name) (count : Nat) :
    Written [name] (name.toList ++ List.replicate count '\r')
  | blank {names : List String} {rest : List Char} (count : Nat) (later : Written names rest) :
    Written names (List.replicate count '\r' ++ '\n' :: rest)
  | line {name : String} {names : List String} {rest : List Char} (fits : IsName name) (count : Nat)
      (later : Written names rest) :
    Written (name :: names) (name.toList ++ List.replicate count '\r' ++ '\n' :: rest)

private theorem lines_append (apart : '\n' ∉ line) (rest : List Char) :
    lines (line ++ '\n' :: rest) = lines line ++ lines rest := by
  rw [lines, lines, lines, List.splitOn_append_cons_self_of_not_mem apart, List.splitOn_eq_singleton apart,
    ← List.map_append, ← List.filter_append, ← List.map_append]
  rfl

private theorem lines_single (apart : '\n' ∉ core) (bare : core.getLast? ≠ some '\r') (count : Nat) :
    lines (core ++ List.replicate count '\r') = if core.isEmpty then [] else [String.ofList core] := by
  have whole : '\n' ∉ core ++ List.replicate count '\r' := by simp [apart]
  rw [lines, List.splitOn_eq_singleton whole, List.map_singleton, dropEndWhile_returns bare]
  cases core <;> rfl

private theorem lines_returns (count : Nat) : lines (List.replicate count '\r') = [] :=
  @lines_single [] List.not_mem_nil nofun count

private theorem lines_name (fits : IsName name) (count : Nat) :
    lines (name.toList ++ List.replicate count '\r') = [name] := by
  have filled : name.toList.isEmpty = false := by simpa using fits.filled
  rw [lines_single fits.single fits.bare, filled, String.ofList_toList]
  rfl

private theorem lines_written (written : Written names text) : lines text = names := by
  induction written with
  | nothing count => exact lines_returns count
  | unended fits count => exact lines_name fits count
  | blank count later ih => rw [lines_append (by simp), lines_returns, ih, List.nil_append]
  | line fits count later ih =>
    rw [lines_append (by simp [fits.single]), lines_name fits, ih]
    rfl

private theorem isName_of_mem_lines (member : name ∈ lines text) : IsName name := by
  obtain ⟨core, within, rfl⟩ := List.mem_map.mp member
  obtain ⟨cut, filled⟩ := List.mem_filter.mp within
  obtain ⟨line, split, stripped⟩ := List.mem_map.mp cut
  obtain ⟨⟨count, rfl⟩, bare⟩ := strips_iff.mpr stripped
  constructor
  · simpa using filled
  · rw [String.toList_ofList]
    exact fun feed => apart_of_mem_splitOn split (List.mem_append_left _ feed)
  · rwa [String.toList_ofList]

/-- The program is found and takes the pattern, and after it has printed the output it ends with success. -/
def Call.Succeeds (call : Call) (exrex : Exrex) (output : List UInt8) : Prop :=
  call.isBlank = false ∧ '\x00' ∉ call.pattern.toList ∧
    ∃ path status complaints, (exrex.executable call.machine).1 = .ok path ∧
      call.machine.run path (arguments call.pattern call.limit) = .finished status output complaints ∧
      status.isSuccess = true

private theorem Call.Succeeds.generate (succeeds : call.Succeeds exrex output) :
    (call.generate exrex).1 = .ok ((lines (decodeLossy output)).take call.limit) := by
  obtain ⟨asked, whole, path, status, complaints, found, ended, success⟩ := succeeds
  rw [arguments] at ended
  rw [call.generate_asked asked, found, answer, if_neg (ne_true_of_eq_false asked)]
  simp only [if_neg whole]
  rw [ended, settle, if_pos success]

/-- A successful call gives the first names of those that the output lists, up to the limit: none of them is empty, has
a line feed in it or ends with a carriage return. Names that were written, whatever the ends of their lines and with
blank lines anywhere, are the names that are listed. -/
theorem successful_call_gives_listed_names (succeeds : call.Succeeds exrex output) :
    ∃ names, (∀ others, Lists (decodeLossy output) others ↔ others = names) ∧
      (call.generate exrex).1 = .ok (names.take call.limit) ∧
      (names.take call.limit).length ≤ call.limit ∧ (∀ name ∈ names.take call.limit, IsName name) ∧
      ∀ written text, Written written text → output = utf8 text → names = written := by
  refine ⟨lines (decodeLossy output), fun others => lists_iff.trans eq_comm, succeeds.generate,
    List.length_take_le _ _, fun name member => isName_of_mem_lines (List.mem_of_mem_take member), ?_⟩
  rintro written text list rfl
  rw [decodeLossy_utf8, lines_written list]

def printer (output : List UInt8) : Machine where
  isFile path := path == "/bin/exrex"
  searchPath := some "/opt:/bin"
  workingDirectory := none
  run _ _ := .finished (.code 0) output []

/-- Of three names the first two are given. There are blank lines before and between them, with and without carriage
returns, and the last line has no end. -/
theorem successful_call_gives_listed_names_rehearsed :
    let output := utf8 "\na.b\r\r\n\r\n\nc d\ne".toList
    let call : Call := ⟨printer output, "x", 2⟩
    let exrex := start "exrex" (.ofSeconds 5)
    call.Succeeds exrex output ∧ (call.generate exrex).1 = .ok ["a.b", "c d"] := by
  intro output call exrex
  have succeeds : call.Succeeds exrex output :=
    ⟨by decide, by decide, "/bin/exrex", .code 0, [], by decide +kernel, rfl, rfl⟩
  obtain ⟨names, -, given, -, -, read⟩ := successful_call_gives_listed_names succeeds
  have first : IsName "a.b" := ⟨by decide, by decide, by decide⟩
  have second : IsName "c d" := ⟨by decide, by decide, by decide⟩
  have third : IsName "e" := ⟨by decide, by decide, by decide⟩
  have list := Written.blank 0 (.line first 2 (.blank 1 (.blank 0 (.line second 0 (.unended third 0)))))
  rw [read _ _ list (by decide +kernel)] at given
  exact ⟨succeeds, given⟩

end AliasSync.Exrex
