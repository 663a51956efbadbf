import AliasSync.Rule.Parser

/-! The reader of rules with a counter in place of the levels that are left: it goes up when an operand is entered and
down when the operand has been read, a failure leaves it where it is, and too high a value is the only guard against
deep nesting. It reads what the reader with levels reads, its counter has its old value again after every operand that
could be read, and it never nests more than one operand beyond the levels. -/

namespace AliasSync.Rule

/-- The counter of operands that have been entered and not left, and the highest value it has had. -/
structure Gauge where
  depth : Nat
  peak : Nat
  deriving DecidableEq, Repr

def Gauge.enter (gauge : Gauge) : Gauge := ⟨gauge.depth + 1, max gauge.peak (gauge.depth + 1)⟩

def Gauge.leave (gauge : Gauge) : Gauge := { gauge with depth := gauge.depth - 1 }

inductive Halt where
  | rejected (cause : RuleError)
  | overflow
  deriving DecidableEq, Repr

abbrev Reading (α : Type) := Except Halt (α × List Lexeme) × Gauge

abbrev Counted (α : Type) := Gauge → List Lexeme → Reading α

def Reading.finish (change : Gauge → Gauge) (transform : α → β) : Reading α → Reading β
  | (.ok (value, rest), gauge) => (.ok (transform value, rest), change gauge)
  | (.error halt, gauge) => (.error halt, gauge)

namespace Counted

def chain (separator : Token) (operand : Counted Expr) : Nat → Counted (List Expr)
  | 0, gauge, lexemes => (operand gauge lexemes).finish id fun first => [first]
  | bound + 1, gauge, lexemes =>
    match operand gauge lexemes with
    | (.error halt, gauge) => (.error halt, gauge)
    | (.ok (first, rest), gauge) =>
      match rest with
      | [] => (.ok ([first], []), gauge)
      | lexeme :: more =>
        if lexeme.token = separator then (chain separator operand bound gauge more).finish id (first :: ·)
        else (.ok ([first], rest), gauge)

def joined (operator : Token) (node : List Expr → Expr) (operand : Counted Expr) : Counted Expr := fun gauge lexemes =>
  (chain operator operand lexemes.length gauge lexemes).finish id (collapse node)

def disjunction (operand : Counted Expr) : Counted Expr := joined .or .or (joined .and .and operand)

/-- An operand, with room for so many operands that are nested in one another. -/
def operand (stop : Nat) (room : Nat) : Counted Expr := fun gauge lexemes =>
  match room with
  | 0 => (.error .overflow, gauge)
  | room + 1 =>
    let gauge := gauge.enter
    if maxNesting < gauge.depth then (.error (.rejected .tooDeep), gauge)
    else
      match lexemes with
      | ⟨.not, _⟩ :: rest => (operand stop room gauge rest).finish .leave .not
      | ⟨.open, _⟩ :: rest =>
        match disjunction (operand stop room) gauge rest with
        | (.error halt, gauge) => (.error halt, gauge)
        | (.ok (inner, ⟨.close, _⟩ :: after), gauge) => (.ok (inner, after), gauge.leave)
        | (.ok (_, other), gauge) => (.error (.rejected (complain stop .closeParenthesis other)), gauge)
      | ⟨.name name, offset⟩ :: rest =>
        match call stop name offset rest with
        | .error cause => (.error (.rejected cause), gauge)
        | .ok read => (.ok read, gauge.leave)
      | other => (.error (.rejected (complain stop .operand other)), gauge)

def parse (room : Nat) (rule : String) : Except Halt Expr × Gauge :=
  match tokenize rule with
  | .error cause => (.error (.rejected cause), ⟨0, 0⟩)
  | .ok [] => (.error (.rejected .empty), ⟨0, 0⟩)
  | .ok lexemes =>
    match disjunction (operand rule.utf8ByteSize room) ⟨0, 0⟩ lexemes with
    | (.error halt, gauge) => (.error halt, gauge)
    | (.ok (expr, []), gauge) => (.ok expr, gauge)
    | (.ok (_, other), gauge) => (.error (.rejected (complain rule.utf8ByteSize .operatorOrEnd other)), gauge)

/-- When something has been read the counter has its old value again. -/
def Restores (counted : Counted α) : Prop :=
  ∀ ⦃gauge lexemes value rest after⦄, counted gauge lexemes = (.ok (value, rest), after) → after.depth = gauge.depth

private theorem finish_eq_ok {change : Gauge → Gauge} {transform : α → β} {reading : Reading α} {value : β}
    {rest : List Lexeme} {after : Gauge} (finished : reading.finish change transform = (.ok (value, rest), after)) :
    ∃ inner gauge, reading = (.ok (inner, rest), gauge) ∧ transform inner = value ∧ change gauge = after := by
  obtain ⟨halt | ⟨inner, rest⟩, gauge⟩ := reading
  · cases finished
  · cases finished
    exact ⟨inner, gauge, rfl, rfl, rfl⟩

section Restoring

variable {counted : Counted Expr} {separator : Token} {node : List Expr → Expr}

private theorem Restores.chain (restores : Restores counted) (bound : Nat) :
    Restores (chain separator counted bound) := by
  induction bound with
  | zero =>
    intro gauge lexemes exprs rest after read
    obtain ⟨first, _, found, -, rfl⟩ := finish_eq_ok read
    exact restores found
  | succ bound ih =>
    intro gauge lexemes exprs rest after read
    unfold Counted.chain at read
    split at read
    case h_1 => cases read
    case h_2 first rest middle found =>
      have same := restores found
      split at read
      case h_1 =>
        cases read
        exact same
      case h_2 lexeme more =>
        split at read
        · obtain ⟨later, _, further, -, rfl⟩ := finish_eq_ok read
          exact (ih further).trans same
        · cases read
          exact same

private theorem Restores.joined (restores : Restores counted) : Restores (joined separator node counted) := by
  intro gauge lexemes expr rest after read
  obtain ⟨exprs, _, found, -, rfl⟩ := finish_eq_ok read
  exact restores.chain _ found

private theorem Restores.disjunction (restores : Restores counted) : Restores (disjunction counted) :=
  Restores.joined (Restores.joined restores)

theorem operand_restores (stop room : Nat) : Restores (operand stop room) := by
  induction room with
  | zero =>
    intro gauge lexemes expr rest after read
    cases read
  | succ room ih =>
    -- entering makes the counter one more, and only an operand that has been read makes it one less
    have left {gauge middle : Gauge} (same : middle.depth = gauge.enter.depth) : middle.leave.depth = gauge.depth := by
      rw [Gauge.leave, same, Gauge.enter, Nat.add_sub_cancel]
    intro gauge lexemes expr rest after read
    unfold operand at read
    dsimp only at read
    split at read
    · cases read
    · split at read
      case h_1 =>
        obtain ⟨inner, middle, found, -, rfl⟩ := finish_eq_ok read
        exact left (ih found)
      case h_2 =>
        split at read
        case h_1 => cases read
        case h_2 found =>
          cases read
          exact left (Restores.disjunction ih found)
        case h_3 => cases read
      case h_3 =>
        split at read
        case h_1 => cases read
        case h_2 =>
          cases read
          exact left rfl
      case h_4 => cases read

end Restoring

/-- With as many levels left as the counter has to go, the counting reader reads what the other one does, and its
counter never passes the levels by more than one. -/
private def Agrees (counted : Counted α) (reader : Reader α) (levels : Nat) : Prop :=
  ∀ gauge lexemes, gauge.depth + levels = maxNesting → gauge.peak ≤ maxNesting + 1 →
    ∃ after, counted gauge lexemes = ((reader lexemes).mapError .rejected, after) ∧ after.peak ≤ maxNesting + 1

section Agreeing

variable {counted : Counted Expr} {reader : Reader Expr} {levels : Nat} {separator : Token}
  {node : List Expr → Expr} (restores : Restores counted) (agrees : Agrees counted reader levels)
include restores agrees

private theorem Agrees.chain (bound : Nat) :
    Agrees (chain separator counted bound) (Rule.chain separator reader bound) levels := by
  induction bound with
  | zero =>
    intro gauge lexemes spare low
    obtain ⟨after, same, below⟩ := agrees gauge lexemes spare low
    refine ⟨after, ?_, below⟩
    rw [Counted.chain, Rule.chain, same]
    cases reader lexemes <;> rfl
  | succ bound ih =>
    intro gauge lexemes spare low
    obtain ⟨middle, same, below⟩ := agrees gauge lexemes spare low
    rw [Counted.chain, Rule.chain]
    cases found : reader lexemes with
    | error cause =>
      rw [found] at same
      exact ⟨middle, by rw [same]; rfl, below⟩
    | ok result =>
      obtain ⟨first, rest⟩ := result
      rw [found] at same
      change counted gauge lexemes = (.ok (first, rest), middle) at same
      rw [same]
      match rest with
      | [] => exact ⟨middle, rfl, below⟩
      | lexeme :: more =>
        by_cases goesOn : lexeme.token = separator
        · have spare : middle.depth + levels = maxNesting := by rw [restores same, spare]
          obtain ⟨after, further, bounded⟩ := ih middle more spare below
          refine ⟨after, ?_, bounded⟩
          simp only [goesOn, ↓reduceIte, further]
          cases Rule.chain separator reader bound more <;> rfl
        · refine ⟨middle, ?_, below⟩
          simp only [goesOn, ↓reduceIte]
          rfl

private theorem Agrees.joined :
    Agrees (joined separator node counted) (fun lexemes => (Rule.chain separator reader lexemes.length lexemes).map
      fun (exprs, rest) => (collapse node exprs, rest)) levels := by
  intro gauge lexemes spare low
  obtain ⟨after, same, below⟩ := agrees.chain restores lexemes.length gauge lexemes spare low
  refine ⟨after, ?_, below⟩
  dsimp only
  rw [Counted.joined, same]
  cases Rule.chain separator reader lexemes.length lexemes <;> rfl

private theorem Agrees.disjunction : Agrees (disjunction counted) (Rule.disjunction reader) levels :=
  Agrees.joined (Restores.joined restores) (Agrees.joined restores agrees)

end Agreeing

private theorem operand_agrees (stop : Nat) {levels room : Nat} (spacious : levels < room) :
    Agrees (operand stop room) (Rule.operand stop levels) levels := by
  induction levels generalizing room with
  | zero =>
    obtain ⟨room, rfl⟩ := Nat.exists_eq_add_of_lt spacious
    intro gauge lexemes spare low
    refine ⟨gauge.enter, ?_, ?_⟩
    · have deep : maxNesting < gauge.enter.depth := by simp only [Gauge.enter]; omega
      simp only [operand, deep, ↓reduceIte, Rule.operand]
      rfl
    · simp only [Gauge.enter]; omega
  | succ levels ih =>
    obtain ⟨room, rfl⟩ : ∃ less, room = less + 1 := ⟨room - 1, by omega⟩
    have agrees := ih (Nat.lt_of_succ_lt_succ spacious)
    intro gauge lexemes spare low
    have shallow : ¬ maxNesting < gauge.enter.depth := by simp only [Gauge.enter]; omega
    have spare : gauge.enter.depth + levels = maxNesting := by simp only [Gauge.enter]; omega
    have low : gauge.enter.peak ≤ maxNesting + 1 := by simp only [Gauge.enter]; omega
    unfold operand
    simp only [shallow, ↓reduceIte]
    split
    case h_1 rest =>
      obtain ⟨after, same, below⟩ := agrees gauge.enter rest spare low
      rw [same, Rule.operand]
      cases Rule.operand stop levels rest with
      | error cause => exact ⟨after, rfl, below⟩
      | ok result => exact ⟨after.leave, rfl, below⟩
    case h_2 rest =>
      obtain ⟨after, same, below⟩ := agrees.disjunction (operand_restores stop room) gauge.enter rest spare low
      rw [same, Rule.operand]
      cases Rule.disjunction (Rule.operand stop levels) rest with
      | error cause => exact ⟨after, rfl, below⟩
      | ok result =>
        obtain ⟨inner, rest⟩ := result
        split
        case h_1 impossible => cases impossible
        case h_2 found =>
          cases found
          exact ⟨after.leave, rfl, below⟩
        case h_3 found =>
          cases found
          refine ⟨after, ?_, below⟩
          simp only
          rfl
    case h_3 name offset rest =>
      rw [Rule.operand]
      cases call stop name offset rest with
      | error cause => exact ⟨gauge.enter, rfl, low⟩
      | ok result => exact ⟨gauge.enter.leave, rfl, low⟩
    case h_4 other =>
      rw [Rule.operand]
      · exact ⟨gauge.enter, rfl, low⟩
      all_goals assumption

theorem parse_agrees {room : Nat} (spacious : maxNesting < room) (rule : String) :
    ∃ after, parse room rule = ((Rule.parse rule).mapError .rejected, after) ∧ after.peak ≤ maxNesting + 1 := by
  unfold parse Rule.parse
  cases tokenize rule with
  | error cause => exact ⟨⟨0, 0⟩, rfl, Nat.zero_le _⟩
  | ok lexemes =>
    cases lexemes with
    | nil => exact ⟨⟨0, 0⟩, rfl, Nat.zero_le _⟩
    | cons first others =>
      have agrees := (operand_agrees rule.utf8ByteSize spacious).disjunction (operand_restores _ _)
      obtain ⟨after, same, below⟩ := agrees ⟨0, 0⟩ (first :: others) (Nat.zero_add _) (Nat.zero_le _)
      refine ⟨after, ?_, below⟩
      simp only [same, parseLexemes]
      cases Rule.disjunction (Rule.operand rule.utf8ByteSize maxNesting) (first :: others) with
      | error cause => rfl
      | ok result =>
        obtain ⟨expr, rest⟩ := result
        cases rest <;> rfl

end Counted

end AliasSync.Rule
