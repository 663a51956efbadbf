import AliasSync.Proofs.RuleGrammar
import AliasSync.Proofs.RuleSpelling

/-! Printing an expression and reading it again. Parentheses are printed only where an operand binds less tightly than
its place asks for, so what is printed is nested no deeper than what was read. -/

namespace AliasSync.Rule

namespace Expr

/-- How tightly an expression binds: a disjunction least of all, a negation or a call most. -/
def binding : Expr → Nat
  | or _ => 0
  | and _ => 1
  | not _ | call _ _ => 2

def enclosed (least : Nat) (operand : Expr) (tokens : List Token) : List Token :=
  if operand.binding < least then .open :: tokens ++ [.close] else tokens

def tokens : Expr → List Token
  | call matcher args => .name matcher.name :: .open :: (args.map .text).intersperse .comma ++ [.close]
  | not operand => .not :: operand.enclosed 2 operand.tokens
  | and operands => [Token.and].intercalate (operands.map fun operand => operand.enclosed 2 operand.tokens)
  | or operands => [Token.or].intercalate (operands.map fun operand => operand.enclosed 1 operand.tokens)

def enclosedNesting (least : Nat) (operand : Expr) (nesting : Nat) : Nat :=
  if operand.binding < least then nesting + 1 else nesting

/-- How deep the deepest of the calls is nested as printed. -/
def nesting : Expr → Nat
  | call _ _ => 1
  | not operand => operand.enclosedNesting 2 operand.nesting + 1
  | and operands => (operands.map fun operand => operand.enclosedNesting 2 operand.nesting).foldr max 0
  | or operands => (operands.map fun operand => operand.enclosedNesting 1 operand.nesting).foldr max 0

/-- No conjunction and no disjunction has less than two operands. -/
inductive WellFormed : Expr → Prop where
  | call (matcher : Matcher) (args : List String) : WellFormed (.call matcher args)
  | not {operand} (inner : WellFormed operand) : WellFormed (.not operand)
  | and {operands} (count : 2 ≤ operands.length) (each : ∀ operand ∈ operands, WellFormed operand) :
      WellFormed (.and operands)
  | or {operands} (count : 2 ≤ operands.length) (each : ∀ operand ∈ operands, WellFormed operand) :
      WellFormed (.or operands)

private theorem enclosedNesting_mono {operand : Expr} {least more nesting : Nat} (order : least ≤ more) :
    operand.enclosedNesting least nesting ≤ operand.enclosedNesting more nesting := by
  unfold enclosedNesting
  split <;> split <;> omega

end Expr

def place : Nat → Grammar
  | 0 => Disjunction
  | 1 => Conjunction
  | _ => Unary

variable {expr : Expr} {exprs : List Expr} {tokens : List Token} {nesting least : Nat} {operator : Token}
  {part : Grammar}

private theorem place_of_unary (unary : Unary expr tokens nesting) (least : Nat) : place least expr tokens nesting := by
  match least with
  | 0 => exact .single (.single unary)
  | 1 => exact .single unary
  | _ + 2 => exact unary

private theorem Chain.intercalate {spell : Expr → List Token} {depth : Expr → Nat} (some : exprs ≠ [])
    (each : ∀ expr ∈ exprs, part expr (spell expr) (depth expr)) :
    Chain operator part exprs ([operator].intercalate (exprs.map spell)) ((exprs.map depth).foldr max 0) := by
  induction exprs with
  | nil => cases some rfl
  | cons expr rest ih =>
    have first := each expr List.mem_cons_self
    cases rest with
    | nil =>
      have only : max (depth expr) 0 = depth expr := Nat.max_zero _
      rw [List.map_singleton, List.map_singleton, List.intercalate_singleton, List.foldr_cons, List.foldr_nil, only]
      exact .last first
    | cons next rest =>
      have later := ih (by simp) fun other member => each other (List.mem_cons_of_mem _ member)
      simp only [List.map_cons, List.intercalate_cons_cons, List.append_assoc] at later ⊢
      exact .more first later

private theorem place_enclosed (own : place expr.binding expr tokens nesting) (least : Nat) :
    place least expr (expr.enclosed least tokens) (expr.enclosedNesting least nesting) := by
  unfold Expr.enclosed Expr.enclosedNesting
  split
  case isTrue tighter =>
    refine place_of_unary (.group ?_) least
    cases expr with
    | or => exact own
    | and => exact .single own
    | not | call => exact .single (.single own)
  case isFalse loose =>
    cases expr with
    | or =>
      obtain rfl : least = 0 := Nat.le_zero.mp (Nat.le_of_not_lt loose)
      exact own
    | and =>
      match least, Nat.le_of_not_lt loose with
      | 0, _ => exact .single own
      | 1, _ => exact own
    | not | call => exact place_of_unary own least

/-- What is printed of a well-formed expression stands for it, and is nested as deep as is said. -/
theorem Expr.WellFormed.derived (formed : expr.WellFormed) : place expr.binding expr expr.tokens expr.nesting := by
  induction formed with
  | call matcher args =>
    rw [Expr.tokens, Expr.nesting]
    exact Unary.call rfl args
  | not inner ih =>
    rw [Expr.tokens, Expr.nesting]
    exact Unary.not (place_enclosed ih 2)
  | and count each ih =>
    rw [Expr.tokens, Expr.nesting]
    refine Joined.several (.intercalate ?_ fun operand member => place_enclosed (ih operand member) 2) count
    exact List.ne_nil_of_length_pos (Nat.lt_of_lt_of_le Nat.zero_lt_two count)
  | or count each ih =>
    rw [Expr.tokens, Expr.nesting]
    refine Joined.several (.intercalate ?_ fun operand member => place_enclosed (ih operand member) 1) count
    exact List.ne_nil_of_length_pos (Nat.lt_of_lt_of_le Nat.zero_lt_two count)

private theorem Expr.WellFormed.disjunction (formed : expr.WellFormed) : Disjunction expr expr.tokens expr.nesting :=
  place_enclosed formed.derived 0

/-- The expression is well-formed, and printed where some tightness is asked for it needs no more than the nesting. -/
structure Fits (least : Nat) (expr : Expr) (nesting : Nat) : Prop where
  formed : expr.WellFormed
  within : expr.enclosedNesting least expr.nesting ≤ nesting

private theorem Fits.mono {less : Nat} (fits : Fits least expr nesting) (order : less ≤ least) :
    Fits less expr nesting :=
  ⟨fits.formed, Nat.le_trans (Expr.enclosedNesting_mono order) fits.within⟩

private theorem Chain.fits (chain : Chain operator part exprs tokens nesting)
    (each : ∀ expr tokens own, own ≤ nesting → part expr tokens own → Fits least expr own) :
    (∀ expr ∈ exprs, expr.WellFormed) ∧
      (exprs.map fun expr => expr.enclosedNesting least expr.nesting).foldr max 0 ≤ nesting := by
  induction chain with
  | last only =>
    obtain ⟨formed, within⟩ := each _ _ _ (Nat.le_refl _) only
    refine ⟨fun other member => ?_, ?_⟩
    · rw [List.mem_singleton.mp member]
      exact formed
    · exact Nat.max_le.mpr ⟨within, Nat.zero_le _⟩
  | more first later ih =>
    obtain ⟨formed, within⟩ := each _ _ _ (Nat.le_max_left ..) first
    obtain ⟨others, bounded⟩ := ih fun expr tokens own small =>
      each expr tokens own (Nat.le_trans small (Nat.le_max_right ..))
    refine ⟨fun other member => ?_, ?_⟩
    · obtain rfl | member := List.mem_cons.mp member
      · exact formed
      · exact others other member
    · rw [List.map_cons, List.foldr_cons]
      exact Nat.max_le.mpr ⟨Nat.le_trans within (Nat.le_max_left ..), Nat.le_trans bounded (Nat.le_max_right ..)⟩

private theorem Conjunction.fits (conjunction : Conjunction expr tokens nesting)
    (each : ∀ expr tokens own, own ≤ nesting → Unary expr tokens own → Fits 2 expr own) : Fits 1 expr nesting := by
  cases conjunction with
  | single only => exact (each _ _ _ (Nat.le_refl _) only).mono (by decide)
  | several parts count =>
    obtain ⟨formed, within⟩ := parts.fits each
    refine ⟨.and count formed, ?_⟩
    rw [Expr.nesting]
    exact within

private theorem Disjunction.fits (disjunction : Disjunction expr tokens nesting)
    (each : ∀ expr tokens own, own ≤ nesting → Unary expr tokens own → Fits 2 expr own) : Fits 0 expr nesting := by
  have parts_fit : ∀ expr tokens own, own ≤ nesting → Conjunction expr tokens own → Fits 1 expr own :=
    fun _ _ _ small part => Conjunction.fits part fun _ _ _ smaller => each _ _ _ (Nat.le_trans smaller small)
  cases disjunction with
  | single only => exact (parts_fit _ _ _ (Nat.le_refl _) only).mono (by decide)
  | several parts count =>
    obtain ⟨formed, within⟩ := parts.fits parts_fit
    refine ⟨.or count formed, ?_⟩
    rw [Expr.nesting]
    exact within

/-- Every pair of parentheses that is printed around a disjunction or a conjunction was there before. -/
theorem Unary.fits (unary : Unary expr tokens nesting) : Fits 2 expr nesting := by
  -- by the nesting, since the derivations inside a group stand in chains of chains
  induction nesting using Nat.strongRecOn generalizing expr tokens with
  | ind nesting ih =>
    cases unary with
    | call known args => exact ⟨.call _ args, by rw [Expr.nesting]; exact Nat.le_refl _⟩
    | not inner =>
      obtain ⟨formed, within⟩ := ih _ (Nat.lt_succ_self _) inner
      refine ⟨.not formed, ?_⟩
      rw [Expr.nesting]
      exact Nat.succ_le_succ within
    | group inner =>
      obtain ⟨formed, within⟩ := Disjunction.fits inner fun _ _ _ small => ih _ (Nat.lt_succ_of_le small)
      refine ⟨formed, ?_⟩
      have own : expr.enclosedNesting 0 expr.nesting = expr.nesting := rfl
      unfold Expr.enclosedNesting
      split <;> omega

theorem parse_fits {rule : String} (accepted : parse rule = .ok expr) :
    expr.WellFormed ∧ expr.nesting ≤ maxNesting := by
  obtain ⟨lexemes, cut⟩ : ∃ lexemes, tokenize rule = .ok lexemes := by
    cases cut : tokenize rule with
    | error => simp [parse, cut] at accepted
    | ok lexemes => exact ⟨lexemes, rfl⟩
  obtain ⟨nesting, derived, within⟩ := parse_sound cut accepted
  obtain ⟨formed, shallower⟩ := Disjunction.fits derived fun _ _ _ _ => Unary.fits
  exact ⟨formed, Nat.le_trans shallower within⟩

private theorem Readable.arguments (args : List String) :
    Readable ((args.map .text).intersperse .comma ++ [.close]) := by
  have closing : Readable [.close] := .sign (by simp) .nil
  match args with
  | [] => exact closing
  | [value] => exact .sign (by simp) closing
  | value :: next :: later => exact .sign (by simp) (.sign (by simp) (Readable.arguments (next :: later)))

theorem Readable.call {name : String} {matcher : Matcher} (known : Matcher.folded name = Matcher.folded matcher.name)
    (args : List String) : Readable (.name name :: .open :: (args.map .text).intersperse .comma ++ [.close]) := by
  obtain ⟨first, more, spelled, start, rest⟩ := Matcher.name_spelled known
  exact .name spelled start rest (.sign (by simp) (.arguments args))

private theorem Readable.enclosed (readable : Readable tokens) : Readable (expr.enclosed least tokens) := by
  unfold Expr.enclosed
  split
  · exact .sign (by simp) (readable.append (.sign (by simp) .nil))
  · exact readable

private theorem Readable.intercalate {parts : List (List Token)} (sign : ∀ name, operator ≠ .name name)
    (each : ∀ part ∈ parts, Readable part) : Readable ([operator].intercalate parts) := by
  match parts with
  | [] => exact .nil
  | [part] =>
    rw [List.intercalate_singleton]
    exact each part List.mem_cons_self
  | part :: next :: later =>
    rw [List.intercalate_cons_cons, List.append_assoc]
    have rest : Readable ([operator].intercalate (next :: later)) :=
      .intercalate sign fun other member => each other (List.mem_cons_of_mem _ member)
    exact (each part List.mem_cons_self).append (.sign sign rest)

private theorem Expr.WellFormed.readable (formed : expr.WellFormed) : Readable expr.tokens := by
  induction formed with
  | call matcher args =>
    rw [Expr.tokens]
    exact .call rfl args
  | not inner ih =>
    rw [Expr.tokens]
    exact .sign (by simp) ih.enclosed
  | and count each ih | or count each ih =>
    rw [Expr.tokens]
    refine .intercalate (by simp) fun part member => ?_
    obtain ⟨operand, among, rfl⟩ := List.mem_map.mp member
    exact (ih operand among).enclosed

private theorem parse_printed {rule : String} (formed : expr.WellFormed) (shallow : expr.nesting ≤ maxNesting)
    (printed : Written expr.tokens rule.toList) : parse rule = .ok expr := by
  obtain ⟨lexemes, cut, same⟩ := tokenize_of_written formed.readable printed
  rw [parse_complete cut (same ▸ formed.disjunction), outcome_of_le shallow]

/-- Printed in any way, an expression is read back, if it has been read from some rule, or else if it is well-formed and
printed no deeper than is allowed. -/
theorem printing_undoes_parsing (expr : Expr) :
    (∃ printed : String, Written expr.tokens printed.toList) ∧
    ∀ printed : String, Written expr.tokens printed.toList →
      (∀ rule, parse rule = .ok expr → parse printed = .ok expr) ∧
        (expr.WellFormed → expr.nesting ≤ maxNesting → parse printed = .ok expr) := by
  obtain ⟨text, spelled⟩ := Written.exists expr.tokens
  refine ⟨⟨String.ofList text, by rwa [String.toList_ofList]⟩, fun printed written => ⟨?_, ?_⟩⟩
  · intro rule accepted
    obtain ⟨formed, shallow⟩ := parse_fits accepted
    exact parse_printed formed shallow written
  · intro formed shallow
    exact parse_printed formed shallow written

/-- A text with a double quote in it, printed in double quotes and with some white space. -/
theorem printing_undoes_parsing_quoted :
    let expr : Expr := .not (.call .host ["a\"b"])
    let printed := "! Host(\"a\\\"b\" )"
    Written expr.tokens printed.toList ∧ parse printed = .ok expr := by
  intro expr printed
  have tokens : expr.tokens = [.not, .name "Host", .open, .text "a\"b", .close] := by
    simp only [expr, Expr.tokens, Expr.enclosed, Expr.binding]
    rfl
  have none : Blank [] := by decide
  have space : Blank [' '] := by decide
  have closing : Written [.close] _ := .cons space .close (.nil none)
  have argument : Written [.text "a\"b", .close] _ := .cons none (.quoted _) closing
  have call : Written [.name "Host", .open, .text "a\"b", .close] _ := .cons space (.name _) (.cons none .open argument)
  have whole : Written [.not, .name "Host", .open, .text "a\"b", .close] _ := .cons none .not call
  have written : Written expr.tokens printed.toList := by
    rw [tokens]
    refine Eq.mp (congrArg (Written _) ?_) whole
    decide
  have depth : expr.nesting = 2 := by
    simp only [expr, Expr.nesting, Expr.enclosedNesting, Expr.binding]
    rfl
  have shallow : expr.nesting ≤ maxNesting := by
    rw [depth]
    decide
  exact ⟨written, ((printing_undoes_parsing expr).2 printed written).2 (.not (.call ..)) shallow⟩

end AliasSync.Rule
