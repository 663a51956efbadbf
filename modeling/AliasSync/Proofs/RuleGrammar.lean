import AliasSync.Rule.Parser

/-! The grammar of rules, and that the reader accepts just what it derives. -/

namespace AliasSync.Rule

namespace Matcher

private theorem folded_name_injective {matcher other : Matcher} (same : folded matcher.name = folded other.name) :
    matcher = other := by
  have apart : ∀ matcher ∈ all, ∀ other ∈ all, folded matcher.name = folded other.name → matcher = other := by
    decide +kernel
  exact apart matcher (mem_all matcher) other (mem_all other) same

theorem ofName?_eq_some {name : String} {matcher : Matcher} :
    ofName? name = some matcher ↔ folded name = folded matcher.name := by
  unfold ofName?
  constructor
  · intro found
    have same := List.find?_some found
    exact (eq_of_beq same).symm
  · intro same
    cases found : all.find? fun matcher => folded matcher.name == folded name with
    | none =>
      have other := List.find?_eq_none.mp found matcher (mem_all matcher)
      exact absurd (beq_iff_eq.mpr same.symm) other
    | some other =>
      have equal := List.find?_some found
      rw [folded_name_injective ((eq_of_beq equal).trans same)]

end Matcher

open Matcher (folded)

/-- Which lists of tokens stand for an expression, and how deep the deepest of the calls in them is nested. -/
abbrev Grammar := Expr → List Token → Nat → Prop

inductive Chain (operator : Token) (part : Grammar) : List Expr → List Token → Nat → Prop where
  | last {expr tokens nesting} (only : part expr tokens nesting) : Chain operator part [expr] tokens nesting
  | more {expr tokens nesting exprs others deeper} (first : part expr tokens nesting)
      (later : Chain operator part exprs others deeper) :
      Chain operator part (expr :: exprs) (tokens ++ operator :: others) (max nesting deeper)

/-- A single part stands for itself, and a chain of several parts is one node with the parts in order. -/
inductive Joined (operator : Token) (node : List Expr → Expr) (part : Grammar) : Expr → List Token → Nat → Prop where
  | single {expr tokens nesting} (only : part expr tokens nesting) : Joined operator node part expr tokens nesting
  | several {exprs tokens nesting} (parts : Chain operator part exprs tokens nesting) (count : 2 ≤ exprs.length) :
      Joined operator node part (node exprs) tokens nesting

/-- A call nests one level deep, and each negation and each pair of parentheses around it adds a level. -/
inductive Unary : Expr → List Token → Nat → Prop where
  | call {name : String} {matcher : Matcher} (known : folded name = folded matcher.name) (args : List String) :
      Unary (.call matcher args) (.name name :: .open :: (args.map .text).intersperse .comma ++ [.close]) 1
  | not {expr tokens nesting} (inner : Unary expr tokens nesting) : Unary (.not expr) (.not :: tokens) (nesting + 1)
  | group {expr tokens nesting} (inner : Joined .or .or (Joined .and .and Unary) expr tokens nesting) :
      Unary expr (.open :: tokens ++ [.close]) (nesting + 1)

abbrev Conjunction : Grammar := Joined .and .and Unary

/-- What a whole rule may be. -/
abbrev Disjunction : Grammar := Joined .or .or Conjunction

private theorem Unary.nesting_pos {tokens : List Token} {expr : Expr} {nesting : Nat}
    (unary : Unary expr tokens nesting) :
    0 < nesting := by
  cases unary <;> omega

def Ends (operators : List Token) (rest : List Lexeme) : Prop :=
  ∀ lexeme ∈ rest.head?, lexeme.token ∉ operators

theorem Ends.nil {operators : List Token} : Ends operators [] := fun _ impossible => by cases impossible

theorem Ends.none {rest : List Lexeme} : Ends [] rest := fun _ _ => List.not_mem_nil

private theorem Ends.close {offset : Nat} {rest : List Lexeme} : Ends [.or, .and] (⟨.close, offset⟩ :: rest) := by
  rintro _ ⟨⟩
  change Token.close ∉ _
  decide

/-- What comes of something that is nested so deep, with so many levels left. -/
def outcome (levels nesting : Nat) (value : α) : Except RuleError α :=
  if nesting ≤ levels then .ok value else .error .tooDeep

/-- A reader reads off what the grammar derives, if there are levels enough for it. It stops in front of everything but
the operators. -/
structure Reads (reader : Reader Expr) (grammar : Grammar) (levels : Nat) (operators : List Token) : Prop where
  sound : ∀ {lexemes expr rest}, reader lexemes = .ok (expr, rest) →
    ∃ front nesting, lexemes = front ++ rest ∧ grammar expr (front.map Lexeme.token) nesting ∧ nesting ≤ levels
  reads : ∀ {front expr nesting rest}, grammar expr (front.map Lexeme.token) nesting → Ends operators rest →
    reader (front ++ rest) = outcome levels nesting (expr, rest)

theorem map_eq_ok {result : Except ε α} {transform : α → β} {value : β} (mapped : result.map transform = .ok value) :
    ∃ inner, result = .ok inner ∧ transform inner = value := by
  cases result with
  | error => cases mapped
  | ok inner => exact ⟨inner, rfl, Except.ok.inj mapped⟩

section Outcomes

variable {levels nesting deeper : Nat} {value other : α}

theorem outcome_of_le (within : nesting ≤ levels) : outcome levels nesting value = .ok value := if_pos within

private theorem outcome_of_lt (deep : levels < nesting) : outcome levels nesting value = .error .tooDeep :=
  if_neg (Nat.not_le_of_lt deep)

private theorem outcome_succ : outcome (levels + 1) (nesting + 1) value = outcome levels nesting value := by
  simp only [outcome, Nat.add_le_add_iff_right]

private theorem outcome_map (transform : α → β) :
    (outcome levels nesting value).map transform = outcome levels nesting (transform value) := by
  unfold outcome
  split <;> rfl

private theorem outcome_nesting_le (same : outcome nesting nesting value = outcome nesting deeper other) :
    deeper ≤ nesting := by
  refine Nat.le_of_not_lt fun deep => ?_
  rw [outcome_of_le (Nat.le_refl _), outcome_of_lt deep] at same
  cases same

/-- With levels enough what is read comes to light, and with the fewest levels that are enough its nesting. -/
theorem outcome_inj (same : ∀ levels, outcome levels nesting value = outcome levels deeper other) :
    value = other ∧ nesting = deeper := by
  have shallower := outcome_nesting_le (same nesting)
  have deeper_still := outcome_nesting_le (same deeper).symm
  have equal := same nesting
  rw [outcome_of_le (Nat.le_refl _), outcome_of_le shallower] at equal
  exact ⟨Except.ok.inj equal, Nat.le_antisymm deeper_still shallower⟩

end Outcomes

section Chains

variable {reader : Reader Expr} {part : Grammar} {levels bound nesting : Nat} {operators tokens : List Token}
  {operator : Token} {node : List Expr → Expr} {exprs : List Expr} {lexemes front rest : List Lexeme}

private theorem Chain.singleton {expr : Expr} (chain : Chain operator part [expr] tokens nesting) :
    part expr tokens nesting := by
  cases chain with
  | last only => exact only
  | more first later => cases later

theorem joined_iff {expr : Expr} : Joined operator node part expr tokens nesting ↔
    ∃ exprs, Chain operator part exprs tokens nesting ∧ collapse node exprs = expr := by
  constructor
  · rintro (only | ⟨parts, count⟩)
    · exact ⟨[expr], .last only, rfl⟩
    · refine ⟨_, parts, ?_⟩
      unfold collapse
      split
      · cases Nat.lt_irrefl _ count
      · rfl
  · rintro ⟨exprs, parts, rfl⟩
    match exprs with
    | [] => cases parts
    | [expr] => exact .single parts.singleton
    | _ :: _ :: _ => exact .several parts (Nat.le_add_left ..)

variable (reads : Reads reader part levels operators)
include reads

private theorem chain_sound (read : chain operator reader bound lexemes = .ok (exprs, rest)) :
    ∃ front nesting, lexemes = front ++ rest ∧ Chain operator part exprs (front.map Lexeme.token) nesting ∧
      nesting ≤ levels := by
  induction bound generalizing lexemes exprs with
  | zero =>
    obtain ⟨⟨expr, after⟩, found, same⟩ := map_eq_ok read
    cases same
    obtain ⟨front, nesting, split, derived, within⟩ := reads.sound found
    exact ⟨front, nesting, split, .last derived, within⟩
  | succ bound ih =>
    unfold chain at read
    cases found : reader lexemes with
    | error cause => simp [found] at read
    | ok result =>
      obtain ⟨expr, after⟩ := result
      obtain ⟨front, nesting, rfl, derived, within⟩ := reads.sound found
      simp only [found] at read
      match after with
      | [] =>
        cases read
        exact ⟨front, nesting, rfl, .last derived, within⟩
      | ⟨token, offset⟩ :: more =>
        by_cases goesOn : token = operator
        · subst goesOn
          simp only [↓reduceIte] at read
          obtain ⟨⟨later, last⟩, further, same⟩ := map_eq_ok read
          cases same
          obtain ⟨others, deeper, rfl, chained, bounded⟩ := ih further
          refine ⟨front ++ ⟨token, offset⟩ :: others, max nesting deeper, by simp, ?_, ?_⟩
          · rw [List.map_append, List.map_cons]
            exact .more derived chained
          · exact Nat.max_le.mpr ⟨within, bounded⟩
        · simp only [goesOn, ↓reduceIte] at read
          cases read
          exact ⟨front, nesting, rfl, .last derived, within⟩

private theorem chain_reads (parts : Chain operator part exprs (front.map Lexeme.token) nesting)
    (room : front.length ≤ bound)
    (other : operator ∉ operators) (ends : Ends (operator :: operators) rest) :
    chain operator reader bound (front ++ rest) = outcome levels nesting (exprs, rest) := by
  have stops : Ends operators rest := fun lexeme member => List.not_mem_of_not_mem_cons (ends lexeme member)
  generalize spelled : front.map Lexeme.token = tokens at parts
  -- every operator of the chain is a lexeme of its own, so the bound does not cut the chain short
  induction parts generalizing front bound with
  | @last expr _ nesting only =>
    subst spelled
    have found := reads.reads only stops
    by_cases within : nesting ≤ levels
    · rw [outcome_of_le within] at found ⊢
      match bound, rest with
      | 0, _ => simp only [chain, found, Except.map]
      | _ + 1, [] => simp only [chain, found]
      | _ + 1, lexeme :: more =>
        have apart : lexeme.token ≠ operator := fun same => ends lexeme rfl (same ▸ List.mem_cons_self)
        simp only [chain, found, apart, ↓reduceIte]
    · rw [outcome_of_lt (Nat.lt_of_not_le within)] at found ⊢
      cases bound <;> simp only [chain, found, Except.map]
  | @more expr tokens nesting exprs others deeper first later ih =>
    obtain ⟨before, after, rfl, rfl, continued⟩ := List.map_eq_append_iff.mp spelled
    obtain ⟨lexeme, others, rfl, rfl, rfl⟩ := List.map_eq_cons_iff.mp continued
    rw [List.length_append, List.length_cons] at room
    obtain ⟨bound, rfl⟩ : ∃ less, bound = less + 1 := ⟨bound - 1, by omega⟩
    have goesOn : Ends operators (lexeme :: (others ++ rest)) := by
      rintro _ ⟨⟩
      exact other
    have fits : others.length ≤ bound := by omega
    have found := reads.reads first goesOn
    rw [List.append_assoc, List.cons_append]
    by_cases within : nesting ≤ levels
    · have both : outcome levels (max nesting deeper) (expr :: exprs, rest) =
          outcome levels deeper (expr :: exprs, rest) := by
        simp only [outcome, Nat.max_le, within, true_and]
      rw [outcome_of_le within] at found
      simp only [chain, found, ↓reduceIte, ih fits rfl, outcome_map, both]
    · have deep : levels < max nesting deeper := Nat.lt_of_lt_of_le (Nat.lt_of_not_le within) (Nat.le_max_left ..)
      rw [outcome_of_lt (Nat.lt_of_not_le within)] at found
      rw [outcome_of_lt deep]
      simp only [chain, found]

/-- One more operator is read when its parts are. -/
theorem Reads.joined (other : operator ∉ operators) :
    Reads (fun lexemes => (chain operator reader lexemes.length lexemes).map fun (exprs, rest) =>
      (collapse node exprs, rest)) (Joined operator node part) levels (operator :: operators) where
  sound := by
    intro lexemes expr rest read
    obtain ⟨⟨exprs, last⟩, found, same⟩ := map_eq_ok read
    cases same
    obtain ⟨front, nesting, split, parts, within⟩ := chain_sound reads found
    exact ⟨front, nesting, split, joined_iff.mpr ⟨exprs, parts, rfl⟩, within⟩
  reads := by
    intro front expr nesting rest derived ends
    obtain ⟨exprs, parts, rfl⟩ := joined_iff.mp derived
    have fits : front.length ≤ (front ++ rest).length := by simp
    rw [chain_reads reads parts fits other ends, outcome_map]

omit reads in
theorem Reads.disjunction (reads : Reads reader Unary levels []) :
    Reads (disjunction reader) Disjunction levels [.or, .and] :=
  (reads.joined (by simp)).joined (by simp)

end Chains

private theorem map_token_eq_cons {lexemes : List Lexeme} {token : Token} {tokens : List Token}
    (spelled : lexemes.map Lexeme.token = token :: tokens) :
    ∃ offset later, lexemes = ⟨token, offset⟩ :: later ∧ later.map Lexeme.token = tokens := by
  obtain ⟨⟨_, offset⟩, later, rfl, rfl, rest⟩ := List.map_eq_cons_iff.mp spelled
  exact ⟨offset, later, rfl, rest⟩

section Calls

variable {stop offset : Nat} {name : String} {args : List String} {expr : Expr} {lexemes front rest : List Lexeme}

private theorem arguments_sound (read : arguments stop lexemes = .ok (args, rest)) :
    args ≠ [] ∧ ∃ front, lexemes = front ++ rest ∧
      front.map Lexeme.token = (args.map .text).intersperse .comma ++ [.close] := by
  fun_induction arguments stop lexemes generalizing args with
  | case1 | case4 | case5 => cases read
  | case2 value offset comma further later after found ih =>
    cases read
    obtain ⟨some, front, rfl, spelled⟩ := ih found
    refine ⟨by simp, ⟨.text value, offset⟩ :: ⟨.comma, comma⟩ :: front, rfl, ?_⟩
    cases later with
    | nil => cases some rfl
    | cons next later => simp only [List.map_cons, spelled, List.intersperse_cons_cons, List.cons_append]
  | case3 value offset close after =>
    cases read
    exact ⟨by simp, [⟨.text value, offset⟩, ⟨.close, close⟩], rfl, rfl⟩

private theorem arguments_complete {value : String} {later : List String}
    (spelled : front.map Lexeme.token = ((value :: later).map .text).intersperse .comma ++ [.close]) :
    arguments stop (front ++ rest) = .ok (value :: later, rest) := by
  induction later generalizing value front with
  | nil =>
    obtain ⟨first, _, rfl, closing⟩ := map_token_eq_cons spelled
    obtain ⟨last, _, rfl, ending⟩ := map_token_eq_cons closing
    rw [List.map_eq_nil_iff.mp ending]
    simp only [List.cons_append, arguments, List.nil_append]
  | cons next later ih =>
    obtain ⟨first, _, rfl, separated⟩ := map_token_eq_cons spelled
    obtain ⟨comma, _, rfl, further⟩ := map_token_eq_cons separated
    simp only [List.cons_append, arguments, ih further]

private theorem call_sound (read : call stop name offset lexemes = .ok (expr, rest)) :
    ∃ matcher args front, folded name = folded matcher.name ∧ expr = .call matcher args ∧ lexemes = front ++ rest ∧
      front.map Lexeme.token = .open :: (args.map .text).intersperse .comma ++ [.close] := by
  unfold call at read
  split at read
  case h_1 => cases read
  case h_2 matcher found =>
    have known := Matcher.ofName?_eq_some.mp found
    split at read
    case h_1 first last after =>
      cases read
      exact ⟨matcher, [], [⟨.open, first⟩, ⟨.close, last⟩], known, rfl, rfl, rfl⟩
    case h_2 first further _ =>
      obtain ⟨⟨args, last⟩, read, same⟩ := map_eq_ok read
      cases same
      obtain ⟨-, front, rfl, spelled⟩ := arguments_sound read
      refine ⟨matcher, args, ⟨.open, first⟩ :: front, known, rfl, rfl, ?_⟩
      rw [List.map_cons, spelled, List.cons_append]
    case h_3 => cases read

private theorem call_complete {matcher : Matcher} (known : folded name = folded matcher.name)
    (spelled : front.map Lexeme.token = .open :: (args.map .text).intersperse .comma ++ [.close]) :
    call stop name offset (front ++ rest) = .ok (.call matcher args, rest) := by
  obtain ⟨first, inner, rfl, inside⟩ := map_token_eq_cons spelled
  simp only [call, Matcher.ofName?_eq_some.mpr known]
  cases args with
  | nil =>
    obtain ⟨last, _, rfl, ending⟩ := map_token_eq_cons inside
    rw [List.map_eq_nil_iff.mp ending]
    rfl
  | cons value later =>
    have read : arguments stop (inner ++ rest) = .ok (value :: later, rest) := arguments_complete inside
    have begins : ∃ others, ((value :: later).map Token.text).intersperse .comma = .text value :: others := by
      cases later <;> exact ⟨_, rfl⟩
    obtain ⟨others, begun⟩ := begins
    rw [List.append_eq, begun] at inside
    obtain ⟨next, _, rfl, -⟩ := map_token_eq_cons inside
    simp only [List.cons_append] at read ⊢
    simp only [read, Except.map]

end Calls

private theorem operand_sound {stop levels : Nat} {lexemes rest : List Lexeme} {expr : Expr}
    (inner : Reads (operand stop levels) Unary levels [])
    (read : operand stop (levels + 1) lexemes = .ok (expr, rest)) :
    ∃ front nesting, lexemes = front ++ rest ∧ Unary expr (front.map Lexeme.token) nesting ∧ nesting ≤ levels + 1 := by
  unfold operand at read
  split at read
  case h_1 offset later =>
    obtain ⟨⟨negated, last⟩, found, same⟩ := map_eq_ok read
    cases same
    obtain ⟨front, nesting, rfl, derived, within⟩ := inner.sound found
    exact ⟨⟨.not, offset⟩ :: front, nesting + 1, rfl, .not derived, Nat.succ_le_succ within⟩
  case h_2 offset later =>
    split at read
    case h_1 => cases read
    case h_2 closing after found =>
      cases read
      obtain ⟨front, nesting, rfl, derived, within⟩ := inner.disjunction.sound found
      refine ⟨⟨.open, offset⟩ :: front ++ [⟨.close, closing⟩], nesting + 1, by simp, ?_, Nat.succ_le_succ within⟩
      rw [List.map_append, List.map_cons]
      exact .group derived
    case h_3 => cases read
  case h_3 name offset later =>
    obtain ⟨matcher, args, front, known, rfl, rfl, spelled⟩ := call_sound read
    refine ⟨⟨.name name, offset⟩ :: front, 1, rfl, ?_, Nat.le_add_left ..⟩
    rw [List.map_cons, spelled]
    exact .call known args
  case h_4 => cases read

theorem operand_reads (stop levels : Nat) : Reads (operand stop levels) Unary levels [] := by
  -- by the levels that are left, as the reader recurses: each negation and each pair of parentheses uses one up
  induction levels with
  | zero =>
    constructor
    · intro lexemes expr rest read
      cases read
    · intro front expr nesting rest derived _
      rw [outcome_of_lt derived.nesting_pos]
      rfl
  | succ levels inner =>
    refine ⟨operand_sound inner, ?_⟩
    intro front expr nesting rest derived _
    generalize spelled : front.map Lexeme.token = tokens at derived
    cases derived with
    | call known args =>
      obtain ⟨offset, front, rfl, called⟩ := map_token_eq_cons spelled
      rw [outcome_of_le (Nat.le_add_left ..)]
      exact call_complete known called
    | not negated =>
      obtain ⟨offset, front, rfl, rfl⟩ := map_token_eq_cons spelled
      have read := inner.reads negated (.none : Ends [] rest)
      simp only [List.cons_append, operand, read, outcome_map, outcome_succ]
    | @group _ _ nesting grouped =>
      obtain ⟨offset, _, rfl, closed⟩ := map_token_eq_cons spelled
      obtain ⟨front, _, rfl, rfl, closing⟩ := List.map_eq_append_iff.mp closed
      obtain ⟨last, _, rfl, ending⟩ := map_token_eq_cons closing
      have read := inner.disjunction.reads grouped (.close : Ends _ (⟨.close, last⟩ :: rest))
      rw [List.map_eq_nil_iff.mp ending, outcome_succ]
      by_cases within : nesting ≤ levels
      · rw [outcome_of_le within] at read ⊢
        simp only [List.cons_append, List.append_assoc, List.nil_append, operand, read]
      · rw [outcome_of_lt (Nat.lt_of_not_le within)] at read ⊢
        simp only [List.cons_append, List.append_assoc, List.nil_append, operand, read]

section Rules

variable {expr other : Expr} {tokens : List Token} {nesting deeper : Nat} {rule : String} {lexemes : List Lexeme}

/-- No list of tokens stands for two expressions, or for one in two ways. -/
theorem Disjunction.unique (derived : Disjunction expr tokens nesting) (also : Disjunction other tokens deeper) :
    expr = other ∧ nesting = deeper := by
  obtain ⟨lexemes, rfl⟩ : ∃ lexemes : List Lexeme, lexemes.map Lexeme.token = tokens := by
    refine ⟨tokens.map (Lexeme.mk · 0), ?_⟩
    rw [List.map_map]
    exact List.map_id tokens
  have same : (expr, ([] : List Lexeme)) = (other, []) ∧ nesting = deeper := by
    refine outcome_inj fun levels => ?_
    have reads := (operand_reads 0 levels).disjunction
    exact (reads.reads derived .nil).symm.trans (reads.reads also .nil)
  exact ⟨congrArg Prod.fst same.1, same.2⟩

private theorem Disjunction.tokens_ne_nil (derived : Disjunction expr tokens nesting) : tokens ≠ [] := by
  rintro rfl
  have read : disjunction (operand 0 nesting) ([] ++ []) = outcome nesting nesting (expr, []) :=
    (operand_reads 0 nesting).disjunction.reads derived .nil
  rw [outcome_of_le (Nat.le_refl _)] at read
  cases nesting <;> cases read

theorem parse_of_tokenize (cut : tokenize rule = .ok lexemes) (some : lexemes ≠ []) :
    parse rule = parseLexemes rule.utf8ByteSize lexemes := by
  unfold parse
  rw [cut]
  cases lexemes with
  | nil => cases some rfl
  | cons => rfl

/-- What the reader accepts is derived by the grammar, and nested no deeper than is allowed. -/
theorem parse_sound (cut : tokenize rule = .ok lexemes) (accepted : parse rule = .ok expr) :
    ∃ nesting, Disjunction expr (lexemes.map Lexeme.token) nesting ∧ nesting ≤ maxNesting := by
  have some : lexemes ≠ [] := by
    rintro rfl
    simp [parse, cut] at accepted
  rw [parse_of_tokenize cut some] at accepted
  unfold parseLexemes at accepted
  split at accepted
  case h_1 => cases accepted
  case h_2 found =>
    cases accepted
    obtain ⟨front, nesting, rfl, derived, within⟩ := (operand_reads _ _).disjunction.sound found
    rw [List.append_nil]
    exact ⟨nesting, derived, within⟩
  case h_3 => cases accepted

theorem parse_complete (cut : tokenize rule = .ok lexemes)
    (derived : Disjunction expr (lexemes.map Lexeme.token) nesting) :
    parse rule = outcome maxNesting nesting expr := by
  have some : lexemes ≠ [] := fun none => derived.tokens_ne_nil (none ▸ rfl)
  have read := (operand_reads rule.utf8ByteSize maxNesting).disjunction.reads derived .nil
  rw [List.append_nil] at read
  rw [parse_of_tokenize cut some, parseLexemes, read]
  by_cases within : nesting ≤ maxNesting
  · rw [outcome_of_le within, outcome_of_le within]
  · rw [outcome_of_lt (Nat.lt_of_not_le within), outcome_of_lt (Nat.lt_of_not_le within)]

theorem parse_of_tokens {tokens : List Token}
    (read : (tokenize rule).toOption.map (List.map Lexeme.token) = some tokens)
    (derived : Disjunction expr tokens nesting) (within : nesting ≤ maxNesting) : parse rule = .ok expr := by
  cases cut : tokenize rule with
  | error =>
    rw [cut] at read
    cases read
  | ok lexemes =>
    rw [cut] at read
    rw [← Option.some.inj read] at derived
    exact (parse_complete cut derived).trans (outcome_of_le within)

/-- The reader accepts just the rules that the grammar derives with no call nested too deep, each as the one expression
that its tokens stand for. -/
theorem parse_follows_grammar (cut : tokenize rule = .ok lexemes) :
    let tokens := lexemes.map Lexeme.token
    (∀ expr nesting, Disjunction expr tokens nesting →
      (∀ other deeper, Disjunction other tokens deeper → other = expr ∧ deeper = nesting) ∧
        (nesting ≤ maxNesting → parse rule = .ok expr) ∧ (maxNesting < nesting → parse rule = .error .tooDeep)) ∧
      ((∀ expr nesting, ¬ Disjunction expr tokens nesting) → ∃ cause, parse rule = .error cause) := by
  intro tokens
  refine ⟨fun expr nesting derived => ⟨?_, ?_, ?_⟩, fun underivable => ?_⟩
  · intro other deeper also
    exact also.unique derived
  · intro within
    rw [parse_complete cut derived, outcome_of_le within]
  · intro deep
    rw [parse_complete cut derived, outcome_of_lt deep]
  · cases accepted : parse rule with
    | error cause => exact ⟨cause, rfl⟩
    | ok expr =>
      obtain ⟨nesting, derived, -⟩ := parse_sound cut accepted
      cases underivable expr nesting derived

end Rules

theorem parse_follows_grammar_accepted :
    let rule := "!(Host(`a`) || path()) && METHOD()"
    let lexemes : List Lexeme := [⟨.not, 0⟩, ⟨.open, 1⟩, ⟨.name "Host", 2⟩, ⟨.open, 6⟩, ⟨.text "a", 7⟩, ⟨.close, 10⟩,
      ⟨.or, 12⟩, ⟨.name "path", 15⟩, ⟨.open, 19⟩, ⟨.close, 20⟩, ⟨.close, 21⟩, ⟨.and, 23⟩, ⟨.name "METHOD", 26⟩,
      ⟨.open, 32⟩, ⟨.close, 33⟩]
    let expr : Expr := .and [.not (.or [.call .host ["a"], .call .path []]), .call .method []]
    tokenize rule = .ok lexemes ∧ Disjunction expr (lexemes.map Lexeme.token) 3 ∧ parse rule = .ok expr := by
  intro rule lexemes expr
  have cut : tokenize rule = .ok lexemes := by
    have read : (tokenize rule).toOption = some lexemes := by decide +kernel
    generalize tokenize rule = found at read
    cases found with
    | error => cases read
    | ok => exact congrArg Except.ok (Option.some.inj read)
  have host : Unary (.call .host ["a"]) [.name "Host", .open, .text "a", .close] 1 := .call (by decide) ["a"]
  have path : Unary (.call .path []) [.name "path", .open, .close] 1 := .call (by decide) []
  have method : Unary (.call .method []) [.name "METHOD", .open, .close] 1 := .call (by decide) []
  have negation := Unary.not (.group (.several (.more (.single host) (.last (.single path))) (by decide)))
  have derived : Disjunction expr (lexemes.map Lexeme.token) 3 :=
    .single (.several (.more negation (.last method)) (by decide))
  obtain ⟨-, accepted, -⟩ := (parse_follows_grammar cut).1 expr 3 derived
  exact ⟨cut, derived, accepted (by decide)⟩

end AliasSync.Rule
