import AliasSync.Proofs.RulePrinting

/-! Where a rule is said to be wrong. What stands before that place can still be continued to a rule that is accepted,
and with the token at that place it cannot: the reader has looked at nothing behind the token, so it fails whatever
comes after it. -/

namespace AliasSync.Rule

open Matcher (folded)

/-- The tokens are the first ones of some rule that is accepted. -/
def Viable (tokens : List Token) : Prop :=
  ∃ rule lexemes expr, tokenize rule = .ok lexemes ∧ parse rule = .ok expr ∧ tokens <+: lexemes.map Lexeme.token

def RuleError.syntaxOffset? : RuleError → Option Nat
  | .unexpected _ _ offset | .unknownMatcher _ offset => some offset
  | _ => none

/-- The tokens stand for an expression that is nested no deeper than the levels. -/
def Derives (grammar : Grammar) (levels : Nat) (tokens : List Token) : Prop :=
  ∃ expr nesting, grammar expr tokens nesting ∧ nesting ≤ levels

def Begins (whole : List Token → Prop) (tokens : List Token) : Prop := ∃ more, whole (tokens ++ more)

inductive Blames : Lexeme → RuleError → Prop where
  | unexpected (expected : Expected) (lexeme : Lexeme) :
      Blames lexeme (.unexpected expected (some lexeme.token) lexeme.offset)
  | unknownMatcher (name : String) (offset : Nat) : Blames ⟨.name name, offset⟩ (.unknownMatcher name offset)

/-- How a reader of something whole fails. Either the lexemes begin it and there are too few of them, or they begin it
up to the lexeme that the error is about, and the reader fails in the same way whatever follows that lexeme. -/
inductive Rejection (reader : List Lexeme → Except RuleError α) (whole : List Token → Prop) (stop : Nat) :
    List Lexeme → RuleError → Prop where
  | ended {front : List Lexeme} (begins : Begins whole (front.map Lexeme.token)) (expected : Expected) :
      Rejection reader whole stop front (.unexpected expected none stop)
  | stuck (front : List Lexeme) {rest : List Lexeme} {lexeme : Lexeme} {cause : RuleError}
      (begins : Begins whole (front.map Lexeme.token)) (blames : Blames lexeme cause)
      (always : ∀ other, reader (front ++ lexeme :: other) = .error cause) :
      Rejection reader whole stop (front ++ lexeme :: rest) cause

namespace Rejection

variable {reader : List Lexeme → Except RuleError α} {inner : List Lexeme → Except RuleError β}
  {whole part : List Token → Prop} {stop : Nat} {expected : Expected} {front rest before lexemes : List Lexeme}
  {cause : RuleError}

private theorem complained (front : List Lexeme) (begins : Begins whole (front.map Lexeme.token))
    (always : ∀ lexeme more other, rest = lexeme :: more →
      reader (front ++ lexeme :: other) = .error (complain stop expected (lexeme :: other))) :
    Rejection reader whole stop (front ++ rest) (complain stop expected rest) := by
  cases rest with
  | nil =>
    rw [List.append_nil]
    exact .ended begins expected
  | cons lexeme more =>
    exact .stuck front begins (.unexpected expected lexeme) fun other => always lexeme more other rfl

/-- A reader that fails because a part of what it reads fails, does so at the place where the part fails. -/
theorem within (rejection : Rejection inner part stop lexemes cause) (before : List Lexeme)
    (fails : ∀ other, other.head? = lexemes.head? → inner other = .error cause →
      reader (before ++ other) = .error cause)
    (goesOn : ∀ tokens, part tokens → Begins whole (before.map Lexeme.token ++ tokens)) :
    Rejection reader whole stop (before ++ lexemes) cause := by
  have continued {front : List Lexeme} (begins : Begins part (front.map Lexeme.token)) :
      Begins whole ((before ++ front).map Lexeme.token) := by
    obtain ⟨more, derived⟩ := begins
    obtain ⟨further, derived⟩ := goesOn _ derived
    refine ⟨more ++ further, ?_⟩
    simpa only [List.map_append, List.append_assoc] using derived
  cases rejection with
  | ended begins expected => exact .ended (continued begins) expected
  | @stuck front rest lexeme cause begins blames always =>
    rw [← List.append_assoc]
    refine .stuck _ (continued begins) blames fun other => ?_
    rw [List.append_assoc]
    refine fails _ ?_ (always other)
    cases front <;> rfl

end Rejection

private theorem error_of_map {result : Except ε α} {transform : α → β} {cause : ε}
    (failed : result.map transform = .error cause) : result = .error cause := by
  cases result with
  | error reason => exact congrArg Except.error (Except.error.inj failed)
  | ok value => cases failed

/-- A reader of what the grammar derives stops in front of everything but the operators, reads at least one lexeme, and
is right about the place where it fails. -/
structure Rejects (reader : Reader Expr) (grammar : Grammar) (levels stop : Nat) (operators : List Token) : Prop
    extends Reads reader grammar levels operators where
  ends : ∀ {lexemes expr rest}, reader lexemes = .ok (expr, rest) → Ends operators rest ∧ rest.length < lexemes.length
  rejects : ∀ {lexemes cause}, reader lexemes = .error cause → cause ≠ .tooDeep →
    Rejection reader (Derives grammar levels) stop lexemes cause

def chained (operator : Token) (operand : Reader Expr) : Reader (List Expr) := fun lexemes =>
  chain operator operand lexemes.length lexemes

section Chains

variable {reader : Reader Expr} {part : Grammar} {levels stop : Nat} {operators : List Token} {operator : Token}
  {node : List Expr → Expr} {first : Expr} {exprs : List Expr} {lexemes front rest more : List Lexeme}
  {cause : RuleError}

private theorem chained_of_error (failed : reader lexemes = .error cause) :
    chained operator reader lexemes = .error cause := by
  unfold chained
  cases lexemes.length <;> simp only [chain, failed, Except.map]

private theorem chained_of_last (read : reader lexemes = .ok (first, rest)) (ends : Ends [operator] rest) :
    chained operator reader lexemes = .ok ([first], rest) := by
  unfold chained
  cases lexemes.length with
  | zero => simp only [chain, read, Except.map]
  | succ bound =>
    cases rest with
    | nil => simp only [chain, read]
    | cons lexeme more =>
      have apart : lexeme.token ≠ operator := List.ne_of_not_mem_cons (ends lexeme rfl)
      simp only [chain, read, apart, ↓reduceIte]

private theorem ends_or_goes_on (operator : Token) (rest : List Lexeme) :
    Ends [operator] rest ∨ ∃ offset more, rest = ⟨operator, offset⟩ :: more := by
  cases rest with
  | nil => exact .inl .nil
  | cons lexeme more =>
    by_cases same : lexeme.token = operator
    · exact .inr ⟨lexeme.offset, more, by rw [← same]⟩
    · refine .inl ?_
      rintro _ ⟨⟩
      exact List.not_mem_cons_of_ne_of_not_mem same List.not_mem_nil

variable (rejects : Rejects reader part levels stop operators)
include rejects

private theorem chain_succ {bound : Nat} (fits : lexemes.length ≤ bound) :
    chain operator reader (bound + 1) lexemes = chain operator reader bound lexemes := by
  induction bound generalizing lexemes with
  | zero =>
    obtain rfl := List.length_eq_zero_iff.mp (Nat.le_zero.mp fits)
    cases found : reader [] with
    | error cause => simp only [chain, found, Except.map]
    | ok result => cases (rejects.ends found).2
  | succ bound ih =>
    rw [chain, chain.eq_2]
    cases found : reader lexemes with
    | error cause => rfl
    | ok result =>
      obtain ⟨first, _ | ⟨lexeme, more⟩⟩ := result
      · rfl
      · have shorter : more.length + 1 < lexemes.length := (rejects.ends found).2
        have fewer : more.length ≤ bound := by omega
        simp only [ih fewer]

/-- Every operand takes up a lexeme, so the bound makes no difference when there are no more lexemes than that. -/
theorem chain_eq_chained {bound : Nat} (fits : lexemes.length ≤ bound) :
    chain operator reader bound lexemes = chained operator reader lexemes := by
  induction bound, fits using Nat.le_induction with
  | base => rfl
  | succ bound fits ih => rw [chain_succ rejects fits, ih]

private theorem chained_of_more {offset : Nat} (read : reader lexemes = .ok (first, ⟨operator, offset⟩ :: more)) :
    chained operator reader lexemes =
      (chained operator reader more).map fun (later, after) => (first :: later, after) := by
  have shorter : more.length + 1 < lexemes.length := (rejects.ends read).2
  obtain ⟨bound, size⟩ : ∃ bound, lexemes.length = bound + 1 := ⟨lexemes.length - 1, by omega⟩
  have fits : more.length ≤ bound := by omega
  rw [← chain_eq_chained rejects fits, chained, size, chain]
  simp only [read, ↓reduceIte]

private theorem chained_ends (read : chained operator reader lexemes = .ok (exprs, rest)) :
    Ends (operator :: operators) rest ∧ rest.length < lexemes.length := by
  -- by the number of lexemes, which each operand makes less
  induction size : lexemes.length using Nat.strongRecOn generalizing lexemes exprs with
  | ind size ih =>
    subst size
    cases found : reader lexemes with
    | error cause => cases (chained_of_error found).symm.trans read
    | ok result =>
      obtain ⟨first, after⟩ := result
      obtain ⟨ends, shorter⟩ := rejects.ends found
      obtain last | ⟨offset, more, rfl⟩ := ends_or_goes_on operator after
      · rw [chained_of_last found last] at read
        cases read
        refine ⟨fun lexeme member => ?_, shorter⟩
        exact List.not_mem_cons_of_ne_of_not_mem (List.ne_of_not_mem_cons (last lexeme member)) (ends lexeme member)
      · rw [chained_of_more rejects found] at read
        obtain ⟨⟨later, after⟩, further, same⟩ := map_eq_ok read
        cases same
        rw [List.length_cons] at shorter
        obtain ⟨stops, less⟩ := ih more.length (by omega) further rfl
        exact ⟨stops, by omega⟩

private theorem chained_rejects (other : operator ∉ operators) (failed : chained operator reader lexemes = .error cause)
    (shallow : cause ≠ .tooDeep) :
    Rejection (chained operator reader)
      (fun tokens => ∃ exprs nesting, Chain operator part exprs tokens nesting ∧ nesting ≤ levels)
      stop lexemes cause := by
  induction size : lexemes.length using Nat.strongRecOn generalizing lexemes with
  | ind size ih =>
    subst size
    cases found : reader lexemes with
    | error reason =>
      cases (chained_of_error found).symm.trans failed
      refine (rejects.rejects found shallow).within [] (fun _ _ => chained_of_error) ?_
      intro tokens ⟨expr, nesting, derived, bounded⟩
      refine ⟨[], [expr], nesting, ?_, bounded⟩
      rw [List.append_nil]
      exact .last derived
    | ok result =>
      obtain ⟨first, after⟩ := result
      obtain last | ⟨offset, more, rfl⟩ := ends_or_goes_on operator after
      · cases (chained_of_last found last).symm.trans failed
      · have shorter : more.length + 1 < lexemes.length := (rejects.ends found).2
        obtain ⟨front, nesting, rfl, derived, bounded⟩ := rejects.sound found
        rw [chained_of_more rejects found] at failed
        have rejection := ih more.length (by omega) (error_of_map failed) rfl
        rw [show front ++ ⟨operator, offset⟩ :: more = (front ++ [⟨operator, offset⟩]) ++ more by simp]
        refine rejection.within _ ?_ ?_
        · intro following _ fails
          have goesOn : Ends operators (⟨operator, offset⟩ :: following) := by
            rintro _ ⟨⟩
            exact other
          have read := rejects.reads derived goesOn
          rw [outcome_of_le bounded] at read
          rw [List.append_assoc, List.singleton_append, chained_of_more rejects read, fails]
          rfl
        · intro tokens ⟨exprs, deeper, chain, within⟩
          refine ⟨[], first :: exprs, max nesting deeper, ?_, Nat.max_le.mpr ⟨bounded, within⟩⟩
          simpa using Chain.more derived chain

/-- One more operator is read when its parts are. -/
theorem Rejects.joined (other : operator ∉ operators) :
    Rejects (fun lexemes => (chained operator reader lexemes).map fun (exprs, rest) => (collapse node exprs, rest))
      (Joined operator node part) levels stop (operator :: operators) where
  toReads := rejects.toReads.joined other
  ends := by
    intro lexemes expr rest read
    obtain ⟨⟨exprs, after⟩, found, same⟩ := map_eq_ok read
    cases same
    exact chained_ends rejects found
  rejects := by
    intro lexemes cause failed shallow
    refine (chained_rejects rejects other (error_of_map failed) shallow).within [] ?_ ?_
    · intro following _ fails
      simp only [List.nil_append, fails, Except.map]
    · intro tokens ⟨exprs, nesting, parts, bounded⟩
      refine ⟨[], collapse node exprs, nesting, joined_iff.mpr ⟨exprs, ?_, rfl⟩, bounded⟩
      simpa using parts

omit rejects in
private theorem Rejects.disjunction (rejects : Rejects reader Unary levels stop []) :
    Rejects (Rule.disjunction reader) Disjunction levels stop [.or, .and] :=
  (rejects.joined (by simp)).joined (by simp)

end Chains

section Operands

variable {stop levels offset : Nat} {name : String} {lexemes : List Lexeme} {cause : RuleError}

private def argumentTokens (args : List String) : List Token := (args.map .text).intersperse .comma ++ [.close]

private theorem arguments_rejects (failed : arguments stop lexemes = .error cause) :
    Rejection (arguments stop) (fun tokens => ∃ value later, tokens = argumentTokens (value :: later)) stop
      lexemes cause := by
  fun_induction arguments stop lexemes with
  | case1 value offset comma more reason found ih =>
    cases failed
    refine (ih found).within [⟨.text value, offset⟩, ⟨.comma, comma⟩] ?_ ?_
    · intro other _ fails
      simp only [List.cons_append, List.nil_append, arguments, fails]
    · rintro tokens ⟨next, later, rfl⟩
      exact ⟨[], value, next :: later, by simp [argumentTokens]⟩
  | case2 => cases failed
  | case3 => cases failed
  | case4 value offset other comma close =>
    cases failed
    refine Rejection.complained [⟨.text value, offset⟩] ⟨[.close], value, [], rfl⟩ ?_
    rintro ⟨token, place⟩ more following rfl
    cases token with
    | comma => cases comma _ _ rfl
    | close => cases close _ _ rfl
    | _ => rfl
  | case5 other text =>
    cases failed
    refine Rejection.complained [] ⟨argumentTokens [""], "", [], rfl⟩ ?_
    rintro ⟨token, place⟩ more following rfl
    cases token with
    | text value => cases text _ _ _ rfl
    | _ => rfl

private theorem derives_call {matcher : Matcher} (known : folded name = folded matcher.name) (args : List String) :
    Derives Unary (levels + 1) (.name name :: .open :: argumentTokens args) :=
  ⟨.call matcher args, 1, .call known args, Nat.le_add_left ..⟩

/-- Wherever an operand is due, a call can be read. -/
theorem begins_operand : Begins (Derives Unary (levels + 1)) [] :=
  have host : folded "Host" = folded Matcher.host.name := rfl
  ⟨_, derives_call host []⟩

private theorem call_rejects (failed : call stop name offset lexemes = .error cause) :
    Rejection (operand stop (levels + 1)) (Derives Unary (levels + 1)) stop
      (⟨.name name, offset⟩ :: lexemes) cause := by
  unfold call at failed
  split at failed
  case h_1 unknown =>
    cases failed
    refine .stuck [] begins_operand (.unknownMatcher name offset) fun other => ?_
    simp only [List.nil_append, operand, call, unknown]
  case h_2 matcher found =>
    have known := Matcher.ofName?_eq_some.mp found
    split at failed
    case h_1 => cases failed
    case h_2 first rest some =>
      refine (arguments_rejects (error_of_map failed)).within [⟨.name name, offset⟩, ⟨.open, first⟩] ?_ ?_
      · intro other same fails
        simp only [List.cons_append, List.nil_append, operand, call, found]
        split
        case h_1 _ last after begun =>
          cases begun
          obtain ⟨more, rfl⟩ := List.head?_eq_some_iff.mp same.symm
          cases some _ _ rfl
        case h_2 begun =>
          cases begun
          rw [fails]
          rfl
        case h_3 other_open => cases other_open _ _ rfl
      · rintro tokens ⟨value, later, rfl⟩
        refine ⟨[], ?_⟩
        rw [List.append_nil]
        exact derives_call known (value :: later)
    case h_3 other none some =>
      cases failed
      refine Rejection.complained [⟨.name name, offset⟩] ⟨_, derives_call known []⟩ ?_
      rintro ⟨token, place⟩ more following rfl
      cases token with
      | «open» => cases some _ _ rfl
      | _ => simp only [List.cons_append, List.nil_append, operand, call, found]

private theorem Unary.tokens_ne_nil {expr : Expr} {tokens : List Token} {nesting : Nat}
    (unary : Unary expr tokens nesting) :
    tokens ≠ [] := by
  cases unary <;> exact List.cons_ne_nil _ _

private theorem operand_ends {expr : Expr} {rest : List Lexeme}
    (read : operand stop levels lexemes = .ok (expr, rest)) :
    Ends [] rest ∧ rest.length < lexemes.length := by
  obtain ⟨front, nesting, rfl, derived, -⟩ := (operand_reads stop levels).sound read
  have nonempty : front ≠ [] := fun none => derived.tokens_ne_nil (congrArg (List.map Lexeme.token) none)
  have shorter := List.length_pos_iff.mpr nonempty
  exact ⟨.none, by rw [List.length_append]; omega⟩

section Nested

variable (inner : Rejects (operand stop levels) Unary levels stop [])
include inner

/-- What stands between parentheses has been read, but what follows does not close them. -/
theorem group_rejects {expr : Expr} {rest : List Lexeme}
    (read : disjunction (operand stop levels) lexemes = .ok (expr, rest))
    (unclosed : ∀ offset after, rest ≠ ⟨.close, offset⟩ :: after) :
    Rejection (operand stop (levels + 1)) (Derives Unary (levels + 1)) stop (⟨.open, offset⟩ :: lexemes)
      (complain stop .closeParenthesis rest) := by
  have ends := (inner.disjunction.ends read).1
  obtain ⟨front, nesting, rfl, derived, bounded⟩ := inner.disjunction.sound read
  rw [← List.cons_append]
  refine .complained _ ⟨[.close], expr, nesting + 1, .group derived, Nat.succ_le_succ bounded⟩ ?_
  rintro ⟨token, place⟩ more following rfl
  have stops : Ends [.or, .and] (⟨token, place⟩ :: following) := by
    rintro _ ⟨⟩
    exact ends ⟨token, place⟩ rfl
  have again := inner.disjunction.reads derived stops
  rw [outcome_of_le bounded] at again
  simp only [List.cons_append, operand, again]
  cases token with
  | close => cases unclosed _ _ rfl
  | _ => rfl

private theorem operand_succ_rejects (failed : operand stop (levels + 1) lexemes = .error cause)
    (shallow : cause ≠ .tooDeep) :
    Rejection (operand stop (levels + 1)) (Derives Unary (levels + 1)) stop lexemes cause := by
  unfold operand at failed
  split at failed
  case h_1 offset rest =>
    refine (inner.rejects (error_of_map failed) shallow).within [⟨.not, offset⟩] ?_ ?_
    · intro other _ fails
      simp only [List.cons_append, List.nil_append, operand, fails, Except.map]
    · rintro tokens ⟨expr, nesting, derived, bounded⟩
      refine ⟨[], .not expr, nesting + 1, ?_, Nat.succ_le_succ bounded⟩
      rw [List.append_nil]
      exact .not derived
  case h_2 offset rest =>
    split at failed
    case h_1 found =>
      cases failed
      refine (inner.disjunction.rejects found shallow).within [⟨.open, offset⟩] ?_ ?_
      · intro other _ fails
        simp only [List.cons_append, List.nil_append, operand, fails]
      · rintro tokens ⟨expr, nesting, derived, bounded⟩
        exact ⟨[.close], expr, nesting + 1, .group derived, Nat.succ_le_succ bounded⟩
    case h_2 => cases failed
    case h_3 expr other unclosed found =>
      cases failed
      exact group_rejects inner found unclosed
  case h_3 name offset rest => exact call_rejects failed
  case h_4 negation group name =>
    cases failed
    refine .complained [] begins_operand ?_
    rintro ⟨token, place⟩ more following rfl
    cases token with
    | not => cases negation _ _ rfl
    | «open» => cases group _ _ rfl
    | name spelling => cases name _ _ _ rfl
    | _ => rfl

end Nested

private theorem operand_rejects (stop levels : Nat) : Rejects (operand stop levels) Unary levels stop [] := by
  refine ⟨operand_reads stop levels, operand_ends, ?_⟩
  -- by the levels that are left, as the reader recurses
  induction levels with
  | zero =>
    intro lexemes cause failed shallow
    cases failed
    cases shallow rfl
  | succ levels ih => exact operand_succ_rejects ⟨operand_reads stop levels, operand_ends, ih⟩

end Operands

section Spelling

variable {part : Grammar} {operator : Token} {node : List Expr → Expr} {expr : Expr} {exprs : List Expr}
  {tokens : List Token} {nesting : Nat}

private theorem Chain.readable (chain : Chain operator part exprs tokens nesting) (sign : ∀ name, operator ≠ .name name)
    (each : ∀ expr tokens own, own ≤ nesting → part expr tokens own → Readable tokens) : Readable tokens := by
  induction chain with
  | last only => exact each _ _ _ (Nat.le_refl _) only
  | more first later ih =>
    have front := each _ _ _ (Nat.le_max_left ..) first
    have back := ih fun expr tokens own small => each expr tokens own (Nat.le_trans small (Nat.le_max_right ..))
    exact front.append (.sign sign back)

private theorem Joined.readable (joined : Joined operator node part expr tokens nesting)
    (sign : ∀ name, operator ≠ .name name)
    (each : ∀ expr tokens own, own ≤ nesting → part expr tokens own → Readable tokens) : Readable tokens := by
  obtain ⟨exprs, chain, -⟩ := joined_iff.mp joined
  exact chain.readable sign each

private theorem Unary.readable (unary : Unary expr tokens nesting) : Readable tokens := by
  -- by the nesting, since the derivations inside a group stand in chains of chains
  induction nesting using Nat.strongRecOn generalizing expr tokens with
  | ind nesting ih =>
    cases unary with
    | call known args => exact .call known args
    | not inner => exact .sign nofun (ih _ (Nat.lt_succ_self _) inner)
    | group inner =>
      have inside := inner.readable nofun fun _ _ _ small part => part.readable nofun fun _ _ _ smaller =>
        ih _ (Nat.lt_succ_of_le (Nat.le_trans smaller small))
      exact .sign nofun (inside.append (.sign nofun .nil))

private theorem Disjunction.readable (derived : Disjunction expr tokens nesting) : Readable tokens :=
  Joined.readable derived nofun fun _ _ _ _ part => part.readable nofun fun _ _ _ _ => Unary.readable

end Spelling

section Rules

variable {rule : String} {lexemes : List Lexeme} {tokens others : List Token} {cause : RuleError} {stop : Nat}

private theorem parseLexemes_rejects (failed : parseLexemes stop lexemes = .error cause) (shallow : cause ≠ .tooDeep) :
    Rejection (parseLexemes stop) (Derives Disjunction maxNesting) stop lexemes cause := by
  have whole := (operand_rejects stop maxNesting).disjunction
  unfold parseLexemes at failed
  split at failed
  case h_1 found =>
    cases failed
    refine (whole.rejects found shallow).within [] ?_ ?_
    · intro other _ fails
      simp only [List.nil_append, parseLexemes, fails]
    · intro tokens derives
      refine ⟨[], ?_⟩
      rwa [List.append_nil]
  case h_2 => cases failed
  case h_3 expr rest some found =>
    cases failed
    have ends := (whole.ends found).1
    obtain ⟨front, nesting, rfl, derived, bounded⟩ := whole.sound found
    refine .complained _ ⟨[], expr, nesting, by rwa [List.append_nil], bounded⟩ ?_
    rintro lexeme more following rfl
    have stops : Ends [.or, .and] (lexeme :: following) := by
      rintro _ ⟨⟩
      exact ends lexeme rfl
    have again := whole.reads derived stops
    rw [outcome_of_le bounded] at again
    simp only [parseLexemes, again]

private theorem Viable.shorter (viable : Viable tokens) (front : others <+: tokens) : Viable others := by
  obtain ⟨rule, lexemes, expr, cut, accepted, begun⟩ := viable
  exact ⟨rule, lexemes, expr, cut, accepted, front.trans begun⟩

/-- Whatever can be derived can be written, so a beginning of it is one of a rule. -/
theorem viable_iff : Viable tokens ↔ Begins (Derives Disjunction maxNesting) tokens := by
  constructor
  · intro ⟨rule, lexemes, expr, cut, accepted, more, whole⟩
    obtain ⟨nesting, derived, bounded⟩ := parse_sound cut accepted
    exact ⟨more, expr, nesting, whole ▸ derived, bounded⟩
  · intro ⟨more, expr, nesting, derived, bounded⟩
    obtain ⟨text, written⟩ := Written.exists (tokens ++ more)
    have printed : Written (tokens ++ more) (String.ofList text).toList := by rwa [String.toList_ofList]
    obtain ⟨lexemes, cut, same⟩ := tokenize_of_written derived.readable printed
    refine ⟨_, lexemes, expr, cut, ?_, more, same.symm⟩
    rw [parse_complete cut (same ▸ derived), outcome_of_le bounded]

/-- Lexemes on which the reader fails whatever follows do not begin any rule. -/
theorem not_viable (always : ∀ other, parseLexemes stop (lexemes ++ other) = .error cause) :
    ¬ Viable (lexemes.map Lexeme.token) := by
  intro viable
  obtain ⟨more, expr, nesting, derived, bounded⟩ := viable_iff.mp viable
  have spelled : more = (more.map (Lexeme.mk · 0)).map Lexeme.token := by
    rw [List.map_map]
    exact (List.map_id more).symm
  rw [spelled, ← List.map_append] at derived
  have read := (operand_reads stop maxNesting).disjunction.reads derived .nil
  rw [outcome_of_le bounded, List.append_nil] at read
  have accepted := always (more.map (Lexeme.mk · 0))
  simp only [parseLexemes, read] at accepted
  cases accepted

/-- Up to the lexeme on which the reader fails whatever follows, the tokens begin a rule, and with it they do not. -/
theorem viable_iff_short {before rest : List Lexeme} {lexeme : Lexeme}
    (begins : Begins (Derives Disjunction maxNesting) (before.map Lexeme.token))
    (always : ∀ other, parseLexemes stop (before ++ lexeme :: other) = .error cause)
    (front : tokens <+: (before ++ lexeme :: rest).map Lexeme.token) :
    Viable tokens ↔ tokens.length ≤ before.length := by
  have impossible : ¬ Viable ((before ++ [lexeme]).map Lexeme.token) := by
    have stuck (other : List Lexeme) : parseLexemes stop ((before ++ [lexeme]) ++ other) = .error cause := by
      rw [List.append_assoc]
      exact always other
    exact not_viable stuck
  have beyond : (before ++ [lexeme]).map Lexeme.token <+: (before ++ lexeme :: rest).map Lexeme.token := by
    refine List.IsPrefix.map Lexeme.token ⟨rest, ?_⟩
    rw [List.append_assoc, List.singleton_append]
  have upTo : before.map Lexeme.token <+: (before ++ lexeme :: rest).map Lexeme.token :=
    List.IsPrefix.map Lexeme.token (List.prefix_append ..)
  constructor
  · intro viable
    refine Nat.le_of_not_lt fun longer => impossible (viable.shorter ?_)
    refine List.prefix_of_prefix_length_le beyond front ?_
    rwa [List.length_map, List.length_append, List.length_singleton]
  · intro short
    refine (viable_iff.mpr begins).shorter (List.prefix_of_prefix_length_le front upTo ?_)
    rwa [List.length_map]

private theorem offset_lt_of_tokenize (cut : tokenize rule = .ok lexemes) {lexeme : Lexeme}
    (member : lexeme ∈ lexemes) :
    lexeme.offset < rule.utf8ByteSize := by
  obtain ⟨front, source, back, rfl, place, denotes⟩ := source_of_tokenize cut member
  have wide := denotes.width_pos
  rw [width_toList] at wide
  rw [place, String.utf8ByteSize_append, String.utf8ByteSize_append]
  omega

private theorem filter_offset_lt {before rest : List Lexeme} {lexeme : Lexeme}
    (cut : tokenize rule = .ok (before ++ lexeme :: rest)) :
    (before ++ lexeme :: rest).filter (·.offset < lexeme.offset) = before := by
  obtain ⟨-, ascending, earlier⟩ := List.pairwise_append.mp ((tokenize_eq_ok_iff rule _).mp cut).ascending
  have later := (List.pairwise_cons.mp ascending).1
  rw [List.filter_append, List.filter_eq_self.mpr, List.filter_eq_nil_iff.mpr, List.append_nil]
  · rw [List.forall_mem_cons]
    refine ⟨by simp, fun other member => ?_⟩
    have after := later other member
    simp only [decide_eq_true_eq]
    omega
  · intro other member
    exact decide_eq_true (earlier other member lexeme List.mem_cons_self)

/-- An error about the order of the tokens is at the first token with which the rule cannot be continued to one that is
accepted, and shows that token; when every token can be gone on from, it is at the end of the rule and says so. -/
theorem syntax_error_at_first_impossible_token (cut : tokenize rule = .ok lexemes) (failed : parse rule = .error cause)
    {offset : Nat} (located : cause.syntaxOffset? = some offset) :
    let before := lexemes.filter (·.offset < offset)
    ∃ rest, lexemes = before ++ rest ∧
      (∀ tokens, tokens <+: lexemes.map Lexeme.token → (Viable tokens ↔ tokens.length ≤ before.length)) ∧
      (¬ Viable (lexemes.map Lexeme.token) →
        ∃ lexeme more, rest = lexeme :: more ∧ lexeme.offset = offset ∧ Blames lexeme cause) ∧
      (Viable (lexemes.map Lexeme.token) →
        rest = [] ∧ offset = rule.utf8ByteSize ∧ ∃ expected, cause = .unexpected expected none offset) ∧
      ∀ expected found, cause = .unexpected expected found offset →
        cause.message = "expected " ++ expected.describe ++ " at offset " ++ toString offset ++ ", found " ++
          (rest.head?.map fun lexeme => lexeme.token.describe).getD "end of rule" := by
  have nonempty : lexemes ≠ [] := by
    rintro rfl
    have empty : parse rule = .error .empty := by rw [parse, cut]
    cases empty.symm.trans failed
    cases located
  have shallow : cause ≠ .tooDeep := by
    rintro rfl
    cases located
  rw [parse_of_tokenize cut nonempty] at failed
  cases parseLexemes_rejects failed shallow with
  | ended begins expected =>
    cases located
    have viable := viable_iff.mpr begins
    have all : lexemes.filter (·.offset < rule.utf8ByteSize) = lexemes :=
      List.filter_eq_self.mpr fun lexeme member => decide_eq_true (offset_lt_of_tokenize cut member)
    rw [all]
    refine ⟨[], (List.append_nil _).symm, ?_, absurd viable, fun _ => ⟨rfl, rfl, expected, rfl⟩, ?_⟩
    · intro tokens front
      have short := front.length_le
      rw [List.length_map] at short
      exact iff_of_true (viable.shorter front) short
    · intro expected found same
      cases same
      rfl
  | @stuck before rest lexeme cause begins blames always =>
    obtain rfl : lexeme.offset = offset := by
      cases blames <;> exact Option.some.inj located
    rw [filter_offset_lt cut]
    have viable {tokens : List Token} (front : tokens <+: (before ++ lexeme :: rest).map Lexeme.token) :
        Viable tokens ↔ tokens.length ≤ before.length := viable_iff_short begins always front
    have whole : ¬ Viable ((before ++ lexeme :: rest).map Lexeme.token) := by
      rw [viable (List.prefix_refl _), List.length_map, List.length_append, List.length_cons]
      omega
    refine ⟨lexeme :: rest, rfl, fun tokens => viable, fun _ => ⟨lexeme, rest, rfl, rfl, blames⟩,
      fun viable => absurd viable whole, ?_⟩
    intro expected found same
    subst same
    cases blames
    rfl

/-- A second call where the parenthesis should be closed; the accented letter takes two bytes. -/
theorem syntax_error_at_first_impossible_token_accented :
    let rule := "!(Host(`é`) Path(`/p`))"
    let cause : RuleError := .unexpected .closeParenthesis (some (.name "Path")) 13
    let front : List Token := [.not, .open, .name "Host", .open, .text "é", .close]
    parse rule = .error cause ∧ Viable front ∧ ¬ Viable (front ++ [.name "Path"]) ∧
      cause.message = "expected ')' at offset 13, found identifier \"Path\"" := by
  intro rule cause front
  have cut : tokenize rule = .ok [⟨.not, 0⟩, ⟨.open, 1⟩, ⟨.name "Host", 2⟩, ⟨.open, 6⟩, ⟨.text "é", 7⟩, ⟨.close, 11⟩,
      ⟨.name "Path", 13⟩, ⟨.open, 17⟩, ⟨.text "/p", 18⟩, ⟨.close, 22⟩, ⟨.close, 23⟩] := by decide +kernel
  have failed : parse rule = .error cause := by
    have silent : (parse rule).map (fun _ => ()) = .error cause := by decide +kernel
    exact error_of_map silent
  have located : cause.syntaxOffset? = some 13 := rfl
  obtain ⟨rest, whole, viable, -⟩ := syntax_error_at_first_impossible_token cut failed located
  refine ⟨failed, (viable front ?_).mpr (by decide), fun impossible => ?_, by decide +kernel⟩
  · exact ⟨[.name "Path", .open, .text "/p", .close, .close], rfl⟩
  · have longer := (viable _ ⟨[.open, .text "/p", .close, .close], rfl⟩).mp impossible
    cases longer.not_gt (by decide)

end Rules

end AliasSync.Rule
