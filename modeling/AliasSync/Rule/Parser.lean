import AliasSync.Rule.Expr
import AliasSync.Rule.Token

/-! Reading a rule. `!` binds tighter than `&&`, and `&&` tighter than `||`; a chain of one operator
is one node with its operands in order, and parentheses leave no node of their own.

Nesting is bounded: a call may stand under at most `maxNesting - 1` negations and parentheses, so
the reader recurses on the nesting that is left and not on the length of the rule. -/

namespace AliasSync.Rule

/-- Reads something off the front of the lexemes. The byte length of the rule is where an error at
the end of the lexemes is placed. -/
abbrev Reader (α : Type) := List Lexeme → Except RuleError (α × List Lexeme)

def complain (stop : Nat) (expected : Expected) : List Lexeme → RuleError
  | [] => .unexpected expected none stop
  | lexeme :: _ => .unexpected expected (some lexeme.token) lexeme.offset

/-- The arguments of a call after its opening parenthesis and at least one argument is due. -/
def arguments (stop : Nat) : Reader (List String)
  | ⟨.text value, _⟩ :: rest =>
    match rest with
    | ⟨.comma, _⟩ :: more =>
      match arguments stop more with
      | .error e => .error e
      | .ok (later, after) => .ok (value :: later, after)
    | ⟨.close, _⟩ :: after => .ok ([value], after)
    | other => .error (complain stop .commaOrClose other)
  | other => .error (complain stop .argument other)

def call (stop : Nat) (name : String) (offset : Nat) : Reader Expr := fun lexemes =>
  match Matcher.ofName? name with
  | none => .error (.unknownMatcher name offset)
  | some matcher =>
    match lexemes with
    | ⟨.open, _⟩ :: ⟨.close, _⟩ :: after => .ok (.call matcher [], after)
    | ⟨.open, _⟩ :: rest => (arguments stop rest).map fun (args, after) => (.call matcher args, after)
    | other => .error (complain stop .openParenthesis other)

/-- Operands separated by one operator. The count bounds the operators that are looked for and is at
least the number of lexemes left. -/
def chain (separator : Token) (operand : Reader Expr) : Nat → Reader (List Expr)
  | 0, lexemes => (operand lexemes).map fun (first, rest) => ([first], rest)
  | bound + 1, lexemes =>
    match operand lexemes with
    | .error e => .error e
    | .ok (first, rest) =>
      match rest with
      | [] => .ok ([first], [])
      | lexeme :: more =>
        if lexeme.token = separator then
          (chain separator operand bound more).map fun (later, after) => (first :: later, after)
        else .ok ([first], rest)

/-- A single operand stands for itself. -/
def collapse (combine : List Expr → Expr) : List Expr → Expr
  | [single] => single
  | operands => combine operands

def conjunction (operand : Reader Expr) : Reader Expr := fun lexemes =>
  (chain .and operand lexemes.length lexemes).map fun (operands, rest) =>
    (collapse .and operands, rest)

def disjunction (operand : Reader Expr) : Reader Expr := fun lexemes =>
  (chain .or (conjunction operand) lexemes.length lexemes).map fun (operands, rest) =>
    (collapse .or operands, rest)

/-- A negation, a rule in parentheses or a call, with at most `levels` levels of nesting. -/
def operand (stop : Nat) (levels : Nat) : Reader Expr := fun lexemes =>
  match levels with
  | 0 => .error .tooDeep
  | levels + 1 =>
    match lexemes with
    | ⟨.not, _⟩ :: rest =>
      (operand stop levels rest).map fun (inner, after) => (.not inner, after)
    | ⟨.open, _⟩ :: rest =>
      match disjunction (operand stop levels) rest with
      | .error e => .error e
      | .ok (inner, ⟨.close, _⟩ :: after) => .ok (inner, after)
      | .ok (_, other) => .error (complain stop .closeParenthesis other)
    | ⟨.name name, offset⟩ :: rest => call stop name offset rest
    | other => .error (complain stop .operand other)

def parseLexemes (stop : Nat) (lexemes : List Lexeme) : Except RuleError Expr :=
  match disjunction (operand stop maxNesting) lexemes with
  | .error e => .error e
  | .ok (expr, []) => .ok expr
  | .ok (_, other) => .error (complain stop .operatorOrEnd other)

def parse (rule : String) : Except RuleError Expr :=
  match tokenize rule with
  | .error e => .error e
  | .ok [] => .error .empty
  | .ok lexemes => parseLexemes rule.utf8ByteSize lexemes

end AliasSync.Rule
