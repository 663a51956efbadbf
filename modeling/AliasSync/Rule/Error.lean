import AliasSync.Text.Quoted

/-! The tokens of a rule and the ways in which a rule can be wrong. -/

namespace AliasSync.Rule

open AliasSync.Text (quoteString quoteChar)

inductive Token where
  | name (spelling : String)
  | text (value : String)
  | open
  | close
  | comma
  | and
  | or
  | not
  deriving DecidableEq, Repr

def Token.describe : Token → String
  | .name spelling => "identifier " ++ quoteString spelling
  | .text value => "string " ++ quoteString value
  | .open => "'('"
  | .close => "')'"
  | .comma => "','"
  | .and => "'&&'"
  | .or => "'||'"
  | .not => "'!'"

/-- Deepest nesting that is accepted. -/
def maxNesting : Nat := 64

inductive Expected where
  | operand
  | openParenthesis
  | closeParenthesis
  | argument
  | commaOrClose
  | operatorOrEnd
  deriving DecidableEq, Repr

def Expected.describe : Expected → String
  | .operand => "matcher, '!' or '('"
  | .openParenthesis => "'('"
  | .closeParenthesis => "')'"
  | .argument => "string argument"
  | .commaOrClose => "',' or ')'"
  | .operatorOrEnd => "'&&', '||' or end of rule"

/-- Why a rule is rejected. Offsets count bytes from the start of the rule. -/
inductive RuleError where
  | empty
  | unexpectedChar (found : Char) (offset : Nat)
  | unterminatedText (start : Nat)
  | invalidEscape (found : Char) (offset : Nat)
  | unknownMatcher (name : String) (offset : Nat)
  | unexpected (expected : Expected) (found : Option Token) (offset : Nat)
  | tooDeep
  deriving DecidableEq, Repr

def RuleError.message : RuleError → String
  | .empty => "rule is empty"
  | .unexpectedChar found offset =>
    "unexpected character " ++ quoteChar found ++ " at offset " ++ toString offset
  | .unterminatedText start =>
    "unterminated string literal starting at offset " ++ toString start
  | .invalidEscape found offset =>
    "invalid escape sequence '\\" ++ found.toString ++ "' at offset " ++ toString offset
  | .unknownMatcher name offset =>
    "unknown matcher " ++ quoteString name ++ " at offset " ++ toString offset
  | .unexpected expected found offset =>
    "expected " ++ expected.describe ++ " at offset " ++ toString offset ++ ", found " ++
      (found.map Token.describe).getD "end of rule"
  | .tooDeep => "rule nesting exceeds " ++ toString maxNesting ++ " levels"

end AliasSync.Rule
