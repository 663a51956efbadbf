import AliasSync.Files
import AliasSync.Text.Quoted

/-! What can be wrong with a configuration. -/

namespace AliasSync.Config

structure Violation where
  field : String
  message : String
  deriving DecidableEq, Repr

def Violation.text (violation : Violation) : String := violation.field ++ " " ++ violation.message

inductive ConfigError where
  | io (cause : FileError)
  | parse
  | env (key message : String)
  | validation (violations : List Violation)
  deriving DecidableEq, Repr

def ConfigError.message : ConfigError → String
  | io cause => "IO error: " ++ cause.message
  | parse => "Parse error: TOML parse error"
  | env key message => "Invalid " ++ key ++ ": " ++ message
  | validation violations => "Validation failed: " ++ ", ".intercalate (violations.map Violation.text)

end AliasSync.Config
