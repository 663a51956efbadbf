import AliasSync.Duration
import AliasSync.Text.Quoted

/-! What can go wrong when a pattern is expanded into names. -/

namespace AliasSync

inductive GeneratorError where
  | emptyPattern
  | notAvailable (reason : String)
  | spawn (reason : String)
  | timeout (limit : Duration)
  | failed (pattern message : String)
  deriving DecidableEq, Repr

def GeneratorError.message : GeneratorError → String
  | emptyPattern => "empty regex pattern"
  | notAvailable reason => "exrex not available: " ++ reason
  | spawn reason => "failed to run exrex: " ++ reason
  | timeout limit => "exrex timed out after " ++ limit.text
  | failed pattern message => "exrex failed for " ++ Text.quoteString pattern ++ ": " ++ message

end AliasSync
