import AliasSync.Http.Error

/-! How a call to the alias store can fail. -/

namespace AliasSync

inductive StoreError where
  | http (cause : Http.HttpError)
  | missingId (key : String)
  | rejected (key result details : String)
  deriving DecidableEq, Repr

def StoreError.message : StoreError → String
  | http cause => cause.message
  | missingId key => "alias " ++ key ++ " has no id"
  | rejected key result details =>
    "alias " ++ key ++ " rejected with result " ++ Text.quoteString result ++ ": " ++ details

end AliasSync
