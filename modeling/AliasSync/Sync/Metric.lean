import AliasSync.Alias

/-! The measurements a cycle reports. -/

namespace AliasSync.Sync

/-- A counter that goes up by one, or a gauge that is set. -/
inductive Metric where
  | count (name : String) (labels : List (String × String))
  | gauge (name : String) (value : Nat)
  deriving DecidableEq, Repr

namespace Metric

def name : Metric → String
  | count name _ => name
  | gauge name _ => name

def labels : Metric → List (String × String)
  | count _ labels => labels
  | gauge _ _ => []

/-- The name with the labels in braces; labels are written in alphabetical order here. -/
def series (metric : Metric) : String :=
  let pairs := metric.labels.map fun (label, value) => label ++ "=" ++ value
  metric.name ++ "\x7b" ++ ",".intercalate pairs ++ "\x7d"

def resultLabel (success : Bool) : String := if success then "success" else "failure"

def cycle (success : Bool) : Metric := count "sync_cycles_total" [("result", resultLabel success)]

def operation (kind : OperationKind) (success : Bool) : Metric :=
  count "sync_operations_total" [("kind", kind.label), ("result", resultLabel success)]

def ruleParseFailure : Metric := count "sync_rule_parse_failures_total" []

def generationFailure : Metric := count "sync_pattern_generation_failures_total" []

def plan (desired managed operations : Nat) : List Metric :=
  [gauge "sync_desired_aliases" desired, gauge "sync_managed_aliases" managed,
   gauge "sync_plan_operations" operations]

end Metric

end AliasSync.Sync
