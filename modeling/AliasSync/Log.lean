import AliasSync.Text.Quoted

/-! Log records: a level, an origin, a message and named values. -/

namespace AliasSync.Log

inductive Level where
  | trace
  | debug
  | info
  | warn
  | error
  deriving DecidableEq, Repr

namespace Level

def name : Level → String
  | trace => "TRACE"
  | debug => "DEBUG"
  | info => "INFO"
  | warn => "WARN"
  | error => "ERROR"

/-- Position on the scale from the most verbose level to the most severe one. -/
def rank : Level → Nat
  | trace => 0
  | debug => 1
  | info => 2
  | warn => 3
  | error => 4

end Level

/-- The value of a field. A console shows free text in quotes and everything else as it is. -/
inductive Value where
  | plain (text : String)
  | freeText (text : String)
  deriving DecidableEq, Repr

namespace Value

def text : Value → String
  | plain text => text
  | freeText text => text

def onConsole : Value → String
  | plain text => text
  | freeText text => Text.quoteString text

def number (n : Nat) : Value := plain (toString n)

def truth (b : Bool) : Value := plain (if b then "true" else "false")

end Value

inductive Origin where
  | program
  | settings
  | assembly
  | metrics
  | proxy
  | expansion
  | planner
  | cycle
  | executor
  | scheduler
  deriving DecidableEq, Repr

/-- The name by which directives on records call a part of the program. -/
def Origin.target : Origin → String
  | program => "traefik_opnsense_sync"
  | settings => "traefik_opnsense_sync::config::loader"
  | assembly => "traefik_opnsense_sync::lifecycle::startup"
  | metrics => "traefik_opnsense_sync::observability::metrics"
  | proxy => "traefik_opnsense_sync::traefik::client"
  | expansion => "traefik_opnsense_sync::domains::materializer"
  | planner => "traefik_opnsense_sync::sync::engine"
  | cycle => "traefik_opnsense_sync::sync::runner"
  | executor => "traefik_opnsense_sync::sync::executor"
  | scheduler => "traefik_opnsense_sync::sync::scheduler"

structure Record where
  level : Level
  origin : Origin
  message : String
  fields : List (String × Value)
  deriving DecidableEq, Repr

namespace Record

def lineWith (display : Value → String) (record : Record) : String :=
  " ".intercalate (record.level.name :: record.message ::
    record.fields.map fun (name, value) => name ++ "=" ++ display value)

def fieldNames (record : Record) : List String := "message" :: record.fields.map Prod.fst

/-- The record in one line, every value as it is. -/
def line (record : Record) : String := record.lineWith Value.text

def consoleLine (record : Record) : String := record.lineWith Value.onConsole

def trace (origin : Origin) (message : String) (fields : List (String × Value)) : Record :=
  ⟨.trace, origin, message, fields⟩

def debug (origin : Origin) (message : String) (fields : List (String × Value)) : Record :=
  ⟨.debug, origin, message, fields⟩

def info (origin : Origin) (message : String) (fields : List (String × Value)) : Record :=
  ⟨.info, origin, message, fields⟩

def warn (origin : Origin) (message : String) (fields : List (String × Value)) : Record :=
  ⟨.warn, origin, message, fields⟩

def error (origin : Origin) (message : String) (fields : List (String × Value)) : Record :=
  ⟨.error, origin, message, fields⟩

end Record

end AliasSync.Log
