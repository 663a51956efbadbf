import AliasSync.Text.ControlSequence
import AliasSync.Text.Similarity

/-! The command line: the options of the program, their texts, and what can be wrong with arguments. -/

namespace AliasSync.CommandLine

open AliasSync.Text (similarity withoutInstructions)

def programName : String := "traefik-opnsense-sync"

def programVersion : String := "0.1.0"

inductive Flag where
  | config
  | dryRun
  | once
  | help
  | version
  deriving DecidableEq, Repr

namespace Flag

def all : List Flag := [config, dryRun, once, help, version]

def name : Flag → String
  | config => "config"
  | dryRun => "dry-run"
  | once => "once"
  | help => "help"
  | version => "version"

def usage : Flag → String
  | config => "--config <CONFIG>"
  | flag => "--" ++ flag.name

def ofName? (name : List Char) : Option Flag := all.find? fun flag => flag.name.toList == name

/-- The option whose name is most similar to a text, if one is similar at all. -/
def similarTo? (text : List Char) : Option Flag :=
  let rated := all.map fun flag => (flag, similarity text flag.name.toList)
  let better (best : Option (Flag × Float)) (next : Flag × Float) : Option (Flag × Float) :=
    if next.2 > 0.7 then
      match best with
      | some (flag, rate) => if rate > next.2 then some (flag, rate) else some next
      | none => some next
    else best
  (rated.foldl better none).map (·.1)

end Flag

structure Arguments where
  config : Option String
  dryRun : Bool
  once : Bool
  deriving DecidableEq, Repr

/-- What is wrong with the arguments. The options in use before are shown in the hint on usage. -/
inductive Misuse where
  | unexpected (argument : String) (similar : Option Flag) (used : List Flag)
  | unexpectedValue (flag : Flag) (value : String) (used : List Flag)
  | missingValue
  | repeated (flag : Flag)
  deriving DecidableEq, Repr

def usageLine (used : List Flag) : String :=
  let shown := if used.isEmpty then "[OPTIONS]" else " ".intercalate (used.eraseDups.map Flag.usage)
  "Usage: " ++ programName ++ " " ++ shown

def requestFlags : List Flag := [.config, .dryRun, .once]

/-- The line on usage for an option with a value too many. The options of a request that were in use before
stand for all of them. -/
def valueUsageLine (flag : Flag) (used : List Flag) : String :=
  let request := "<" ++ "|".intercalate (requestFlags.map Flag.usage) ++ ">"
  let shown :=
    if used.isEmpty then flag.usage
    else if flag ∈ requestFlags then request
    else flag.usage ++ " " ++ request
  "Usage: " ++ programName ++ " " ++ shown

/-- An argument in a complaint, without instructions to the terminal. -/
def quoted (argument : String) : String :=
  "'" ++ String.ofList (withoutInstructions argument.toList) ++ "'"

/-- The parts of a complaint, which an empty line separates. -/
def Misuse.parts : Misuse → List String
  | unexpected argument similar used =>
    ["unexpected argument " ++ quoted argument ++ " found"] ++
      (similar.map fun flag => "  tip: a similar argument exists: '--" ++ flag.name ++ "'").toList ++
      [usageLine used]
  | unexpectedValue flag value used =>
    ["unexpected value " ++ quoted value ++ " for '--" ++ flag.name ++ "' found; no more were expected",
      valueUsageLine flag used]
  | missingValue =>
    ["a value is required for '" ++ Flag.config.usage ++ "' but none was supplied"]
  | repeated flag =>
    ["the argument '" ++ flag.usage ++ "' cannot be used multiple times", usageLine []]

def Misuse.message (misuse : Misuse) : String :=
  "error: " ++ "\n\n".intercalate (misuse.parts ++ ["For more information, try '--help'."])

def versionText : String := programName ++ " " ++ programVersion

def helpLines : List String :=
  ["Sync Traefik router hostnames into OPNsense Unbound host aliases",
   "",
   usageLine [],
   "",
   "Options:",
   "  -c, --config <CONFIG>  Path to the TOML config file (defaults to $TOS_CONFIG, then ./config.toml)",
   "      --dry-run          Log planned changes without applying them, then exit",
   "      --once             Run a single sync cycle and exit",
   "  -h, --help             Print help",
   "  -V, --version          Print version"]

end AliasSync.CommandLine
