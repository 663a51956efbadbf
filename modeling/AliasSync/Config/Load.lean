import AliasSync.Config.Decode
import AliasSync.Config.Overlay
import AliasSync.Config.Validation

/-! Loading the configuration: a file, the environment over it, and the checks. -/

namespace AliasSync.Config

open AliasSync.Text (trim isBlankText)

/-- Where the configuration file is, and whether it was asked for by name. -/
inductive Source where
  | explicit (path : String)
  | standard (path : String)
  deriving DecidableEq, Repr

namespace Source

def path : Source → String
  | explicit path => path
  | standard path => path

/-- The file named on the command line, else the one that the environment names, else the standard
one. -/
def resolve (commandLine : Option String) (environment : Environment) : Source :=
  match commandLine with
  | some path => explicit path
  | none =>
    match (environment "TOS_CONFIG").filter (!isBlankText ·) with
    | some path => explicit (trim path)
    | none => standard "config.toml"

end Source

structure Loaded where
  result : Except ConfigError Settings
  records : List Log.Record

/-- Reads the file. Only the standard one may be missing. -/
def readSource (files : Files) (source : Source) : Loaded :=
  match files.readText source.path, source with
  | .ok content, _ =>
    match ofToml? content with
    | some settings => ⟨.ok settings, []⟩
    | none => ⟨.error .parse, []⟩
  | .error .notFound, .standard path =>
    ⟨.ok .default, [.info .settings "No config file found, using defaults and environment"
      [("path", .plain path)]]⟩
  | .error cause, _ => ⟨.error (.io cause), []⟩

def load (source : Source) (environment : Environment) (files : Files) : Loaded :=
  let fromFile := readSource files source
  match fromFile.result with
  | .error cause => ⟨.error cause, fromFile.records⟩
  | .ok settings =>
    let overlaid := overlay environment files settings
    let records := fromFile.records ++ overlaid.records
    match overlaid.failure with
    | some cause => ⟨.error cause, records⟩
    | none =>
      match validate overlaid.settings with
      | .error cause => ⟨.error cause, records⟩
      | .ok () =>
        ⟨.ok overlaid.settings,
          records ++
            if overlaid.settings.hasRouterFilters then []
            else [.warn .settings "No router filters configured; every Traefik router will be synced" []]⟩

end AliasSync.Config
