import AliasSync.Config.Basic
import AliasSync.Config.Error
import AliasSync.Files
import AliasSync.Log
import AliasSync.Text.Blank
import AliasSync.Text.Digits

/-! Environment variables over settings. Every setting has a key; its value may also be kept in a file
that the key with `_FILE` after it names. -/

namespace AliasSync.Config

open AliasSync.Text (trim isBlankText quoteString readNumber)

abbrev Environment := String → Option String

/-- A setting as a place in the settings, with the kind of value it holds. -/
inductive Field where
  | text (get : Settings → String) (set : String → Settings → Settings)
  | flag (get : Settings → Bool) (set : Bool → Settings → Settings)
  | number (get : Settings → UInt64) (set : UInt64 → Settings → Settings)
  | list (get : Settings → List String) (set : List String → Settings → Settings)

/-- The words for yes and no, without regard to case. -/
def readFlag (raw : String) : Option Bool :=
  let word := String.ofList ((trim raw).toList.map Char.toLower)
  if ["1", "true", "yes", "on"].contains word then some true
  else if ["0", "false", "no", "off"].contains word then some false
  else none

/-- The entries between commas, trimmed, blank ones left out. -/
def readList (raw : String) : List String :=
  ((raw.toList.splitOn ',').map fun part => trim (String.ofList part)).filter (!·.isEmpty)

namespace Field

def store (field : Field) (raw : String) (settings : Settings) : Except String Settings :=
  match field with
  | text _ set => .ok (set raw settings)
  | flag _ set =>
    match readFlag raw with
    | some value => .ok (set value settings)
    | none => .error ("expected a boolean, got " ++ quoteString raw)
  | number _ set =>
    match readNumber UInt64.size (trim raw).toList with
    | .ok value => .ok (set (UInt64.ofNat value) settings)
    | .error fault => .error fault.message
  | list _ set => .ok (set (readList raw) settings)

end Field

/-- A setting with the last part of its key. -/
structure Slot where
  suffix : String
  field : Field

def Slot.key (slot : Slot) : String := "TOS_" ++ slot.suffix

/-- The settings that the environment can replace, in the order in which they are looked at. -/
def slots : List Slot :=
  [⟨"DRY_RUN", .flag (·.dryRun) fun v s => { s with dryRun := v }⟩,
   ⟨"TRAEFIK_BASE_URL", .text (·.traefik.baseUrl)
     fun v s => { s with traefik := { s.traefik with baseUrl := v } }⟩,
   ⟨"TRAEFIK_USERNAME", .text (·.traefik.username)
     fun v s => { s with traefik := { s.traefik with username := v } }⟩,
   ⟨"TRAEFIK_PASSWORD", .text (·.traefik.password)
     fun v s => { s with traefik := { s.traefik with password := v } }⟩,
   ⟨"TRAEFIK_VERIFY_TLS", .flag (·.traefik.verifyTls)
     fun v s => { s with traefik := { s.traefik with verifyTls := v } }⟩,
   ⟨"TRAEFIK_TIMEOUT_SECS", .number (·.traefik.timeoutSecs)
     fun v s => { s with traefik := { s.traefik with timeoutSecs := v } }⟩,
   ⟨"TRAEFIK_INCLUDE_ENTRYPOINTS", .list (·.traefik.includeEntryPoints)
     fun v s => { s with traefik := { s.traefik with includeEntryPoints := v } }⟩,
   ⟨"TRAEFIK_IGNORE_ROUTERS", .list (·.traefik.ignoreRouters)
     fun v s => { s with traefik := { s.traefik with ignoreRouters := v } }⟩,
   ⟨"TRAEFIK_INCLUDE_PROVIDERS", .list (·.traefik.includeProviders)
     fun v s => { s with traefik := { s.traefik with includeProviders := v } }⟩,
   ⟨"TRAEFIK_IGNORE_PROVIDERS", .list (·.traefik.ignoreProviders)
     fun v s => { s with traefik := { s.traefik with ignoreProviders := v } }⟩,
   ⟨"OPNSENSE_BASE_URL", .text (·.opnsense.baseUrl)
     fun v s => { s with opnsense := { s.opnsense with baseUrl := v } }⟩,
   ⟨"OPNSENSE_API_KEY", .text (·.opnsense.apiKey)
     fun v s => { s with opnsense := { s.opnsense with apiKey := v } }⟩,
   ⟨"OPNSENSE_API_SECRET", .text (·.opnsense.apiSecret)
     fun v s => { s with opnsense := { s.opnsense with apiSecret := v } }⟩,
   ⟨"OPNSENSE_HOST_OVERRIDE", .text (·.opnsense.hostOverride)
     fun v s => { s with opnsense := { s.opnsense with hostOverride := v } }⟩,
   ⟨"OPNSENSE_VERIFY_TLS", .flag (·.opnsense.verifyTls)
     fun v s => { s with opnsense := { s.opnsense with verifyTls := v } }⟩,
   ⟨"OPNSENSE_TIMEOUT_SECS", .number (·.opnsense.timeoutSecs)
     fun v s => { s with opnsense := { s.opnsense with timeoutSecs := v } }⟩,
   ⟨"REGEX_MAX_GENERATED", .number (·.regex.maxGenerated)
     fun v s => { s with regex := { s.regex with maxGenerated := v } }⟩,
   ⟨"REGEX_EXREX_PATH", .text (·.regex.exrexPath)
     fun v s => { s with regex := { s.regex with exrexPath := v } }⟩,
   ⟨"REGEX_TIMEOUT_SECS", .number (·.regex.timeoutSecs)
     fun v s => { s with regex := { s.regex with timeoutSecs := v } }⟩,
   ⟨"RECONCILE_INTERVAL_SECS", .number (·.reconcile.intervalSecs)
     fun v s => { s with reconcile := { s.reconcile with intervalSecs := v } }⟩,
   ⟨"RECONCILE_DESCRIPTION_TAG", .text (·.reconcile.descriptionTag)
     fun v s => { s with reconcile := { s.reconcile with descriptionTag := v } }⟩,
   ⟨"OBSERVABILITY_LOG_LEVEL", .text (·.observability.logLevel)
     fun v s => { s with observability := { s.observability with logLevel := v } }⟩,
   ⟨"OBSERVABILITY_METRICS_ENABLED", .flag (·.observability.metricsEnabled)
     fun v s => { s with observability := { s.observability with metricsEnabled := v } }⟩,
   ⟨"OBSERVABILITY_METRICS_ADDRESS", .text (·.observability.metricsAddress)
     fun v s => { s with observability := { s.observability with metricsAddress := v } }⟩]

/-- The variables that can replace settings, or name files that do. -/
def environmentKeys : List String := slots.flatMap fun slot => [slot.key, slot.key ++ "_FILE"]

/-- The trimmed content of a secret file, or the record of why it is left aside. -/
def readSecret (files : Files) (key path : String) : Except Log.Record String :=
  let place : List (String × Log.Value) := [("key", .plain key), ("path", .plain path)]
  match files.kind path with
  | .error cause =>
    .error (.warn .settings "Secret file unavailable, ignoring" (place ++ [("error", .plain cause.message)]))
  | .ok .other => .error (.warn .settings "Secret path is not a regular file, ignoring" place)
  | .ok .regular =>
    match files.readText path with
    | .error cause =>
      .error (.warn .settings "Failed to read secret file, ignoring"
        (place ++ [("error", .plain cause.message)]))
    | .ok content => .ok (trim content)

/-- The value for a key and the records made on the way to it. A variable of its own comes before any
file, even if it is empty. -/
def rawValue (environment : Environment) (files : Files) (key : String) :
    Option String × List Log.Record :=
  match environment key with
  | some value => (some value, [])
  | none =>
    let fileKey := key ++ "_FILE"
    match (environment fileKey).filter (!isBlankText ·) with
    | none => (none, [])
    | some path =>
      match readSecret files fileKey (trim path) with
      | .ok value => (some value, [])
      | .error record => (none, [record])

structure Overlaid where
  failure : Option ConfigError
  settings : Settings
  records : List Log.Record

/-- Replaces the settings of the given slots, one after the other, up to the first failure. -/
def overlaySlots (environment : Environment) (files : Files) : List Slot → Settings → Overlaid
  | [], settings => ⟨none, settings, []⟩
  | slot :: rest, settings =>
    let (value, records) := rawValue environment files slot.key
    match value with
    | none =>
      let later := overlaySlots environment files rest settings
      { later with records := records ++ later.records }
    | some raw =>
      match slot.field.store raw settings with
      | .error message => ⟨some (.env slot.key message), settings, records⟩
      | .ok settings =>
        let later := overlaySlots environment files rest settings
        { later with records := records ++ later.records }

def overlay (environment : Environment) (files : Files) (settings : Settings) : Overlaid :=
  overlaySlots environment files slots settings

end AliasSync.Config
