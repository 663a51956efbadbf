import AliasSync.Config.Basic
import AliasSync.Toml.Parser

/-! Settings from a TOML document. Settings that are not known are passed over and missing ones keep
their defaults. A section may also be an array of its settings in their order, of which some at the
end may be missing and some more may follow. -/

namespace AliasSync.Config

open AliasSync.Toml (Value Entries)

/-- A setting within a section: its name, and how a value changes the section, if it fits. -/
structure Setting (σ : Type) where
  name : String
  store : Value → σ → Option σ

namespace Setting

variable {σ : Type}

def text (name : String) (set : String → σ → σ) : Setting σ where
  name := name
  store
    | .string value, part => some (set value part)
    | _, _ => none

def flag (name : String) (set : Bool → σ → σ) : Setting σ where
  name := name
  store
    | .boolean value, part => some (set value part)
    | _, _ => none

/-- A number that is not negative. -/
def number (name : String) (set : UInt64 → σ → σ) : Setting σ where
  name := name
  store
    | .integer value, part =>
      if 0 ≤ value then some (set (UInt64.ofNat value.toNat) part) else none
    | _, _ => none

def list (name : String) (set : List String → σ → σ) : Setting σ where
  name := name
  store
    | .array items, part => do
      let texts ← items.mapM fun
        | .string text => some text
        | _ => none
      pure (set texts part)
    | _, _ => none

/-- Stores each entry of a table under the setting of its name. -/
def storeEntries (settings : List (Setting σ)) : Entries → σ → Option σ
  | [], part => some part
  | (name, value) :: rest, part =>
    match settings.find? (·.name == name) with
    | none => storeEntries settings rest part
    | some setting => setting.store value part >>= storeEntries settings rest

def storeItems : List (Setting σ) → List Value → σ → Option σ
  | setting :: settings, value :: rest, part =>
    setting.store value part >>= storeItems settings rest
  | _, _, part => some part

/-- Stores a whole section. A point in time holds no setting that is known. -/
def storeSection (settings : List (Setting σ)) : Value → σ → Option σ
  | .table _ entries, part => storeEntries settings entries part
  | .array items, part => storeItems settings items part
  | .tables elements, part => storeItems settings (elements.map (.table .header)) part
  | .datetime, part => some part
  | _, _ => none

def nested (name : String) (get : σ → τ) (set : τ → σ → σ) (settings : List (Setting τ)) :
    Setting σ where
  name := name
  store value whole := (storeSection settings value (get whole)).map (set · whole)

end Setting

open Setting

def proxySettings : List (Setting ProxySettings) :=
  [text "base_url" fun v s => { s with baseUrl := v },
   text "username" fun v s => { s with username := v },
   text "password" fun v s => { s with password := v },
   flag "verify_tls" fun v s => { s with verifyTls := v },
   number "timeout_secs" fun v s => { s with timeoutSecs := v },
   list "include_entrypoints" fun v s => { s with includeEntryPoints := v },
   list "ignore_routers" fun v s => { s with ignoreRouters := v },
   list "include_providers" fun v s => { s with includeProviders := v },
   list "ignore_providers" fun v s => { s with ignoreProviders := v }]

def resolverSettings : List (Setting ResolverSettings) :=
  [text "base_url" fun v s => { s with baseUrl := v },
   text "api_key" fun v s => { s with apiKey := v },
   text "api_secret" fun v s => { s with apiSecret := v },
   text "host_override" fun v s => { s with hostOverride := v },
   flag "verify_tls" fun v s => { s with verifyTls := v },
   number "timeout_secs" fun v s => { s with timeoutSecs := v }]

def patternSettings : List (Setting PatternSettings) :=
  [number "max_generated" fun v s => { s with maxGenerated := v },
   text "exrex_path" fun v s => { s with exrexPath := v },
   number "timeout_secs" fun v s => { s with timeoutSecs := v }]

def reconcileSettings : List (Setting ReconcileSettings) :=
  [number "interval_secs" fun v s => { s with intervalSecs := v },
   text "description_tag" fun v s => { s with descriptionTag := v }]

def observabilitySettings : List (Setting ObservabilitySettings) :=
  [text "log_level" fun v s => { s with logLevel := v },
   flag "metrics_enabled" fun v s => { s with metricsEnabled := v },
   text "metrics_address" fun v s => { s with metricsAddress := v }]

def allSettings : List (Setting Settings) :=
  [flag "dry_run" fun v s => { s with dryRun := v },
   nested "traefik" Settings.traefik (fun v s => { s with traefik := v }) proxySettings,
   nested "opnsense" Settings.opnsense (fun v s => { s with opnsense := v }) resolverSettings,
   nested "regex" Settings.regex (fun v s => { s with regex := v }) patternSettings,
   nested "reconcile" Settings.reconcile (fun v s => { s with reconcile := v }) reconcileSettings,
   nested "observability" Settings.observability (fun v s => { s with observability := v })
     observabilitySettings]

def ofToml? (text : String) : Option Settings := do
  let entries ← Toml.parse? text
  storeEntries allSettings entries .default

end AliasSync.Config
