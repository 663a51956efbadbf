import AliasSync.Config.Basic
import AliasSync.Expansion.Exrex
import AliasSync.Http.Call
import AliasSync.Sync.Reconciler

/-! Putting a synchronizer together from settings. Nothing is called yet: the first cycle is the first
contact with any service. -/

namespace AliasSync

def RouterFilter.ofSettings (settings : Config.ProxySettings) : RouterFilter where
  includeEntryPoints := settings.includeEntryPoints
  includeProviders := settings.includeProviders
  ignoreProviders := settings.ignoreProviders
  ignoreRouters := settings.ignoreRouters

/-- A synchronizer with the services and the generator that it works with. -/
structure Deployment where
  proxy : Http.Service
  resolver : Http.Service
  exrex : Exrex
  reconciler : Sync.Reconciler

structure StartupError where
  field : String
  cause : Url.ParseError
  deriving DecidableEq, Repr

def StartupError.message (error : StartupError) : String :=
  "invalid " ++ error.field ++ ": " ++ error.cause.message

namespace Deployment

def baseUrl (field text : String) : Except StartupError Url :=
  (Url.parse text).mapError (⟨field, ·⟩)

def proxyService (settings : Config.ProxySettings) (base : Url) : Http.Service where
  base := base
  credentials := ⟨settings.username, settings.password⟩
  timeout := .ofSeconds settings.timeoutSecs.toNat
  verifyTls := settings.verifyTls

def resolverService (settings : Config.ResolverSettings) (base : Url) : Http.Service where
  base := base
  credentials := ⟨settings.apiKey, settings.apiSecret⟩
  timeout := .ofSeconds settings.timeoutSecs.toNat
  verifyTls := settings.verifyTls

def plannerOf (settings : Config.Settings) : Sync.Planner where
  filter := .ofSettings settings.traefik
  marker := settings.reconcile.descriptionTag
  limit := settings.regex.maxGenerated.toNat
  cache := .empty

def reconcilerOf (settings : Config.Settings) (dryRun : Bool) : Sync.Reconciler where
  syncer := ⟨plannerOf settings, settings.opnsense.hostOverride, dryRun⟩
  interval := settings.reconcile.intervalSecs.toNat * 1000

def ofSettings (settings : Config.Settings) (dryRun : Bool) : Except StartupError Deployment := do
  let proxyBase ← baseUrl "traefik.base_url" settings.traefik.baseUrl
  let resolverBase ← baseUrl "opnsense.base_url" settings.opnsense.baseUrl
  pure
    { proxy := proxyService settings.traefik proxyBase
      resolver := resolverService settings.opnsense resolverBase
      exrex := .start settings.regex.exrexPath (.ofSeconds settings.regex.timeoutSecs.toNat)
      reconciler := reconcilerOf settings dryRun }

def records (settings : Config.Settings) (dryRun : Bool) : List Log.Record :=
  let trusting : List Log.Record :=
    if settings.traefik.verifyTls && settings.opnsense.verifyTls then []
    else [.warn .assembly "TLS certificate verification disabled"
      [("traefik", .truth settings.traefik.verifyTls),
       ("opnsense", .truth settings.opnsense.verifyTls)]]
  trusting ++
    [.info .assembly "Sync components initialized"
      [("traefik", .plain settings.traefik.baseUrl), ("opnsense", .plain settings.opnsense.baseUrl),
       ("host_override", .plain settings.opnsense.hostOverride),
       ("interval_secs", .number settings.reconcile.intervalSecs.toNat),
       ("dry_run", .truth dryRun)]]

end Deployment

end AliasSync
