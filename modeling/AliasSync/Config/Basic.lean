/-! The configuration and its defaults. -/

namespace AliasSync.Config

/-- How to reach the reverse proxy, and which of its routers take part. -/
structure ProxySettings where
  baseUrl : String
  username : String
  password : String
  verifyTls : Bool
  timeoutSecs : UInt64
  includeEntryPoints : List String
  ignoreRouters : List String
  includeProviders : List String
  ignoreProviders : List String
  deriving DecidableEq, Repr

/-- How to reach the resolver, and the host override that aliases belong to. -/
structure ResolverSettings where
  baseUrl : String
  apiKey : String
  apiSecret : String
  hostOverride : String
  verifyTls : Bool
  timeoutSecs : UInt64
  deriving DecidableEq, Repr

structure PatternSettings where
  maxGenerated : UInt64
  exrexPath : String
  timeoutSecs : UInt64
  deriving DecidableEq, Repr

structure ReconcileSettings where
  intervalSecs : UInt64
  descriptionTag : String
  deriving DecidableEq, Repr

structure ObservabilitySettings where
  logLevel : String
  metricsEnabled : Bool
  metricsAddress : String
  deriving DecidableEq, Repr

structure Settings where
  dryRun : Bool
  traefik : ProxySettings
  opnsense : ResolverSettings
  regex : PatternSettings
  reconcile : ReconcileSettings
  observability : ObservabilitySettings
  deriving DecidableEq, Repr

namespace Settings

def default : Settings where
  dryRun := false
  traefik := ⟨"", "", "", true, 10, [], [], [], []⟩
  opnsense := ⟨"", "", "", "", true, 10⟩
  regex := ⟨5, "exrex", 5⟩
  reconcile := ⟨30, "Managed by traefik-opnsense-sync"⟩
  observability := ⟨"info", false, "0.0.0.0:9090"⟩

def hasRouterFilters (settings : Settings) : Bool :=
  !(settings.traefik.includeEntryPoints.isEmpty && settings.traefik.ignoreRouters.isEmpty &&
    settings.traefik.includeProviders.isEmpty && settings.traefik.ignoreProviders.isEmpty)

end Settings

end AliasSync.Config
