import AliasSync.Config.Basic
import AliasSync.Config.Error
import AliasSync.Text.Blank
import AliasSync.Url.Parser

/-! The checks that every configuration in use has passed. All are made, and their complaints come in
a fixed order. -/

namespace AliasSync.Config

open AliasSync.Text (isBlankText quoteString)

def required (settings : Settings) : List (String × String) :=
  [("traefik.base_url", settings.traefik.baseUrl),
   ("opnsense.base_url", settings.opnsense.baseUrl),
   ("opnsense.api_key", settings.opnsense.apiKey),
   ("opnsense.api_secret", settings.opnsense.apiSecret),
   ("opnsense.host_override", settings.opnsense.hostOverride),
   ("reconcile.description_tag", settings.reconcile.descriptionTag)]

def checkRequired : String × String → List Violation
  | (field, value) => if isBlankText value then [⟨field, "is required"⟩] else []

/-- A base URL must be readable and of a scheme that can be called. A blank one is not judged here. -/
def checkUrl : String × String → List Violation
  | (field, value) =>
    if isBlankText value then []
    else match Url.parse value with
      | .error cause => [⟨field, "is not a valid URL: " ++ cause.message⟩]
      | .ok url =>
        if url.scheme = "http" ∨ url.scheme = "https" then []
        else [⟨field, "must use http or https, got " ++ quoteString url.scheme⟩]

def checkPositive : String × UInt64 → List Violation
  | (field, value) => if value = 0 then [⟨field, "must be > 0"⟩] else []

/-- A router to ignore is named together with its provider. -/
def checkRouterName (router : String) : List Violation :=
  if '@' ∈ router.toList then []
  else [⟨"traefik.ignore_routers", "entry " ++ quoteString router ++
    " must include provider suffix, e.g. 'router@docker' or 'router@file'"⟩]

def checkProviders (settings : Settings) : List Violation :=
  if settings.traefik.ignoreProviders.isEmpty || settings.traefik.includeProviders.isEmpty then []
  else [⟨"traefik.ignore_providers", "and traefik.include_providers are mutually exclusive"⟩]

def violations (settings : Settings) : List Violation :=
  (required settings).flatMap checkRequired ++
  [("traefik.base_url", settings.traefik.baseUrl),
    ("opnsense.base_url", settings.opnsense.baseUrl)].flatMap checkUrl ++
  [("regex.max_generated", settings.regex.maxGenerated),
    ("regex.timeout_secs", settings.regex.timeoutSecs),
    ("reconcile.interval_secs", settings.reconcile.intervalSecs)].flatMap checkPositive ++
  settings.traefik.ignoreRouters.flatMap checkRouterName ++
  checkProviders settings

def validate (settings : Settings) : Except ConfigError Unit :=
  match violations settings with
  | [] => .ok ()
  | found => .error (.validation found)

end AliasSync.Config
