import AliasSync.Config.Validation
import AliasSync.Deployment
import AliasSync.Proofs.SettingPlaces
import AliasSync.Proofs.UrlReading

/-! The checks of settings, one by one: what each of them looks at, when it is content and what it says else. The
complaints about settings are what the checks say in their order, and settings without complaints can be put to use. -/

namespace AliasSync

namespace Config

open AliasSync.Text (isBlank isBlankText quoteString)

variable {settings other : Settings} {field text : String} {part : List Violation}

def Blank (text : String) : Prop := ∀ c ∈ text.toList, isBlank c = true

def Callable (text : String) : Prop := ∃ url, Url.parse text = .ok url ∧ Url.IsWeb url.scheme

structure Acceptable (settings : Settings) : Prop where
  filled : ∀ text ∈ [settings.traefik.baseUrl, settings.opnsense.baseUrl, settings.opnsense.apiKey,
    settings.opnsense.apiSecret, settings.opnsense.hostOverride, settings.reconcile.descriptionTag], ¬ Blank text
  callable : Callable settings.traefik.baseUrl ∧ Callable settings.opnsense.baseUrl
  positive : settings.regex.maxGenerated ≠ 0 ∧ settings.regex.timeoutSecs ≠ 0 ∧ settings.reconcile.intervalSecs ≠ 0
  suffixed : ∀ router ∈ settings.traefik.ignoreRouters, '@' ∈ router.toList
  exclusive : settings.traefik.ignoreProviders = [] ∨ settings.traefik.includeProviders = []

/-- A check, with the name that it complains under and the last part of the key of what it looks at. -/
inductive Check where
  | filled (field key : String) (text : Settings → String)
  | callable (field key : String) (text : Settings → String)
  | positive (field key : String) (number : Settings → UInt64)
  | suffixed
  | exclusive

def checks : List Check :=
  [.filled "traefik.base_url" "TRAEFIK_BASE_URL" (·.traefik.baseUrl),
   .filled "opnsense.base_url" "OPNSENSE_BASE_URL" (·.opnsense.baseUrl),
   .filled "opnsense.api_key" "OPNSENSE_API_KEY" (·.opnsense.apiKey),
   .filled "opnsense.api_secret" "OPNSENSE_API_SECRET" (·.opnsense.apiSecret),
   .filled "opnsense.host_override" "OPNSENSE_HOST_OVERRIDE" (·.opnsense.hostOverride),
   .filled "reconcile.description_tag" "RECONCILE_DESCRIPTION_TAG" (·.reconcile.descriptionTag),
   .callable "traefik.base_url" "TRAEFIK_BASE_URL" (·.traefik.baseUrl),
   .callable "opnsense.base_url" "OPNSENSE_BASE_URL" (·.opnsense.baseUrl),
   .positive "regex.max_generated" "REGEX_MAX_GENERATED" (·.regex.maxGenerated),
   .positive "regex.timeout_secs" "REGEX_TIMEOUT_SECS" (·.regex.timeoutSecs),
   .positive "reconcile.interval_secs" "RECONCILE_INTERVAL_SECS" (·.reconcile.intervalSecs),
   .suffixed, .exclusive]

namespace Check

variable {check : Check}

def reads : Check → List String
  | filled _ key _ | callable _ key _ | positive _ key _ => [key]
  | suffixed => ["TRAEFIK_IGNORE_ROUTERS"]
  | exclusive => ["TRAEFIK_IGNORE_PROVIDERS", "TRAEFIK_INCLUDE_PROVIDERS"]

def unsuffixed (router : String) : Violation :=
  ⟨"traefik.ignore_routers", "entry " ++ quoteString router ++
    " must include provider suffix, e.g. 'router@docker' or 'router@file'"⟩

/-- What a check says about settings. A blank text is not looked at as a URL. -/
inductive Reports (settings : Settings) : Check → List Violation → Prop
  | filled {field key : String} {text : Settings → String} (filled : ¬ Blank (text settings)) :
      Reports settings (.filled field key text) []
  | blank {field key : String} {text : Settings → String} (blank : Blank (text settings)) :
      Reports settings (.filled field key text) [⟨field, "is required"⟩]
  | passedOver {field key : String} {text : Settings → String} (blank : Blank (text settings)) :
      Reports settings (.callable field key text) []
  | callable {field key : String} {text : Settings → String} (filled : ¬ Blank (text settings))
      (callable : Callable (text settings)) : Reports settings (.callable field key text) []
  | uncallable {field key : String} {text : Settings → String} {url : Url} (filled : ¬ Blank (text settings))
      (reads : Url.parse (text settings) = .ok url) (other : ¬ Url.IsWeb url.scheme) :
      Reports settings (.callable field key text) [⟨field, "must use http or https, got " ++ quoteString url.scheme⟩]
  | unreadable {field key : String} {text : Settings → String} {cause : Url.ParseError}
      (filled : ¬ Blank (text settings)) (fails : Url.parse (text settings) = .error cause) :
      Reports settings (.callable field key text) [⟨field, "is not a valid URL: " ++ cause.message⟩]
  | positive {field key : String} {number : Settings → UInt64} (positive : number settings ≠ 0) :
      Reports settings (.positive field key number) []
  | zero {field key : String} {number : Settings → UInt64} (zero : number settings = 0) :
      Reports settings (.positive field key number) [⟨field, "must be > 0"⟩]
  | suffixed : Reports settings .suffixed
      ((settings.traefik.ignoreRouters.filter fun router => '@' ∉ router.toList).map unsuffixed)
  | exclusive (exclusive : settings.traefik.ignoreProviders = [] ∨ settings.traefik.includeProviders = []) :
      Reports settings .exclusive []
  | both (ignoring : settings.traefik.ignoreProviders ≠ []) (including : settings.traefik.includeProviders ≠ []) :
      Reports settings .exclusive
        [⟨"traefik.ignore_providers", "and traefik.include_providers are mutually exclusive"⟩]

private theorem Reports.unique {first last : List Violation} (one : Reports settings check first)
    (two : Reports settings check last) : first = last := by
  cases one with
  | filled filled =>
    cases two with
    | filled => rfl
    | blank blank => exact absurd blank filled
  | blank blank =>
    cases two with
    | filled filled => exact absurd blank filled
    | blank => rfl
  | passedOver blank =>
    cases two with
    | passedOver | callable => rfl
    | uncallable filled | unreadable filled => exact absurd blank filled
  | callable _ callable =>
    obtain ⟨url, reads, web⟩ := callable
    cases two with
    | passedOver | callable => rfl
    | uncallable _ also apart =>
      cases reads.symm.trans also
      exact absurd web apart
    | unreadable _ fails => cases reads.symm.trans fails
  | uncallable filled reads apart =>
    cases two with
    | passedOver blank => exact absurd blank filled
    | callable _ callable =>
      obtain ⟨url, also, web⟩ := callable
      cases reads.symm.trans also
      exact absurd web apart
    | uncallable _ also =>
      cases reads.symm.trans also
      rfl
    | unreadable _ fails => cases reads.symm.trans fails
  | unreadable filled fails =>
    cases two with
    | passedOver blank => exact absurd blank filled
    | callable _ callable =>
      obtain ⟨url, reads, -⟩ := callable
      cases fails.symm.trans reads
    | uncallable _ reads => cases fails.symm.trans reads
    | unreadable _ also =>
      cases fails.symm.trans also
      rfl
  | positive positive =>
    cases two with
    | positive => rfl
    | zero zero => exact absurd zero positive
  | zero zero =>
    cases two with
    | positive positive => exact absurd zero positive
    | zero => rfl
  | suffixed =>
    cases two
    rfl
  | exclusive exclusive =>
    cases two with
    | exclusive => rfl
    | both ignoring including => exact (exclusive.elim ignoring including).elim
  | both ignoring including =>
    cases two with
    | exclusive exclusive => exact (exclusive.elim ignoring including).elim
    | both => rfl

private def sight (settings : Settings) : Check → List Field.Value
  | filled _ _ text | callable _ _ text => [.text (text settings)]
  | positive _ _ number => [.number (number settings)]
  | suffixed => [.list settings.traefik.ignoreRouters]
  | exclusive => [.list settings.traefik.includeProviders, .list settings.traefik.ignoreProviders]

private theorem Reports.congr (same : check.sight settings = check.sight other)
    (reports : Reports settings check part) :
    Reports other check part := by
  cases check with
  | filled field key text =>
    have seen : text settings = text other := by simpa [sight] using same
    cases reports with
    | filled filled => exact .filled (seen ▸ filled)
    | blank blank => exact .blank (seen ▸ blank)
  | callable field key text =>
    have seen : text settings = text other := by simpa [sight] using same
    cases reports with
    | passedOver blank => exact .passedOver (seen ▸ blank)
    | callable filled callable => exact .callable (seen ▸ filled) (seen ▸ callable)
    | uncallable filled reads apart => exact .uncallable (seen ▸ filled) (seen ▸ reads) apart
    | unreadable filled fails => exact .unreadable (seen ▸ filled) (seen ▸ fails)
  | positive field key number =>
    have seen : number settings = number other := by simpa [sight] using same
    cases reports with
    | positive positive => exact .positive (seen ▸ positive)
    | zero zero => exact .zero (seen ▸ zero)
  | suffixed =>
    have seen : settings.traefik.ignoreRouters = other.traefik.ignoreRouters := by simpa [sight] using same
    cases reports
    rw [seen]
    exact .suffixed
  | exclusive =>
    obtain ⟨including, ignoring⟩ : settings.traefik.includeProviders = other.traefik.includeProviders ∧
        settings.traefik.ignoreProviders = other.traefik.ignoreProviders := by simpa [sight] using same
    cases reports with
    | exclusive exclusive => exact .exclusive (including ▸ ignoring ▸ exclusive)
    | both ignores includes => exact .both (ignoring ▸ ignores) (including ▸ includes)

private theorem sight_eq (member : check ∈ checks) (settings : Settings) :
    check.sight settings =
      (slots.filter fun slot => check.reads.contains slot.suffix).map (·.field.read settings) := by
  simp only [checks, List.mem_cons, List.not_mem_nil, or_false] at member
  rcases member with rfl | rfl | rfl | rfl | rfl | rfl | rfl | rfl | rfl | rfl | rfl | rfl | rfl <;> rfl

private theorem reports_congr (member : check ∈ checks)
    (same : ∀ slot ∈ slots, slot.suffix ∈ check.reads → slot.field.read settings = slot.field.read other) :
    Reports settings check part ↔ Reports other check part := by
  have seen : check.sight settings = check.sight other := by
    rw [sight_eq member, sight_eq member]
    refine List.map_congr_left fun slot among => ?_
    obtain ⟨within, looked⟩ := List.mem_filter.mp among
    exact same slot within (List.contains_iff_mem.mp looked)
  exact ⟨.congr seen, .congr seen.symm⟩

end Check

private theorem isBlankText_iff : isBlankText text = true ↔ Blank text := List.all_eq_true

private theorem reports_required (field key : String) (text : Settings → String) :
    Check.Reports settings (.filled field key text) (checkRequired (field, text settings)) := by
  rw [checkRequired]
  split
  next blank => exact .blank (isBlankText_iff.mp blank)
  next filled => exact .filled (filled ∘ isBlankText_iff.mpr)

private theorem reports_url (field key : String) (text : Settings → String) :
    Check.Reports settings (.callable field key text) (checkUrl (field, text settings)) := by
  rw [checkUrl]
  split
  next blank => exact .passedOver (isBlankText_iff.mp blank)
  next filled =>
    replace filled := filled ∘ isBlankText_iff.mpr
    split
    next cause fails => exact .unreadable filled fails
    next url reads =>
      split
      next web => exact .callable filled ⟨url, reads, web⟩
      next apart => exact .uncallable filled reads apart

private theorem reports_positive (field key : String) (number : Settings → UInt64) :
    Check.Reports settings (.positive field key number) (checkPositive (field, number settings)) := by
  rw [checkPositive]
  split
  next zero => exact .zero zero
  next positive => exact .positive positive

private theorem reports_routers :
    Check.Reports settings .suffixed (settings.traefik.ignoreRouters.flatMap checkRouterName) := by
  have said : settings.traefik.ignoreRouters.flatMap checkRouterName =
      (settings.traefik.ignoreRouters.filter fun router => '@' ∉ router.toList).map Check.unsuffixed := by
    induction settings.traefik.ignoreRouters with
    | nil => rfl
    | cons router rest ih =>
      rw [List.flatMap_cons, ih, checkRouterName, List.filter_cons]
      by_cases suffixed : '@' ∈ router.toList <;> simp [suffixed, Check.unsuffixed]
  rw [said]
  exact .suffixed

private theorem reports_providers : Check.Reports settings .exclusive (checkProviders settings) := by
  unfold checkProviders
  split
  next exclusive => exact .exclusive (by simpa using exclusive)
  next both =>
    obtain ⟨ignoring, including⟩ : settings.traefik.ignoreProviders ≠ [] ∧ settings.traefik.includeProviders ≠ [] := by
      simpa using both
    exact .both ignoring including

/-- The complaints about settings are what the checks say, in their order. -/
theorem violations_parts (settings : Settings) :
    ∃ parts, List.Forall₂ (Check.Reports settings) checks parts ∧ violations settings = parts.flatten := by
  refine ⟨_, .cons (reports_required ..) <| .cons (reports_required ..) <| .cons (reports_required ..) <|
    .cons (reports_required ..) <| .cons (reports_required ..) <| .cons (reports_required ..) <|
    .cons (reports_url ..) <| .cons (reports_url ..) <| .cons (reports_positive ..) <| .cons (reports_positive ..) <|
    .cons (reports_positive ..) <| .cons reports_routers <| .cons reports_providers .nil, ?_⟩
  simp only [violations, required, List.flatMap_cons, List.flatMap_nil, List.flatten_cons, List.flatten_nil,
    List.append_assoc, List.append_nil]

/-- What is said by the checks that say the same about two settings, stands at the same places of both. -/
theorem parts_agree {all : List Check} {parts also : List (List Violation)}
    (one : List.Forall₂ (Check.Reports settings) all parts) (two : List.Forall₂ (Check.Reports other) all also)
    {keep : Check → Prop}
    (same : ∀ check ∈ all, keep check → ∀ part, check.Reports settings part ↔ check.Reports other part) :
    ∀ (position : Nat) (check : Check), all[position]? = some check → keep check →
      parts[position]? = also[position]? := by
  induction one generalizing also with
  | nil => nofun
  | @cons first _ _ _ report _ ih =>
    cases two with
    | cons again later =>
      intro position check placed kept
      cases position with
      | zero =>
        cases placed
        exact congrArg some (((same first List.mem_cons_self kept _).mp report).unique again)
      | succ position =>
        exact ih later (fun check member => same check (List.mem_cons_of_mem _ member)) position check placed kept

private theorem violations_eq_nil_iff_reports : violations settings = [] ↔ ∀ check ∈ checks, check.Reports settings
    [] := by
  obtain ⟨parts, reports, whole⟩ := violations_parts settings
  rw [whole]
  clear whole
  generalize checks = all at reports ⊢
  induction reports with
  | nil => simp
  | cons report _ ih =>
    rw [List.flatten_cons, List.append_eq_nil_iff, ih, List.forall_mem_cons]
    exact and_congr_left fun _ => ⟨fun nothing => nothing ▸ report, fun content => report.unique content⟩

private theorem violations_eq_nil_iff : violations settings = [] ↔ Acceptable settings := by
  have filled {field key : String} {text : Settings → String} :
      (Check.filled field key text).Reports settings [] ↔ ¬ Blank (text settings) :=
    ⟨fun | .filled filled => filled, .filled⟩
  have callable {field key : String} {text : Settings → String} :
      (Check.callable field key text).Reports settings [] ↔ Blank (text settings) ∨ Callable (text settings) := by
    constructor
    · intro report
      cases report with
      | passedOver blank => exact .inl blank
      | callable _ callable => exact .inr callable
    · rintro (blank | callable)
      · exact .passedOver blank
      · by_cases blank : Blank (text settings)
        · exact .passedOver blank
        · exact .callable blank callable
  have positive {field key : String} {number : Settings → UInt64} :
      (Check.positive field key number).Reports settings [] ↔ number settings ≠ 0 :=
    ⟨fun | .positive positive => positive, .positive⟩
  have suffixed : Check.suffixed.Reports settings [] ↔
      ∀ router ∈ settings.traefik.ignoreRouters, '@' ∈ router.toList := by
    constructor
    · intro report router member
      have nothing := Check.Reports.suffixed.unique report
      simpa using List.filter_eq_nil_iff.mp (List.map_eq_nil_iff.mp nothing) router member
    · intro suffixed
      have nothing : (settings.traefik.ignoreRouters.filter fun router => '@' ∉ router.toList).map Check.unsuffixed = [] :=
        List.map_eq_nil_iff.mpr (List.filter_eq_nil_iff.mpr fun router member => by simpa using suffixed router member)
      exact nothing ▸ .suffixed
  have exclusive : Check.exclusive.Reports settings [] ↔
      settings.traefik.ignoreProviders = [] ∨ settings.traefik.includeProviders = [] :=
    ⟨fun | .exclusive exclusive => exclusive, .exclusive⟩
  rw [violations_eq_nil_iff_reports]
  simp only [checks, List.forall_mem_cons, filled, callable, positive, suffixed, exclusive]
  constructor
  · rintro ⟨proxy, resolver, key, secret, parent, marker, proxyUrl, resolverUrl, limit, patience, interval, routers,
      providers, -⟩
    exact ⟨by simp [proxy, resolver, key, secret, parent, marker],
      ⟨proxyUrl.resolve_left proxy, resolverUrl.resolve_left resolver⟩, ⟨limit, patience, interval⟩, routers, providers⟩
  · rintro ⟨filled, ⟨proxyUrl, resolverUrl⟩, ⟨limit, patience, interval⟩, routers, providers⟩
    simp only [List.forall_mem_cons] at filled
    obtain ⟨proxy, resolver, key, secret, parent, marker, -⟩ := filled
    exact ⟨proxy, resolver, key, secret, parent, marker, .inr proxyUrl, .inr resolverUrl, limit, patience, interval,
      routers, providers, List.forall_mem_nil _⟩

theorem validate_eq_ok_iff : validate settings = .ok () ↔ Acceptable settings := by
  rw [← violations_eq_nil_iff, validate]
  cases violations settings with
  | nil => simp
  | cons => simp

end Config

namespace Deployment

private theorem baseUrl_eq_ok {field text : String} {url : Url} (reads : Url.parse text = .ok url) :
    baseUrl field text = .ok url := by
  rw [baseUrl, reads]
  rfl

theorem ofSettings_eq_ok {settings : Config.Settings} (acceptable : Config.Acceptable settings) (dryRun : Bool) :
    ∃ proxy resolver, Url.parse settings.traefik.baseUrl = .ok proxy ∧
      Url.parse settings.opnsense.baseUrl = .ok resolver ∧
      ofSettings settings dryRun = .ok
        ⟨proxyService settings.traefik proxy, resolverService settings.opnsense resolver,
          .start settings.regex.exrexPath (.ofSeconds settings.regex.timeoutSecs.toNat),
          reconcilerOf settings dryRun⟩ := by
  obtain ⟨⟨proxy, proxyReads, -⟩, resolver, resolverReads, -⟩ := acceptable.callable
  refine ⟨proxy, resolver, proxyReads, resolverReads, ?_⟩
  rw [ofSettings, baseUrl_eq_ok proxyReads, baseUrl_eq_ok resolverReads]
  rfl

end Deployment

/-- Settings are accepted if and only if they are acceptable, and else the complaints are what the checks say, in their
order. Settings that differ in one place differ in what is said by the checks that look at it. Accepted settings can be
put to use, and the choice of routers that they describe does not both include and ignore providers. -/
theorem Config.validation_is_exact (settings : Settings) :
    (validate settings = .ok () ↔ Acceptable settings) ∧
    (¬ Acceptable settings → ∃ parts, List.Forall₂ (Check.Reports settings) checks parts ∧
      validate settings = .error (.validation parts.flatten)) ∧
    (∀ slot ∈ slots, ∀ other,
      (∀ place ∈ slots, place.key ≠ slot.key → place.field.read settings = place.field.read other) →
      ∃ parts also, List.Forall₂ (Check.Reports settings) checks parts ∧
        List.Forall₂ (Check.Reports other) checks also ∧
        violations settings = parts.flatten ∧ violations other = also.flatten ∧
        ∀ (position : Nat) (check : Check), checks[position]? = some check → slot.suffix ∉ check.reads →
          parts[position]? = also[position]?) ∧
    (validate settings = .ok () → ∀ dryRun, ∃ deployment, Deployment.ofSettings settings dryRun = .ok deployment ∧
      let filter := deployment.reconciler.syncer.planner.filter
      (filter.includeProviders = [] ∨ filter.ignoreProviders = [])) := by
  refine ⟨validate_eq_ok_iff, fun unacceptable => ?_, fun slot _ other same => ?_, fun accepted dryRun => ?_⟩
  · obtain ⟨parts, reports, whole⟩ := violations_parts settings
    refine ⟨parts, reports, ?_⟩
    rw [validate, ← whole]
    split
    next none => exact absurd (violations_eq_nil_iff.mp none) unacceptable
    next => rfl
  · obtain ⟨parts, reports, whole⟩ := violations_parts settings
    obtain ⟨also, reported, entire⟩ := violations_parts other
    refine ⟨parts, also, reports, reported, whole, entire, parts_agree reports reported fun check member unread part => ?_⟩
    refine Check.reports_congr member fun place within read => same place within fun equal => unread ?_
    have suffix : place.suffix = slot.suffix := (String.append_right_inj _).mp equal
    exact suffix ▸ read
  · have acceptable := validate_eq_ok_iff.mp accepted
    obtain ⟨proxy, resolver, -, -, built⟩ := Deployment.ofSettings_eq_ok acceptable dryRun
    exact ⟨_, built, acceptable.exclusive.symm⟩

end AliasSync
