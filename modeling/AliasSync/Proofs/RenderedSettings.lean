import AliasSync.Proofs.OverlaidSettings
import Mathlib.Data.List.TakeWhile

/-! Settings handed on through an environment. The raw value that a setting is rendered to is read as that setting, so
the variables of some keys carry over exactly the settings of these keys. -/

namespace AliasSync

namespace Text

variable {bound value n : Nat} {text : List Char} {c : Char}

private theorem digit?_of_isDigit (digit : c.isDigit = true) : digit? 10 c = some (c.toNat - '0'.toNat) := by
  have small : c.toNat - '0'.toNat < 10 := by
    have range := Char.isDigit_iff_toNat.mp digit
    have span : '9'.toNat < '0'.toNat + 10 := by decide
    omega
  simp only [digit?, if_pos digit, Option.filter, decide_eq_true small, if_true]

private theorem le_ofDigitChars (text : List Char) (value : Nat) : value ≤ Nat.ofDigitChars 10 text value := by
  induction text generalizing value with
  | nil => exact Nat.le_refl value
  | cons c rest ih =>
    rw [Nat.ofDigitChars_cons]
    exact Nat.le_trans (by omega) (ih _)

/-- No value on the way is larger than the number itself, so none of them is found too large. -/
theorem readDigits_eq_ok (digits : ∀ c ∈ text, c.isDigit = true) (small : Nat.ofDigitChars 10 text value < bound) :
    readDigits bound value text = .ok (Nat.ofDigitChars 10 text value) := by
  induction text generalizing value with
  | nil => rfl
  | cons c rest ih =>
    rw [Nat.ofDigitChars_cons, Nat.mul_comm] at small ⊢
    have further := Nat.lt_of_le_of_lt (le_ofDigitChars rest _) small
    simp only [readDigits, digit?_of_isDigit (digits c List.mem_cons_self), if_pos further]
    exact ih (fun c member => digits c (List.mem_cons_of_mem _ member)) small

private theorem isDigit_of_mem (member : c ∈ Nat.toDigits 10 n) : c.isDigit = true :=
  Nat.isDigit_of_mem_toDigits (by decide) (by decide) member

private theorem readNumber_toDigits (small : n < bound) : readNumber bound (Nat.toDigits 10 n) = .ok n := by
  have read : readDigits bound 0 (Nat.toDigits 10 n) = .ok n := by
    rw [readDigits_eq_ok (fun c => isDigit_of_mem) (by rwa [Nat.ofDigitChars_ten_toDigits]),
      Nat.ofDigitChars_ten_toDigits]
  have unsigned : '+' ∉ Nat.toDigits 10 n := fun member => by simpa using isDigit_of_mem member
  unfold readNumber
  split
  next none => exact absurd none Nat.toDigits_ne_nil
  next sign => exact absurd (sign ▸ List.mem_cons_self) unsigned
  next sign => exact absurd (sign ▸ List.mem_cons_self) unsigned
  next => exact read

private theorem isBlank_of_isDigit (digit : c.isDigit = true) : isBlank c = false := by
  have digits := Char.isDigit_iff_toNat.mp digit
  have outside : ∀ range ∈ blankRanges, range.2 < '0'.toNat ∨ '9'.toNat < range.1 := by decide
  refine List.any_eq_false.mpr fun range member => ?_
  have apart := outside range member
  simp only [decide_eq_true_eq]
  omega

private theorem dropWhile_eq_self {drops : Char → Bool} (begins : text.head?.any drops = false) :
    text.dropWhile drops = text := by
  cases text with
  | nil => rfl
  | cons c rest => exact List.dropWhile_cons_of_neg (ne_true_of_eq_false begins)

private theorem trim_eq_self {text : String} (begins : text.toList.head?.any isBlank = false)
    (ends : text.toList.getLast?.any isBlank = false) : trim text = text := by
  rw [List.getLast?_eq_head?_reverse] at ends
  rw [trim, trimStart, dropWhile_eq_self begins, dropEndWhile, dropWhile_eq_self ends, List.reverse_reverse,
    String.ofList_toList]

end Text

namespace Config

open AliasSync.Text (isBlank trim)

private theorem readFlag_rendered (value : Bool) : readFlag (if value then "true" else "false") = some value := by
  cases value <;> decide

private theorem trim_number (n : Nat) : (trim (toString n)).toList = Nat.toDigits 10 n := by
  have digits : (toString n).toList = Nat.toDigits 10 n := Nat.toList_repr
  have solid : ∀ c ∈ (toString n).toList, isBlank c = false := fun c member =>
    Text.isBlank_of_isDigit (Text.isDigit_of_mem (digits ▸ member))
  have unblank {found : Option Char} (among : ∀ c ∈ found, c ∈ (toString n).toList) : found.any isBlank = false := by
    cases found with
    | none => rfl
    | some c => exact solid c (among c rfl)
  rw [Text.trim_eq_self (unblank fun _ => List.mem_of_head?) (unblank fun _ => List.mem_of_getLast?), digits]

/-- An entry of a list that comes back as it is: with something in it, no white space around it, and no comma. -/
structure PlainEntry (entry : String) : Prop where
  nonempty : entry ≠ ""
  begins : entry.toList.head?.any isBlank = false
  ends : entry.toList.getLast?.any isBlank = false
  undivided : ',' ∉ entry.toList

private theorem readList_joined {entries : List String} (plain : ∀ entry ∈ entries, PlainEntry entry) :
    readList (",".intercalate entries) = entries := by
  cases entries with
  | nil => rfl
  | cons first rest =>
    have undivided : ∀ part ∈ (first :: rest).map String.toList, ',' ∉ part :=
      List.forall_mem_map.mpr fun entry member => (plain entry member).undivided
    have parts : (",".intercalate (first :: rest)).toList.splitOn ',' = (first :: rest).map String.toList := by
      rw [String.toList_intercalate]
      exact List.splitOn_intercalate ',' undivided (List.cons_ne_nil _ _)
    have trimmed : (first :: rest).map trim = first :: rest :=
      (List.map_congr_left fun entry member =>
        Text.trim_eq_self (plain entry member).begins (plain entry member).ends).trans (List.map_id _)
    rw [readList, parts, List.map_map]
    simp only [Function.comp_def, String.ofList_toList, trimmed]
    exact List.filter_eq_self.mpr fun entry member => by simpa using (plain entry member).nonempty

def Field.Value.Plain : Field.Value → Prop
  | .list entries => ∀ entry ∈ entries, PlainEntry entry
  | _ => True

instance (entry : String) : Decidable (PlainEntry entry) :=
  decidable_of_iff (entry ≠ "" ∧ entry.toList.head?.any isBlank = false ∧
      entry.toList.getLast?.any isBlank = false ∧ ',' ∉ entry.toList)
    ⟨fun ⟨nonempty, begins, ends, undivided⟩ => ⟨nonempty, begins, ends, undivided⟩,
      fun plain => ⟨plain.nonempty, plain.begins, plain.ends, plain.undivided⟩⟩

instance : DecidablePred Field.Value.Plain
  | .list entries => inferInstanceAs (Decidable (∀ entry ∈ entries, PlainEntry entry))
  | .text _ | .flag _ | .number _ => .isTrue trivial

def Field.Value.raw : Field.Value → String
  | .text value => value
  | .flag value => if value then "true" else "false"
  | .number value => toString value.toNat
  | .list entries => ",".intercalate entries

private theorem Field.parse_raw (field : Field) {settings : Settings} (plain : (field.read settings).Plain) :
    field.parse (field.read settings).raw = .ok (field.read settings) := by
  cases field with
  | text => rfl
  | flag get =>
    have read := readFlag_rendered (get settings)
    simp only [parse, Value.raw, Field.read, read]
  | number get =>
    have small : (get settings).toNat < UInt64.size := (get settings).toNat_lt
    simp only [parse, Value.raw, Field.read, trim_number, Text.readNumber_toDigits small, UInt64.ofNat_toNat]
  | list => simp only [parse, Value.raw, Field.read, readList_joined plain]

/-- The keys of an environment, each with what the settings hold there. -/
def Settings.assignments (settings : Settings) : List (String × Field.Value) :=
  [("TOS_DRY_RUN", .flag settings.dryRun),
   ("TOS_TRAEFIK_BASE_URL", .text settings.traefik.baseUrl),
   ("TOS_TRAEFIK_USERNAME", .text settings.traefik.username),
   ("TOS_TRAEFIK_PASSWORD", .text settings.traefik.password),
   ("TOS_TRAEFIK_VERIFY_TLS", .flag settings.traefik.verifyTls),
   ("TOS_TRAEFIK_TIMEOUT_SECS", .number settings.traefik.timeoutSecs),
   ("TOS_TRAEFIK_INCLUDE_ENTRYPOINTS", .list settings.traefik.includeEntryPoints),
   ("TOS_TRAEFIK_IGNORE_ROUTERS", .list settings.traefik.ignoreRouters),
   ("TOS_TRAEFIK_INCLUDE_PROVIDERS", .list settings.traefik.includeProviders),
   ("TOS_TRAEFIK_IGNORE_PROVIDERS", .list settings.traefik.ignoreProviders),
   ("TOS_OPNSENSE_BASE_URL", .text settings.opnsense.baseUrl),
   ("TOS_OPNSENSE_API_KEY", .text settings.opnsense.apiKey),
   ("TOS_OPNSENSE_API_SECRET", .text settings.opnsense.apiSecret),
   ("TOS_OPNSENSE_HOST_OVERRIDE", .text settings.opnsense.hostOverride),
   ("TOS_OPNSENSE_VERIFY_TLS", .flag settings.opnsense.verifyTls),
   ("TOS_OPNSENSE_TIMEOUT_SECS", .number settings.opnsense.timeoutSecs),
   ("TOS_REGEX_MAX_GENERATED", .number settings.regex.maxGenerated),
   ("TOS_REGEX_EXREX_PATH", .text settings.regex.exrexPath),
   ("TOS_REGEX_TIMEOUT_SECS", .number settings.regex.timeoutSecs),
   ("TOS_RECONCILE_INTERVAL_SECS", .number settings.reconcile.intervalSecs),
   ("TOS_RECONCILE_DESCRIPTION_TAG", .text settings.reconcile.descriptionTag),
   ("TOS_OBSERVABILITY_LOG_LEVEL", .text settings.observability.logLevel),
   ("TOS_OBSERVABILITY_METRICS_ENABLED", .flag settings.observability.metricsEnabled),
   ("TOS_OBSERVABILITY_METRICS_ADDRESS", .text settings.observability.metricsAddress)]

/-- The environment that sets the chosen keys, each to what the settings hold there, and nothing else. -/
def Settings.environment (settings : Settings) (chosen : String → Bool) : Environment := fun name =>
  if chosen name then (settings.assignments.lookup name).map Field.Value.raw else none

variable {files : Files} {base target : Settings} {chosen : String → Bool} {slot : Slot} {name raw path : String}

/-- Every slot has the place that its key stands for. -/
theorem assignments_eq (settings : Settings) :
    settings.assignments = slots.map fun slot => (slot.key, slot.field.read settings) := rfl

private theorem lookup_assignments (member : slot ∈ slots) (settings : Settings) :
    settings.assignments.lookup slot.key = some (slot.field.read settings) := by
  obtain ⟨earlier, later, whole⟩ := List.append_of_mem member
  rw [assignments_eq, whole, List.map_append, List.map_cons]
  refine List.lookup_eq_some_iff.mpr ⟨_, _, rfl, fun entry among => ?_⟩
  obtain ⟨other, before, rfl⟩ := List.mem_map.mp among
  simpa using (key_ne_of_split whole (.inl before)).symm

private theorem lookup_assignments_of_no_key (absent : ∀ slot ∈ slots, slot.key ≠ name) (settings : Settings) :
    settings.assignments.lookup name = none := by
  rw [assignments_eq]
  refine List.lookup_eq_none_iff.mpr fun entry among => ?_
  obtain ⟨slot, member, rfl⟩ := List.mem_map.mp among
  simpa using (absent slot member).symm

private theorem environment_key (member : slot ∈ slots) :
    target.environment chosen slot.key = if chosen slot.key then some (slot.field.read target).raw else none := by
  rw [Settings.environment, lookup_assignments member, Option.map_some]

private theorem not_namesSecret_environment (member : slot ∈ slots) :
    ¬ NamesSecret (target.environment chosen) slot.key path := by
  have missing := lookup_assignments_of_no_key (fun other also => key_ne_fileKey other also slot member) target
  intro names
  have named := names.named
  rw [Settings.environment, missing, Option.map_none, ite_self] at named
  cases named

private theorem supplies_environment (member : slot ∈ slots) :
    Supplies (target.environment chosen) files slot.key raw ↔
      chosen slot.key = true ∧ (slot.field.read target).raw = raw := by
  have set : target.environment chosen slot.key = some raw ↔
      chosen slot.key = true ∧ (slot.field.read target).raw = raw := by
    rw [environment_key member, Option.ite_none_right_eq_some, Option.some_inj]
  constructor
  · intro supplies
    cases supplies with
    | direct found => exact set.mp found
    | secret names => exact absurd names (not_namesSecret_environment member)
  · exact fun picked => .direct (set.mpr picked)

private theorem parse_environment (plain : ∀ slot ∈ slots, (slot.field.read target).Plain) (member : slot ∈ slots)
    (supplies : Supplies (target.environment chosen) files slot.key raw) :
    slot.field.parse raw = .ok (slot.field.read target) := by
  obtain ⟨-, rfl⟩ := (supplies_environment member).mp supplies
  exact slot.field.parse_raw (plain slot member)

private theorem Settled.read_environment {done left : List Slot} {settings : Settings}
    (settled : Settled (target.environment chosen) files base done left settings)
    (plain : ∀ slot ∈ slots, (slot.field.read target).Plain) (member : slot ∈ slots) (reached : slot ∈ done) :
    slot.field.read settings = slot.field.read (if chosen slot.key then target else base) := by
  split
  next picked =>
    have supplies : Supplies (target.environment chosen) files slot.key (slot.field.read target).raw :=
      (supplies_environment member).mpr ⟨picked, rfl⟩
    have parsed := settled.supplied slot reached _ supplies
    exact Except.ok.inj (parsed.symm.trans (parse_environment plain member supplies))
  next unpicked =>
    exact settled.unsupplied slot reached fun raw supplies =>
      unpicked ((supplies_environment member).mp supplies).1

private theorem Told.nil_environment {records : List Log.Record}
    (told : Told (target.environment chosen) files slots records) : records = [] := by
  refine List.eq_nil_iff_forall_not_mem.mpr fun record among => ?_
  obtain ⟨slot, member, path, unusable, -⟩ := told.warranted record among
  exact not_namesSecret_environment member unusable.names

private theorem overlay_environment (plain : ∀ slot ∈ slots, (slot.field.read target).Plain) :
    let overlaid := overlay (target.environment chosen) files base
    overlaid.failure = none ∧ overlaid.records = [] ∧
      ∀ slot ∈ slots, slot.field.read overlaid.settings = slot.field.read (if chosen slot.key then target else base) := by
  intro overlaid
  obtain ⟨done, left, whole, settled, told, ending⟩ := overlay_stops (target.environment chosen) files base
  obtain ⟨rfl, succeeds⟩ | ⟨slot, rest, raw, message, rfl, supplies, fails, -⟩ := ending
  · rw [List.append_nil] at whole
    subst whole
    exact ⟨succeeds, told.nil_environment, fun slot member => settled.read_environment plain member member⟩
  · rw [parse_environment plain (mem_of_split whole) supplies] at fails
    cases fails

/-- Settings whose lists come back as they are pass through an environment: with the variables of some keys, what the
settings hold under these keys is taken over and the rest is kept; with all of them, everything is taken over. -/
theorem environment_carries_settings (files : Files) (base target : Settings)
    (plain : ∀ held ∈ target.assignments, held.2.Plain) (chosen : String → Bool) :
    let overlaid := overlay (target.environment chosen) files base
    overlaid.failure = none ∧ overlaid.records = [] ∧
      (∀ name, overlaid.settings.assignments.lookup name =
        (if chosen name then target else base).assignments.lookup name) ∧
      ((∀ held ∈ target.assignments, chosen held.1 = true) → overlaid.settings = target) := by
  intro overlaid
  rw [assignments_eq, List.forall_mem_map] at plain
  obtain ⟨succeeds, silent, reads⟩ := @overlay_environment files base target chosen plain
  refine ⟨succeeds, silent, fun name => ?_, fun all => ?_⟩
  · by_cases known : ∃ slot ∈ slots, slot.key = name
    · obtain ⟨slot, member, rfl⟩ := known
      rw [lookup_assignments member, lookup_assignments member, reads slot member]
    · have absent : ∀ slot ∈ slots, slot.key ≠ name := fun slot member same => known ⟨slot, member, same⟩
      rw [lookup_assignments_of_no_key absent, lookup_assignments_of_no_key absent]
  · rw [assignments_eq, List.forall_mem_map] at all
    refine Settings.ext_of_read fun slot member => ?_
    rw [reads slot member, if_pos (all slot member)]

/-- A user and a list of routers are taken over and the rest is kept; with all keys everything is taken over. -/
theorem environment_carries_settings_rehearsed :
    let target : Settings := { Settings.default with
      dryRun := true
      traefik := ⟨"http://proxy", "reader", "p,w", true, 18446744073709551615, [], ["a@file", "b c@file"], [], []⟩ }
    let chosen : String → Bool := (["TOS_TRAEFIK_USERNAME", "TOS_TRAEFIK_IGNORE_ROUTERS"].contains ·)
    let files : Files := ⟨fun _ => .error .notFound, fun _ => .error .notFound⟩
    let overlaid := overlay (target.environment chosen) files .default
    target.environment chosen "TOS_TRAEFIK_IGNORE_ROUTERS" = some "a@file,b c@file" ∧
    target.environment chosen "TOS_DRY_RUN" = none ∧
    overlaid.failure = none ∧
    (∀ name, overlaid.settings.assignments.lookup name =
      (if chosen name then target else .default).assignments.lookup name) ∧
    overlaid.settings = { Settings.default with
      traefik := { Settings.default.traefik with
        username := "reader", ignoreRouters := ["a@file", "b c@file"] } } ∧
    (overlay (target.environment fun _ => true) files .default).settings = target := by
  intro target chosen files overlaid
  have plain : ∀ held ∈ target.assignments, held.2.Plain := by decide +kernel
  obtain ⟨succeeds, -, reads, -⟩ := environment_carries_settings files .default target plain chosen
  obtain ⟨-, -, -, whole⟩ := environment_carries_settings files .default target plain fun _ => true
  exact ⟨by decide +kernel, by decide +kernel, succeeds, reads, by decide +kernel, whole fun _ _ => rfl⟩

end Config

end AliasSync
