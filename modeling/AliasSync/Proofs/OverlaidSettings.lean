import AliasSync.Proofs.SettingPlaces
import Mathlib.Data.List.Nodup

/-! What an environment does to settings. A value comes from a variable of its own or from a secret file; the slots are
gone through in their order, each one writes its own place or leaves it, and the first value that cannot be read ends
the matter. A secret file that cannot be used is told of once and has no other consequence. -/

namespace AliasSync

def Files.Holds (files : Files) (path content : String) : Prop :=
  files.kind path = .ok .regular ∧ files.readText path = .ok content

def Log.Record.names (record : Log.Record) (key : String) : Bool := record.fields.lookup "key" == some (.plain key)

namespace Config

open AliasSync.Text (trim isBlankText)

variable {environment : Environment} {files : Files} {key path raw : String}

/-- The environment names a secret file for a key that is not set. -/
structure NamesSecret (environment : Environment) (key path : String) : Prop where
  unset : environment key = none
  named : environment (key ++ "_FILE") = some path
  nonblank : isBlankText path = false

/-- The value for a key: that of the variable if it is set, else the trimmed content of a secret file. -/
inductive Supplies (environment : Environment) (files : Files) (key : String) : String → Prop
  | direct {value : String} (set : environment key = some value) : Supplies environment files key value
  | secret {path content : String} (names : NamesSecret environment key path)
      (holds : files.Holds (trim path) content) : Supplies environment files key (trim content)

/-- The environment names a secret file that has nothing to offer. -/
structure Unusable (environment : Environment) (files : Files) (key path : String) : Prop where
  names : NamesSecret environment key path
  useless : ∀ content, ¬ files.Holds (trim path) content

structure Warns (key path : String) (record : Log.Record) : Prop where
  level : record.level = .warn
  names : record.names (key ++ "_FILE") = true
  path : record.fields.lookup "path" = some (.plain (trim path))

private theorem warns_of_place (key path message : String) (more : List (String × Log.Value)) :
    Warns key path
      (.warn .settings message ([("key", .plain (key ++ "_FILE")), ("path", .plain (trim path))] ++ more)) :=
  ⟨rfl, beq_self_eq_true _, rfl⟩

private theorem readSecret_of_useless {files : Files} {path : String} (key : String)
    (useless : ∀ content, ¬ files.Holds (trim path) content) :
    ∃ record, Warns key path record ∧ readSecret files (key ++ "_FILE") (trim path) = .error record := by
  unfold readSecret
  cases sort : files.kind (trim path) with
  | error cause => exact ⟨_, warns_of_place .., rfl⟩
  | ok kind =>
    cases kind with
    | other => exact ⟨_, warns_of_place key path _ [], rfl⟩
    | regular =>
      cases text : files.readText (trim path) with
      | error cause => exact ⟨_, warns_of_place .., rfl⟩
      | ok content => exact absurd ⟨sort, text⟩ (useless content)

private theorem rawValue_of_set (set : environment key = some raw) (files : Files) :
    rawValue environment files key = (some raw, []) := by
  simp only [rawValue, set]

private theorem rawValue_of_secret (names : NamesSecret environment key path)
    (read : readSecret files (key ++ "_FILE") (trim path) = .ok raw) :
    rawValue environment files key = (some raw, []) := by
  simp only [rawValue, names.unset, names.named, Option.filter, names.nonblank, Bool.not_false, if_true, read]

private theorem rawValue_of_useless {record : Log.Record} (names : NamesSecret environment key path)
    (read : readSecret files (key ++ "_FILE") (trim path) = .error record) :
    rawValue environment files key = (none, [record]) := by
  simp only [rawValue, names.unset, names.named, Option.filter, names.nonblank, Bool.not_false, if_true, read]

private theorem Supplies.rawValue_eq (supplies : Supplies environment files key raw) :
    rawValue environment files key = (some raw, []) := by
  cases supplies with
  | direct set => exact rawValue_of_set set files
  | secret names holds => exact rawValue_of_secret names (by simp only [readSecret, holds.1, holds.2])

private theorem Unusable.rawValue_eq (unusable : Unusable environment files key path) :
    ∃ record, Warns key path record ∧ rawValue environment files key = (none, [record]) := by
  obtain ⟨record, warns, read⟩ := readSecret_of_useless key unusable.useless
  exact ⟨record, warns, rawValue_of_useless unusable.names read⟩

private theorem rawValue_of_neither (unsupplied : ∀ raw, ¬ Supplies environment files key raw)
    (usable : ∀ path, ¬ Unusable environment files key path) : rawValue environment files key = (none, []) := by
  have unset : environment key = none :=
    Option.eq_none_iff_forall_ne_some.mpr fun raw set => unsupplied raw (.direct set)
  have unnamed (path : String) : ¬ NamesSecret environment key path := fun names =>
    usable path ⟨names, fun content holds => unsupplied (trim content) (.secret names holds)⟩
  cases secret : environment (key ++ "_FILE") with
  | none => simp [rawValue, unset, secret]
  | some path =>
    have blank : isBlankText path = true := by
      by_contra nonblank
      exact unnamed path ⟨unset, secret, by simpa using nonblank⟩
    simp [rawValue, unset, secret, blank, Option.filter]

private theorem supplies_iff : Supplies environment files key raw ↔ (rawValue environment files key).1 = some raw := by
  refine ⟨fun supplies => by rw [supplies.rawValue_eq], fun value => ?_⟩
  by_cases supplied : ∃ other, Supplies environment files key other
  · obtain ⟨other, supplies⟩ := supplied
    rw [supplies.rawValue_eq] at value
    cases value
    exact supplies
  · by_cases unusable : ∃ path, Unusable environment files key path
    · obtain ⟨path, useless⟩ := unusable
      obtain ⟨record, -, none⟩ := useless.rawValue_eq
      rw [none] at value
      cases value
    · rw [rawValue_of_neither (not_exists.mp supplied) (not_exists.mp unusable)] at value
      cases value

/-- What the settings have become when some slots are done and the others are left. -/
structure Settled (environment : Environment) (files : Files) (base : Settings) (done left : List Slot)
    (settings : Settings) : Prop where
  supplied : ∀ slot ∈ done, ∀ raw, Supplies environment files slot.key raw →
    slot.field.parse raw = .ok (slot.field.read settings)
  unsupplied : ∀ slot ∈ done, (∀ raw, ¬ Supplies environment files slot.key raw) →
    slot.field.read settings = slot.field.read base
  untouched : ∀ slot ∈ left, slot.field.read settings = slot.field.read base

/-- One warning has been given for each of the slots that has an unusable file, and none besides. -/
structure Told (environment : Environment) (files : Files) (done : List Slot) (records : List Log.Record) : Prop where
  once : ∀ slot ∈ done, ∀ path, Unusable environment files slot.key path →
    ∃ record, records.filter (·.names (slot.key ++ "_FILE")) = [record] ∧ Warns slot.key path record
  warranted : ∀ record ∈ records, ∃ slot ∈ done, ∃ path,
    Unusable environment files slot.key path ∧ Warns slot.key path record

variable {base settings : Settings} {done rest : List Slot} {slot other : Slot} {value : Field.Value}
  {records : List Log.Record} {record : Log.Record}

theorem mem_of_split (whole : slots = done ++ slot :: rest) : slot ∈ slots :=
  whole ▸ List.mem_append_right _ List.mem_cons_self

theorem key_ne_of_split (whole : slots = done ++ slot :: rest) (elsewhere : other ∈ done ∨ other ∈ rest) :
    other.key ≠ slot.key := by
  have nodup := keys_nodup
  rw [whole, List.map_append, List.map_cons, List.nodup_middle, ← List.map_append, List.nodup_cons] at nodup
  intro same
  exact nodup.1 (same ▸ List.mem_map_of_mem (List.mem_append.mpr elsewhere))

private theorem Supplies.unique (supplies : Supplies environment files key raw) {another : String}
    (also : Supplies environment files key another) : raw = another := by
  have same := supplies.rawValue_eq.symm.trans also.rawValue_eq
  cases same
  rfl

private theorem Supplies.usable (supplies : Supplies environment files key raw) (path : String) :
    ¬ Unusable environment files key path := by
  intro unusable
  obtain ⟨record, -, none⟩ := unusable.rawValue_eq
  rw [supplies.rawValue_eq] at none
  cases none

private theorem Warns.names_iff (warns : Warns key path record) {other : String} :
    record.names (other ++ "_FILE") = true ↔ key = other := by
  have named := beq_iff_eq.mp warns.names
  simp [Log.Record.names, named, String.append_left_inj]

namespace Settled

private theorem start (environment : Environment) (files : Files) (base : Settings) :
    Settled environment files base [] slots base :=
  ⟨nofun, nofun, fun _ _ => rfl⟩

/-- A value is written to the place of its slot, and the places of the others keep what they hold. -/
theorem supply (settled : Settled environment files base done (slot :: rest) settings)
    (whole : slots = done ++ slot :: rest) (supplies : Supplies environment files slot.key raw)
    (parsed : slot.field.parse raw = .ok value) :
    Settled environment files base (done ++ [slot]) rest (slot.field.write value settings) := by
  have fits := Field.fits_of_parse parsed
  have member := mem_of_split whole
  have same := Slot.read_write member fits settings
  have others (other : Slot) (elsewhere : other ∈ done ∨ other ∈ rest) :
      other.field.read (slot.field.write value settings) = other.field.read settings := by
    refine Slot.read_write_of_ne member ?_ (key_ne_of_split whole elsewhere) fits settings
    rw [whole]
    simpa using elsewhere.imp_right .inr
  refine ⟨List.forall_mem_append.mpr ⟨fun other earlier raw supplied => ?_, List.forall_mem_singleton.mpr ?_⟩,
    List.forall_mem_append.mpr ⟨fun other earlier nothing => ?_, List.forall_mem_singleton.mpr ?_⟩,
    fun later among => ?_⟩
  · rw [others other (.inl earlier)]
    exact settled.supplied other earlier raw supplied
  · intro another also
    rw [same, also.unique supplies, parsed]
  · rw [others other (.inl earlier)]
    exact settled.unsupplied other earlier nothing
  · exact fun nothing => absurd supplies (nothing raw)
  · rw [others later (.inr among)]
    exact settled.untouched later (List.mem_cons_of_mem _ among)

private theorem skip (settled : Settled environment files base done (slot :: rest) settings)
    (unsupplied : ∀ raw, ¬ Supplies environment files slot.key raw) :
    Settled environment files base (done ++ [slot]) rest settings := by
  refine ⟨List.forall_mem_append.mpr ⟨settled.supplied, List.forall_mem_singleton.mpr ?_⟩,
    List.forall_mem_append.mpr ⟨settled.unsupplied, List.forall_mem_singleton.mpr ?_⟩,
    fun later among => settled.untouched later (List.mem_cons_of_mem _ among)⟩
  · exact fun raw supplied => absurd supplied (unsupplied raw)
  · exact fun _ => settled.untouched slot List.mem_cons_self

end Settled

namespace Told

private theorem start (environment : Environment) (files : Files) : Told environment files [] [] := ⟨nofun, nofun⟩

private theorem silent (told : Told environment files done records)
    (usable : ∀ path, ¬ Unusable environment files slot.key path) :
    Told environment files (done ++ [slot]) records := by
  refine ⟨List.forall_mem_append.mpr ⟨told.once, List.forall_mem_singleton.mpr ?_⟩, fun record among => ?_⟩
  · exact fun path unusable => absurd unusable (usable path)
  · obtain ⟨other, earlier, warranted⟩ := told.warranted record among
    exact ⟨other, List.mem_append_left _ earlier, warranted⟩

private theorem warn (told : Told environment files done records) (whole : slots = done ++ slot :: rest)
    (unusable : Unusable environment files slot.key path) (warns : Warns slot.key path record) :
    Told environment files (done ++ [slot]) (records ++ [record]) := by
  refine ⟨List.forall_mem_append.mpr ⟨fun other earlier another useless => ?_, List.forall_mem_singleton.mpr ?_⟩,
    List.forall_mem_append.mpr ⟨fun old among => ?_, List.forall_mem_singleton.mpr ?_⟩⟩
  · obtain ⟨own, once, about⟩ := told.once other earlier another useless
    have foreign : ¬ record.names (other.key ++ "_FILE") = true := fun named =>
      key_ne_of_split whole (.inl earlier) (warns.names_iff.mp named).symm
    exact ⟨own, by simp [once, foreign], about⟩
  · intro another useless
    have none : records.filter (·.names (slot.key ++ "_FILE")) = [] := by
      refine List.filter_eq_nil_iff.mpr fun old among named => ?_
      obtain ⟨earlier, before, _, -, about⟩ := told.warranted old among
      exact key_ne_of_split whole (.inl before) (about.names_iff.mp named)
    obtain rfl : another = path := Option.some.inj (useless.names.named.symm.trans unusable.names.named)
    exact ⟨record, by simp [none, warns.names], warns⟩
  · obtain ⟨other, earlier, warranted⟩ := told.warranted old among
    exact ⟨other, List.mem_append_left _ earlier, warranted⟩
  · exact ⟨slot, List.mem_append_right _ (List.mem_singleton_self slot), path, unusable, warns⟩

end Told

/-- The slots that were done, and where the others were left: at their end or at a first value that cannot be read. -/
structure Overlaid.Stops (environment : Environment) (files : Files) (base : Settings) (done left : List Slot)
    (overlaid : Overlaid) : Prop where
  whole : slots = done ++ left
  settled : Settled environment files base done left overlaid.settings
  told : Told environment files done overlaid.records
  ending : left = [] ∧ overlaid.failure = none ∨
    ∃ slot rest raw message, left = slot :: rest ∧ Supplies environment files slot.key raw ∧
      slot.field.parse raw = .error message ∧ overlaid.failure = some (.env slot.key message)

private theorem overlaySlots_stops (left : List Slot) (whole : slots = done ++ left)
    (settled : Settled environment files base done left settings) (told : Told environment files done records) :
    let further := overlaySlots environment files left settings
    ∃ reached remaining, Overlaid.Stops environment files base reached remaining
      { further with records := records ++ further.records } := by
  induction left generalizing done settings records with
  | nil =>
    rw [← List.append_nil records] at told
    exact ⟨done, [], whole, settled, told, .inl ⟨rfl, rfl⟩⟩
  | cons slot rest ih =>
    have further : slots = (done ++ [slot]) ++ rest := by simpa using whole
    simp only [overlaySlots]
    by_cases supplied : ∃ raw, Supplies environment files slot.key raw
    · obtain ⟨raw, supplies⟩ := supplied
      rw [supplies.rawValue_eq]
      simp only [Field.store_eq_parse]
      cases parsed : slot.field.parse raw with
      | error message =>
        rw [← List.append_nil records] at told
        exact ⟨done, slot :: rest, whole, settled, told,
          .inr ⟨slot, rest, raw, message, rfl, supplies, parsed, rfl⟩⟩
      | ok value => exact ih further (settled.supply whole supplies parsed) (told.silent supplies.usable)
    · have unsupplied := not_exists.mp supplied
      by_cases unusable : ∃ path, Unusable environment files slot.key path
      · obtain ⟨path, useless⟩ := unusable
        obtain ⟨record, warns, none⟩ := useless.rawValue_eq
        rw [none]
        have later := ih further (settled.skip unsupplied) (told.warn whole useless warns)
        simpa only [List.append_assoc] using later
      · have usable := not_exists.mp unusable
        rw [rawValue_of_neither unsupplied usable]
        exact ih further (settled.skip unsupplied) (told.silent usable)

theorem overlay_stops (environment : Environment) (files : Files) (base : Settings) :
    ∃ done left, (overlay environment files base).Stops environment files base done left := by
  have stops := overlaySlots_stops slots (List.nil_append slots).symm (.start environment files base)
    (.start environment files)
  simp only [List.nil_append] at stops
  unfold overlay
  exact stops

private theorem overlaySlots_congr {other : Environment} {left : List Slot}
    (same : ∀ slot ∈ left, rawValue other files slot.key = rawValue environment files slot.key) (settings : Settings) :
    overlaySlots other files left settings = overlaySlots environment files left settings := by
  induction left generalizing settings with
  | nil => rfl
  | cons slot rest ih =>
    have further := ih fun slot among => same slot (List.mem_cons_of_mem _ among)
    simp only [overlaySlots, same slot List.mem_cons_self, further]

/-- The environments differ at most in the secret files of keys that the first one sets. -/
def AgreesWhereRead (environment other : Environment) : Prop :=
  ∀ name, other name = environment name ∨
    ∃ slot ∈ slots, name = slot.key ++ "_FILE" ∧ environment slot.key ≠ none

private theorem AgreesWhereRead.rawValue_eq {other : Environment} (agrees : AgreesWhereRead environment other)
    (member : slot ∈ slots) : rawValue other files slot.key = rawValue environment files slot.key := by
  have direct : other slot.key = environment slot.key := by
    obtain same | ⟨another, also, named, -⟩ := agrees slot.key
    · exact same
    · exact absurd named (key_ne_fileKey slot member another also)
  cases set : environment slot.key with
  | some value => rw [rawValue_of_set set, rawValue_of_set (direct.trans set)]
  | none =>
    have secret : other (slot.key ++ "_FILE") = environment (slot.key ++ "_FILE") := by
      obtain same | ⟨another, -, named, there⟩ := agrees (slot.key ++ "_FILE")
      · exact same
      · rw [← (String.append_left_inj _).mp named] at there
        exact absurd set there
    simp only [rawValue, direct, secret]

/-- Where each value comes from, that the settings can be overlaid exactly if all values can be read, and what has
become of the settings and been told at the end or at the first value that cannot. Besides a variable that is set the
secret file of its key does not matter. -/
theorem overlay_is_exact (environment : Environment) (files : Files) (base : Settings) :
    let overlaid := overlay environment files base
    (∀ key raw, (rawValue environment files key).1 = some raw ↔ Supplies environment files key raw) ∧
    (overlaid.failure = none ↔ ∀ slot ∈ slots, ∀ raw, Supplies environment files slot.key raw →
      ∃ value, slot.field.parse raw = .ok value) ∧
    (∃ done left, overlaid.Stops environment files base done left) ∧
    ∀ other, AgreesWhereRead environment other → overlay other files base = overlaid := by
  intro overlaid
  obtain ⟨done, left, stops⟩ := overlay_stops environment files base
  have whole := stops.whole
  refine ⟨fun _ _ => supplies_iff.symm, ⟨?_, ?_⟩, ⟨done, left, stops⟩, ?_⟩
  · rintro succeeds slot member raw supplies
    obtain ⟨rfl, -⟩ | ⟨_, _, _, _, -, -, -, fails⟩ := stops.ending
    · rw [whole, List.append_nil] at member
      exact ⟨_, stops.settled.supplied slot member raw supplies⟩
    · rw [fails] at succeeds
      cases succeeds
  · intro readable
    obtain ⟨-, succeeds⟩ | ⟨slot, rest, raw, message, rfl, supplies, unreadable, -⟩ := stops.ending
    · exact succeeds
    · obtain ⟨value, parsed⟩ := readable slot (mem_of_split whole) raw supplies
      rw [unreadable] at parsed
      cases parsed
  · exact fun other agrees => overlaySlots_congr (fun slot member => agrees.rawValue_eq member) base

/-- One file is read and one is missing; the timeout is no number, so what comes after it is not looked at. -/
theorem overlay_is_exact_rehearsed :
    let environment : Environment := ([("TOS_DRY_RUN", " Yes "), ("TOS_TRAEFIK_USERNAME_FILE", "/run/nothing"),
      ("TOS_TRAEFIK_PASSWORD_FILE", " /run/password"), ("TOS_TRAEFIK_TIMEOUT_SECS", "soon"),
      ("TOS_REGEX_MAX_GENERATED", "7")].lookup ·)
    let other : Environment := fun name => if name = "TOS_DRY_RUN_FILE" then some "/run/password" else environment name
    let files : Files := ⟨fun path => if path = "/run/password" then .ok .regular else .error .notFound,
      fun _ => .ok "hidden\n"⟩
    let overlaid := overlay environment files .default
    overlay other files .default = overlaid ∧
    overlaid.failure = some (.env "TOS_TRAEFIK_TIMEOUT_SECS" "invalid digit found in string") ∧
    overlaid.settings = { Settings.default with
      dryRun := true, traefik := { Settings.default.traefik with password := "hidden" } } ∧
    overlaid.records.map (·.names "TOS_TRAEFIK_USERNAME_FILE") = [true] := by
  intro environment other files overlaid
  refine ⟨?_, by decide +kernel, by decide +kernel, by decide +kernel⟩
  refine (overlay_is_exact environment files .default).2.2.2 other fun name => ?_
  by_cases changed : name = "TOS_DRY_RUN_FILE"
  · exact .inr ⟨slots[0], List.getElem_mem _, changed, by decide⟩
  · exact .inl (if_neg changed)

end Config

end AliasSync
