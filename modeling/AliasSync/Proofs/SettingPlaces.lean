import AliasSync.Config.Overlay
import Mathlib.Tactic.IntervalCases

/-! The slots of the environment as places in the settings. What is written to a place is read there, the other places
keep what they hold, and there are no settings besides these places. -/

namespace AliasSync.Config

open AliasSync.Text (trim quoteString readNumber)

inductive Field.Value where
  | text (value : String)
  | flag (value : Bool)
  | number (value : UInt64)
  | list (entries : List String)
  deriving DecidableEq, Repr

namespace Field

variable {field : Field} {raw : String} {value : Value}

def read (field : Field) (settings : Settings) : Value :=
  match field with
  | text get _ => .text (get settings)
  | flag get _ => .flag (get settings)
  | number get _ => .number (get settings)
  | list get _ => .list (get settings)

/-- What is not of the kind that the field holds changes nothing. -/
def write : Field → Value → Settings → Settings
  | text _ set, .text value, settings => set value settings
  | flag _ set, .flag value, settings => set value settings
  | number _ set, .number value, settings => set value settings
  | list _ set, .list entries, settings => set entries settings
  | _, _, settings => settings

def Fits : Field → Value → Prop
  | text _ _, .text _ | flag _ _, .flag _ | number _ _, .number _ | list _ _, .list _ => True
  | _, _ => False

/-- What a raw value means to the field, whatever the settings hold. -/
def parse (field : Field) (raw : String) : Except String Value :=
  match field with
  | text _ _ => .ok (.text raw)
  | flag _ _ =>
    match readFlag raw with
    | some value => .ok (.flag value)
    | none => .error ("expected a boolean, got " ++ quoteString raw)
  | number _ _ =>
    match readNumber UInt64.size (trim raw).toList with
    | .ok value => .ok (.number (UInt64.ofNat value))
    | .error fault => .error fault.message
  | list _ _ => .ok (.list (readList raw))

theorem store_eq_parse (field : Field) (raw : String) (settings : Settings) :
    field.store raw settings = (field.parse raw).map (field.write · settings) := by
  cases field with
  | text | list => rfl
  | flag =>
    simp only [store, parse]
    cases readFlag raw <;> rfl
  | number =>
    simp only [store, parse]
    cases readNumber UInt64.size (trim raw).toList <;> rfl

theorem fits_of_parse (parsed : field.parse raw = .ok value) : field.Fits value := by
  cases field with
  | text | list =>
    cases parsed
    trivial
  | flag =>
    simp only [parse] at parsed
    split at parsed <;> cases parsed
    trivial
  | number =>
    simp only [parse] at parsed
    split at parsed <;> cases parsed
    trivial

end Field

private def observe (settings : Settings) : List Field.Value := slots.map (·.field.read settings)

private theorem observe_write {position : Nat} (within : position < slots.length) {value : Field.Value}
    (fits : slots[position].field.Fits value) (settings : Settings) :
    observe (slots[position].field.write value settings) = (observe settings).set position value := by
  have small : position < 24 := within
  interval_cases position <;> cases value <;> first | exact fits.elim | rfl

theorem keys_nodup : (slots.map Slot.key).Nodup := by decide

/-- The name of a secret file is not a key itself. -/
theorem key_ne_fileKey : ∀ slot ∈ slots, ∀ other ∈ slots, slot.key ≠ other.key ++ "_FILE" := by decide

namespace Slot

variable {slot other : Slot} {value : Field.Value}

theorem read_write (member : slot ∈ slots) (fits : slot.field.Fits value) (settings : Settings) :
    slot.field.read (slot.field.write value settings) = value := by
  obtain ⟨position, within, rfl⟩ := List.getElem_of_mem member
  have there := congrArg (·[position]?) (observe_write within fits settings)
  simpa [observe, within] using there

theorem read_write_of_ne (member : slot ∈ slots) (also : other ∈ slots) (different : other.key ≠ slot.key)
    (fits : slot.field.Fits value) (settings : Settings) :
    other.field.read (slot.field.write value settings) = other.field.read settings := by
  obtain ⟨position, within, rfl⟩ := List.getElem_of_mem member
  obtain ⟨place, inside, rfl⟩ := List.getElem_of_mem also
  have apart : position ≠ place := by
    rintro rfl
    exact different rfl
  have there := congrArg (·[place]?) (observe_write within fits settings)
  simpa [observe, inside, apart] using there

end Slot

theorem Settings.ext_of_read {one other : Settings}
    (same : ∀ slot ∈ slots, slot.field.read one = slot.field.read other) : one = other := by
  obtain ⟨_, ⟨⟩, ⟨⟩, ⟨⟩, ⟨⟩, ⟨⟩⟩ := one
  obtain ⟨_, ⟨⟩, ⟨⟩, ⟨⟩, ⟨⟩, ⟨⟩⟩ := other
  simpa [slots, Field.read, and_assoc] using same

end AliasSync.Config
