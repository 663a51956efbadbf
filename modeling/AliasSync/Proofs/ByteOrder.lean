import AliasSync.Text.Utf8
import Mathlib.Data.String.Basic
import Mathlib.Tactic.SplitIfs

/-! Texts are ordered as their bytes are: of two characters the greater one has the greater bytes, and they differ
before either of them ends. -/

namespace AliasSync.Text

def trailing (code : Nat) : Nat :=
  if code ≤ 0x7F then 0 else if code ≤ 0x7FF then 1 else if code ≤ 0xFFFF then 2 else 3

/-- What is added to the first bits to tell how many bytes follow. -/
def leadMark : Nat → Nat
  | 0 => 0
  | 1 => 0xC0
  | 2 => 0xE0
  | _ => 0xF0

def lead (code : Nat) : Nat := code / 64 ^ trailing code + leadMark (trailing code)

/-- The last so many bytes of a code point, with six bits of it in each. -/
def trail (code : Nat) : Nat → List UInt8
  | 0 => []
  | count + 1 => .ofNat (code / 64 ^ count % 64 + 0x80) :: trail code count

variable {code other count : Nat} {c d : Char} {rest others : List UInt8} {text first second : List Char}

theorem lt_of_isValidChar (valid : code.isValidChar) : code < 0x110000 := by
  obtain below | ⟨-, below⟩ := valid <;> omega

theorem toNat_lt (c : Char) : c.toNat < 0x110000 := lt_of_isValidChar c.valid

theorem lead_lt (below : code < 0x110000) : lead code < 256 := by
  unfold lead trailing
  split_ifs <;> simp only [leadMark] <;> omega

theorem utf8EncodeChar_eq (c : Char) :
    String.utf8EncodeChar c = .ofNat (lead c.toNat) :: trail c.toNat (trailing c.toNat) := by
  have below := toNat_lt c
  have value : c.val.toNat = c.toNat := rfl
  unfold String.utf8EncodeChar lead trailing
  simp only [value]
  split_ifs
  · simp [trail, leadMark]
  · rw [Nat.mod_eq_of_lt (by omega : c.toNat / 64 < 32)]
    simp [trail, leadMark]
  · rw [Nat.mod_eq_of_lt (by omega : c.toNat / 4096 < 16)]
    simp [trail, leadMark]
  · rw [Nat.mod_eq_of_lt (by omega : c.toNat / 262144 < 8)]
    simp [trail, leadMark]

private theorem cons_lt (small : code < 256) (also : other < 256) (less : code < other ∨ code = other ∧ rest < others) :
    UInt8.ofNat code :: rest < UInt8.ofNat other :: others := by
  apply List.cons_lt_cons_iff.mpr
  obtain less | ⟨rfl, less⟩ := less
  · left
    rw [UInt8.lt_iff_toNat_lt, UInt8.toNat_ofNat', UInt8.toNat_ofNat', Nat.mod_eq_of_lt small, Nat.mod_eq_of_lt also]
    exact less
  · exact .inr ⟨rfl, less⟩

private theorem trail_lt (less : code % 64 ^ count < other % 64 ^ count) :
    trail code count ++ rest < trail other count ++ others := by
  induction count with
  | zero => simp [Nat.mod_one] at less
  | succ count ih =>
    rw [Nat.pow_succ, Nat.mod_mul, Nat.mod_mul] at less
    have room := Nat.mod_lt other (Nat.pow_pos (n := count) (show 0 < 64 by decide))
    apply cons_lt (by omega) (by omega)
    obtain above | same | below := Nat.lt_trichotomy (code / 64 ^ count % 64) (other / 64 ^ count % 64)
    · left
      omega
    · rw [same] at less
      exact .inr ⟨by rw [same], ih (by omega)⟩
    · have := Nat.mul_le_mul_left (64 ^ count) below
      rw [Nat.mul_succ] at this
      omega

/-- The first bytes tell two code points apart, or else these have as many further bytes, and those do. -/
theorem lead_cases (less : code < other) :
    lead code < lead other ∨ lead code = lead other ∧ trailing code = trailing other ∧
      code % 64 ^ trailing code < other % 64 ^ trailing code := by
  unfold lead trailing
  split_ifs <;> simp only [leadMark, Nat.reducePow, true_and] <;> omega

private theorem utf8EncodeChar_lt (less : c < d) :
    String.utf8EncodeChar c ++ rest < String.utf8EncodeChar d ++ others := by
  have above : c.toNat < d.toNat := less
  rw [utf8EncodeChar_eq, utf8EncodeChar_eq, List.cons_append, List.cons_append]
  apply cons_lt (lead_lt (toNat_lt c)) (lead_lt (toNat_lt d))
  obtain first | ⟨same, count, below⟩ := lead_cases above
  · exact .inl first
  · rw [← count]
    exact .inr ⟨same, trail_lt below⟩

theorem utf8_cons : utf8 (c :: text) = String.utf8EncodeChar c ++ utf8 text := List.flatMap_cons

theorem utf8_lead :
    utf8 (c :: text) = .ofNat (lead c.toNat) :: (trail c.toNat (trailing c.toNat) ++ utf8 text) := by
  rw [utf8_cons, utf8EncodeChar_eq, List.cons_append]

private theorem utf8_lt (less : first < second) : utf8 first < utf8 second := by
  induction less with
  | @nil c rest =>
    change [] < utf8 (c :: rest)
    rw [utf8_lead]
    exact .nil
  | rel less =>
    rw [utf8_cons, utf8_cons]
    exact utf8EncodeChar_lt less
  | cons later ih =>
    rw [utf8_cons, utf8_cons]
    exact List.append_left_lt ih

def bytes (text : String) : List UInt8 := utf8 text.toList

/-- Texts are ordered as their bytes are. -/
theorem bytes_lt_iff {text other : String} : bytes text < bytes other ↔ text < other := by
  have forth {text other : String} (less : text < other) : bytes text < bytes other :=
    utf8_lt (String.lt_iff_toList_lt.mp less)
  constructor
  · intro below
    obtain less | same | greater := lt_trichotomy text other
    · exact less
    · subst same
      cases List.lt_irrefl _ below
    · cases List.lt_asymm below (forth greater)
  · exact forth

end AliasSync.Text
