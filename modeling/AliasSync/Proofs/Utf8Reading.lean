import AliasSync.Proofs.ByteOrder

/-! Texts are read back from their bytes. The first byte of a character tells how many follow, and those are told
apart from every first byte. -/

namespace AliasSync.Text

variable {code count : Nat} {byte : UInt8} {rest : List UInt8}

private theorem isContinuation_iff : isContinuation byte = true ↔ 0x80 ≤ byte.toNat ∧ byte.toNat ≤ 0xBF := by
  simp [isContinuation, UInt8.le_iff_toNat_le]

private theorem toNat_followingByte (code : Nat) : (UInt8.ofNat (code % 64 + 0x80)).toNat = code % 64 + 0x80 := by
  rw [UInt8.toNat_ofNat']
  omega

private theorem isContinuation_followingByte (code : Nat) : isContinuation (.ofNat (code % 64 + 0x80)) = true := by
  rw [isContinuation_iff, toNat_followingByte]
  omega

theorem isContinuation_of_mem_trail (member : byte ∈ trail code count) : isContinuation byte = true := by
  induction count with
  | zero => cases member
  | succ count ih =>
    rcases List.mem_cons.mp member with rfl | later
    · exact isContinuation_followingByte _
    · exact ih later

private theorem toNat_lead (below : code < 0x110000) : (UInt8.ofNat (lead code)).toNat = lead code := by
  rw [UInt8.toNat_ofNat', Nat.mod_eq_of_lt (lead_lt below)]

theorem not_isContinuation_lead (below : code < 0x110000) : isContinuation (.ofNat (lead code)) = false := by
  rw [Bool.eq_false_iff, Ne, isContinuation_iff, toNat_lead below]
  unfold lead trailing
  split_ifs <;> simp only [leadMark, Nat.reducePow] <;> omega

private theorem div_of_followingByte (code count : Nat) :
    code / 64 ^ (count + 1) * 64 + (code / 64 ^ count % 64 + 0x80 - 0x80) = code / 64 ^ count := by
  rw [Nat.pow_succ, ← Nat.div_div_eq_div_mul]
  omega

/-- The bits of a code point are put together again, six from each further byte. -/
theorem continued_trail : continued (code / 64 ^ count) count (trail code count ++ rest) = (some code, rest) := by
  induction count with
  | zero => simp [continued, trail]
  | succ count ih =>
    rw [trail, List.cons_append, continued, if_pos (isContinuation_followingByte _), toNat_followingByte,
      div_of_followingByte, ih]

private theorem leadByte?_eq : leadByte? byte =
    if 0xC2 ≤ byte.toNat ∧ byte.toNat ≤ 0xDF then some (1, 0x80, 0xBF)
    else if byte.toNat = 0xE0 then some (2, 0xA0, 0xBF)
    else if byte.toNat = 0xED then some (2, 0x80, 0x9F)
    else if 0xE1 ≤ byte.toNat ∧ byte.toNat ≤ 0xEF then some (2, 0x80, 0xBF)
    else if byte.toNat = 0xF0 then some (3, 0x90, 0xBF)
    else if 0xF1 ≤ byte.toNat ∧ byte.toNat ≤ 0xF3 then some (3, 0x80, 0xBF)
    else if byte.toNat = 0xF4 then some (3, 0x80, 0x8F)
    else none := by
  simp [leadByte?, UInt8.le_iff_toNat_le, ← UInt8.toNat_inj]

private theorem trailing_cases (several : 0x7F < code) :
    trailing code = 1 ∧ code ≤ 0x7FF ∨ trailing code = 2 ∧ 0x7FF < code ∧ code ≤ 0xFFFF ∨
      trailing code = 3 ∧ 0xFFFF < code := by
  unfold trailing
  split_ifs <;> omega

/-- The first byte of a character tells how many follow, and sets bounds that the second one keeps. -/
theorem leadByte?_lead (valid : code.isValidChar) (several : 0x7F < code) :
    ∃ low high, leadByte? (.ofNat (lead code)) = some (trailing code, low, high) ∧
      low.toNat ≤ code / 64 ^ (trailing code - 1) % 64 + 0x80 ∧
      code / 64 ^ (trailing code - 1) % 64 + 0x80 ≤ high.toNat := by
  have below := lt_of_isValidChar valid
  have noSurrogate : code < 0xD800 ∨ 0xDFFF < code := by rcases valid with small | ⟨above, -⟩ <;> omega
  rw [leadByte?_eq, toNat_lead below]
  obtain ⟨count, range⟩ | ⟨count, range⟩ | ⟨count, range⟩ := trailing_cases several
  all_goals
    rw [lead, count]
    simp only [leadMark, Nat.reducePow, Nat.reduceSub]
    split_ifs
    -- The first byte either rules the case out or sets the bounds.
    all_goals first
      | omega
      | exact ⟨_, _, rfl, by simp only [UInt8.reduceToNat]; omega, by simp only [UInt8.reduceToNat]; omega⟩

private theorem lead_mod (several : 0x7F < code) (below : code < 0x110000) :
    lead code % Nat.pow 2 (6 - trailing code) = code / 64 ^ trailing code := by
  change lead code % 2 ^ (6 - trailing code) = code / 64 ^ trailing code
  obtain ⟨count, range⟩ | ⟨count, range⟩ | ⟨count, range⟩ := trailing_cases several
  all_goals
    rw [lead, count]
    simp only [leadMark, Nat.reducePow, Nat.reduceSub]
    omega

private theorem decodeFront_single (single : code ≤ 0x7F) : decodeFront (.ofNat code) rest = (some code, rest) := by
  have value : (UInt8.ofNat code).toNat = code := by
    rw [UInt8.toNat_ofNat']
    omega
  have narrow : UInt8.ofNat code < 0x80 := by
    rw [UInt8.lt_iff_toNat_lt, value]
    exact Nat.lt_succ_of_le single
  rw [decodeFront.eq_def, if_pos narrow, value]

private theorem not_lead_lt (several : 0x7F < code) (below : code < 0x110000) : ¬UInt8.ofNat (lead code) < 0x80 := by
  rw [UInt8.lt_iff_toNat_lt, toNat_lead below, lead]
  obtain ⟨count, range⟩ | ⟨count, range⟩ | ⟨count, range⟩ := trailing_cases several
  all_goals
    simp only [count, leadMark, UInt8.reduceToNat]
    omega

private theorem decodeFront_several (valid : code.isValidChar) (several : 0x7F < code) :
    decodeFront (.ofNat (lead code)) (trail code (trailing code) ++ rest) = (some code, rest) := by
  have below := lt_of_isValidChar valid
  obtain ⟨low, high, bounds, above, inside⟩ := leadByte?_lead valid several
  have bits := lead_mod several below
  obtain ⟨count, following⟩ : ∃ count, trailing code = count + 1 := by
    obtain ⟨count, -⟩ | ⟨count, -⟩ | ⟨count, -⟩ := trailing_cases several <;> exact ⟨_, count⟩
  rw [following] at bounds above inside bits
  rw [decodeFront.eq_def, if_neg (not_lead_lt several below), bounds, following, trail, List.cons_append]
  simp only [UInt8.le_iff_toNat_le, toNat_followingByte]
  rw [if_pos ⟨above, inside⟩, toNat_lead below, bits, div_of_followingByte]
  exact continued_trail

/-- A character is read back from its bytes, whatever follows them. -/
theorem decodeFront_character (valid : code.isValidChar) :
    decodeFront (.ofNat (lead code)) (trail code (trailing code) ++ rest) = (some code, rest) := by
  rcases Nat.lt_or_ge 0x7F code with several | single
  · exact decodeFront_several valid several
  · have alone : trailing code = 0 := if_pos single
    have first : lead code = code := by rw [lead, alone, Nat.pow_zero, Nat.div_one, leadMark, Nat.add_zero]
    rw [first, alone]
    exact decodeFront_single single

private theorem decodeParts_utf8 (text : List Char) : decodeParts (utf8 text) = text.map some := by
  induction text with
  | nil => rw [utf8, List.flatMap_nil, decodeParts, List.map_nil]
  | cons c text ih =>
    have front : decodeFront (.ofNat (lead c.toNat)) (trail c.toNat (trailing c.toNat) ++ utf8 text) =
        (some c.toNat, utf8 text) := decodeFront_character c.valid
    rw [utf8_lead, decodeParts, front, ih, Option.map_some, Char.ofNat_toNat, List.map_cons]

/-- Nothing of a text is lost in its bytes. -/
theorem decode?_utf8 (text : List Char) : decode? (utf8 text) = some text := by
  rw [decode?, decodeParts_utf8]
  induction text with
  | nil => rfl
  | cons c text ih =>
    rw [List.map_cons, List.mapM_cons, ih]
    rfl

theorem decodeLossy_utf8 (text : List Char) : decodeLossy (utf8 text) = text := by
  rw [decodeLossy, decodeParts_utf8, List.map_map]
  exact List.map_id _

end AliasSync.Text
