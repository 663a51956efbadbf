import AliasSync.Http.Call
import AliasSync.Proofs.Utf8Reading

/-! What is kept of the body of a refusal: the longest beginning within a limit in bytes. Going back byte by byte from
the limit leads to its end, since the bytes that continue a character are told apart from those that begin one. -/

namespace AliasSync

namespace Text

variable {bytes first : List UInt8} {position stop limit : Nat} {c : Char} {text start : List Char}

/-- A character begins at the position, or the text ends there. -/
def isBoundary (bytes : List UInt8) (position : Nat) : Bool :=
  position == 0 || match bytes[position]? with
    | some byte => !isContinuation byte
    | none => position == bytes.length

/-- Goes back, byte by byte, to where a character begins. Below zero there is nothing to go back to. -/
def retreat? (bytes : List UInt8) : Nat → Option Nat
  | 0 => if isBoundary bytes 0 then some 0 else none
  | position + 1 =>
    if isBoundary bytes (position + 1) then some (position + 1) else retreat? bytes position

/-- The bytes before a position. There is nothing to be had by a cut inside a character. -/
def slice? (bytes : List UInt8) (stop : Nat) : Option (List UInt8) :=
  if isBoundary bytes stop then some (bytes.take stop) else none

private theorem utf8_append (text other : List Char) : utf8 (text ++ other) = utf8 text ++ utf8 other :=
    List.flatMap_append

private theorem length_utf8_cons : (utf8 (c :: text)).length = c.utf8Size + (utf8 text).length := by
  rw [utf8_cons, List.length_append, String.length_utf8EncodeChar]

private theorem isBoundary_inside (some : 0 < position) (within : position < c.utf8Size) (rest : List UInt8) :
    isBoundary (String.utf8EncodeChar c ++ rest) position = false := by
  obtain ⟨further, rfl⟩ := Nat.exists_eq_succ_of_ne_zero (Nat.ne_of_gt some)
  have size := String.length_utf8EncodeChar c
  rw [utf8EncodeChar_eq, List.length_cons] at size
  have present : further < (trail c.toNat (trailing c.toNat)).length := by omega
  have found : (String.utf8EncodeChar c ++ rest)[further + 1]? =
      .some (trail c.toNat (trailing c.toNat))[further] := by
    rw [utf8EncodeChar_eq, List.cons_append, List.getElem?_cons_succ, List.getElem?_append_left present,
      List.getElem?_eq_getElem present]
  rw [isBoundary, found]
  simp [isContinuation_of_mem_trail (List.getElem_mem present)]

private theorem not_isContinuation_head {byte : UInt8} (first : (utf8 text)[0]? = some byte) :
    isContinuation byte = false := by
  cases text with
  | nil => cases first
  | cons c rest =>
    rw [utf8_lead, List.getElem?_cons_zero] at first
    rw [← Option.some.inj first]
    exact not_isContinuation_lead (toNat_lt c)

private theorem isBoundary_beyond (first : List UInt8) (text : List Char) (position : Nat) :
    isBoundary (first ++ utf8 text) (first.length + position) = isBoundary (utf8 text) position := by
  have found : (first ++ utf8 text)[first.length + position]? = (utf8 text)[position]? := by
    rw [List.getElem?_append_right (Nat.le_add_right _ _), Nat.add_sub_cancel_left]
  have ends : (first.length + position == (first ++ utf8 text).length) = (position == (utf8 text).length) := by
    rw [List.length_append]
    exact decide_eq_decide.mpr Nat.add_left_cancel_iff
  rw [isBoundary, isBoundary, found, ends]
  cases position with
  | zero =>
    cases head : (utf8 text)[0]? with
    | none => simp [Nat.le_zero.mp (List.getElem?_eq_none_iff.mp head)]
    | some byte => simp [not_isContinuation_head head]
  | succ further =>
    cases (utf8 text)[further + 1]? <;> rfl

/-- The boundaries in the bytes of a text are the ends of its beginnings. -/
theorem isBoundary_iff : isBoundary (utf8 text) position = true ↔
    ∃ start, start <+: text ∧ (utf8 start).length = position := by
  induction text generalizing position with
  | nil =>
    simp only [List.prefix_nil, exists_eq_left]
    cases position <;> simp [isBoundary, utf8]
  | cons c rest ih =>
    simp only [List.prefix_cons_iff, or_and_right, exists_or, exists_eq_left]
    rcases Nat.eq_zero_or_pos position with rfl | positive
    · exact iff_of_true rfl (.inl rfl)
    have nonempty : (utf8 []).length ≠ position := Nat.ne_of_lt positive
    rw [utf8_cons, or_iff_right nonempty]
    rcases Nat.lt_or_ge position c.utf8Size with inside | beyond
    · rw [isBoundary_inside positive inside, iff_of_false Bool.false_ne_true]
      rintro ⟨_, ⟨start, rfl, -⟩, ends⟩
      rw [length_utf8_cons] at ends
      omega
    · obtain ⟨further, rfl⟩ := Nat.exists_eq_add_of_le beyond
      rw [← String.length_utf8EncodeChar c, isBoundary_beyond, ih]
      constructor
      · rintro ⟨start, begins, rfl⟩
        exact ⟨_, ⟨start, rfl, begins⟩, by rw [utf8_cons, List.length_append]⟩
      · rintro ⟨_, ⟨start, rfl, begins⟩, ends⟩
        rw [utf8_cons, List.length_append] at ends
        exact ⟨start, begins, Nat.add_left_cancel ends⟩

private theorem takeBytes_begins (limit : Nat) (text : List Char) : takeBytes limit text <+: text := by
  fun_induction takeBytes limit text with
  | case1 => exact List.nil_prefix
  | case2 limit c rest fits ih => exact List.prefix_cons_inj c |>.mpr ih
  | case3 => exact List.nil_prefix

private theorem length_takeBytes_le (limit : Nat) (text : List Char) :
    (utf8 (takeBytes limit text)).length ≤ limit := by
  fun_induction takeBytes limit text with
  | case1 => exact Nat.zero_le _
  | case2 limit c rest fits ih =>
    rw [length_utf8_cons]
    omega
  | case3 => exact Nat.zero_le _

/-- Every beginning within the limit is a beginning of what is taken. -/
theorem prefix_takeBytes (begins : start <+: text) (fits : (utf8 start).length ≤ limit) :
    start <+: takeBytes limit text := by
  induction text generalizing limit start with
  | nil =>
    rw [List.prefix_nil.mp begins]
    exact List.nil_prefix
  | cons c rest ih =>
    rcases List.prefix_cons_iff.mp begins with rfl | ⟨start, rfl, within⟩
    · exact List.nil_prefix
    rw [length_utf8_cons] at fits
    rw [takeBytes, if_pos (Nat.le_of_add_right_le fits)]
    exact List.prefix_cons_inj c |>.mpr (ih within (Nat.le_sub_of_add_le' fits))

private theorem takeBytes_eq_self (fits : (utf8 text).length ≤ limit) : takeBytes limit text = text :=
  (takeBytes_begins limit text).eq_of_length_le (prefix_takeBytes List.prefix_rfl fits).length_le

/-- What is left out begins with a character that no longer fits, and that has four bytes at most. -/
theorem limit_lt_length_takeBytes (long : limit < (utf8 text).length) :
    limit < (utf8 (takeBytes limit text)).length + 4 := by
  obtain ⟨rest, whole⟩ := takeBytes_begins limit text
  cases rest with
  | nil =>
    have kept := length_takeBytes_le limit text
    rw [← whole, List.append_nil] at long
    omega
  | cons c rest =>
    -- With room for four more bytes the next character would have been taken too.
    apply Nat.lt_of_not_le
    intro room
    have small := c.utf8Size_le_four
    have longer : takeBytes limit text ++ [c] <+: takeBytes limit text := by
      apply prefix_takeBytes ⟨rest, by rw [List.append_assoc, List.singleton_append, whole]⟩
      rw [utf8_append, List.length_append, length_utf8_cons]
      change _ + (_ + 0) ≤ limit
      omega
    have grown := longer.length_le
    rw [List.length_append, List.length_singleton] at grown
    omega

private theorem retreat?_eq_some (boundary : isBoundary bytes stop = true) (before : stop ≤ position)
    (between : ∀ later, stop < later → later ≤ position → isBoundary bytes later = false) :
    retreat? bytes position = some stop := by
  -- One byte after the other is passed until the boundary is reached, which is zero at the least.
  induction position with
  | zero =>
    rw [Nat.le_zero.mp before] at boundary ⊢
    exact if_pos boundary
  | succ position ih =>
    rcases Nat.lt_or_eq_of_le before with earlier | rfl
    · rw [retreat?, between _ earlier (Nat.le_refl _), if_neg Bool.false_ne_true]
      exact ih (Nat.le_of_lt_succ earlier) fun later after inside => between later after (Nat.le_succ_of_le inside)
    · exact if_pos boundary

/-- From as many bytes as there may be, one gets back to the end of the longest beginning within the limit. -/
theorem retreat?_utf8 (limit : Nat) (text : List Char) :
    retreat? (utf8 text) (min (utf8 text).length limit) = some (utf8 (takeBytes limit text)).length := by
  have shorter : (utf8 (takeBytes limit text)).length ≤ (utf8 text).length := by
    obtain ⟨rest, whole⟩ := takeBytes_begins limit text
    rw [← whole, utf8_append, whole, List.length_append]
    exact Nat.le_add_right _ _
  apply retreat?_eq_some
  · exact isBoundary_iff.mpr ⟨_, takeBytes_begins limit text, rfl⟩
  · exact Nat.le_min.mpr ⟨shorter, length_takeBytes_le limit text⟩
  · intro later after inside
    -- A boundary is the end of a beginning, and what is taken goes on beyond every one within the limit.
    rw [Bool.eq_false_iff]
    intro boundary
    obtain ⟨start, begins, rfl⟩ := isBoundary_iff.mp boundary
    obtain ⟨rest, whole⟩ := prefix_takeBytes begins (Nat.le_trans inside (Nat.min_le_right _ _))
    rw [← whole, utf8_append, List.length_append] at after
    omega

private theorem slice?_utf8 (begins : start <+: text) : slice? (utf8 text) (utf8 start).length = some (utf8 start) := by
  have boundary := isBoundary_iff.mpr ⟨start, begins, rfl⟩
  obtain ⟨rest, rfl⟩ := begins
  rw [slice?, if_pos boundary, utf8_append, List.take_left]

end Text

namespace Http

open Text (decodeLossy isBoundary retreat? slice? takeBytes utf8)

variable {α : Type}

/-- The text of a body, without a byte order mark. There is none of a body that broke off. -/
def bodyText (body : Option (List UInt8)) : List Char :=
  let text := decodeLossy (body.getD [])
  if text.head? = some '\ufeff' then text.drop 1 else text

private theorem bodyText_utf8 {text : List Char} (unmarked : text.head? ≠ some '\ufeff') :
    bodyText (some (utf8 text)) = text := by
  rw [bodyText, Option.getD_some, Text.decodeLossy_utf8]
  exact if_neg unmarked

/-- The error of a refused call keeps the longest beginning of the body's text that has at most 4096 bytes. Going back
byte by byte from that limit, or from the end of a shorter text, comes to the end of it before it falls below zero, and
the cut that is made there divides no character. -/
theorem refusal_keeps_longest_beginning (call : Call α) (response : Response)
    (refused : response.status.isSuccess = false) :
    let text := bodyText response.body
    ∃ kept stop,
      call.settle (some response) = .error (.status response.status call.url.text (String.ofList kept)) ∧
      (retreat? (utf8 text) (min (utf8 text).length 4096) = some stop ∧
        slice? (utf8 text) stop = some (utf8 kept)) ∧
      (kept <+: text ∧ (utf8 kept).length ≤ 4096 ∧
        ∀ start, start <+: text → (utf8 start).length ≤ 4096 → start <+: kept) ∧
      ((utf8 text).length ≤ 4096 → kept = text) ∧
      (4096 < (utf8 text).length → 4093 ≤ (utf8 kept).length) := by
  intro text
  have settled : call.settle (some response) =
      .error (.status response.status call.url.text (String.ofList (takeBytes 4096 text))) := by
    rw [Call.settle, refused]
    rfl
  have begins := Text.takeBytes_begins 4096 text
  refine ⟨takeBytes 4096 text, _, settled, ⟨Text.retreat?_utf8 4096 text, Text.slice?_utf8 begins⟩, ?_, ?_, ?_⟩
  · exact ⟨begins, Text.length_takeBytes_le 4096 text, fun start => Text.prefix_takeBytes⟩
  · exact Text.takeBytes_eq_self
  · intro long
    have reached := Text.limit_lt_length_takeBytes long
    omega

def splitCharacter : List Char := List.replicate 4094 'x' ++ ['€', 'y']

private theorem length_utf8_letters (count : Nat) : (utf8 (List.replicate count 'x')).length = count := by
  induction count with
  | zero => rfl
  | succ count ih =>
    rw [List.replicate_succ, Text.length_utf8_cons, ih, Nat.add_comm]
    rfl

/-- A body is cut before a character that lies across the limit. -/
theorem refusal_keeps_longest_beginning_rehearsed :
    let call := Call.plain .get ⟨"http", "", "", none, none, .segments [], none, none⟩
    let response : Response := ⟨"", ⟨500⟩, some (utf8 splitCharacter)⟩
    response.status.isSuccess = false ∧
      call.settle (some response) =
        .error (.status ⟨500⟩ call.url.text (String.ofList (List.replicate 4094 'x'))) := by
  intro call response
  obtain ⟨kept, -, settled, -, ⟨begins, within, longest⟩, -⟩ :=
    refusal_keeps_longest_beginning call response (by decide)
  refine ⟨by decide, ?_⟩
  have text : bodyText response.body = splitCharacter := bodyText_utf8 (by decide)
  rw [text] at begins longest
  obtain ⟨more, rfl⟩ := longest (List.replicate 4094 'x') (List.prefix_append _ _) (by
    rw [length_utf8_letters]
    decide)
  rw [Text.utf8_append, List.length_append, length_utf8_letters] at within
  rcases List.prefix_cons_iff.mp ((List.prefix_append_right_inj _).mp begins) with rfl | ⟨later, rfl, -⟩
  · rwa [List.append_nil] at settled
  · rw [Text.length_utf8_cons] at within
    have size : '€'.utf8Size = 3 := by decide
    omega

end Http

end AliasSync
