/-! Texts as bytes in UTF-8: reading bytes, with or without mercy for ill-formed ones, and cutting a
text at a number of bytes. -/

namespace AliasSync.Text

def utf8 (text : List Char) : List UInt8 := text.flatMap String.utf8EncodeChar

def isContinuation (byte : UInt8) : Bool := decide (0x80 ≤ byte ∧ byte ≤ 0xBF)

/-- What may follow the first byte of a character of several bytes: the number of further bytes, and
the bounds of the second one, which keep out overlong forms, surrogates and what lies beyond the
last code point. -/
def leadByte? (byte : UInt8) : Option (Nat × UInt8 × UInt8) :=
  if 0xC2 ≤ byte ∧ byte ≤ 0xDF then some (1, 0x80, 0xBF)
  else if byte = 0xE0 then some (2, 0xA0, 0xBF)
  else if byte = 0xED then some (2, 0x80, 0x9F)
  else if 0xE1 ≤ byte ∧ byte ≤ 0xEF then some (2, 0x80, 0xBF)
  else if byte = 0xF0 then some (3, 0x90, 0xBF)
  else if 0xF1 ≤ byte ∧ byte ≤ 0xF3 then some (3, 0x80, 0xBF)
  else if byte = 0xF4 then some (3, 0x80, 0x8F)
  else none

/-- Reads further bytes of a character. Ends with no code point at the first byte that does not
belong, and leaves that byte. -/
def continued (code : Nat) : Nat → List UInt8 → Option Nat × List UInt8
  | 0, bytes => (some code, bytes)
  | _ + 1, [] => (none, [])
  | count + 1, byte :: rest =>
    if isContinuation byte then continued (code * 64 + (byte.toNat - 0x80)) count rest
    else (none, byte :: rest)

/-- Reads one character, or as many ill-formed bytes as could have begun one. -/
def decodeFront (first : UInt8) (rest : List UInt8) : Option Nat × List UInt8 :=
  if first < 0x80 then (some first.toNat, rest)
  else match leadByte? first, rest with
    | some (count, low, high), second :: later =>
      if low ≤ second ∧ second ≤ high then
        let lead := first.toNat % Nat.pow 2 (6 - count)
        continued (lead * 64 + (second.toNat - 0x80)) (count - 1) later
      else (none, rest)
    | _, _ => (none, rest)

private theorem continued_length (code count : Nat) (bytes : List UInt8) :
    (continued code count bytes).2.length ≤ bytes.length := by
  fun_induction continued code count bytes with
  | case1 => simp
  | case2 => simp
  | case3 code count byte rest _ ih => simp only [List.length_cons]; omega
  | case4 => simp

private theorem decodeFront_length (first : UInt8) (rest : List UInt8) :
    (decodeFront first rest).2.length ≤ rest.length := by
  unfold decodeFront
  split
  · simp
  · split
    · split
      · have := continued_length
        exact Nat.le_trans (continued_length _ _ _) (by simp)
      · simp
    · simp

/-- The characters of a sequence of bytes; nothing stands for each ill-formed part. -/
def decodeParts : List UInt8 → List (Option Char)
  | [] => []
  | first :: rest =>
    let front := decodeFront first rest
    front.1.map Char.ofNat :: decodeParts front.2
termination_by bytes => bytes.length
decreasing_by
  have := decodeFront_length first rest
  simp only [List.length_cons]
  omega

/-- Each ill-formed part becomes a replacement character. -/
def decodeLossy (bytes : List UInt8) : List Char := (decodeParts bytes).map (·.getD '\ufffd')

def decode? (bytes : List UInt8) : Option (List Char) := (decodeParts bytes).mapM id

/-- The longest start of a text that has at most `limit` bytes. -/
def takeBytes : Nat → List Char → List Char
  | _, [] => []
  | limit, c :: rest =>
    if c.utf8Size ≤ limit then c :: takeBytes (limit - c.utf8Size) rest else []

end AliasSync.Text
