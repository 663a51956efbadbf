import AliasSync.Rule.Error
import AliasSync.Text.Blank

/-! The tokens of a rule: how a text is cut into lexemes, each with the offset of its first byte.
White space separates lexemes and is not one. -/

namespace AliasSync.Rule

open AliasSync.Text (isBlank)

/-- A token together with the byte offset at which its spelling starts. -/
structure Lexeme where
  token : Token
  offset : Nat
  deriving DecidableEq, Repr

def width : List Char → Nat
  | [] => 0
  | c :: rest => c.utf8Size + width rest

def isNameStart (c : Char) : Bool := c.isAlpha || c == '_'

def isNameRest (c : Char) : Bool := c.isAlphanum || c == '_'

/-- A lexeme cut off the front of a text: what it denotes, how it is spelled and what follows it. -/
structure Cut where
  token : Token
  spelling : List Char
  rest : List Char
  deriving DecidableEq, Repr

/-- The characters up to the closing backtick, and what follows the backtick. -/
def rawText : List Char → Option (List Char × List Char)
  | [] => none
  | '`' :: rest => some ([], rest)
  | c :: rest => (rawText rest).map fun (value, after) => (c :: value, after)

def unescape : Char → Option Char
  | '\\' => some '\\'
  | '"' => some '"'
  | 'n' => some '\n'
  | 't' => some '\t'
  | 'r' => some '\r'
  | _ => none

inductive QuoteFault where
  | unclosed
  | escape (found : Char) (before : List Char)
  deriving DecidableEq, Repr

/-- The value of a text in double quotes, its spelling with the closing quote, and what follows. A
bad escape is reported with the spelling before its backslash. -/
def quotedText : List Char → Except QuoteFault (List Char × List Char × List Char)
  | [] => .error .unclosed
  | '"' :: rest => .ok ([], ['"'], rest)
  | ['\\'] => .error .unclosed
  | '\\' :: found :: rest =>
    match unescape found with
    | none => .error (.escape found [])
    | some meant => extend ['\\', found] meant (quotedText rest)
  | c :: rest => extend [c] c (quotedText rest)
where
  /-- Puts one character of the value, as spelled, before the rest of the text. -/
  extend (spelled : List Char) (meant : Char) :
      Except QuoteFault (List Char × List Char × List Char) →
        Except QuoteFault (List Char × List Char × List Char)
    | .ok (value, spelling, after) => .ok (meant :: value, spelled ++ spelling, after)
    | .error .unclosed => .error .unclosed
    | .error (.escape found before) => .error (.escape found (spelled ++ before))

/-- The lexeme at the front of a text that starts with no white space. The offset is that of the
text's first byte. -/
def cutAt (offset : Nat) (first : Char) (rest : List Char) : Except RuleError Cut :=
  match first with
  | '(' => .ok ⟨.open, ['('], rest⟩
  | ')' => .ok ⟨.close, [')'], rest⟩
  | ',' => .ok ⟨.comma, [','], rest⟩
  | '!' => .ok ⟨.not, ['!'], rest⟩
  | '&' =>
    match rest with
    | '&' :: after => .ok ⟨.and, ['&', '&'], after⟩
    | _ => .error (.unexpectedChar '&' offset)
  | '|' =>
    match rest with
    | '|' :: after => .ok ⟨.or, ['|', '|'], after⟩
    | _ => .error (.unexpectedChar '|' offset)
  | '`' =>
    match rawText rest with
    | some (value, after) =>
      .ok ⟨.text (String.ofList value), '`' :: value ++ ['`'], after⟩
    | none => .error (.unterminatedText offset)
  | '"' =>
    match quotedText rest with
    | .ok (value, spelling, after) => .ok ⟨.text (String.ofList value), '"' :: spelling, after⟩
    | .error .unclosed => .error (.unterminatedText offset)
    | .error (.escape found before) =>
      .error (.invalidEscape found (offset + width ('"' :: before)))
  | _ =>
    if isNameStart first then
      let name := first :: rest.takeWhile isNameRest
      .ok ⟨.name (String.ofList name), name, rest.dropWhile isNameRest⟩
    else .error (.unexpectedChar first offset)

/-- The raw text and what follows it are shorter than the whole. -/
theorem rawText_length {text value after : List Char} (h : rawText text = some (value, after)) :
    after.length < text.length := by
  fun_induction rawText text generalizing value with
  | case1 => simp at h
  | case2 rest => simp_all
  | case3 c rest _ ih =>
    obtain ⟨⟨value', after'⟩, found, same⟩ := Option.map_eq_some_iff.1 h
    simp only [Prod.mk.injEq] at same
    obtain ⟨-, rfl⟩ := same
    have := ih found
    simp only [List.length_cons]
    omega

private theorem quotedText_extend_ok {spelled : List Char} {meant : Char}
    {inner : Except QuoteFault (List Char × List Char × List Char)}
    {value spelling after : List Char}
    (h : quotedText.extend spelled meant inner = .ok (value, spelling, after)) :
    ∃ value' spelling', inner = .ok (value', spelling', after) ∧ value = meant :: value' ∧
      spelling = spelled ++ spelling' := by
  unfold quotedText.extend at h
  split at h
  · next value' spelling' after' =>
    cases h
    exact ⟨value', spelling', rfl, rfl, rfl⟩
  · cases h
  · cases h

/-- What follows a quoted text is shorter than the whole. -/
theorem quotedText_length {text value spelling after : List Char}
    (h : quotedText text = .ok (value, spelling, after)) : after.length < text.length := by
  fun_induction quotedText text generalizing value spelling with
  | case1 => simp at h
  | case2 rest => simp_all
  | case3 => simp at h
  | case4 found rest bad => simp at h
  | case5 found rest meant good ih =>
    obtain ⟨value', spelling', inner, -, -⟩ := quotedText_extend_ok h
    have := ih inner
    simp only [List.length_cons]
    omega
  | case6 c rest _ _ _ ih =>
    obtain ⟨value', spelling', inner, -, -⟩ := quotedText_extend_ok h
    have := ih inner
    simp only [List.length_cons]
    omega

/-- What follows a lexeme is no longer than what followed its first character. -/
theorem cutAt_length {offset : Nat} {first : Char} {rest : List Char} {cut : Cut}
    (h : cutAt offset first rest = .ok cut) : cut.rest.length ≤ rest.length := by
  unfold cutAt at h
  split at h
  · cases h; simp
  · cases h; simp
  · cases h; simp
  · cases h; simp
  · split at h <;> cases h; simp
  · split at h <;> cases h; simp
  · split at h
    · next found => cases h; have := rawText_length found; simp; omega
    · cases h
  · split at h
    · next found => cases h; have := quotedText_length found; simp; omega
    · cases h
    · cases h
  · split at h
    · cases h; exact (List.dropWhile_sublist isNameRest).length_le
    · cases h

def lexemes (offset : Nat) (text : List Char) : Except RuleError (List Lexeme) :=
  match text with
  | [] => .ok []
  | first :: rest =>
    if isBlank first then lexemes (offset + first.utf8Size) rest
    else match _cut : cutAt offset first rest with
      | .error e => .error e
      | .ok cut =>
        match lexemes (offset + width cut.spelling) cut.rest with
        | .error e => .error e
        | .ok later => .ok (⟨cut.token, offset⟩ :: later)
termination_by text.length
decreasing_by
  · simp
  · have := cutAt_length _cut; simp; omega

def tokenize (rule : String) : Except RuleError (List Lexeme) := lexemes 0 rule.toList

end AliasSync.Rule
