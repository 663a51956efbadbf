import AliasSync.Rule.Token
import Mathlib.Data.List.TakeWhile

/-! What the tokenizer makes of a text. The lexemes it finds and the white space around them are the whole text, and
there is no other way to read it. Where it stops, the text before that place can be read, and the rest starts with
something that cannot. -/

namespace AliasSync.Rule

open AliasSync.Text (isBlank isInRanges blankRanges)

def Blank (space : List Char) : Prop := ∀ c ∈ space, isBlank c = true

instance (space : List Char) : Decidable (Blank space) := decidable_of_iff (space.all isBlank = true) List.all_eq_true

def BeginsName (c : Char) : Prop := 'A' ≤ c ∧ c ≤ 'Z' ∨ 'a' ≤ c ∧ c ≤ 'z' ∨ c = '_'

def ContinuesName (c : Char) : Prop := BeginsName c ∨ '0' ≤ c ∧ c ≤ '9'

/-- What a backslash and the first character stand for within double quotes. -/
inductive Escape : Char → Char → Prop where
  | backslash : Escape '\\' '\\'
  | quote : Escape '"' '"'
  | newline : Escape 'n' '\n'
  | tab : Escape 't' '\t'
  | carriage : Escape 'r' '\r'

/-- The first text is what stands within double quotes for the second. -/
inductive Quotes : List Char → List Char → Prop where
  | nil : Quotes [] []
  | plain {c : Char} {spelling value : List Char} (plain : c ≠ '\\' ∧ c ≠ '"') (more : Quotes spelling value) :
      Quotes (c :: spelling) (c :: value)
  | escape {found meant : Char} {spelling value : List Char} (escape : Escape found meant)
      (more : Quotes spelling value) : Quotes ('\\' :: found :: spelling) (meant :: value)

inductive Denotes : List Char → Token → Prop where
  | name {first : Char} {more : List Char} (start : BeginsName first) (rest : ∀ c ∈ more, ContinuesName c) :
      Denotes (first :: more) (.name (.ofList (first :: more)))
  | raw {value : List Char} (plain : '`' ∉ value) : Denotes ('`' :: value ++ ['`']) (.text (.ofList value))
  | quoted {spelling value : List Char} (quotes : Quotes spelling value) :
      Denotes ('"' :: spelling ++ ['"']) (.text (.ofList value))
  | open : Denotes ['('] .open
  | close : Denotes [')'] .close
  | comma : Denotes [','] .comma
  | and : Denotes ['&', '&'] .and
  | or : Denotes ['|', '|'] .or
  | not : Denotes ['!'] .not

/-- A name takes in all of the characters that could belong to it. -/
def Token.EndsBefore (token : Token) (text : List Char) : Prop :=
  ∀ name, token = .name name → ∀ c ∈ text.head?, ¬ ContinuesName c

/-- The text, which starts at the offset, is the lexemes' spellings where the lexemes say, with white space before,
between and after them. -/
inductive Laid : Nat → List Lexeme → List Char → Prop where
  | nil {offset : Nat} {space : List Char} (blank : Blank space) : Laid offset [] space
  | cons {offset : Nat} {space spelling text : List Char} {lexeme : Lexeme} {later : List Lexeme} (blank : Blank space)
      (place : lexeme.offset = offset + width space) (denotes : Denotes spelling lexeme.token)
      (longest : lexeme.token.EndsBefore text) (more : Laid (lexeme.offset + width spelling) later text) :
      Laid offset (lexeme :: later) (space ++ (spelling ++ text))

/-- The text, which starts at the offset, starts with what the error says. An escape is found within a text in double
quotes whose spelling is right up to there. -/
inductive Fault : Nat → List Char → RuleError → Prop where
  | character {offset : Nat} {c : Char} {rest : List Char} (dark : isBlank c = false) (text : c ≠ '`' ∧ c ≠ '"')
      (none : ∀ spelling token after, Denotes spelling token → c :: rest ≠ spelling ++ after) :
      Fault offset (c :: rest) (.unexpectedChar c offset)
  | raw {offset : Nat} {rest : List Char} (unclosed : '`' ∉ rest) :
      Fault offset ('`' :: rest) (.unterminatedText offset)
  | quoted {offset : Nat} {rest spelling value : List Char} (quotes : Quotes spelling value)
      (unclosed : rest = spelling ∨ rest = spelling ++ ['\\']) :
      Fault offset ('"' :: rest) (.unterminatedText offset)
  | escape {offset : Nat} {spelling value rest : List Char} {found : Char} (quotes : Quotes spelling value)
      (unknown : ∀ meant, ¬ Escape found meant) :
      Fault offset ('"' :: spelling ++ '\\' :: found :: rest)
        (.invalidEscape found (offset + width ('"' :: spelling)))

variable {offset : Nat} {c first : Char} {text rest space spelling value after : List Char} {token : Token}
  {cut : Cut} {cause : RuleError} {lexemes : List Lexeme}

theorem isNameStart_iff : isNameStart c = true ↔ BeginsName c := by
  have upper : c.isUpper = true ↔ 'A' ≤ c ∧ c ≤ 'Z' := decide_eq_true_iff
  have lower : c.isLower = true ↔ 'a' ≤ c ∧ c ≤ 'z' :=
    Bool.and_eq_true_iff.trans (and_congr decide_eq_true_iff decide_eq_true_iff)
  have letter : c.isAlpha = true ↔ c.isUpper = true ∨ c.isLower = true := Bool.or_eq_true_iff
  rw [isNameStart, Bool.or_eq_true_iff, letter, upper, lower, beq_iff_eq, or_assoc, BeginsName]

theorem isNameRest_iff : isNameRest c = true ↔ ContinuesName c := by
  have digit : c.isDigit = true ↔ '0' ≤ c ∧ c ≤ '9' :=
    Bool.and_eq_true_iff.trans (and_congr decide_eq_true_iff decide_eq_true_iff)
  have either : c.isAlphanum = true ↔ c.isAlpha = true ∨ c.isDigit = true := Bool.or_eq_true_iff
  rw [ContinuesName, ← isNameStart_iff, ← digit, isNameRest, isNameStart, Bool.or_eq_true_iff, either,
    Bool.or_eq_true_iff, or_right_comm]

private theorem ContinuesName.bounds (named : ContinuesName c) : 48 ≤ c.toNat ∧ c.toNat ≤ 122 := by
  have between {low high : Char} (within : low ≤ c ∧ c ≤ high) : low.toNat ≤ c.toNat ∧ c.toNat ≤ high.toNat := within
  obtain (upper | lower | rfl) | digit := named
  · exact ⟨Nat.le_trans (by decide) (between upper).1, Nat.le_trans (between upper).2 (by decide)⟩
  · exact ⟨Nat.le_trans (by decide) (between lower).1, (between lower).2⟩
  · decide
  · exact ⟨(between digit).1, Nat.le_trans (between digit).2 (by decide)⟩

theorem ContinuesName.not_isBlank (named : ContinuesName c) : isBlank c = false := by
  obtain ⟨low, high⟩ := named.bounds
  simp [isBlank, isInRanges, blankRanges]
  omega

private theorem unescape_eq_some_iff {found meant : Char} : unescape found = some meant ↔ Escape found meant := by
  constructor
  · intro known
    unfold unescape at known
    split at known
    all_goals cases known
    all_goals constructor
  · intro escape
    cases escape <;> rfl

private theorem width_append (text other : List Char) : width (text ++ other) = width text + width other := by
  induction text with
  | nil => rw [List.nil_append, width, Nat.zero_add]
  | cons c text ih => rw [List.cons_append, width, width, ih, Nat.add_assoc]

theorem width_toList (text : String) : width text.toList = text.utf8ByteSize := by
  have (text : List Char) : width text = (String.ofList text).utf8ByteSize := by
    induction text with
    | nil => rfl
    | cons c text ih =>
      rw [width, ih, ← List.singleton_append, String.ofList_append, String.utf8ByteSize_append]
      simp
  rw [this, String.ofList_toList]

private theorem rawText_append (plain : '`' ∉ text) : rawText (text ++ '`' :: after) = some (text, after) := by
  induction text with
  | nil => rfl
  | cons c text ih =>
    obtain ⟨apart, plain⟩ := not_or.mp (mt List.mem_cons.mpr plain)
    rw [List.cons_append, rawText, ih plain]
    · rfl
    · exact fun same => apart same.symm

private theorem rawText_eq_some (found : rawText text = some (value, after)) :
    '`' ∉ value ∧ text = value ++ '`' :: after := by
  fun_induction rawText text generalizing value with
  | case1 => cases found
  | case2 rest =>
    cases found
    exact ⟨List.not_mem_nil, rfl⟩
  | case3 c rest apart ih =>
    obtain ⟨⟨inner, later⟩, found, same⟩ := Option.map_eq_some_iff.mp found
    cases same
    obtain ⟨plain, same⟩ := ih found
    refine ⟨?_, congrArg (c :: ·) same⟩
    intro member
    obtain here | there := List.mem_cons.mp member
    · exact apart here.symm
    · exact plain there

private theorem rawText_eq_none (missing : rawText text = none) : '`' ∉ text := by
  fun_induction rawText text with
  | case1 => exact List.not_mem_nil
  | case2 => cases missing
  | case3 c rest apart ih =>
    intro member
    obtain here | there := List.mem_cons.mp member
    · exact apart here.symm
    · exact ih (Option.map_eq_none_iff.mp missing) there

inductive QuotedReading : List Char → Except QuoteFault (List Char × List Char × List Char) → Prop where
  | closed {spelling value after : List Char} (quotes : Quotes spelling value) :
      QuotedReading (spelling ++ '"' :: after) (.ok (value, spelling ++ ['"'], after))
  | unclosed {text spelling value : List Char} (quotes : Quotes spelling value)
      (ends : text = spelling ∨ text = spelling ++ ['\\']) : QuotedReading text (.error .unclosed)
  | escape {spelling value rest : List Char} {found : Char} (quotes : Quotes spelling value)
      (unknown : ∀ meant, ¬ Escape found meant) :
      QuotedReading (spelling ++ '\\' :: found :: rest) (.error (.escape found spelling))

private theorem QuotedReading.extend {result : Except QuoteFault (List Char × List Char × List Char)}
    {spelled : List Char}
    {meant : Char} (reading : QuotedReading text result)
    (step : ∀ {spelling value}, Quotes spelling value → Quotes (spelled ++ spelling) (meant :: value)) :
    QuotedReading (spelled ++ text) (quotedText.extend spelled meant result) := by
  cases reading with
  | closed quotes =>
    rw [quotedText.extend, ← List.append_assoc, ← List.append_assoc]
    exact .closed (step quotes)
  | unclosed quotes ends =>
    refine .unclosed (step quotes) ?_
    obtain rfl | rfl := ends
    · exact .inl rfl
    · exact .inr (List.append_assoc ..).symm
  | escape quotes unknown =>
    rw [quotedText.extend, ← List.append_assoc]
    exact .escape (step quotes) unknown

private theorem quotedText_reads (text : List Char) : QuotedReading text (quotedText text) := by
  fun_induction quotedText text with
  | case1 => exact .unclosed .nil (.inl rfl)
  | case2 rest => exact .closed .nil
  | case3 => exact .unclosed .nil (.inr rfl)
  | case4 found rest unknown =>
    refine .escape .nil ?_
    intro meant escape
    cases unknown.symm.trans (unescape_eq_some_iff.mpr escape)
  | case5 found rest meant known ih =>
    have step {spelling value : List Char} (quotes : Quotes spelling value) :
        Quotes (['\\', found] ++ spelling) (meant :: value) := .escape (unescape_eq_some_iff.mp known) quotes
    exact ih.extend step
  | case6 c rest quote last escaped ih =>
    have slash : c ≠ '\\' := by
      intro slash
      cases rest with
      | nil => exact last slash rfl
      | cons found rest => exact escaped found rest slash rfl
    have step {spelling value : List Char} (quotes : Quotes spelling value) :
        Quotes ([c] ++ spelling) (c :: value) := .plain ⟨slash, quote⟩ quotes
    exact ih.extend step

private theorem quotedText_append (quotes : Quotes spelling value) :
    quotedText (spelling ++ '"' :: after) = .ok (value, spelling ++ ['"'], after) := by
  induction quotes with
  | nil => rfl
  | plain plain _ ih =>
    rw [List.cons_append, quotedText, ih]
    · rfl
    · exact plain.2
    · exact fun same _ => plain.1 same
    · exact fun _ _ same _ => plain.1 same
  | escape escape _ ih =>
    rw [List.cons_append, List.cons_append, quotedText, unescape_eq_some_iff.mpr escape]
    simp only [ih]
    rfl

private theorem cutAt_name (offset : Nat) (start : BeginsName first) (rest : List Char) : cutAt offset first rest =
    .ok ⟨.name (.ofList (first :: rest.takeWhile isNameRest)), first :: rest.takeWhile isNameRest,
      rest.dropWhile isNameRest⟩ := by
  have named := isNameStart_iff.mpr start
  unfold cutAt
  split
  case h_9 => rw [if_pos named]
  all_goals cases named

/-- A spelling is cut off as it is, a name only when it ends there. -/
theorem Denotes.cutAt_append (denotes : Denotes spelling token) (offset : Nat) (longest : token.EndsBefore after) :
    ∃ first more, spelling = first :: more ∧ isBlank first = false ∧
      cutAt offset first (more ++ after) = .ok ⟨token, spelling, after⟩ := by
  cases denotes with
  | @name first more start named =>
    refine ⟨first, more, rfl, ContinuesName.not_isBlank (.inl start), ?_⟩
    have each (c : Char) (member : c ∈ more) : isNameRest c = true := isNameRest_iff.mpr (named c member)
    have apart (c : Char) (head : c ∈ after.head?) : isNameRest c = false :=
      Bool.eq_false_iff.mpr fun more => longest _ rfl c head (isNameRest_iff.mp more)
    have ends : after.takeWhile isNameRest = [] ∧ after.dropWhile isNameRest = after := by
      cases after with
      | nil => exact ⟨rfl, rfl⟩
      | cons c after => simp [apart c rfl]
    rw [cutAt_name offset start, List.takeWhile_append_of_pos each, List.dropWhile_append_of_pos each, ends.1, ends.2,
      List.append_nil]
  | @raw value plain =>
    refine ⟨'`', value ++ ['`'], rfl, rfl, ?_⟩
    simp only [cutAt, List.append_assoc, List.cons_append, List.nil_append, rawText_append plain]
  | @quoted spelling value quotes =>
    refine ⟨'"', spelling ++ ['"'], rfl, rfl, ?_⟩
    simp only [cutAt, List.append_assoc, List.cons_append, List.nil_append, quotedText_append quotes]
  | _ => exact ⟨_, _, rfl, rfl, rfl⟩

private theorem Denotes.cutAt_ok (denotes : Denotes spelling token) (offset : Nat)
    (starts : first :: rest = spelling ++ after) : ∃ cut, cutAt offset first rest = .ok cut := by
  by_cases named : ∃ name, token = .name name
  · obtain ⟨name, rfl⟩ := named
    cases denotes with
    | name start =>
      cases starts
      exact ⟨_, cutAt_name offset start _⟩
  · have longest : token.EndsBefore after := fun name same => absurd ⟨name, same⟩ named
    obtain ⟨front, more, rfl, -, cut⟩ := denotes.cutAt_append offset longest
    cases starts
    exact ⟨_, cut⟩

inductive CutReading (offset : Nat) (text : List Char) : Except RuleError Cut → Prop where
  | cut {cut : Cut} (whole : text = cut.spelling ++ cut.rest)
      (denotes : Denotes cut.spelling cut.token) (longest : cut.token.EndsBefore cut.rest) :
      CutReading offset text (.ok cut)
  | fault {cause : RuleError} (fault : Fault offset text cause) : CutReading offset text (.error cause)

private theorem CutReading.sign (whole : text = spelling ++ after) (denotes : Denotes spelling token)
    (sign : ∀ name, token ≠ .name name) : CutReading offset text (.ok ⟨token, spelling, after⟩) :=
  .cut whole denotes fun name same => absurd same (sign name)

private theorem CutReading.name (start : BeginsName first) : CutReading offset (first :: rest)
    (.ok ⟨.name (.ofList (first :: rest.takeWhile isNameRest)), first :: rest.takeWhile isNameRest,
      rest.dropWhile isNameRest⟩) := by
  refine .cut (congrArg (first :: ·) List.takeWhile_append_dropWhile.symm) (.name start ?_) ?_
  · intro c member
    exact isNameRest_iff.mp (List.mem_takeWhile_imp member)
  · intro name _ c head named
    have ends := List.head?_dropWhile_not isNameRest rest
    rw [Option.mem_def.mp head] at ends
    simp [isNameRest_iff.mpr named] at ends

private theorem cutAt_reads (offset : Nat) (rest : List Char) (dark : isBlank first = false) :
    CutReading offset (first :: rest) (cutAt offset first rest) := by
  -- a token at the front would have been cut off
  have stuck (failed : cutAt offset first rest = .error (.unexpectedChar first offset))
      (text : first ≠ '`' ∧ first ≠ '"') : CutReading offset (first :: rest) (.error (.unexpectedChar first offset)) := by
    refine .fault (.character dark text ?_)
    intro spelling token after denotes starts
    obtain ⟨cut, found⟩ := denotes.cutAt_ok offset starts
    cases failed.symm.trans found
  revert stuck
  unfold cutAt
  split <;> intro stuck
  · exact .sign rfl .open nofun
  · exact .sign rfl .close nofun
  · exact .sign rfl .comma nofun
  · exact .sign rfl .not nofun
  · revert stuck
    split <;> intro stuck
    · exact .sign rfl .and nofun
    · exact stuck rfl (by decide)
  · revert stuck
    split <;> intro stuck
    · exact .sign rfl .or nofun
    · exact stuck rfl (by decide)
  · split
    next value after read =>
      obtain ⟨plain, rfl⟩ := rawText_eq_some read
      exact .sign (by simp) (.raw plain) nofun
    next read => exact .fault (.raw (rawText_eq_none read))
  · have reading := quotedText_reads rest
    split
    next value spelling after read =>
      rw [read] at reading
      cases reading with
      | closed quotes => exact .sign (by simp) (.quoted quotes) nofun
    next read =>
      rw [read] at reading
      cases reading with
      | unclosed quotes ends => exact .fault (.quoted quotes ends)
    next found before read =>
      rw [read] at reading
      cases reading with
      | escape quotes unknown => exact .fault (.escape quotes unknown)
  next raw quoted =>
    split
    next start => exact .name (isNameStart_iff.mp start)
    next start => exact stuck (if_neg start) ⟨raw, quoted⟩

private theorem cutAt_denotes (dark : isBlank first = false) (found : cutAt offset first rest = .ok cut) :
    first :: rest = cut.spelling ++ cut.rest ∧ Denotes cut.spelling cut.token ∧ cut.token.EndsBefore cut.rest := by
  have reading := cutAt_reads offset rest dark
  rw [found] at reading
  cases reading with
  | cut whole denotes longest => exact ⟨whole, denotes, longest⟩

private theorem cutAt_fault (dark : isBlank first = false) (failed : cutAt offset first rest = .error cause) :
    Fault offset (first :: rest) cause := by
  have reading := cutAt_reads offset rest dark
  rw [failed] at reading
  cases reading with
  | fault fault => exact fault

private theorem lexemes_blank (blank : Blank space) :
    Rule.lexemes offset (space ++ text) = Rule.lexemes (offset + width space) text := by
  induction space generalizing offset with
  | nil => rfl
  | cons c space ih =>
    have white : isBlank c = true := blank c List.mem_cons_self
    have more : Blank space := fun other member => blank other (List.mem_cons_of_mem _ member)
    rw [List.cons_append, Rule.lexemes, if_pos white, ih more, width, Nat.add_assoc]

private theorem lexemes_cut {later : List Lexeme} (dark : isBlank first = false)
    (front : cutAt offset first rest = .ok cut)
    (following : Rule.lexemes (offset + width cut.spelling) cut.rest = .ok later) :
    Rule.lexemes offset (first :: rest) = .ok (⟨cut.token, offset⟩ :: later) := by
  rw [Rule.lexemes, if_neg (by simp [dark])]
  split
  case h_1 failed => cases front.symm.trans failed
  case h_2 other found =>
    cases front.symm.trans found
    rw [following]

private theorem Token.EndsBefore.of_append (longest : token.EndsBefore (text ++ after)) : token.EndsBefore text := by
  intro name named c head
  apply longest name named c
  rw [List.head?_append, Option.mem_def.mp head]
  rfl

private theorem Laid.blank (white : isBlank c = true) (laid : Laid (offset + c.utf8Size) lexemes text) :
    Laid offset lexemes (c :: text) := by
  cases laid with
  | nil blank => exact .nil (List.forall_mem_cons.mpr ⟨white, blank⟩)
  | cons blank place denotes longest more =>
    rw [← List.cons_append]
    refine .cons (List.forall_mem_cons.mpr ⟨white, blank⟩) ?_ denotes longest more
    rw [place, width, Nat.add_assoc]

private theorem Laid.lexeme {later : List Lexeme} (denotes : Denotes spelling token) (longest : token.EndsBefore text)
    (more : Laid (offset + width spelling) later text) : Laid offset (⟨token, offset⟩ :: later) (spelling ++ text) :=
  have nothing : Blank [] := nofun
  .cons nothing rfl denotes longest more

inductive TextReading (offset : Nat) (text : List Char) : Except RuleError (List Lexeme) → Prop where
  | laid {lexemes : List Lexeme} (laid : Laid offset lexemes text) : TextReading offset text (.ok lexemes)
  | fault {front back : List Char} {before : List Lexeme} {cause : RuleError} (whole : text = front ++ back)
      (laid : Laid offset before front) (fault : Fault (offset + width front) back cause) :
      TextReading offset text (.error cause)

private theorem TextReading.blank {result : Except RuleError (List Lexeme)} (white : isBlank c = true)
    (reading : TextReading (offset + c.utf8Size) text result) : TextReading offset (c :: text) result := by
  cases reading with
  | laid laid => exact .laid (laid.blank white)
  | fault whole laid fault =>
    refine .fault (congrArg (c :: ·) whole) (laid.blank white) ?_
    rwa [width, ← Nat.add_assoc]

private theorem TextReading.later_fault (denotes : Denotes spelling token) (longest : token.EndsBefore text)
    (reading : TextReading (offset + width spelling) text (.error cause)) :
    TextReading offset (spelling ++ text) (.error cause) := by
  cases reading with
  | @fault front back _ _ whole laid fault =>
    rw [whole] at longest ⊢
    refine .fault (List.append_assoc spelling front back).symm (.lexeme denotes longest.of_append laid) ?_
    rwa [width_append, ← Nat.add_assoc]

private theorem lexemes_reads (offset : Nat) (text : List Char) :
    TextReading offset text (Rule.lexemes offset text) := by
  -- both outcomes at once: what stands before a fault of the rest is laid out as well
  fun_induction Rule.lexemes offset text with
  | case1 => exact .laid (.nil nofun)
  | case2 offset c rest white ih => exact ih.blank white
  | case3 offset first rest dark cause found =>
    have nothing : Laid offset [] [] := .nil nofun
    exact .fault rfl nothing (cutAt_fault (Bool.eq_false_iff.mpr dark) found)
  | case4 offset first rest dark cut found cause following ih =>
    obtain ⟨whole, denotes, longest⟩ := cutAt_denotes (Bool.eq_false_iff.mpr dark) found
    rw [following] at ih
    rw [whole]
    exact ih.later_fault denotes longest
  | case5 offset first rest dark cut found later following ih =>
    obtain ⟨whole, denotes, longest⟩ := cutAt_denotes (Bool.eq_false_iff.mpr dark) found
    rw [following] at ih
    rw [whole]
    cases ih with
    | laid laid => exact .laid (.lexeme denotes longest laid)

private theorem Laid.lexemes_eq (laid : Laid offset lexemes text) : Rule.lexemes offset text = .ok lexemes := by
  induction laid with
  | @nil offset space blank => rw [← List.append_nil space, lexemes_blank blank, Rule.lexemes]
  | @cons offset space spelling text lexeme later blank place denotes longest more ih =>
    obtain ⟨first, rest, rfl, dark, cut⟩ := denotes.cutAt_append lexeme.offset longest
    rw [lexemes_blank blank, ← place]
    exact lexemes_cut dark cut ih

theorem tokenize_eq_ok_iff (rule : String) (lexemes : List Lexeme) :
    tokenize rule = .ok lexemes ↔ Laid 0 lexemes rule.toList := by
  constructor
  · intro read
    have reading := lexemes_reads 0 rule.toList
    rw [← tokenize, read] at reading
    cases reading with
    | laid laid => exact laid
  · exact Laid.lexemes_eq

/-- A spelling alone is read as its token. -/
theorem Denotes.tokenize_eq (denotes : Denotes spelling token) : tokenize (.ofList spelling) = .ok [⟨token, 0⟩] := by
  rw [tokenize_eq_ok_iff, String.toList_ofList, ← List.append_nil spelling]
  exact .lexeme denotes nofun (.nil nofun)

theorem Denotes.width_pos (denotes : Denotes spelling token) : 0 < width spelling := by
  have ends : token.EndsBefore [] := nofun
  obtain ⟨first, more, rfl, -⟩ := denotes.cutAt_append 0 ends
  exact Nat.lt_of_lt_of_le first.utf8Size_pos (Nat.le_add_right ..)

private theorem Laid.offset_le (laid : Laid offset lexemes text) : ∀ lexeme ∈ lexemes, offset ≤ lexeme.offset := by
  induction laid with
  | nil => exact nofun
  | cons blank place denotes longest more ih =>
    rw [List.forall_mem_cons]
    refine ⟨by omega, fun later member => ?_⟩
    have := ih later member
    omega

theorem Laid.ascending (laid : Laid offset lexemes text) :
    lexemes.Pairwise fun earlier later => earlier.offset < later.offset := by
  induction laid with
  | nil => exact .nil
  | cons blank place denotes longest more ih =>
    refine .cons (fun later member => ?_) ih
    have := more.offset_le later member
    have := denotes.width_pos
    omega

private theorem Laid.source (laid : Laid offset lexemes text) {lexeme : Lexeme} (member : lexeme ∈ lexemes) :
    ∃ front spelling back, text = front ++ (spelling ++ back) ∧ lexeme.offset = offset + width front ∧
      Denotes spelling lexeme.token := by
  induction laid with
  | nil => cases member
  | @cons offset space spelling text found later blank place denotes longest more ih =>
    obtain rfl | member := List.mem_cons.mp member
    · exact ⟨space, spelling, text, rfl, place, denotes⟩
    · obtain ⟨front, own, back, rfl, there, denotes⟩ := ih member
      refine ⟨space ++ (spelling ++ front), own, back, by simp only [List.append_assoc], ?_, denotes⟩
      rw [there, place, width_append, width_append, Nat.add_assoc, Nat.add_assoc]

/-- The source text of a lexeme stands in the rule where the lexeme says. -/
theorem source_of_tokenize {rule : String} (read : tokenize rule = .ok lexemes) {lexeme : Lexeme}
    (member : lexeme ∈ lexemes) : ∃ front source back, rule = front ++ (source ++ back) ∧
      lexeme.offset = front.utf8ByteSize ∧ Denotes source.toList lexeme.token := by
  obtain ⟨front, source, back, whole, place, denotes⟩ := ((tokenize_eq_ok_iff rule lexemes).mp read).source member
  refine ⟨.ofList front, .ofList source, .ofList back, ?_, ?_, ?_⟩
  · rw [← String.ofList_append, ← String.ofList_append, ← whole, String.ofList_toList]
  · rw [place, Nat.zero_add, ← width_toList, String.toList_ofList]
  · rwa [String.toList_ofList]

private theorem fault_of_tokenize {rule : String} (failed : tokenize rule = .error cause) :
    ∃ front back, rule = front ++ back ∧ (∃ before, tokenize front = .ok before) ∧
      Fault front.utf8ByteSize back.toList cause := by
  have reading := lexemes_reads 0 rule.toList
  rw [← tokenize, failed] at reading
  cases reading with
  | @fault front back before _ whole laid fault =>
    refine ⟨.ofList front, .ofList back, ?_, ⟨before, ?_⟩, ?_⟩
    · rw [← String.ofList_append, ← whole, String.ofList_toList]
    · rw [tokenize_eq_ok_iff, String.toList_ofList]
      exact laid
    · rwa [← width_toList, String.toList_ofList, String.toList_ofList, ← Nat.zero_add (width front)]

/-- A rule that can be read is its lexemes and white space, and each of them starts where it says and can be read alone.
Of a rule that cannot, the text before the place of the error can, and the error stands there. -/
theorem tokenize_is_lossless (rule : String) :
    (∀ lexemes, tokenize rule = .ok lexemes ↔ Laid 0 lexemes rule.toList) ∧
      (∀ lexemes, tokenize rule = .ok lexemes →
        lexemes.Pairwise (fun earlier later => earlier.offset < later.offset) ∧
          ∀ lexeme ∈ lexemes, String.Pos.Raw.IsValid rule ⟨lexeme.offset⟩ ∧
            ∃ front source back, rule = front ++ (source ++ back) ∧ lexeme.offset = front.utf8ByteSize ∧
              Denotes source.toList lexeme.token) ∧
      (∀ source token, Denotes source.toList token → tokenize source = .ok [⟨token, 0⟩]) ∧
      ∀ cause, tokenize rule = .error cause → ∃ front back, rule = front ++ back ∧
        (∃ before, tokenize front = .ok before) ∧ Fault front.utf8ByteSize back.toList cause := by
  refine ⟨tokenize_eq_ok_iff rule, ?_, ?_, ?_⟩
  · intro lexemes read
    refine ⟨((tokenize_eq_ok_iff rule lexemes).mp read).ascending, ?_⟩
    intro lexeme member
    obtain ⟨front, source, back, whole, place, denotes⟩ := source_of_tokenize read member
    refine ⟨?_, front, source, back, whole, place, denotes⟩
    rw [String.Pos.Raw.isValid_iff_exists_append, place]
    exact ⟨front, source ++ back, whole, rfl⟩
  · intro source token denotes
    have alone := denotes.tokenize_eq
    rwa [String.ofList_toList] at alone
  · intro cause failed
    exact fault_of_tokenize failed

/-- The accented letters take two bytes each. -/
theorem tokenize_is_lossless_accented :
    let rule := "!Host(`é`)&& \"\\té\""
    let broken := "`é` \"é\\q\""
    let lexemes : List Lexeme :=
      [⟨.not, 0⟩, ⟨.name "Host", 1⟩, ⟨.open, 5⟩, ⟨.text "é", 6⟩, ⟨.close, 10⟩, ⟨.and, 11⟩, ⟨.text "\té", 14⟩]
    tokenize rule = .ok lexemes ∧ Laid 0 lexemes rule.toList ∧ String.Pos.Raw.IsValid rule ⟨10⟩ ∧
      tokenize "`é`" = .ok [⟨.text "é", 0⟩] ∧
      tokenize broken = .error (.invalidEscape 'q' 8) ∧ ∃ front back, broken = front ++ back ∧
        (∃ before, tokenize front = .ok before) ∧ Fault front.utf8ByteSize back.toList (.invalidEscape 'q' 8) := by
  intro rule broken lexemes
  have read : tokenize rule = .ok lexemes := by decide +kernel
  have failed : tokenize broken = .error (.invalidEscape 'q' 8) := by decide +kernel
  have source : Denotes "`é`".toList (.text "é") := by
    have plain : '`' ∉ ['é'] := by decide
    exact Denotes.raw plain
  obtain ⟨laid, places, alone, -⟩ := tokenize_is_lossless rule
  obtain ⟨-, -, -, fault⟩ := tokenize_is_lossless broken
  obtain ⟨-, each⟩ := places lexemes read
  exact ⟨read, (laid lexemes).mp read, (each ⟨.close, 10⟩ (by decide)).1, alone _ _ source, failed, fault _ failed⟩

end AliasSync.Rule
