import AliasSync.Proofs.RuleText
import AliasSync.Rule.Matcher

/-! How tokens are spelled, and that they are read back however they were spelled. -/

namespace AliasSync.Rule

def escape (c : Char) : List Char := if c = '\\' ∨ c = '"' then ['\\', c] else [c]

/-- A text stands between backticks, which it must not contain, or between double quotes. -/
inductive Spells : Token → List Char → Prop where
  | name (name : String) : Spells (.name name) name.toList
  | raw {value : String} (plain : '`' ∉ value.toList) : Spells (.text value) ('`' :: value.toList ++ ['`'])
  | quoted (value : String) : Spells (.text value) ('"' :: value.toList.flatMap escape ++ ['"'])
  | open : Spells .open ['(']
  | close : Spells .close [')']
  | comma : Spells .comma [',']
  | and : Spells .and ['&', '&']
  | or : Spells .or ['|', '|']
  | not : Spells .not ['!']

/-- The text is a spelling of the tokens, with any white space before, between and after them. -/
inductive Written : List Token → List Char → Prop where
  | nil {space} (blank : Blank space) : Written [] space
  | cons {space token spelling tokens text} (blank : Blank space) (spells : Spells token spelling)
      (later : Written tokens text) : Written (token :: tokens) (space ++ (spelling ++ text))

/-- Names are told apart from what follows them when this is a parenthesis, as in a call. -/
inductive Readable : List Token → Prop where
  | nil : Readable []
  | name {name : String} {first : Char} {more : List Char} {tokens : List Token}
      (spelled : name.toList = first :: more)
      (start : isNameStart first = true) (rest : more.all isNameRest = true)
      (later : Readable (.open :: tokens)) : Readable (.name name :: .open :: tokens)
  | sign {token : Token} {tokens : List Token} (sign : ∀ name, token ≠ .name name) (later : Readable tokens) :
      Readable (token :: tokens)

namespace Matcher

private theorem isAlpha_of_toLower {c : Char} (letter : c.toLower.isAlpha = true) : c.isAlpha = true := by
  unfold Char.toLower at letter
  split at letter
  next upper => exact Bool.or_eq_true_iff.mpr (.inl (decide_eq_true upper))
  next => exact letter

/-- In whatever case its letters are, the name of a matcher is spelled as a name. -/
theorem name_spelled {name : String} {matcher : Matcher} (known : folded name = folded matcher.name) :
    ∃ first more, name.toList = first :: more ∧ isNameStart first = true ∧ more.all isNameRest = true := by
  have own : folded matcher.name ≠ [] ∧ (folded matcher.name).all Char.isAlpha = true := by
    cases matcher <;> decide
  rw [← known, folded] at own
  have letters (c : Char) (member : c ∈ name.toList) : c.isAlpha = true :=
    isAlpha_of_toLower (List.all_eq_true.mp own.2 c.toLower (List.mem_map_of_mem member))
  cases spelled : name.toList with
  | nil => cases own.1 (congrArg (List.map Char.toLower) spelled)
  | cons first more =>
    rw [spelled] at letters
    refine ⟨first, more, rfl, ?_, List.all_eq_true.mpr fun c member => ?_⟩
    · rw [isNameStart, letters first List.mem_cons_self, Bool.true_or]
    · rw [isNameRest, Char.isAlphanum, letters c (List.mem_cons_of_mem _ member), Bool.true_or, Bool.true_or]

end Matcher

theorem Written.exists (tokens : List Token) : ∃ text, Written tokens text := by
  induction tokens with
  | nil => exact ⟨[], .nil (by decide)⟩
  | cons token tokens ih =>
    obtain ⟨text, written⟩ := ih
    have spelled : ∃ spelling, Spells token spelling := by
      cases token with
      | text value => exact ⟨_, .quoted value⟩
      | _ => exact ⟨_, by constructor⟩
    obtain ⟨spelling, spells⟩ := spelled
    exact ⟨[] ++ (spelling ++ text), .cons (by decide) spells written⟩

variable {tokens others : List Token} {first : Char} {text : List Char}

theorem Readable.append (readable : Readable tokens) (also : Readable others) : Readable (tokens ++ others) := by
  induction readable with
  | nil => exact also
  | name spelled start rest later ih => exact .name spelled start rest ih
  | sign sign later ih => exact .sign sign ih

private theorem quotes_escape (text : List Char) : Quotes (text.flatMap escape) text := by
  induction text with
  | nil => exact .nil
  | cons c text ih =>
    rw [List.flatMap_cons, escape]
    split
    next special =>
      have meant : Escape c c := by
        obtain rfl | rfl := special <;> constructor
      exact .escape meant ih
    next plain => exact .plain (not_or.mp plain) ih

private theorem Spells.denotes {token : Token} {spelling : List Char} (spells : Spells token spelling)
    (sign : ∀ name, token ≠ .name name) : Denotes spelling token := by
  cases spells with
  | name name => cases sign name rfl
  | @raw value plain =>
    have denotes := Denotes.raw plain
    rwa [String.ofList_toList] at denotes
  | quoted value =>
    have denotes := Denotes.quoted (quotes_escape value.toList)
    rwa [String.ofList_toList] at denotes
  | _ => constructor

private theorem denotes_name {name : String} (spelled : name.toList = first :: text) (start : isNameStart first = true)
    (rest : text.all isNameRest = true) : Denotes name.toList (.name name) := by
  have each (c : Char) (member : c ∈ text) : ContinuesName c := isNameRest_iff.mp (List.all_eq_true.mp rest c member)
  have denotes := Denotes.name (isNameStart_iff.mp start) each
  rwa [← spelled, String.ofList_toList] at denotes

private theorem Written.endsBefore (written : Written (.open :: tokens) text) (token : Token) :
    token.EndsBefore text := by
  cases written with
  | @cons space _ _ _ later blank spells =>
    cases spells
    intro _ _ c head named
    cases space with
    | nil =>
      cases head
      cases isNameRest_iff.mpr named
    | cons white space =>
      cases head
      cases named.not_isBlank.symm.trans (blank c List.mem_cons_self)

/-- However the tokens are spelled, the text is laid out as their lexemes. -/
theorem laid_of_written (offset : Nat) (readable : Readable tokens) (written : Written tokens text) :
    ∃ lexemes, Laid offset lexemes text ∧ lexemes.map Lexeme.token = tokens := by
  induction readable generalizing text offset with
  | nil =>
    cases written with
    | nil blank => exact ⟨[], .nil blank, rfl⟩
  | @name name first more tokens spelled start rest later ih =>
    cases written with
    | @cons space _ _ _ text blank spells written =>
      cases spells
      obtain ⟨lexemes, laid, same⟩ := ih (offset + width space + width name.toList) written
      refine ⟨⟨.name name, offset + width space⟩ :: lexemes, ?_, congrArg _ same⟩
      exact .cons blank rfl (denotes_name spelled start rest) (written.endsBefore _) laid
  | @sign token tokens sign later ih =>
    cases written with
    | @cons space _ spelling _ text blank spells written =>
      obtain ⟨lexemes, laid, same⟩ := ih (offset + width space + width spelling) written
      refine ⟨⟨token, offset + width space⟩ :: lexemes, ?_, congrArg _ same⟩
      exact .cons blank rfl (spells.denotes sign) (fun name named => absurd named (sign name)) laid

theorem tokenize_of_written {rule : String} (readable : Readable tokens) (written : Written tokens rule.toList) :
    ∃ lexemes, tokenize rule = .ok lexemes ∧ lexemes.map Lexeme.token = tokens := by
  obtain ⟨lexemes, laid, same⟩ := laid_of_written 0 readable written
  exact ⟨lexemes, (tokenize_eq_ok_iff rule lexemes).mpr laid, same⟩

end AliasSync.Rule
