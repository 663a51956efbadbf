import AliasSync.Resolver.Payload
import Mathlib.Data.Option.Basic

/-! Reading back what is written as JSON: every text that is quoted, and the order to add an alias. -/

namespace AliasSync.Json

variable {text rest inner : List Char} {c : Char}

def IsPlain (c : Char) : Prop := c ≠ '"' ∧ c ≠ '\\' ∧ 0x20 ≤ c.toNat

private theorem unit_of_control (control : c.toNat < 0x20) (rest : List Char) :
    unit ('0' :: '0' :: Nat.digitChar (c.toNat / 16) :: Nat.digitChar (c.toNat % 16) :: rest) =
      some (c.toNat, rest) := by
  have read : ∀ code < 0x20,
      Text.number? 16 ['0', '0', Nat.digitChar (code / 16), Nat.digitChar (code % 16)] = some code := by decide
  have digits (third last : Char) : unit ('0' :: '0' :: third :: last :: rest) =
      (Text.number? 16 ['0', '0', third, last]).bind fun code => some (code, rest) := rfl
  rw [digits, read c.toNat control, Option.bind_some]

/-- A character is written as itself, or as a backslash with what it takes to read the character back. -/
theorem escaped_cases (c : Char) :
    (IsPlain c ∧ quote.escaped c = [c]) ∨
      ∃ mark more, quote.escaped c = '\\' :: mark :: more ∧ (∀ other ∈ more, IsPlain other) ∧
        ∀ rest, escape (mark :: (more ++ rest)) = some (some c, rest) := by
  unfold quote.escaped
  by_cases special : c = '"' ∨ c = '\\'
  · rw [if_pos special]
    refine .inr ⟨c, [], rfl, nofun, fun rest => ?_⟩
    rcases special with rfl | rfl <;> rfl
  by_cases backspace : c = '\x08'
  · subst backspace
    exact .inr ⟨'b', [], rfl, nofun, fun _ => rfl⟩
  by_cases formFeed : c = '\x0c'
  · subst formFeed
    exact .inr ⟨'f', [], rfl, nofun, fun _ => rfl⟩
  by_cases lineFeed : c = '\n'
  · subst lineFeed
    exact .inr ⟨'n', [], rfl, nofun, fun _ => rfl⟩
  by_cases carriageReturn : c = '\r'
  · subst carriageReturn
    exact .inr ⟨'r', [], rfl, nofun, fun _ => rfl⟩
  by_cases tab : c = '\t'
  · subst tab
    exact .inr ⟨'t', [], rfl, nofun, fun _ => rfl⟩
  rw [if_neg special, if_neg backspace, if_neg formFeed, if_neg lineFeed, if_neg carriageReturn, if_neg tab]
  by_cases control : c.toNat < 0x20
  · rw [if_pos control]
    refine .inr ⟨'u', _, rfl, ?_, fun rest => ?_⟩
    · have digit : ∀ n < 16, Nat.digitChar n ≠ '"' ∧ Nat.digitChar n ≠ '\\' ∧ 0x20 ≤ (Nat.digitChar n).toNat := by
        decide
      intro other member
      simp only [List.mem_cons, List.not_mem_nil, or_false] at member
      rcases member with rfl | rfl | rfl | rfl
      · exact digit 0 (by decide)
      · exact digit 0 (by decide)
      · exact digit _ (by omega)
      · exact digit _ (by omega)
    · have low : c.toNat < 0xD800 := by omega
      have read := unit_of_control control rest
      simp only [List.cons_append, List.nil_append, escape, read, Option.bind_eq_bind, Option.bind_some, low, true_or,
        ↓reduceIte, Option.pure_def, Char.ofNat_toNat]
  · rw [if_neg control]
    exact .inl ⟨⟨fun quoted => special (.inl quoted), fun escape => special (.inr escape), by omega⟩, rfl⟩

private theorem beforeQuote_plain (plain : IsPlain c) (rest : List Char) :
    beforeQuote (c :: rest) = (beforeQuote rest).map fun (inner, rest) => (c :: inner, rest) := by
  obtain ⟨quote, escape, visible⟩ := plain
  rw [beforeQuote.eq_3 _ _ quote (fun _ _ same _ => escape same), (Option.guard_eq_some' ()).mpr visible]
  cases beforeQuote rest <;> rfl

private theorem beforeQuote_plains (plain : ∀ c ∈ text, IsPlain c) (rest : List Char) :
    beforeQuote (text ++ rest) = (beforeQuote rest).map fun (inner, rest) => (text ++ inner, rest) := by
  induction text with
  | nil => exact Option.map_id.symm ▸ rfl
  | cons c text ih =>
    rw [List.cons_append, beforeQuote_plain (plain c List.mem_cons_self),
      ih fun other member => plain other (List.mem_cons_of_mem _ member), Option.map_map]
    rfl

private theorem beforeQuote_escaped (c : Char) (rest : List Char) :
    beforeQuote (quote.escaped c ++ rest) =
      (beforeQuote rest).map fun (inner, rest) => (quote.escaped c ++ inner, rest) := by
  rcases escaped_cases c with ⟨plain, same⟩ | ⟨mark, more, same, plain, -⟩
  · rw [same]
    exact beforeQuote_plain plain rest
  · rw [same, List.cons_append, List.cons_append, beforeQuote, beforeQuote_plains plain, Option.map_map]
    rfl

private theorem beforeQuote_written (text rest : List Char) :
    beforeQuote (text.flatMap quote.escaped ++ '"' :: rest) = some (text.flatMap quote.escaped, rest) := by
  induction text with
  | nil => rfl
  | cons c text ih => rw [List.flatMap_cons, List.append_assoc, beforeQuote_escaped, ih, Option.map_some]

private theorem unescaped_written {steps : Nat} (enough : (text.flatMap quote.escaped).length ≤ steps) :
    unescaped steps (text.flatMap quote.escaped) = some (some text) := by
  induction text generalizing steps with
  | nil => cases steps <;> rfl
  | cons c text ih =>
    rw [List.flatMap_cons, List.length_append] at enough
    rw [List.flatMap_cons]
    rcases escaped_cases c with ⟨plain, same⟩ | ⟨mark, more, same, -, read⟩
    · obtain ⟨-, escape, -⟩ := plain
      rw [same] at enough ⊢
      cases steps with
      | zero => cases Nat.le_trans (Nat.le_add_right 1 _) enough
      | succ steps =>
        have later := ih (Nat.le_of_add_le_add_left (Nat.add_comm steps 1 ▸ enough))
        rw [List.singleton_append, unescaped.eq_4 _ _ _ escape, later]
        rfl
    · rw [same] at enough ⊢
      cases steps with
      | zero => cases Nat.le_trans (Nat.le_add_right _ _) enough
      | succ steps =>
        have later : unescaped steps (text.flatMap quote.escaped) = some (some text) :=
          ih (by rw [List.length_cons] at enough; omega)
        simp only [List.cons_append, unescaped, read, Option.bind_eq_bind, Option.bind_some, later]
        rfl

private theorem quoted_written (text rest : List Char) :
    quoted (text.flatMap quote.escaped ++ '"' :: rest) = some (some (String.ofList text), rest) := by
  simp only [quoted, beforeQuote_written, Option.bind_eq_bind, Option.bind_some, unescaped_written (Nat.le_refl _)]
  rfl

private theorem toList_quote_append (text : String) (rest : List Char) :
    (quote text).toList ++ rest = '"' :: (text.toList.flatMap quote.escaped ++ '"' :: rest) := by
  rw [quote, String.toList_ofList, List.cons_append, List.cons_append, List.append_assoc]
  rfl

private theorem skipSpace_visible (visible : isSpace c = false) : skipSpace (c :: rest) = c :: rest :=
  List.dropWhile_cons_of_neg (ne_true_of_eq_false visible)

private theorem value_quote (steps : Nat) (text : String) (rest : List Char) :
    value (steps + 1) ((quote text).toList ++ rest) = some (.string text, rest) := by
  rw [toList_quote_append, value, skipSpace_visible rfl]
  simp only [quoted_written, Option.map_some, String.ofList_toList]

def memberText (member : String × String) : String := quote member.1 ++ ":" ++ quote member.2

def textMember (member : String × String) : Option String × Json := (some member.1, .string (some member.2))

private theorem toList_memberText_append (member : String × String) (rest : List Char) :
    (memberText member).toList ++ rest =
      '"' :: (member.1.toList.flatMap quote.escaped ++ '"' :: ':' :: ((quote member.2).toList ++ rest)) := by
  have colon : ":".toList = [':'] := rfl
  rw [memberText, String.toList_append, String.toList_append, colon, List.append_assoc, List.append_assoc,
    toList_quote_append, List.singleton_append]

/-- The last member of an object. -/
theorem members_closed {name : List Char} {found : Json} {steps : Nat} {more : List Char}
    (read : value steps rest = some (found, '\x7d' :: more)) :
    members (steps + 1) ('"' :: (name.flatMap quote.escaped ++ '"' :: ':' :: rest)) =
      some ([(some (String.ofList name), found)], more) := by
  rw [members, skipSpace_visible rfl]
  simp only [quoted_written, Option.bind_eq_bind, Option.bind_some, skipSpace_visible (c := ':') rfl, read,
    skipSpace_visible (c := '\x7d') rfl]
  rfl

/-- A member of an object before others. -/
theorem members_continued {name : List Char} {found : Json} {steps : Nat} {more : List Char}
    (read : value steps rest = some (found, ',' :: more)) :
    members (steps + 1) ('"' :: (name.flatMap quote.escaped ++ '"' :: ':' :: rest)) =
      (members steps more).map fun (later, rest) => ((some (String.ofList name), found) :: later, rest) := by
  rw [members, skipSpace_visible rfl]
  simp only [quoted_written, Option.bind_eq_bind, Option.bind_some, skipSpace_visible (c := ':') rfl, read,
    skipSpace_visible (c := ',') rfl]
  cases members steps more <;> rfl

private theorem members_written {texts : List (String × String)} {steps : Nat} (several : texts ≠ [])
    (enough : texts.length < steps) (rest : List Char) :
    members steps ((",".intercalate (texts.map memberText)).toList ++ '\x7d' :: rest) =
      some (texts.map textMember, rest) := by
  have comma : ",".toList = [','] := rfl
  rw [String.toList_intercalate, comma]
  induction texts generalizing steps with
  | nil => exact absurd rfl several
  | cons member later ih =>
    have positive : 2 ≤ steps := Nat.le_trans (Nat.succ_le_succ (Nat.succ_le_succ (Nat.zero_le _))) enough
    obtain ⟨steps, rfl⟩ := Nat.exists_eq_add_of_le' positive
    cases later with
    | nil =>
      rw [List.map_singleton, List.map_singleton, List.intercalate_singleton, toList_memberText_append,
        members_closed (value_quote ..), String.ofList_toList]
      rfl
    | cons next later =>
      have further := ih (List.cons_ne_nil _ _) (Nat.lt_of_succ_lt_succ enough)
      rw [List.map_cons, List.map_cons] at further
      rw [List.map_cons, List.map_cons, List.map_cons, List.map_cons, List.intercalate_cons_cons, List.append_assoc,
        List.append_assoc, List.singleton_append, toList_memberText_append, members_continued (value_quote ..), further,
        String.ofList_toList]
      rfl

private theorem value_members (steps : Nat) (rest : List Char) :
    value (steps + 1) ('\x7b' :: '"' :: rest) =
      (members steps ('"' :: rest)).map fun (found, rest) => (.object found, rest) := by
  rw [value, skipSpace_visible rfl]
  rfl

/-- An object of texts is read back. -/
theorem value_object {texts : List (String × String)} {steps : Nat} (several : texts ≠ [])
    (enough : texts.length < steps) (rest : List Char) :
    value (steps + 1) ('\x7b' :: ((",".intercalate (texts.map memberText)).toList ++ '\x7d' :: rest)) =
      some (.object (texts.map textMember), rest) := by
  have written := members_written several enough rest
  obtain ⟨more, opened⟩ : ∃ more,
      (",".intercalate (texts.map memberText)).toList ++ '\x7d' :: rest = '"' :: more := by
    cases texts with
    | nil => exact absurd rfl several
    | cons member later =>
      cases later with
      | nil => exact ⟨_, toList_memberText_append member ('\x7d' :: rest)⟩
      | cons next later =>
        rw [List.map_cons, List.map_cons, String.intercalate_cons_cons, String.toList_append, String.toList_append,
          List.append_assoc, List.append_assoc]
        exact ⟨_, toList_memberText_append member _⟩
  rw [opened] at written ⊢
  rw [value_members, written]
  rfl

end AliasSync.Json

namespace AliasSync.Resolver

open AliasSync.Json

def orderTexts (entry : HostAlias) (parent : String) : List (String × String) :=
  [("enabled", "1"), ("host", parent), ("hostname", entry.hostname), ("domain", entry.domain),
    ("description", entry.description)]

private theorem addBody_eq (entry : HostAlias) (parent : String) :
    addBody entry parent =
      "\x7b" ++ quote "alias" ++ ":\x7b" ++ ",".intercalate ((orderTexts entry parent).map memberText) ++ "\x7d\x7d" :=
  rfl

private theorem toList_addBody (entry : HostAlias) (parent : String) :
    (addBody entry parent).toList = '\x7b' :: '"' :: ("alias".toList.flatMap quote.escaped ++ '"' :: ':' ::
      '\x7b' :: ((",".intercalate ((orderTexts entry parent).map memberText)).toList ++ ['\x7d', '\x7d'])) := by
  have opened : "\x7b".toList = ['\x7b'] := rfl
  have named : ":\x7b".toList = [':', '\x7b'] := rfl
  have closed : "\x7d\x7d".toList = ['\x7d', '\x7d'] := rfl
  rw [addBody_eq]
  generalize ",".intercalate ((orderTexts entry parent).map memberText) = inner
  rw [String.toList_append, String.toList_append, String.toList_append, String.toList_append, opened, named, closed,
    List.append_assoc, List.append_assoc, List.append_assoc, toList_quote_append]
  rfl

/-- The order to add an alias is read as it is meant. -/
theorem parse_addBody (entry : HostAlias) (parent : String) :
    Json.parse? (addBody entry parent) =
      some (.object [(some "alias", .object ((orderTexts entry parent).map textMember))]) := by
  have long : 4 ≤ (addBody entry parent).length := by
    rw [← String.length_toList, toList_addBody]
    simp only [List.length_cons, List.length_append, List.length_nil]
    omega
  obtain ⟨steps, bound⟩ : ∃ steps, 2 * (addBody entry parent).length + 2 = steps + 9 :=
    Nat.exists_eq_add_of_le' (by omega)
  have short : (orderTexts entry parent).length < steps + 6 := Nat.le_add_left _ _
  have several : orderTexts entry parent ≠ [] := List.cons_ne_nil _ _
  have inner := value_object several short ['\x7d']
  have whole := value_members (steps + 8) ("alias".toList.flatMap quote.escaped ++ '"' :: ':' ::
      '\x7b' :: ((",".intercalate ((orderTexts entry parent).map memberText)).toList ++ ['\x7d', '\x7d']))
  rw [members_closed inner] at whole
  unfold Json.parse?
  rw [bound, toList_addBody, whole]
  rfl

end AliasSync.Resolver
