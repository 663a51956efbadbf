import AliasSync.Proofs.HostPolarity
import Mathlib.Data.List.Forall2

/-! What lower case does to the escapes of a pattern. Every backslash stays where it is, but the character it escapes is
lowered like any other, so a pattern keeps its meaning just when nothing it escapes has a small form of its own. -/

namespace AliasSync.Text

/-- The small forms that a character can have in a text. -/
def IsSmallForm (c : Char) (form : List Char) : Prop :=
  if c = 'Σ' then form = ['σ'] ∨ form = ['ς'] else form = smallForm c

variable {c : Char} {form : List Char}

private theorem lowerAfter_cons (before : List Char) (c : Char) (after : List Char) :
    ∃ form, IsSmallForm c form ∧ lowerAfter before (c :: after) = form ++ lowerAfter (c :: before) after := by
  rw [lowerAfter]
  by_cases sigma : c = 'Σ'
  · refine ⟨[sigmaForm before after], ?_, by rw [if_pos sigma]⟩
    simp only [IsSmallForm, sigma, ↓reduceIte, sigmaForm]
    split
    · exact .inr rfl
    · exact .inl rfl
  · refine ⟨smallForm c, ?_, by rw [if_neg sigma]⟩
    simp only [IsSmallForm, sigma, ↓reduceIte]

private theorem ofNat_eq_backslash {n : Nat} (same : Char.ofNat n = '\\') : n = 0x5C := by
  by_cases valid : n.isValidChar
  · rw [Char.ofNat, dif_pos valid] at same
    exact congrArg Char.toNat same
  · rw [Char.ofNat, dif_neg valid] at same
    cases same

private theorem toLower_eq_backslash (same : c.toLower = '\\') : c = '\\' := by
  unfold Char.toLower at same
  split at same
  case isTrue letter =>
    have value : c.val + 32 = 92 := congrArg Char.val same
    have capital : 65 ≤ c.val := letter.1
    grind
  case isFalse => exact same

private theorem shifted_above {n : Nat} {shift : Int} (found : smallFormRows.findSome? (shiftIn n) = some shift) :
    0x5C < (n + shift).toNat := by
  have above : ∀ row ∈ smallFormRows, 0x5C < (row.1 : Int) + row.2.2.2 := by decide +kernel
  obtain ⟨⟨low, high, stride, own⟩, member, shifted⟩ := List.exists_of_findSome?_eq_some found
  have bound := above _ member
  simp only [shiftIn] at shifted bound
  split at shifted
  · cases shifted
    omega
  · cases shifted

/-- Nothing but a backslash has a small form that is one. -/
theorem smallForm_cases (c : Char) :
    (c = 'İ' ∧ smallForm c = ['i', '\u0307']) ∨ ∃ small, smallForm c = [small] ∧ (small = '\\' → c = '\\') := by
  unfold smallForm
  split
  case isTrue => exact .inr ⟨c.toLower, rfl, toLower_eq_backslash⟩
  case isFalse =>
    split
    case isTrue dotted => exact .inl ⟨dotted, rfl⟩
    case isFalse =>
      split
      case h_1 shift found =>
        refine .inr ⟨_, rfl, fun same => ?_⟩
        have above := shifted_above found
        rw [ofNat_eq_backslash same] at above
        cases Nat.lt_irrefl _ above
      case h_2 => exact .inr ⟨c, rfl, id⟩

/-- What a character becomes in lower case, or the first of what it becomes. -/
def Lowers (c lowered : Char) : Prop := ∃ form, IsSmallForm c form ∧ form.head? = some lowered

def IsSmall (c : Char) : Prop := smallForm c = [c]

instance : DecidablePred IsSmall := fun c => inferInstanceAs (Decidable (smallForm c = [c]))

namespace IsSmallForm

private theorem cases (small : IsSmallForm c form) :
    (c = 'Σ' ∧ (form = ['σ'] ∨ form = ['ς'])) ∨ (c ≠ 'Σ' ∧ form = smallForm c) := by
  unfold IsSmallForm at small
  split at small
  case isTrue sigma => exact .inl ⟨sigma, small⟩
  case isFalse other => exact .inr ⟨other, small⟩

private theorem exists_cons (small : IsSmallForm c form) : ∃ first more, form = first :: more ∧ '\\' ∉ more := by
  obtain ⟨-, rfl | rfl⟩ | ⟨-, rfl⟩ := small.cases
  · exact ⟨'σ', [], rfl, List.not_mem_nil⟩
  · exact ⟨'ς', [], rfl, List.not_mem_nil⟩
  · obtain ⟨-, form⟩ | ⟨small, form, -⟩ := smallForm_cases c
    · exact ⟨'i', ['\u0307'], form, by decide⟩
    · exact ⟨small, [], form, List.not_mem_nil⟩

private theorem not_mem (small : IsSmallForm c form) (other : c ≠ '\\') : '\\' ∉ form := by
  obtain ⟨rfl, rfl | rfl⟩ | ⟨-, rfl⟩ := small.cases
  · decide
  · decide
  · obtain ⟨rfl, form⟩ | ⟨small, form, keeps⟩ := smallForm_cases c
    · rw [form]
      decide
    · rw [form, List.mem_singleton]
      exact fun same => other (keeps same.symm)

private theorem of_isSmall (small : IsSmallForm c form) (own : IsSmall c) : form = [c] := by
  obtain ⟨rfl, -⟩ | ⟨-, rfl⟩ := small.cases
  · cases (by decide +kernel : ¬ IsSmall 'Σ') own
  · exact own

private theorem isSmall (small : IsSmallForm c form) (own : form.head? = some c) : IsSmall c := by
  obtain ⟨rfl, rfl | rfl⟩ | ⟨-, rfl⟩ := small.cases
  · cases own
  · cases own
  · obtain ⟨rfl, form⟩ | ⟨small, form, -⟩ := smallForm_cases c
    · rw [form] at own
      cases own
    · rw [form] at own
      rw [IsSmall, form, Option.some.inj own]

end IsSmallForm

end AliasSync.Text

namespace AliasSync.Rule

open AliasSync.Text

/-- The characters of a pattern that a backslash escapes. -/
def escapes : List Char → List Char
  | '\\' :: c :: rest => c :: escapes rest
  | _ :: rest => escapes rest
  | [] => []

/-- The texts differ in nothing but the letter case of characters that are not escaped. -/
inductive Recased : List Char → List Char → Prop where
  | nil : Recased [] []
  | backslash : Recased ['\\'] ['\\']
  | escape (c : Char) {text other} (rest : Recased text other) : Recased ('\\' :: c :: text) ('\\' :: c :: other)
  | literal {c form text other} (plain : c ≠ '\\') (small : IsSmallForm c form) (rest : Recased text other) :
      Recased (c :: text) (form ++ other)

section Escapes

variable {text other front : List Char}

private theorem escapes_append (plain : '\\' ∉ front) (rest : List Char) : escapes (front ++ rest) = escapes rest := by
  induction front with
  | nil => rfl
  | cons c front ih =>
    obtain ⟨own, others⟩ := List.ne_and_not_mem_of_not_mem_cons plain
    rw [List.cons_append, escapes, ih others]
    rintro _ _ rfl
    cases own rfl

private theorem Recased.escapes_eq (recased : Recased text other) : escapes other = escapes text := by
  induction recased with
  | nil | backslash => rfl
  | escape c rest ih => rw [escapes, escapes, ih]
  | @literal c form text other plain small rest ih =>
    have own : escapes ([c] ++ text) = escapes text := escapes_append (by simpa using plain.symm) text
    rw [escapes_append (small.not_mem plain), ih]
    exact own.symm

/-- A character that escapes nothing is plain, or a backslash at the end. -/
theorem plain_or_last {c : Char} (unescaped : ∀ next rest, c = '\\' → text = next :: rest → False) :
    c ≠ '\\' ∨ c :: text = ['\\'] := by
  by_cases plain : c = '\\'
  · refine .inr ?_
    cases text with
    | nil => rw [plain]
    | cons next rest => cases unescaped next rest plain rfl
  · exact .inl plain

private theorem backslash_lowerAfter (before text : List Char) :
    lowerAfter before ('\\' :: text) = '\\' :: lowerAfter ('\\' :: before) text := by
  obtain ⟨form, small, lowered⟩ := lowerAfter_cons before '\\' text
  rw [lowered, small.of_isSmall (by decide +kernel), List.singleton_append]

/-- Each escape has its counterpart, of which it has become a small form. -/
theorem escapes_lowerAfter (before text : List Char) :
    List.Forall₂ Lowers (escapes text) (escapes (lowerAfter before text)) := by
  fun_induction escapes text generalizing before with
  | case1 c rest ih =>
    obtain ⟨form, small, lowered⟩ := lowerAfter_cons ('\\' :: before) c rest
    obtain ⟨first, more, rfl, plain⟩ := small.exists_cons
    rw [backslash_lowerAfter, lowered, List.cons_append, escapes, escapes_append plain]
    exact .cons ⟨_, small, rfl⟩ (ih _)
  | case2 c rest unescaped ih =>
    obtain plain | last := plain_or_last unescaped
    · obtain ⟨form, small, lowered⟩ := lowerAfter_cons before c rest
      rw [lowered, escapes_append (small.not_mem plain)]
      exact ih _
    · cases last
      rw [backslash_lowerAfter]
      exact .nil
  | case3 => exact .nil

private theorem recased_lowerAfter (before : List Char) (kept : ∀ c ∈ escapes text, IsSmall c) :
    Recased text (lowerAfter before text) := by
  fun_induction escapes text generalizing before with
  | case1 c rest ih =>
    obtain ⟨own, others⟩ := List.forall_mem_cons.mp kept
    obtain ⟨form, small, lowered⟩ := lowerAfter_cons ('\\' :: before) c rest
    rw [backslash_lowerAfter, lowered, small.of_isSmall own]
    exact .escape c (ih _ others)
  | case2 c rest unescaped ih =>
    obtain plain | last := plain_or_last unescaped
    · obtain ⟨form, small, lowered⟩ := lowerAfter_cons before c rest
      rw [lowered]
      exact .literal plain small (ih _ kept)
    · cases last
      rw [backslash_lowerAfter]
      exact .backslash
  | case3 => exact .nil

/-- Lower case leaves the escapes alone just when they are small already. -/
theorem recased_lowerAfter_iff (before : List Char) :
    Recased text (lowerAfter before text) ↔ ∀ c ∈ escapes text, IsSmall c := by
  refine ⟨fun recased => ?_, recased_lowerAfter before⟩
  have each := escapes_lowerAfter before text
  rw [recased.escapes_eq, List.forall₂_same] at each
  intro c member
  obtain ⟨form, small, own⟩ := each c member
  exact small.isSmall own

end Escapes

private theorem toList_lowerCase (text : String) : (lowerCase text).toList = lowerAfter [] text.toList :=
    String.toList_ofList

private theorem escapes_lowerCase (text : String) :
    List.Forall₂ Lowers (escapes text.toList) (escapes (lowerCase text).toList) := by
  rw [toList_lowerCase]
  exact escapes_lowerAfter [] text.toList

private theorem forall₂_of_common {relates : α → β → Prop} {first second : List α} {common : List β}
    (own : List.Forall₂ relates first common) (also : List.Forall₂ relates second common) :
    List.Forall₂ (fun a b => ∃ c, relates a c ∧ relates b c) first second := by
  induction own generalizing second with
  | nil =>
    cases also
    exact .nil
  | cons head _ ih =>
    cases also with
    | cons other others => exact .cons ⟨_, head, other⟩ (ih others)

def Expr.patterns (expr : Expr) : List String :=
  (expr.calls.filter fun call => call.matcher = .hostRegexp ∧ call.isNegated = false).flatMap NestedCall.args

private theorem pattern_mem_positive {expr : Expr} {pattern : String} (named : pattern ∈ expr.patterns) :
    ⟨lowerCase pattern, .pattern⟩ ∈ (Predicate.ofExpr expr).hostValues.positive := by
  obtain ⟨⟨matcher, args, negations⟩, chosen, member⟩ := List.mem_flatMap.mp named
  obtain ⟨listed, own⟩ := List.mem_filter.mp chosen
  obtain ⟨rfl, positive⟩ := of_decide_eq_true own
  rw [Predicate.hostValues_ofExpr, HostValues.mem_positive_ofCalls]
  refine ⟨_, List.mem_map_of_mem listed, positive, ?_⟩
  rw [NestedCall.hosts_signed]
  exact List.mem_map_of_mem member

/-- The candidate of a pattern differs from it in nothing but the case of letters that are not escaped just when every
letter that is escaped is small. Patterns have a candidate in common only if what they escape becomes the same. -/
theorem pattern_kept_iff_escapes_small {rule : String} {expr : Expr} (read : parse rule = .ok expr) :
    ∃ found, candidates rule = .ok found ∧
      ∀ pattern ∈ expr.patterns, lowerCase pattern ∉ (Predicate.ofExpr expr).hostValues.negative →
        ⟨lowerCase pattern, .pattern⟩ ∈ found ∧
        (Recased pattern.toList (lowerCase pattern).toList ↔ ∀ c ∈ escapes pattern.toList, IsSmall c) ∧
        List.Forall₂ Lowers (escapes pattern.toList) (escapes (lowerCase pattern).toList) ∧
        ∀ other ∈ expr.patterns, lowerCase other = lowerCase pattern →
          List.Forall₂ (fun c d => ∃ lowered, Lowers c lowered ∧ Lowers d lowered)
            (escapes pattern.toList) (escapes other.toList) := by
  refine ⟨_, by rw [candidates, read, Except.map], fun pattern named allowed => ⟨?_, ?_, ?_, ?_⟩⟩
  · rw [HostValues.mem_candidates_iff]
    exact ⟨if_pos (pattern_mem_positive named), allowed⟩
  · rw [toList_lowerCase]
    exact recased_lowerAfter_iff []
  · exact escapes_lowerCase pattern
  · intro other _ same
    have also := escapes_lowerCase other
    rw [same] at also
    exact forall₂_of_common (escapes_lowerCase pattern) also

/-- A letter in a class of letters, and escapes that are small. -/
theorem pattern_kept_iff_escapes_small_kept :
    let rule := "HostRegexp(`^[A-Z]+\\d\\.B$`)"
    let pattern := "^[A-Z]+\\d\\.B$"
    parse rule = .ok (.call .hostRegexp [pattern]) ∧ lowerCase pattern = "^[a-z]+\\d\\.b$" ∧
      (∃ found, candidates rule = .ok found ∧ ⟨"^[a-z]+\\d\\.b$", .pattern⟩ ∈ found) ∧
      Recased pattern.toList (lowerCase pattern).toList := by
  intro rule pattern
  have derived : Unary (.call .hostRegexp [pattern]) [.name "HostRegexp", .open, .text pattern, .close] 1 :=
    .call (by decide) [pattern]
  have read : parse rule = .ok (.call .hostRegexp [pattern]) :=
    parse_of_tokens (by decide +kernel) (.single (.single derived)) (by decide)
  have lowered : lowerCase pattern = "^[a-z]+\\d\\.b$" := by decide +kernel
  have named : pattern ∈ (Expr.call .hostRegexp [pattern]).patterns := by
    simp [Expr.patterns, Expr.calls, NestedCall.isNegated]
  have allowed : lowerCase pattern ∉ (Predicate.ofExpr (.call .hostRegexp [pattern])).hostValues.negative := by
    decide +kernel
  obtain ⟨found, extracted, each⟩ := pattern_kept_iff_escapes_small read
  obtain ⟨member, kept, -⟩ := each pattern named allowed
  have small : ∀ c ∈ escapes pattern.toList, IsSmall c := by
    have escaped : escapes pattern.toList = ['d', '.'] := by decide +kernel
    rw [escaped, List.forall_mem_cons, List.forall_mem_singleton]
    decide +kernel
  have recased := kept.mpr small
  rw [lowered] at member recased ⊢
  exact ⟨read, rfl, ⟨found, extracted, member⟩, recased⟩

/-- Of two patterns that say the opposite of each other the rule has one candidate, which escapes what the second of
them does. -/
theorem pattern_escape_lost :
    let rule := "HostRegexp(`^\\D+\\.b$`, `^\\d+\\.b$`)"
    let expr : Expr := .call .hostRegexp ["^\\D+\\.b$", "^\\d+\\.b$"]
    parse rule = .ok expr ∧ expr.patterns = ["^\\D+\\.b$", "^\\d+\\.b$"] ∧
      candidates rule = .ok [⟨"^\\d+\\.b$", .pattern⟩] ∧
      escapes "^\\D+\\.b$".toList = ['D', '.'] ∧ escapes "^\\d+\\.b$".toList = ['d', '.'] := by
  intro rule expr
  have derived : Unary expr [.name "HostRegexp", .open, .text "^\\D+\\.b$", .comma, .text "^\\d+\\.b$", .close] 1 :=
    .call (by decide) ["^\\D+\\.b$", "^\\d+\\.b$"]
  have read : parse rule = .ok expr := parse_of_tokens (by decide +kernel) (.single (.single derived)) (by decide)
  refine ⟨read, by simp [expr, Expr.patterns, Expr.calls, NestedCall.isNegated], ?_, rfl, rfl⟩
  rw [candidates, read]
  exact congrArg Except.ok (by decide +kernel)

end AliasSync.Rule
