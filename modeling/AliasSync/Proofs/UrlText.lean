import AliasSync.Url.Parser
import Mathlib.Data.List.TakeWhile
import Mathlib.Data.Option.Basic

/-! What stands in the parts of a URL that has been read: nothing that would end the part, and nothing that reading
passes over. -/

namespace AliasSync.Url

open AliasSync.Text (cutAtLast apart_of_mem_splitOnP)

variable {c : Char} {text rest : List Char} {host : Host} {scheme : String}

/-- The character stands within a part of a URL: it can be seen, and it separates nothing. -/
def IsInner (c : Char) : Prop := 0x20 < c.toNat ∧ endsAuthority true c = false

instance : DecidablePred IsInner := fun _ => inferInstanceAs (Decidable (_ ∧ _))

theorem IsInner.apart (inner : IsInner c) : isSlash true c = false := by
  have apart := inner.2
  simp only [endsAuthority, Bool.or_eq_false_iff] at apart
  exact apart.1.1

theorem of_not_isControl {motive : Char → Prop} (ascii : ∀ code < 0x7F, motive (Char.ofNat code))
    (printed : isControl c = false) : motive c := by
  simp only [isControl, decide_eq_false_iff_not, not_or] at printed
  have found := ascii c.toNat (by omega)
  rwa [Char.ofNat_toNat] at found

theorem isInner_of_userinfo (kept : inUserinfoSet c = false) : IsInner c := by
  have printed : isControl c = false := by
    simp only [inUserinfoSet, inPathSet, inFragmentSet, Bool.or_eq_false_iff] at kept
    exact kept.1.1.1
  exact of_not_isControl (motive := fun c => inUserinfoSet c = false → IsInner c) (by decide +kernel) printed kept

private theorem isInner_of_path (kept : inPathSet c = false) (within : isSlash true c = false) : IsInner c := by
  have printed : isControl c = false := by
    simp only [inPathSet, inFragmentSet, Bool.or_eq_false_iff] at kept
    exact kept.1.1
  exact of_not_isControl (motive := fun c => inPathSet c = false → isSlash true c = false → IsInner c)
    (by decide +kernel) printed kept within

private theorem isInner_of_domain (allowed : isForbiddenInDomain c = false) : IsInner c := by
  simp only [isForbiddenInDomain, Bool.or_eq_false_iff, decide_eq_false_iff_not] at allowed
  obtain ⟨⟨⟨visible, -⟩, -⟩, apart⟩ := allowed
  refine ⟨Nat.lt_of_not_le visible, ?_⟩
  simp only [endsAuthority, isSlash, Bool.or_eq_false_iff, Bool.and_eq_false_iff, beq_eq_false_iff_ne]
  refine ⟨⟨⟨?_, .inr ?_⟩, ?_⟩, ?_⟩ <;>
    · rintro rfl
      cases apart

def percentMarks : List Char := "%0123456789ABCDEF".toList

theorem mem_percentEncode {encoded : Char → Bool} (member : c ∈ percentEncode encoded text) :
    (c ∈ text ∧ encoded c = false) ∨ c ∈ percentMarks := by
  obtain ⟨source, within, written⟩ := List.mem_flatMap.mp member
  cases kept : encoded source with
  | false =>
    rw [kept, if_neg Bool.false_ne_true, List.mem_singleton] at written
    subst written
    exact .inl ⟨within, kept⟩
  | true =>
    rw [kept, if_pos rfl] at written
    obtain ⟨byte, -, written⟩ := List.mem_flatMap.mp written
    have digit : ∀ n < 16, hexDigit n ∈ percentMarks := by decide
    have high : byte.toNat / 16 < 16 := by have := byte.toNat_lt; omega
    have low : byte.toNat % 16 < 16 := Nat.mod_lt _ (by decide)
    simp only [percentByte, List.mem_cons, List.not_mem_nil, or_false] at written
    rcases written with rfl | rfl | rfl
    · exact .inr (by decide)
    · exact .inr (digit _ high)
    · exact .inr (digit _ low)

private theorem isInner_of_percentMarks : ∀ c ∈ percentMarks, IsInner c := by
  have each : percentMarks.all (fun c => decide (IsInner c)) = true := by decide
  exact fun c mark => of_decide_eq_true (List.all_eq_true.mp each c mark)

theorem mem_toDigits {base n : Nat} (large : 1 < base) (member : c ∈ Nat.toDigits base n) :
    ∃ digit < base, c = Nat.digitChar digit := by
  induction n using Nat.strong_induction_on with
  | _ n ih =>
    rw [Nat.toDigits_eq_if large] at member
    split at member
    case isTrue small => exact ⟨n, small, List.mem_singleton.mp member⟩
    case isFalse big =>
      rcases List.mem_append.mp member with member | member
      · exact ih (n / base) (Nat.div_lt_self (by omega) large) member
      · exact ⟨n % base, Nat.mod_lt _ (by omega), List.mem_singleton.mp member⟩

theorem isInner_of_mem_toDigits {base n : Nat} (large : 1 < base) (small : base ≤ 16)
    (member : c ∈ Nat.toDigits base n) : IsInner c := by
  obtain ⟨digit, within, rfl⟩ := mem_toDigits large member
  have each : ∀ digit < 16, IsInner (Nat.digitChar digit) := by decide
  exact each digit (by omega)

def IsInnerText (text : String) : Prop := ∀ c ∈ text.toList, IsInner c

instance : DecidablePred IsInnerText := fun text => List.decidableBAll IsInner text.toList

theorem IsInnerText.append {first last : String} (inner : IsInnerText first) (also : IsInnerText last) :
    IsInnerText (first ++ last) := by
  intro c member
  rw [String.toList_append] at member
  rcases List.mem_append.mp member with member | member
  · exact inner c member
  · exact also c member

private theorem IsInnerText.intercalate {separator : String} {parts : List String} (inner : IsInnerText separator)
    (each : ∀ part ∈ parts, IsInnerText part) : IsInnerText (separator.intercalate parts) := by
  intro c member
  rw [String.toList_intercalate] at member
  rcases Text.mem_intercalate member with member | ⟨text, within, member⟩
  · exact inner c member
  · obtain ⟨part, among, rfl⟩ := List.mem_map.mp within
    exact each part among c member

private theorem isInnerText_toString (n : Nat) : IsInnerText (toString n) := by
  intro c member
  rw [Nat.toString_eq_repr, Nat.toList_repr] at member
  exact isInner_of_mem_toDigits (by decide) (by decide) member

private theorem isInnerText_ipv4Text (address : Nat) : IsInnerText (ipv4Text address) := by
  refine IsInnerText.intercalate (by decide) fun part within => ?_
  obtain ⟨place, -, rfl⟩ := List.mem_map.mp within
  exact isInnerText_toString _

private theorem isInnerText_ipv6Text (pieces : List Nat) : IsInnerText (ipv6Text pieces) := by
  have joined (part : List Nat) : IsInnerText (":".intercalate (part.map hexText)) := by
    refine IsInnerText.intercalate (by decide) fun text within => ?_
    obtain ⟨piece, -, rfl⟩ := List.mem_map.mp within
    intro c member
    rw [hexText, String.toList_ofList] at member
    exact isInner_of_mem_toDigits (by decide) (by decide) member
  simp only [ipv6Text]
  split
  · exact joined _
  · exact ((joined _).append (by decide)).append (joined _)

private theorem domainName_allowed {bytes : List UInt8} {name : List Char} (read : domainName? bytes = some name) :
    ∀ c ∈ name, isForbiddenInDomain c = false := by
  obtain ⟨text, -, read⟩ := Option.bind_eq_some_iff.mp read
  obtain ⟨unified, -, read⟩ := Option.bind_eq_some_iff.mp read
  obtain ⟨labels, -, read⟩ := Option.bind_eq_some_iff.mp read
  obtain ⟨-, -, read⟩ := Option.bind_eq_some_iff.mp read
  obtain ⟨_, allowed, same⟩ := Option.bind_eq_some_iff.mp read
  rw [← Option.some.inj same]
  simpa using (Option.guard_eq_some' _).mp allowed

/-- A name for a host is not empty, and nothing in it ends it. -/
theorem specialHost_domain {name : String} (found : specialHost text = .ok (.domain name)) :
    name ≠ "" ∧ IsInnerText name := by
  unfold specialHost at found
  split at found
  case h_1 result boxed =>
    subst found
    unfold bracketed? at boxed
    split at boxed
    case h_1 inner =>
      split at boxed
      · split at boxed <;> cases boxed
      · cases boxed
    case h_2 => cases boxed
  case h_2 plain =>
    split at found
    case h_1 => cases found
    case h_2 => cases found
    case h_3 letters some read =>
      split at found
      · split at found <;> cases found
      · cases found
        refine ⟨fun empty => some (by simpa using empty), fun c member => ?_⟩
        · rw [String.toList_ofList] at member
          exact isInner_of_domain (domainName_allowed read c member)

/-- Every host is written with at least one character, and nothing that is written ends it. -/
theorem host_text (found : specialHost text = .ok host) : host.text ≠ "" ∧ IsInnerText host.text := by
  cases host with
  | domain name => exact specialHost_domain found
  | ipv4 address =>
    refine ⟨fun empty => ?_, isInnerText_ipv4Text address⟩
    have letters := congrArg String.toList empty
    simp [Host.text, ipv4Text] at letters
  | ipv6 pieces =>
    refine ⟨fun empty => ?_, ((by decide : IsInnerText "[").append (isInnerText_ipv6Text pieces)).append (by decide)⟩
    have letters := congrArg String.toList empty
    simp [Host.text] at letters

private theorem cutHost_append (inBrackets : Bool) (text : List Char) :
    (cutHost inBrackets text).1 ++ (cutHost inBrackets text).2 = text := by
  fun_induction cutHost inBrackets text with
  | case1 => rfl
  | case2 => rfl
  | case3 inBrackets c rest _ host after cut ih => rw [cut] at ih; exact congrArg (List.cons c) ih

theorem ok_of_bind {step : Except ParseError α} {next : α → Except ParseError β} {result : β}
    (done : (step >>= next) = .ok result) : ∃ value, step = .ok value ∧ next value = .ok result := by
  cases step with
  | error fault => cases done
  | ok value => exact ⟨value, rfl, done⟩

/-- A port that is kept is not the usual one. -/
theorem port?_bounds {port : Nat} (read : port? scheme text = .ok (some port)) :
    port ≤ 65535 ∧ defaultPort? scheme ≠ some port := by
  unfold port? at read
  split at read
  · cases read
  split at read
  · cases read
  split at read
  · cases read
  split at read
  · cases read
  next inRange =>
    have same := Except.ok.inj read
    split at same
    · cases same
    next unusual =>
      cases same
      exact ⟨Nat.le_of_not_lt inRange, unusual⟩

/-- What an authority comes to. Only a backslash leaves something behind it. -/
theorem readAuthority_cases {authority : Authority} {left : List Char} {atEnd : Bool}
    (special : isSpecial scheme = true) (read : readAuthority scheme text atEnd = .ok (authority, left)) :
    (∃ part, specialHost part = .ok authority.host) ∧
      (∃ part, authority.username = String.ofList (percentEncode inUserinfoSet part)) ∧
      (∃ part, authority.password = String.ofList (percentEncode inUserinfoSet part)) ∧
      ('\\' ∉ text → left = []) ∧
      ∀ port, authority.port = some port → port ≤ 65535 ∧ defaultPort? scheme ≠ some port := by
  obtain ⟨userinfo, rest, within, pieces⟩ : ∃ userinfo rest, (∀ c ∈ rest, c ∈ text) ∧
      ((cutAtLast '@' text = none ∧ userinfo = none ∧ rest = text) ∨
        ∃ before, cutAtLast '@' text = some (before, rest) ∧ userinfo = some before) := by
    cases cut : cutAtLast '@' text with
    | none => exact ⟨none, text, fun _ member => member, .inl ⟨rfl, rfl, rfl⟩⟩
    | some pieces =>
      refine ⟨some pieces.1, pieces.2, fun c member => ?_, .inr ⟨pieces.1, rfl, rfl⟩⟩
      rw [Text.eq_append_of_cutAtLast cut]
      exact List.mem_append_right _ (List.mem_cons_of_mem _ member)
  have behind : ∀ c ∈ (cutHost false rest).2, c ∈ text := fun c member => by
    refine within c ?_
    rw [← cutHost_append false rest]
    exact List.mem_append_right _ member
  unfold readAuthority at read
  rw [special] at read
  rcases pieces with ⟨cut, rfl, rfl⟩ | ⟨before, cut, rfl⟩
  all_goals
    rw [cut] at read
    simp only [Bool.true_and, ↓reduceIte] at read
    split at read
    · cases read
    split at read
    · cases read
    obtain ⟨host, found, read⟩ := ok_of_bind read
    split at read
    · cases read
    obtain ⟨port, known, read⟩ := ok_of_bind read
    split at read
    · cases read
    cases read
    refine ⟨⟨_, found⟩, ⟨_, rfl⟩, ⟨_, rfl⟩, fun absent => List.dropWhile_eq_nil_iff.mpr fun c member => ?_,
      fun _ same => port?_bounds (known.trans (congrArg Except.ok same))⟩
    rw [bne_iff_ne]
    rintro rfl
    exact absent (behind _ member)

private theorem goBack_sublist (done : List String) : (goBack done).Sublist done := by
  unfold goBack
  split
  · exact List.Sublist.refl _
  · exact List.dropLast_sublist _

/-- What one part does to the segments: it adds one, or it is nothing or a way back. -/
theorem resolveSegments_cons (done : List String) (part : List Char) (rest : List (List Char)) :
    ∃ next, resolveSegments false done (part :: rest) = resolveSegments false next rest ∧
      (isDoubleDot part = false ∧ isSingleDot part = false ∧
          next = done ++ [String.ofList (percentEncode inPathSet part)] ∨
        part ≠ [] ∧ ∃ kept, kept.Sublist done ∧ next = kept ++ if rest.isEmpty then [""] else []) := by
  rw [resolveSegments]
  cases double : isDoubleDot part with
  | true =>
    refine ⟨_, rfl, .inr ⟨?_, goBack done, goBack_sublist done, rfl⟩⟩
    rintro rfl
    cases double
  | false =>
    cases single : isSingleDot part with
    | true =>
      refine ⟨_, rfl, .inr ⟨?_, done, List.Sublist.refl done, rfl⟩⟩
      rintro rfl
      cases single
    | false => exact ⟨_, rfl, .inl ⟨rfl, rfl, rfl⟩⟩

private theorem resolveSegments_ne_nil {done : List String} {parts : List (List Char)} (some : parts ≠ []) :
    resolveSegments false done parts ≠ [] := by
  induction parts generalizing done with
  | nil => exact absurd rfl some
  | cons part rest ih =>
    obtain ⟨next, same, cases⟩ := resolveSegments_cons done part rest
    rw [same]
    cases rest with
    | cons other rest => exact ih (List.cons_ne_nil _ _)
    | nil => rcases cases with ⟨-, -, rfl⟩ | ⟨-, kept, -, rfl⟩ <;> exact List.append_ne_nil_of_right_ne_nil _ (by simp)

theorem mem_resolveSegments {done : List String} {parts : List (List Char)} {segment : String}
    (member : segment ∈ resolveSegments false done parts) :
    segment ∈ done ∨ segment = "" ∨ ∃ part ∈ parts, isDoubleDot part = false ∧ isSingleDot part = false ∧
      segment = String.ofList (percentEncode inPathSet part) := by
  induction parts generalizing done with
  | nil => exact .inl member
  | cons part rest ih =>
    obtain ⟨next, same, cases⟩ := resolveSegments_cons done part rest
    rw [same] at member
    rcases ih member with member | empty | ⟨other, within, same⟩
    · rcases cases with ⟨forward, onward, rfl⟩ | ⟨-, kept, sublist, rfl⟩
      · rcases List.mem_append.mp member with member | member
        · exact .inl member
        · exact .inr (.inr ⟨part, List.mem_cons_self, forward, onward, List.mem_singleton.mp member⟩)
      · rcases List.mem_append.mp member with member | member
        · exact .inl (sublist.mem member)
        · split at member
          · exact .inr (.inl (List.mem_singleton.mp member))
          · cases member
    · exact .inr (.inl empty)
    · exact .inr (.inr ⟨other, List.mem_cons_of_mem _ within, same⟩)

/-- A path of a special scheme has at least one segment, and nothing in a segment ends it. -/
theorem segmentsOf_inner (text : List Char) :
    segmentsOf true text ≠ [] ∧ ∀ segment ∈ segmentsOf true text, IsInnerText segment := by
  cases text with
  | nil => decide
  | cons c rest =>
    refine ⟨resolveSegments_ne_nil (List.splitOnP_ne_nil _ _), fun segment member => ?_⟩
    rcases mem_resolveSegments member with member | rfl | ⟨part, within, -, -, rfl⟩
    · cases member
    · nofun
    · intro c member
      rw [String.toList_ofList] at member
      rcases mem_percentEncode member with ⟨member, kept⟩ | mark
      · exact isInner_of_path kept (apart_of_mem_splitOnP within c member)
      · exact isInner_of_percentMarks c mark

end AliasSync.Url
