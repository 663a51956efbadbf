import AliasSync.Proofs.DomainNames
import AliasSync.Proofs.UrlText

/-! Hosts that are read again: an address as it is written denotes itself, and so does a domain name whose labels can
be read. -/

namespace AliasSync

namespace Text

variable {base n : Nat}

private theorem digit?_digitChar {digit : Nat} (small : base ≤ 16) (within : digit < base) :
    digit? base (Nat.digitChar digit) = some digit := by
  have each : ∀ base ≤ 16, ∀ digit < base, digit? base (Nat.digitChar digit) = some digit := by decide
  exact each base small digit within

theorem number?_toDigits (large : 1 < base) (small : base ≤ 16) : number? base (Nat.toDigits base n) = some n := by
  have read : ∃ digits, List.Forall₂ (digit? base · = some ·) (Nat.toDigits base n) digits ∧
      digits.foldl (fun value digit => value * base + digit) 0 = n := by
    induction n using Nat.strongRecOn with
    | _ n ih =>
      rw [Nat.toDigits_eq_if large]
      split
      next within =>
        refine ⟨[n], .cons (digit?_digitChar small within) .nil, ?_⟩
        rw [List.foldl_cons, List.foldl_nil, Nat.zero_mul, Nat.zero_add]
      next beyond =>
        obtain ⟨digits, read, value⟩ := ih (n / base) (Nat.div_lt_self (by omega) large)
        have last := digit?_digitChar small (Nat.mod_lt n (by omega))
        refine ⟨digits ++ [n % base], List.rel_append read (.cons last .nil), ?_⟩
        rw [List.foldl_append, value, List.foldl_cons, List.foldl_nil, Nat.mul_comm]
        exact Nat.div_add_mod n base
  obtain ⟨digits, read, value⟩ := read
  have filled : (Nat.toDigits base n).isEmpty = false := by simp [Nat.toDigits_ne_nil]
  rw [number?, filled, if_neg Bool.false_ne_true, mapM_eq_some.mpr read, Option.map_some, value]

private theorem number?_lt {text : List Char} (read : number? base text = some n) : n < base ^ text.length := by
  rw [number?] at read
  split at read
  · cases read
  obtain ⟨digits, known, rfl⟩ := Option.map_eq_some_iff.mp read
  have bounded : ∀ {text : List Char} {digits : List Nat}, List.Forall₂ (digit? base · = some ·) text digits →
      ∀ value, digits.foldl (fun value digit => value * base + digit) value < (value + 1) * base ^ text.length := by
    intro text digits known
    induction known with
    | nil => simp
    | @cons c digit text digits first _ ih =>
      intro value
      have small : digit < base := of_decide_eq_true (Option.filter_eq_some_iff.mp first).2
      rw [List.foldl_cons, List.length_cons, Nat.pow_succ']
      refine Nat.lt_of_lt_of_le (ih _) ?_
      rw [← Nat.mul_assoc]
      refine Nat.mul_le_mul_right _ ?_
      rw [Nat.add_one_mul]
      omega
  simpa using bounded (mapM_eq_some.mp known) 0

private theorem codeRanges_ofList (letters : List Char) : codeRanges (String.ofList letters) =
    (((letters.splitOn '\n').flatMap (List.splitOn ' ')).filter (!·.isEmpty)).map codeRange := by
  rw [codeRanges, tableParts, String.toList_ofList]

end Text

namespace Url

open Text (number?)

variable {c : Char} {text : List Char} {host : Host}

set_option maxRecDepth 8000 in
private theorem beyond_of_rightToLeft : ∀ range ∈ rightToLeftRanges, 0x80 ≤ range.1 := by
  have read : rightToLeftRanges = _ := Text.codeRanges_ofList _
  rw [read]
  decide +kernel

private theorem beyond_of_arabicNumber : ∀ range ∈ arabicNumberRanges, 0x80 ≤ range.1 := by
  have read : arabicNumberRanges = _ := Text.codeRanges_ofList _
  rw [read]
  decide +kernel

private theorem turns_ascii (ascii : c.toNat < 0x80) : (Direction.ofChar c).turns = false := by
  have outside {ranges : List (Nat × Nat)} (beyond : ∀ range ∈ ranges, 0x80 ≤ range.1) :
      Text.isInRanges ranges c.toNat = false := by
    refine List.any_eq_false.mpr fun range member => ?_
    have := beyond range member
    simp only [decide_eq_true_eq]
    omega
  rw [Direction.ofChar, outside beyond_of_rightToLeft, outside beyond_of_arabicNumber]
  simp only [Bool.false_eq_true, if_false]
  repeat' split
  all_goals rfl

private theorem isSettledChar_of_isDigit (digit : c.isDigit = true) : IsSettledChar c := by
  have ascii : c.toNat < 0x80 := Nat.lt_of_le_of_lt (Char.isDigit_iff_toNat.mp digit).2 (by decide)
  refine ⟨ascii, ?_⟩
  exact Text.of_ascii (motive := fun c => c.isDigit = true → isForbiddenInDomain c = false) (by decide +kernel) ascii
    digit

/-- Numbers between dots are a domain name as they are written. -/
theorem domainOfText?_digits {parts : List (List Char)} (some : parts ≠ [])
    (digits : ∀ part ∈ parts, ∀ c ∈ part, c.isDigit = true) :
    domainOfText? (['.'].intercalate parts) = .some (['.'].intercalate parts) := by
  have undotted : ∀ part ∈ parts, '.' ∉ part := fun part within dot => by
    have digit := digits part within '.' dot
    cases digit
  have settled : ∀ c ∈ ['.'].intercalate parts, IsSettledChar c := by
    intro c member
    rcases Text.mem_intercalate member with mark | ⟨part, within, member⟩
    · rw [List.mem_singleton.mp mark]
      decide
    · exact isSettledChar_of_isDigit (digits part within c member)
  have label : ∀ part ∈ parts, label? part = Option.some ⟨part, part⟩ := by
    intro part within
    have unmarked : ¬ encodedMark.isPrefixOf part = true := fun marked => by
      have digit := digits part within 'x' ((List.isPrefixOf_iff_prefix.mp marked).subset List.mem_cons_self)
      cases digit
    have ascii : isAscii part = true := List.all_eq_true.mpr fun c member =>
      decide_eq_true (isSettledChar_of_isDigit (digits part within c member)).1
    rw [label?, if_neg unmarked, if_pos ascii]
  refine domainOfText?_eq_some.mpr ⟨parts.map fun part => ⟨part, part⟩, ?_, ?_, ?_, fun c member => (settled c member).2⟩
  · refine ⟨_, unifiedText?_settled settled, ?_⟩
    rw [List.splitOn_intercalate '.' undotted some, List.forall₂_map_right_iff, List.forall₂_same]
    exact label
  · have shown : (parts.map fun part => (⟨part, part⟩ : Label)).map Label.shown = parts := by
      rw [List.map_map]
      exact List.map_id _
    have level : (parts.map (·.map Direction.ofChar)).any (·.any Direction.turns) = false := by
      refine List.any_eq_false.mpr fun directions member => ne_true_of_eq_false ?_
      obtain ⟨part, within, rfl⟩ := List.mem_map.mp member
      refine List.any_eq_false.mpr fun direction member => ne_true_of_eq_false ?_
      obtain ⟨c, known, rfl⟩ := List.mem_map.mp member
      have ascii := (isSettledChar_of_isDigit (digits part within c known)).1
      exact turns_ascii ascii
    rw [shown, directionsFit, level]
    rfl
  · rw [List.map_map]
    exact congrArg _ (List.map_id _)

/-- Bytes in front of a number that fills the rest make no more than their places hold. -/
theorem foldl_places {bytes : List Nat} (small : bytes.all (· < 256) = true) (last place : Nat)
    (room : place + bytes.length ≤ 4) :
    (bytes.zipIdx place).foldl (fun address (number, index) => address + number * Nat.pow 256 (3 - index)) last +
      256 ^ (4 - place - bytes.length) ≤ last + 256 ^ (4 - place) := by
  induction bytes generalizing last place with
  | nil => exact Nat.le_refl _
  | cons byte bytes ih =>
    rw [List.all_cons, Bool.and_eq_true, decide_eq_true_eq] at small
    rw [List.length_cons] at room ⊢
    rw [List.zipIdx_cons, List.foldl_cons]
    have rest := ih small.2 (last + byte * Nat.pow 256 (3 - place)) (place + 1) (by omega)
    have left : 4 - (place + 1) - bytes.length = 4 - place - (bytes.length + 1) := by omega
    have here : 4 - (place + 1) = 3 - place := by omega
    have whole : 4 - place = 3 - place + 1 := by omega
    rw [left, here] at rest
    refine Nat.le_trans rest ?_
    calc last + byte * 256 ^ (3 - place) + 256 ^ (3 - place)
        = last + (byte + 1) * 256 ^ (3 - place) := by rw [Nat.add_assoc, Nat.add_one_mul]
      _ ≤ last + 256 * 256 ^ (3 - place) := Nat.add_le_add_left (Nat.mul_le_mul_right _ small.1) _
      _ = last + 256 ^ (4 - place) := by rw [whole, Nat.pow_succ, Nat.mul_comm]

/-- The number that bytes make in front of one that fills the rest. -/
private def addressOf (leading : List Nat) (last : Nat) : Nat :=
  leading.zipIdx.foldl (fun address (number, index) => address + number * Nat.pow 256 (3 - index)) last

private theorem ipv4?_eq_some {address : Nat} : ipv4? text = some address ↔
    ∃ leading last, (dottedParts text).mapM ipv4Number? = some (leading ++ [last]) ∧ leading.length ≤ 3 ∧
      last < Nat.pow 256 (4 - leading.length) ∧ leading.all (· < 256) = true ∧ addressOf leading last = address := by
  constructor
  · intro read
    obtain ⟨_, few, read⟩ := Option.bind_eq_some_iff.mp read
    obtain ⟨numbers, known, read⟩ := Option.bind_eq_some_iff.mp read
    obtain ⟨last, final, read⟩ := Option.bind_eq_some_iff.mp read
    obtain ⟨_, room, read⟩ := Option.bind_eq_some_iff.mp read
    obtain ⟨_, bytes, same⟩ := Option.bind_eq_some_iff.mp read
    have split : numbers = numbers.dropLast ++ [last] := (List.dropLast_append_getLast? last final).symm
    replace few : (dottedParts text).length ≤ 4 := (Option.guard_eq_some' _).mp few
    rw [(mapM_eq_some.mp known).length_eq] at few
    refine ⟨numbers.dropLast, last, known.trans (congrArg some split), ?_, (Option.guard_eq_some' _).mp room,
      (Option.guard_eq_some' _).mp bytes, Option.some.inj same⟩
    rw [List.length_dropLast]
    omega
  · rintro ⟨leading, last, known, few, room, bytes, rfl⟩
    have size : (dottedParts text).length ≤ 4 := by
      rw [(mapM_eq_some.mp known).length_eq, List.length_append, List.length_singleton]
      omega
    have holds {fact : Prop} [Decidable fact] (true : fact) : (guard fact : Option Unit) = some () := if_pos true
    simp only [ipv4?, holds size, known, List.getLast?_concat, List.dropLast_concat, holds bytes, holds room,
      Option.bind_eq_bind, Option.bind_some]
    rfl

private theorem ipv4?_lt {address : Nat} (read : ipv4? text = some address) : address < 256 ^ 4 := by
  obtain ⟨leading, last, -, few, room, bytes, rfl⟩ := ipv4?_eq_some.mp read
  have total := foldl_places bytes last 0 (by omega)
  rw [addressOf]
  refine Nat.lt_of_add_lt_add_right (Nat.lt_of_le_of_lt total ?_)
  rw [Nat.sub_zero, Nat.add_comm]
  exact Nat.add_lt_add_left room _

private theorem ipv4Text_letters (address : Nat) : (ipv4Text address).toList =
    ['.'].intercalate ([3, 2, 1, 0].map fun place => Nat.toDigits 10 (address / Nat.pow 256 place % 256)) := by
  rw [ipv4Text, String.toList_intercalate, List.map_map]
  refine congrArg _ (List.map_congr_left fun place _ => ?_)
  rw [Function.comp_apply, Nat.toString_eq_repr, Nat.toList_repr]

private theorem ipv4Number?_toDigits {byte : Nat} (small : byte < 256) : ipv4Number?
    (Nat.toDigits 10 byte) = some byte := by
  have each : ∀ byte < 256, ipv4Number? (Nat.toDigits 10 byte) = some byte := by decide +kernel
  exact each byte small

private theorem bracketed?_settled (settled : ∀ c ∈ text, IsSettledChar c) : bracketed? text = none := by
  unfold bracketed?
  split
  next inner =>
    have kept := (settled '[' List.mem_cons_self).2
    cases kept
  next => rfl

/-- An address of four bytes is read again as it is written. -/
theorem ipv4_again {address : Nat} (small : address < 256 ^ 4) :
    specialHost (ipv4Text address).toList = .ok (.ipv4 address) := by
  have bytes (place : Nat) : address / Nat.pow 256 place % 256 < 256 := Nat.mod_lt _ (by decide)
  obtain ⟨texts, parts⟩ : ∃ texts, texts =
      [3, 2, 1, 0].map fun place => Nat.toDigits 10 (address / Nat.pow 256 place % 256) := ⟨_, rfl⟩
  have digits : ∀ part ∈ texts, ∀ c ∈ part, c.isDigit = true := by
    rw [parts]
    intro part within
    obtain ⟨place, -, rfl⟩ := List.mem_map.mp within
    exact fun c => Nat.isDigit_of_mem_toDigits (by decide) (by decide)
  have undotted : ∀ part ∈ texts, '.' ∉ part := fun part within dot => by
    have digit := digits part within '.' dot
    cases digit
  have some : texts ≠ [] := by
    rw [parts]
    exact List.cons_ne_nil _ _
  have last : texts.getLast? = .some (Nat.toDigits 10 (address / Nat.pow 256 0 % 256)) := by
    rw [parts]
    rfl
  have filled : Nat.toDigits 10 (address / Nat.pow 256 0 % 256) ≠ [] := Nat.toDigits_ne_nil
  have dotted : dottedParts (['.'].intercalate texts) = texts := by
    rw [dottedParts, List.splitOn_intercalate '.' undotted some, last]
    simp
  have number : endsInNumber (['.'].intercalate texts) = true := by
    have all := List.all_eq_true.mpr (digits _ (List.mem_of_getLast? last))
    rw [endsInNumber, dotted, last]
    simp only [all, List.isEmpty_eq_false_iff.mpr filled, Bool.not_false, Bool.and_true, Bool.true_or]
  have numbers : texts.mapM ipv4Number? =
      .some ([3, 2, 1, 0].map fun place => address / Nat.pow 256 place % 256) := by
    rw [mapM_eq_some, parts, List.forall₂_map_left_iff, List.forall₂_map_right_iff, List.forall₂_same]
    exact fun place _ => ipv4Number?_toDigits (bytes place)
  have places : address / 256 ^ 0 % 256 + address / 256 ^ 3 % 256 * 256 ^ 3 + address / 256 ^ 2 % 256 * 256 ^ 2 +
      address / 256 ^ 1 % 256 * 256 ^ 1 = address := by
    simp only [Nat.reducePow] at small ⊢
    omega
  have read : ipv4? (['.'].intercalate texts) = .some address := by
    rw [← dotted] at numbers
    refine ipv4?_eq_some.mpr ⟨[3, 2, 1].map fun place => address / Nat.pow 256 place % 256, _, numbers, Nat.le_refl 3,
      bytes 0, List.all_eq_true.mpr fun byte member => ?_, places⟩
    obtain ⟨place, -, rfl⟩ := List.mem_map.mp member
    exact decide_eq_true (bytes place)
  have begun : ['.'].intercalate texts ≠ [] := by
    intro empty
    have split := List.splitOn_intercalate '.' undotted some
    rw [empty] at split
    rw [← split] at last
    exact filled (Option.some.inj last).symm
  have settled : ∀ c ∈ ['.'].intercalate texts, IsSettledChar c := by
    intro c member
    rcases Text.mem_intercalate member with mark | ⟨part, within, member⟩
    · rw [List.mem_singleton.mp mark]
      decide
    · exact isSettledChar_of_isDigit (digits part within c member)
  rw [ipv4Text_letters, ← parts, specialHost, bracketed?_settled settled]
  dsimp only
  rw [domainName?_settled settled, domainOfText?_digits some digits]
  obtain ⟨first, rest, begins⟩ := List.exists_cons_of_ne_nil begun
  rw [begins] at number read ⊢
  dsimp only
  rw [if_pos number, read]

structure IsPieces (pieces : List Nat) : Prop where
  eight : pieces.length = 8
  small : ∀ piece ∈ pieces, piece < 16 ^ 4

private theorem ipv6Piece?_lt {piece : Nat} (read : ipv6Piece? text = some piece) : piece < 16 ^ 4 := by
  obtain ⟨_, short, read⟩ := Option.bind_eq_some_iff.mp read
  exact Nat.lt_of_lt_of_le (Text.number?_lt read) (Nat.pow_le_pow_right (by decide) ((Option.guard_eq_some' _).mp short))

private theorem embeddedIpv4?_lt {pieces : List Nat} (read : embeddedIpv4? text = some pieces) :
    ∀ piece ∈ pieces, piece < 16 ^ 4 := by
  obtain ⟨bytes, known, read⟩ := Option.bind_eq_some_iff.mp read
  have small : ∀ byte ∈ bytes, byte < 256 := by
    intro byte member
    obtain ⟨part, -, known⟩ := exists_of_forall₂ (mapM_eq_some.mp known) byte member
    obtain ⟨value, -, known⟩ := Option.bind_eq_some_iff.mp known
    obtain ⟨_, small, known⟩ := Option.bind_eq_some_iff.mp known
    obtain ⟨_, -, same⟩ := Option.bind_eq_some_iff.mp known
    exact Option.some.inj same ▸ (Option.guard_eq_some' _).mp small
  split at read
  next a b c d =>
    cases read
    simp only [List.forall_mem_cons] at small ⊢
    exact ⟨by omega, by omega, nofun⟩
  next => cases read

private theorem ipv6Pieces?_lt {tail : Bool} {pieces : List Nat} (read : ipv6Pieces? tail text = some pieces) :
    ∀ piece ∈ pieces, piece < 16 ^ 4 := by
  have each {groups : List (List Char)} {pieces : List Nat} (read : groups.mapM ipv6Piece? = some pieces) :
      ∀ piece ∈ pieces, piece < 16 ^ 4 := by
    intro piece member
    obtain ⟨group, -, read⟩ := exists_of_forall₂ (mapM_eq_some.mp read) piece member
    exact ipv6Piece?_lt read
  unfold ipv6Pieces? at read
  split at read
  · cases read
    nofun
  dsimp only at read
  split at read
  · cases read
  split at read
  · obtain ⟨front, known, read⟩ := Option.bind_eq_some_iff.mp read
    obtain ⟨final, embedded, same⟩ := Option.bind_eq_some_iff.mp read
    cases same
    exact List.forall_mem_append.mpr ⟨each known, embeddedIpv4?_lt embedded⟩
  · exact each read

private theorem isPieces_of_ipv6? {pieces : List Nat} (read : ipv6? text = some pieces) : IsPieces pieces := by
  unfold ipv6? at read
  split at read
  · obtain ⟨found, known, read⟩ := Option.bind_eq_some_iff.mp read
    obtain ⟨_, eight, same⟩ := Option.bind_eq_some_iff.mp read
    cases same
    exact ⟨(Option.guard_eq_some' _).mp eight, ipv6Pieces?_lt known⟩
  · obtain ⟨first, known, read⟩ := Option.bind_eq_some_iff.mp read
    obtain ⟨last, final, read⟩ := Option.bind_eq_some_iff.mp read
    obtain ⟨_, room, same⟩ := Option.bind_eq_some_iff.mp read
    cases same
    replace room := (Option.guard_eq_some' _).mp room
    constructor
    · simp only [List.length_append, List.length_replicate]
      omega
    · refine List.forall_mem_append.mpr ⟨List.forall_mem_append.mpr ⟨ipv6Pieces?_lt known, ?_⟩, ipv6Pieces?_lt final⟩
      intro piece member
      rw [List.eq_of_mem_replicate member]
      decide

private def pieceLetters (pieces : List Nat) : List Char := [':'].intercalate (pieces.map (Nat.toDigits 16))

private theorem pieceLetters_undivided (pieces : List Nat) :
    ∀ part ∈ pieces.map (Nat.toDigits 16), part ≠ [] ∧ ∀ c ∈ part, c ≠ ':' ∧ c ≠ '.' := by
  intro part within
  obtain ⟨piece, -, rfl⟩ := List.mem_map.mp within
  refine ⟨Nat.toDigits_ne_nil, fun c member => ?_⟩
  obtain ⟨digit, small, rfl⟩ := mem_toDigits (by decide) member
  have each : ∀ digit < 16, Nat.digitChar digit ≠ ':' ∧ Nat.digitChar digit ≠ '.' := by decide
  exact each digit small

private theorem toList_pieces (pieces : List Nat) :
    (":".intercalate (pieces.map hexText)).toList = pieceLetters pieces := by
  rw [String.toList_intercalate, List.map_map, pieceLetters]
  exact congrArg _ (List.map_congr_left fun piece _ => String.toList_ofList)

private theorem ipv6Pieces?_letters (tail : Bool) {pieces : List Nat} (small : ∀ piece ∈ pieces, piece < 16 ^ 4) :
    ipv6Pieces? tail (pieceLetters pieces) = some pieces := by
  have undivided := pieceLetters_undivided pieces
  rcases pieces.eq_nil_or_concat with rfl | ⟨init, last, same⟩
  · rfl
  rw [List.concat_eq_append] at same
  have some : pieces.map (Nat.toDigits 16) ≠ [] := by
    rw [same]
    simp
  have groups : (pieceLetters pieces).splitOn ':' = pieces.map (Nat.toDigits 16) :=
    List.splitOn_intercalate ':' (fun part within colon => ((undivided part within).2 ':' colon).1 rfl) some
  have final : (pieces.map (Nat.toDigits 16)).getLast? = .some (Nat.toDigits 16 last) := by
    rw [same, List.map_append]
    exact List.getLast?_concat
  have filled : (pieceLetters pieces).isEmpty = false := by
    refine List.isEmpty_eq_false_iff.mpr fun empty => ?_
    rw [empty] at groups
    rw [← groups] at final
    exact Nat.toDigits_ne_nil (Option.some.inj final).symm
  have plain : (Nat.toDigits 16 last).contains '.' = false := by
    refine eq_false_of_ne_true fun dot => ?_
    exact ((undivided _ (List.mem_of_getLast? final)).2 '.' (List.contains_iff_mem.mp dot)).2 rfl
  have read : (pieces.map (Nat.toDigits 16)).mapM ipv6Piece? = .some pieces := by
    rw [mapM_eq_some, List.forall₂_map_left_iff, List.forall₂_same]
    intro piece member
    have short : (Nat.toDigits 16 piece).length ≤ 4 :=
      (Nat.length_toDigits_le_iff (by decide) (by decide)).mpr (small piece member)
    rw [ipv6Piece?, Text.number?_toDigits (by decide) (by decide)]
    exact congrArg (Option.bind · fun _ => .some piece) (if_pos short)
  rw [ipv6Pieces?, filled, groups]
  simp only [Bool.false_eq_true, if_false, final, plain, Bool.and_false, read]

private theorem cutAtGap_append {part : List Char} (apart : ∀ c ∈ part, c ≠ ':') (rest : List Char) :
    cutAtGap (part ++ rest) = (cutAtGap rest).map fun (before, after) => (part ++ before, after) := by
  induction part with
  | nil => simp
  | cons c part ih =>
    have other := apart c List.mem_cons_self
    rw [List.cons_append, cutAtGap, ih fun d member => apart d (List.mem_cons_of_mem _ member), Option.map_map]
    · rfl
    · exact fun _ same => absurd same other

/-- There is no double colon within pieces between colons. -/
theorem cutAtGap_join {parts : List (List Char)} (undivided : ∀ part ∈ parts, part ≠ [] ∧ ∀ c ∈ part, c ≠ ':')
    (rest : List Char) : cutAtGap ([':'].intercalate parts ++ rest) =
      (cutAtGap rest).map fun (before, after) => ([':'].intercalate parts ++ before, after) := by
  induction parts with
  | nil => simp
  | cons part parts ih =>
    have apart := (undivided part List.mem_cons_self).2
    cases parts with
    | nil =>
      rw [List.intercalate_singleton]
      exact cutAtGap_append apart rest
    | cons next others =>
      have later := ih fun other member => undivided other (List.mem_cons_of_mem _ member)
      obtain ⟨first, more, begins, other⟩ :
          ∃ first more, [':'].intercalate (next :: others) ++ rest = first :: more ∧ first ≠ ':' := by
        obtain ⟨filled, apart⟩ := undivided next (List.mem_cons_of_mem _ List.mem_cons_self)
        obtain ⟨first, letters, rfl⟩ := List.exists_cons_of_ne_nil filled
        refine ⟨first, ?_⟩
        cases others <;> exact ⟨_, rfl, apart first List.mem_cons_self⟩
      have single : cutAtGap (':' :: ([':'].intercalate (next :: others) ++ rest)) =
          (cutAtGap ([':'].intercalate (next :: others) ++ rest)).map
            fun (before, after) => (':' :: before, after) := by
        rw [begins, cutAtGap]
        exact fun _ _ same => absurd (List.cons.inj same).1 other
      rw [List.intercalate_cons_cons, List.append_assoc, List.append_assoc, cutAtGap_append apart,
        List.singleton_append, single, later, Option.map_map, Option.map_map]
      refine congrArg (Option.map · _) (funext fun found => ?_)
      obtain ⟨before, after⟩ := found
      simp only [Function.comp_apply, List.append_assoc, List.cons_append, List.nil_append]

/-- The run of zeros that is left out lies within the pieces. -/
theorem longestZeroRun_zeros (pieces : List Nat) :
    (longestZeroRun pieces).2 ≤ zeroRun (pieces.drop (longestZeroRun pieces).1) := by
  have kept (indices : List Nat) (best : Nat × Nat) (zeros : best.2 ≤ zeroRun (pieces.drop best.1)) :
      let found := indices.foldl (fun (start, length) index =>
        let run := zeroRun (pieces.drop index)
        if length < run then (index, run) else (start, length)) best
      found.2 ≤ zeroRun (pieces.drop found.1) := by
    induction indices generalizing best with
    | nil => exact zeros
    | cons index indices ih =>
      refine ih _ ?_
      dsimp only
      split
      · exact Nat.le_refl _
      · exact zeros
  exact kept (List.range pieces.length) (0, 0) (Nat.zero_le _)

private theorem take_zeroRun {pieces : List Nat} {length : Nat} (zeros : length ≤ zeroRun pieces) :
    pieces.take length = List.replicate length 0 := by
  rw [zeroRun] at zeros
  have short := Nat.le_trans zeros (List.takeWhile_prefix (· == 0)).length_le
  refine List.eq_replicate_iff.mpr ⟨by rw [List.length_take]; omega, fun piece member => ?_⟩
  rw [← List.takeWhile_append_dropWhile (p := (· == 0)) (l := pieces), List.take_append_of_le_length zeros] at member
  have zero : (piece == 0) = true := List.mem_takeWhile_imp (p := (· == 0)) ((List.take_sublist _ _).subset member)
  exact beq_iff_eq.mp zero

/-- An address of eight pieces is read again as it is written. -/
theorem ipv6_again {pieces : List Nat} (sound : IsPieces pieces) : ipv6? (ipv6Text pieces).toList = some pieces := by
  have zeros := longestZeroRun_zeros pieces
  have gap (part : List Nat) (rest : List Char) : cutAtGap (pieceLetters part ++ rest) =
      (cutAtGap rest).map fun (before, after) => (pieceLetters part ++ before, after) :=
    cutAtGap_join (fun group within => (pieceLetters_undivided part group within).imp_right fun each c member =>
      (each c member).1) rest
  rw [ipv6Text]
  generalize longestZeroRun pieces = run at zeros ⊢
  obtain ⟨start, length⟩ := run
  dsimp only at zeros ⊢
  split
  next =>
    -- No run of zeros is worth leaving out.
    have none : cutAtGap (pieceLetters pieces) = none := by
      simpa [cutAtGap] using gap pieces []
    rw [toList_pieces, ipv6?, none]
    simp only [ipv6Pieces?_letters true sound.small, Option.bind_eq_bind, Option.bind_some]
    exact congrArg (Option.bind · fun _ => some pieces) (if_pos sound.eight)
  next long =>
    -- The zeros that are left out are as many as there are pieces missing on both sides of the gap.
    have within : start + length ≤ 8 := by
      have short := Nat.le_trans zeros (List.takeWhile_prefix (· == 0)).length_le
      rw [List.length_drop, sound.eight] at short
      omega
    have whole : pieces = pieces.take start ++ List.replicate length 0 ++ pieces.drop (start + length) := by
      rw [← take_zeroRun zeros, List.append_assoc, ← List.drop_drop, List.take_append_drop, List.take_append_drop]
    have cut : cutAtGap (pieceLetters (pieces.take start) ++ ':' :: ':' :: pieceLetters (pieces.drop (start + length))) =
        some (pieceLetters (pieces.take start), pieceLetters (pieces.drop (start + length))) := by
      refine (gap _ _).trans ?_
      simp [cutAtGap, pieceLetters]
    have spelled : (":".intercalate ((pieces.take start).map hexText) ++ "::" ++
        ":".intercalate ((pieces.drop (start + length)).map hexText)).toList =
          pieceLetters (pieces.take start) ++ ':' :: ':' :: pieceLetters (pieces.drop (start + length)) := by
      rw [String.toList_append, String.toList_append, toList_pieces, toList_pieces, List.append_assoc]
      rfl
    have first : ipv6Pieces? false (pieceLetters (pieces.take start)) = some (pieces.take start) :=
      ipv6Pieces?_letters false fun piece member => sound.small piece ((List.take_sublist _ _).subset member)
    have last : ipv6Pieces? true (pieceLetters (pieces.drop (start + length))) = some (pieces.drop (start + length)) :=
      ipv6Pieces?_letters true fun piece member => sound.small piece ((List.drop_sublist _ _).subset member)
    have missing : 8 - (pieces.take start).length - (pieces.drop (start + length)).length = length := by
      rw [List.length_take, List.length_drop, sound.eight]
      omega
    have room : (pieces.take start).length + (pieces.drop (start + length)).length ≤ 7 := by
      rw [List.length_take, List.length_drop, sound.eight]
      omega
    rw [spelled, ipv6?, cut]
    simp only [first, last, Option.bind_eq_bind, Option.bind_some, missing, ← whole]
    exact congrArg (Option.bind · fun _ => some pieces) (if_pos room)

private theorem mem_ipv6Text {pieces : List Nat} (member : c ∈ (ipv6Text pieces).toList) : c ≠ ']' ∧ c ≠ '@' := by
  have piece {part : List Nat} (member : c ∈ pieceLetters part) : c ≠ ']' ∧ c ≠ '@' := by
    rcases Text.mem_intercalate member with mark | ⟨text, within, member⟩
    · rw [List.mem_singleton.mp mark]
      decide
    · obtain ⟨piece, -, rfl⟩ := List.mem_map.mp within
      obtain ⟨digit, small, rfl⟩ := mem_toDigits (by decide) member
      have each : ∀ digit < 16, Nat.digitChar digit ≠ ']' ∧ Nat.digitChar digit ≠ '@' := by decide
      exact each digit small
  rw [ipv6Text] at member
  dsimp only at member
  split at member
  · exact piece (toList_pieces _ ▸ member)
  · rw [String.toList_append, String.toList_append, toList_pieces, toList_pieces] at member
    rcases List.mem_append.mp member with member | member
    · rcases List.mem_append.mp member with member | colon
      · exact piece member
      · have each : "::".toList.all (fun c => decide (c ≠ ']' ∧ c ≠ '@')) = true := by decide
        exact of_decide_eq_true (List.all_eq_true.mp each c colon)
    · exact piece member

def Host.IsReadable : Host → Prop
  | .domain name => HasReadableLabels name.toList
  | _ => True

instance : DecidablePred Host.IsReadable
  | .domain name => inferInstanceAs (Decidable (HasReadableLabels name.toList))
  | .ipv4 _ | .ipv6 _ => inferInstanceAs (Decidable True)

private theorem specialHost_cases (found : specialHost text = .ok host) :
    (∃ pieces, host = .ipv6 pieces ∧ IsPieces pieces) ∨ (∃ address < 256 ^ 4, host = .ipv4 address) ∨
      ∃ source name, domainOfText? source = some name ∧ name ≠ [] ∧ endsInNumber name = false ∧
        host = .domain (String.ofList name) := by
  unfold specialHost at found
  split at found
  next result boxed =>
    subst found
    unfold bracketed? at boxed
    split at boxed
    next inner =>
      split at boxed
      · split at boxed
        next pieces read =>
          cases boxed
          exact .inl ⟨pieces, rfl, isPieces_of_ipv6? read⟩
        next => cases boxed
      · cases boxed
    next => cases boxed
  next =>
    split at found
    next => cases found
    next => cases found
    next name filled read =>
      obtain ⟨source, -, read⟩ := Option.bind_eq_some_iff.mp read
      split at found
      next =>
        split at found
        next address known =>
          cases found
          exact .inr (.inl ⟨address, ipv4?_lt known, rfl⟩)
        next => cases found
      next other =>
        cases found
        exact .inr (.inr ⟨source, name, read, filled, eq_false_of_ne_true other, rfl⟩)

/-- A host is read again as it is written, unless a label of its name has become too long. -/
theorem host_again (found : specialHost text = .ok host) :
    specialHost host.text.toList = if host.IsReadable then .ok host else .error .invalidDomainName := by
  obtain ⟨pieces, rfl, sound⟩ | ⟨address, small, rfl⟩ | ⟨source, name, read, filled, other, rfl⟩ :=
    specialHost_cases found
  · have letters : (Host.ipv6 pieces).text.toList = '[' :: ((ipv6Text pieces).toList ++ [']']) := by
      rw [Host.text, String.toList_append, String.toList_append]
      rfl
    refine Eq.trans ?_ (if_pos trivial).symm
    rw [letters, specialHost, bracketed?]
    simp only [List.getLast?_concat, if_true, List.dropLast_concat, ipv6_again sound]
  · exact (ipv4_again small).trans (if_pos trivial).symm
  · obtain ⟨labels, spells⟩ := domainOfText?_eq_some.mp read
    rw [Host.text, String.toList_ofList, specialHost, bracketed?_settled spells.settled]
    dsimp only
    rw [domainName?_settled spells.settled, domainOfText?_again read]
    have same : (Host.domain (String.ofList name)).IsReadable ↔ HasReadableLabels name := by
      rw [Host.IsReadable, String.toList_ofList]
    simp only [same]
    obtain ⟨first, rest, rfl⟩ := List.exists_cons_of_ne_nil filled
    by_cases readable : HasReadableLabels (first :: rest)
    · simp only [if_pos readable, other, Bool.false_eq_true, if_false]
    · simp only [if_neg readable]

/-- A host is written without brackets and colons, or within brackets, and nowhere with the mark of credentials. -/
theorem host_letters (found : specialHost text = .ok host) :
    (∀ c ∈ host.text.toList, c ≠ ':' ∧ c ≠ '[' ∧ c ≠ '@') ∨
      ∃ inner, host.text.toList = '[' :: (inner ++ [']']) ∧ ∀ c ∈ inner, c ≠ ']' ∧ c ≠ '@' := by
  have settled {letters : List Char} (settled : ∀ c ∈ letters, IsSettledChar c) :
      ∀ c ∈ letters, c ≠ ':' ∧ c ≠ '[' ∧ c ≠ '@' := fun c member =>
    Text.of_ascii (motive := fun c => IsSettledChar c → c ≠ ':' ∧ c ≠ '[' ∧ c ≠ '@') (by decide +kernel)
      (settled c member).1 (settled c member)
  obtain ⟨pieces, rfl, -⟩ | ⟨address, -, rfl⟩ | ⟨source, name, read, -, -, rfl⟩ := specialHost_cases found
  · refine .inr ⟨(ipv6Text pieces).toList, ?_, fun c => mem_ipv6Text⟩
    rw [Host.text, String.toList_append, String.toList_append]
    rfl
  · refine .inl fun c member => settled (fun c member => ?_) c member
    rw [Host.text, ipv4Text_letters] at member
    rcases Text.mem_intercalate member with mark | ⟨part, within, member⟩
    · rw [List.mem_singleton.mp mark]
      decide
    · obtain ⟨place, -, rfl⟩ := List.mem_map.mp within
      exact isSettledChar_of_isDigit (Nat.isDigit_of_mem_toDigits (by decide) (by decide) member)
  · obtain ⟨labels, spells⟩ := domainOfText?_eq_some.mp read
    rw [Host.text, String.toList_ofList]
    exact .inl (settled spells.settled)

end Url

end AliasSync
