import AliasSync.Proofs.PunycodeReading
import AliasSync.Proofs.Utf8Reading
import AliasSync.Text.Split
import AliasSync.Url.Domain
import AliasSync.Url.Percent
import Mathlib.Data.List.Forall2

/-! Domain names that are read again. A name in the form in which it is looked up stays as it is, unless a label of it
has become too long to be read. -/

namespace AliasSync

theorem mapM_eq_some {α β : Type} {read : α → Option β} {items : List α} {found : List β} :
    items.mapM read = some found ↔ List.Forall₂ (read · = some ·) items found := by
  induction items generalizing found with
  | nil =>
    rw [List.forall₂_nil_left_iff]
    exact ⟨fun same => (Option.some.inj same).symm, fun same => same ▸ rfl⟩
  | cons item items ih =>
    rw [List.mapM_cons, List.forall₂_cons_left_iff]
    simp only [Option.bind_eq_bind, Option.bind_eq_some_iff, ih, Option.pure_def, Option.some.injEq]
    constructor
    · rintro ⟨value, first, rest, others, rfl⟩
      exact ⟨value, rest, first, others, rfl⟩
    · rintro ⟨value, rest, first, others, rfl⟩
      exact ⟨value, first, rest, others, rfl⟩

theorem exists_of_forall₂ {α β : Type} {fits : α → β → Prop} {items : List α} {found : List β}
    (each : List.Forall₂ fits items found) : ∀ value ∈ found, ∃ item ∈ items, fits item value := by
  induction each with
  | nil => nofun
  | @cons item value items found first _ ih =>
    refine List.forall_mem_cons.mpr ⟨⟨item, List.mem_cons_self, first⟩, fun other member => ?_⟩
    obtain ⟨source, within, fits⟩ := ih other member
    exact ⟨source, List.mem_cons_of_mem _ within, fits⟩

namespace Text

variable {c : Char}

theorem of_ascii {motive : Char → Prop} (each : ∀ code < 0x80, motive (Char.ofNat code)) (ascii : c.toNat < 0x80) :
    motive c := Char.ofNat_toNat c ▸ each c.toNat ascii

end Text

namespace Url

open Text (of_ascii)

variable {c : Char} {text name : List Char} {label : Label}

private theorem percentDecode_plain (plain : '%' ∉ text) : percentDecode text = Text.utf8 text := by
  fun_induction percentDecode text with
  | case1 => exact absurd List.mem_cons_self plain
  | case2 => exact absurd List.mem_cons_self plain
  | case3 c rest _ ih =>
    rw [ih (mt (List.mem_cons_of_mem _) plain), Text.utf8_cons, Text.utf8_cons, Text.utf8, List.flatMap_nil,
      List.append_nil]
  | case4 => rfl

/-- A character that stands for itself in a name. -/
def IsSettledChar (c : Char) : Prop := c.toNat < 0x80 ∧ isForbiddenInDomain c = false

instance : DecidablePred IsSettledChar := fun _ => inferInstanceAs (Decidable (_ ∧ _))

private theorem IsSettledChar.lower (settled : IsSettledChar c) : c.toLower = c :=
  of_ascii (motive := fun c => isForbiddenInDomain c = false → c.toLower = c) (by decide +kernel) settled.1 settled.2

theorem unifiedText?_settled (settled : ∀ c ∈ name, IsSettledChar c) : unifiedText? name = some name := by
  have codes : name.mapM unified? = some (name.map fun c => [c.toNat]) := by
    induction name with
    | nil => rfl
    | cons c rest ih =>
      have first := settled c List.mem_cons_self
      have same : unified? c = some [c.toNat] := by rw [unified?, if_pos first.1, first.lower]
      rw [List.mapM_cons, same, ih fun other member => settled other (List.mem_cons_of_mem _ member)]
      rfl
  have ascii : (name.map Char.toNat).all (· < 0x80) = true := by
    simpa using fun c member => (settled c member).1
  have flat : (name.map fun c => [c.toNat]).flatten = name.map Char.toNat := by
    rw [← List.flatMap_def]
    exact List.flatMap_pure_eq_map ..
  have back : (name.map Char.toNat).map Char.ofNat = name := by
    rw [List.map_map]
    exact (List.map_congr_left fun c _ => Char.ofNat_toNat c).trans (List.map_id _)
  rw [unifiedText?, codes]
  simp only [Option.pure_def, Option.bind_eq_bind, Option.bind_some, flat, Text.composed, ascii, if_true, back]

theorem domainName?_settled (settled : ∀ c ∈ name, IsSettledChar c) :
    domainName? (percentDecode name) = domainOfText? name := by
  have plain : '%' ∉ name := fun member => by
    have kept := (settled '%' member).2
    cases kept
  rw [percentDecode_plain plain, domainName?, Text.decode?_utf8]
  rfl

def labelLimit : Nat := 2004

def IsReadable (label : List Char) : Prop := encodedMark.isPrefixOf label = true → label.length ≤ labelLimit

instance : DecidablePred IsReadable := fun _ => inferInstanceAs (Decidable (_ → _))

/-- A label is looked up as it is written, in ASCII, or it is unified and looked up in Punycode. -/
theorem label?_cases (read : label? text = some label) :
    label.ascii = text ∧ (∀ c ∈ text, c.toNat < 0x80) ∨
      label = ⟨encodedMark ++ Text.Punycode.encode (text.map Char.toNat), text⟩ ∧ isUnifiedLabel text = true := by
  unfold label? at read
  split at read
  next marked =>
    obtain ⟨_, -, read⟩ := Option.bind_eq_some_iff.mp read
    obtain ⟨codes, known, read⟩ := Option.bind_eq_some_iff.mp read
    obtain ⟨_, -, read⟩ := Option.bind_eq_some_iff.mp read
    cases read
    obtain ⟨rest, rfl⟩ := List.isPrefixOf_iff_prefix.mp marked
    rw [List.drop_left] at known
    refine .inl ⟨rfl, fun c member => ?_⟩
    rcases List.mem_append.mp member with mark | member
    · have each : encodedMark.all (fun c => decide (c.toNat < 0x80)) = true := by decide
      exact of_decide_eq_true (List.all_eq_true.mp each c mark)
    · exact Text.Punycode.ascii_of_decode? known c member
  next =>
    split at read
    next ascii =>
      cases read
      exact .inl ⟨rfl, fun c member => of_decide_eq_true (List.all_eq_true.mp ascii c member)⟩
    next =>
      obtain ⟨_, unified, read⟩ := Option.bind_eq_some_iff.mp read
      cases read
      exact .inr ⟨rfl, (Option.guard_eq_some' _).mp unified⟩

private theorem valid_codes (text : List Char) : ∀ code ∈ text.map Char.toNat, code.isValidChar := by
  intro code member
  obtain ⟨c, -, rfl⟩ := List.mem_map.mp member
  exact c.valid

private theorem short_codes (unified : isUnifiedLabel text = true) :
    (text.map Char.toNat).length ≤ Text.Punycode.lengthLimit := by
  simp only [isUnifiedLabel, Bool.and_eq_true, decide_eq_true_eq] at unified
  rw [List.length_map]
  exact unified.1.1.1.2

private theorem label?_chars (read : label? text = some label) (undotted : '.' ∉ text) :
    ∀ c ∈ label.ascii, c.toNat < 0x80 ∧ c ≠ '.' := by
  rcases label?_cases read with ⟨same, ascii⟩ | ⟨rfl, unified⟩
  · rw [same]
    exact fun c member => ⟨ascii c member, fun dot => undotted (dot ▸ member)⟩
  · intro c member
    rcases List.mem_append.mp member with mark | member
    · have each : encodedMark.all (fun c => decide (c.toNat < 0x80 ∧ c ≠ '.')) = true := by decide
      exact of_decide_eq_true (List.all_eq_true.mp each c mark)
    rcases Text.Punycode.mem_encode (valid_codes text) (short_codes unified) member with
      ⟨code, within, small, rfl⟩ | rfl | ⟨value, small, rfl⟩
    · obtain ⟨c, known, rfl⟩ := List.mem_map.mp within
      rw [Char.ofNat_toNat]
      exact ⟨small, fun dot => undotted (dot ▸ known)⟩
    · decide
    · obtain ⟨-, -, undotted, ascii, -⟩ := Text.Punycode.digitChar_spells small
      exact ⟨ascii, undotted⟩

/-- A label as it is looked up is looked up in the same way, unless it has become too long. -/
theorem label?_again (read : label? text = some label) :
    label? label.ascii = if IsReadable label.ascii then some label else none := by
  rcases label?_cases read with ⟨same, -⟩ | ⟨rfl, unified⟩
  · have short : IsReadable label.ascii := by
      intro marked
      rw [same] at marked ⊢
      unfold label? at read
      rw [if_pos marked] at read
      obtain ⟨_, fits, -⟩ := Option.bind_eq_some_iff.mp read
      have rest := (Option.guard_eq_some' _).mp fits
      rw [List.length_drop] at rest
      have mark : encodedMark.length = 4 := rfl
      rw [labelLimit]
      omega
    rw [if_pos short, same, read]
  · have marked : encodedMark.isPrefixOf (encodedMark ++ Text.Punycode.encode (text.map Char.toNat)) = true :=
      List.isPrefixOf_iff_prefix.mpr (List.prefix_append ..)
    have back : (text.map Char.toNat).map Char.ofNat = text := by
      rw [List.map_map]
      exact (List.map_congr_left fun c _ => Char.ofNat_toNat c).trans (List.map_id _)
    have fits : (Text.Punycode.encode (text.map Char.toNat)).length ≤ 2000 ↔
        IsReadable (encodedMark ++ Text.Punycode.encode (text.map Char.toNat)) := by
      have mark : encodedMark.length = 4 := rfl
      simp only [IsReadable, marked, List.length_append, mark, labelLimit, true_imp_iff]
      omega
    unfold label?
    simp only [marked, if_true, List.drop_left, Text.Punycode.decode?_encode (valid_codes text) (short_codes unified),
      Option.bind_eq_bind, Option.bind_some, back, guard, unified, fits]
    split <;> rfl

def HasReadableLabels (name : List Char) : Prop := ∀ label ∈ name.splitOn '.', IsReadable label

instance : DecidablePred HasReadableLabels := fun name => List.decidableBAll IsReadable (name.splitOn '.')

structure Spells (text : List Char) (labels : List Label) (name : List Char) : Prop where
  read : ∃ unified, unifiedText? text = some unified ∧ List.Forall₂ (label? · = some ·) (unified.splitOn '.') labels
  fit : directionsFit (labels.map Label.shown) = true
  joined : ['.'].intercalate (labels.map Label.ascii) = name
  allowed : ∀ c ∈ name, isForbiddenInDomain c = false

theorem domainOfText?_eq_some : domainOfText? text = some name ↔ ∃ labels, Spells text labels name := by
  constructor
  · intro read
    obtain ⟨unified, known, read⟩ := Option.bind_eq_some_iff.mp read
    obtain ⟨labels, spelled, read⟩ := Option.bind_eq_some_iff.mp read
    obtain ⟨_, fit, read⟩ := Option.bind_eq_some_iff.mp read
    obtain ⟨_, allowed, same⟩ := Option.bind_eq_some_iff.mp read
    cases same
    refine ⟨labels, ⟨unified, known, mapM_eq_some.mp spelled⟩, (Option.guard_eq_some' _).mp fit, rfl, ?_⟩
    simpa using (Option.guard_eq_some' _).mp allowed
  · rintro ⟨labels, ⟨unified, known, spelled⟩, fit, rfl, allowed⟩
    have none : (['.'].intercalate (labels.map Label.ascii)).any isForbiddenInDomain = false := by
      simpa using allowed
    simp only [domainOfText?, known, mapM_eq_some.mpr spelled, fit, none, Option.bind_eq_bind, Option.bind_some]
    rfl

variable {labels : List Label}

private theorem Spells.ascii (spells : Spells text labels name) :
    ∀ label ∈ labels.map Label.ascii, ∀ c ∈ label, c.toNat < 0x80 ∧ c ≠ '.' := by
  obtain ⟨unified, -, read⟩ := spells.read
  intro ascii member
  obtain ⟨label, within, rfl⟩ := List.mem_map.mp member
  obtain ⟨text, part, read⟩ := exists_of_forall₂ read label within
  exact label?_chars read (Text.apart_of_mem_splitOn part)

theorem Spells.settled (spells : Spells text labels name) : ∀ c ∈ name, IsSettledChar c := by
  intro c member
  refine ⟨?_, spells.allowed c member⟩
  rw [← spells.joined] at member
  rcases Text.mem_intercalate member with dot | ⟨label, within, member⟩
  · rw [List.mem_singleton.mp dot]
    decide
  · exact (spells.ascii label within c member).1

private theorem Spells.splitOn_name (spells : Spells text labels name) : name.splitOn '.' = labels.map Label.ascii := by
  have undotted : ∀ label ∈ labels.map Label.ascii, '.' ∉ label := fun label within dot =>
    (spells.ascii label within '.' dot).2 rfl
  rw [← spells.joined]
  refine List.splitOn_intercalate '.' undotted fun empty => ?_
  obtain ⟨unified, -, read⟩ := spells.read
  rw [List.map_eq_nil_iff.mp empty, List.forall₂_nil_right_iff] at read
  exact List.splitOn_ne_nil _ _ read

private theorem mapM_again {texts : List (List Char)} (read : List.Forall₂ (label? · = some ·) texts labels) :
    (labels.map Label.ascii).mapM label? =
      if ∀ label ∈ labels.map Label.ascii, IsReadable label then some labels else none := by
  induction read with
  | nil => rfl
  | @cons text label texts labels first _ ih =>
    rw [List.map_cons, List.mapM_cons, label?_again first, ih]
    simp only [List.forall_mem_cons]
    by_cases short : IsReadable label.ascii
    · by_cases others : ∀ label ∈ labels.map Label.ascii, IsReadable label
      · rw [if_pos short, if_pos others, if_pos ⟨short, others⟩]
        rfl
      · rw [if_pos short, if_neg others, if_neg fun all => others (And.right all)]
        rfl
    · rw [if_neg short, if_neg fun all => short (And.left all)]
      rfl

/-- A domain name is read again as it is, unless a label of it is too long. -/
theorem domainOfText?_again (read : domainOfText? text = some name) :
    domainOfText? name = if HasReadableLabels name then some name else none := by
  obtain ⟨labels, spells⟩ := domainOfText?_eq_some.mp read
  obtain ⟨unified, -, known⟩ := spells.read
  have labelled := mapM_again known
  rw [← spells.splitOn_name] at labelled
  split
  next readable =>
    refine domainOfText?_eq_some.mpr ⟨labels, ⟨name, unifiedText?_settled spells.settled, ?_⟩, spells.fit,
      spells.joined, spells.allowed⟩
    exact mapM_eq_some.mp (labelled.trans (if_pos readable))
  next unreadable =>
    rw [domainOfText?, unifiedText?_settled spells.settled]
    simp only [Option.bind_eq_bind, Option.bind_some, labelled.trans (if_neg unreadable), Option.bind_none]

end Url

end AliasSync
