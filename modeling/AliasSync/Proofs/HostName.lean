import AliasSync.Alias

/-! A text is a host name exactly when something stands before its first dot and something after it. -/

namespace AliasSync.HostName

/-- The parts of a host name are not empty, and its first dot is the one between them. -/
structure Proper (name : HostName) : Prop where
  undotted : '.' ∉ name.hostname.toList
  hostname : name.hostname ≠ ""
  domain : name.domain ≠ ""

private theorem dropWhile_undotted {characters : List Char} (undotted : '.' ∉ characters)
    (rest : List Char) :
    (characters ++ '.' :: rest).takeWhile (· != '.') = characters ∧
      (characters ++ '.' :: rest).dropWhile (· != '.') = '.' :: rest := by
  have plain : ∀ c ∈ characters, (c != '.') = true := by
    intro c member
    simpa using fun same : c = '.' => undotted (same ▸ member)
  constructor
  · rw [List.takeWhile_append_of_pos plain]
    simp
  · rw [List.dropWhile_append_of_pos plain]
    simp

private theorem text_toList (name : HostName) :
    name.text.toList = name.hostname.toList ++ '.' :: name.domain.toList := by
  simp [text]

theorem ofText?_text {name : HostName} (proper : name.Proper) : ofText? name.text = some name := by
  obtain ⟨taken, dropped⟩ := dropWhile_undotted proper.undotted name.domain.toList
  have hostname : name.hostname.toList.isEmpty = false := by simpa using proper.hostname
  have domain : name.domain.toList.isEmpty = false := by simpa using proper.domain
  simp only [ofText?, text_toList, taken, dropped, hostname, domain, Bool.or_self, Bool.false_eq_true,
    ↓reduceIte, String.ofList_toList]

/-- Splitting a text at its first dot gives the host name that has this text. -/
theorem ofText?_eq_some_iff {text : String} {name : HostName} :
    ofText? text = some name ↔ name.text = text ∧ name.Proper := by
  constructor
  · intro split
    have whole := List.takeWhile_append_dropWhile (p := (· != '.')) (l := text.toList)
    unfold ofText? at split
    simp only at split
    cases rest : text.toList.dropWhile (· != '.') with
    | nil => simp [rest] at split
    | cons dot domain =>
      have isDot : dot = '.' := by
        have head := List.head?_dropWhile_not (fun c => c != '.') text.toList
        simpa [rest] using head
      subst isDot
      rw [rest] at whole split
      simp only [Bool.or_eq_true, List.isEmpty_iff, Option.ite_none_left_eq_some, not_or,
        Option.some.injEq] at split
      obtain ⟨⟨hostname, rest⟩, rfl⟩ := split
      refine ⟨?_, ?_, by simpa using hostname, by simpa using rest⟩
      · rw [← String.toList_inj, text_toList]
        simpa using whole
      · intro dotted
        rw [String.toList_ofList] at dotted
        have passed := List.all_eq_true.mp List.all_takeWhile '.' dotted
        simp at passed
  · rintro ⟨rfl, proper⟩
    exact ofText?_text proper

theorem Proper.eq_of_text {name other : HostName} (proper : name.Proper) (also : other.Proper)
    (same : name.text = other.text) : name = other := by
  apply Option.some.inj
  rw [← ofText?_text proper, ← ofText?_text also, same]

structure FirstDot (text : String) (place : Nat) : Prop where
  dot : text.toList[place]? = some '.'
  earliest : ∀ earlier < place, text.toList[earlier]? ≠ some '.'

def Splittable (text : String) : Prop :=
  ∃ place, FirstDot text place ∧ 0 < place ∧ place + 1 < text.length

section FirstDot

variable {text : String} {place : Nat} {name : HostName}

private theorem FirstDot.undotted (first : FirstDot text place) : '.' ∉ text.toList.take place := by
  intro dotted
  obtain ⟨earlier, inside, found⟩ := List.mem_take_iff_getElem.mp dotted
  exact first.earliest earlier (by omega) (List.getElem?_eq_some_iff.mpr ⟨by omega, found⟩)

private theorem FirstDot.parts (first : FirstDot text place) :
    text.toList.take place ++ '.' :: text.toList.drop (place + 1) = text.toList := by
  obtain ⟨inside, found⟩ := List.getElem?_eq_some_iff.mp first.dot
  rw [← found, List.getElem_cons_drop, List.take_append_drop]

private theorem firstDot_text (undotted : '.' ∉ name.hostname.toList) : FirstDot name.text name.hostname.length := by
  rw [← String.length_toList]
  constructor
  · rw [text_toList, List.getElem?_append_right (Nat.le_refl _), Nat.sub_self]
    rfl
  · intro earlier inside found
    rw [text_toList, List.getElem?_append_left inside] at found
    exact undotted (List.mem_of_getElem? found)

private theorem Proper.splittable (proper : name.Proper) : Splittable name.text := by
  have before : name.hostname.length ≠ 0 := mt String.length_eq_zero_iff.mp proper.hostname
  have after : name.domain.length ≠ 0 := mt String.length_eq_zero_iff.mp proper.domain
  refine ⟨_, firstDot_text proper.undotted, Nat.pos_of_ne_zero before, ?_⟩
  rw [← String.length_toList (s := name.text), text_toList, List.length_append, List.length_cons,
    String.length_toList, String.length_toList]
  omega

theorem isSome_ofText?_iff : (ofText? text).isSome = true ↔ Splittable text := by
  rw [Option.isSome_iff_exists]
  constructor
  · rintro ⟨name, split⟩
    obtain ⟨rfl, proper⟩ := ofText?_eq_some_iff.mp split
    exact proper.splittable
  · rintro ⟨place, first, before, after⟩
    rw [← String.length_toList] at after
    refine ⟨⟨.ofList (text.toList.take place), .ofList (text.toList.drop (place + 1))⟩,
      ofText?_eq_some_iff.mpr ⟨?_, ?_, ?_, ?_⟩⟩
    · rw [← String.toList_inj, text_toList, String.toList_ofList, String.toList_ofList]
      exact first.parts
    · rw [String.toList_ofList]
      exact first.undotted
    · apply mt String.ofList_eq_empty_iff.mp
      apply List.ne_nil_of_length_pos
      rw [List.length_take]
      omega
    · apply mt String.ofList_eq_empty_iff.mp
      apply List.ne_nil_of_length_pos
      rw [List.length_drop]
      omega

end FirstDot

end AliasSync.HostName
