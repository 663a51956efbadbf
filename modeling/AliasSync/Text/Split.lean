/-! Cutting texts. -/

namespace AliasSync.Text

/-- Reads something off the front of a text. -/
abbrev Reader (α : Type) := List Char → Option (α × List Char)

/-- Cuts a text at the last occurrence of a character, which is left out. -/
def cutAtLast (separator : Char) (text : List Char) : Option (List Char × List Char) :=
  let after := text.reverse.takeWhile (· != separator)
  match text.reverse.dropWhile (· != separator) with
  | [] => none
  | _ :: before => some (before.reverse, after.reverse)

variable {separator c : Char} {text part front rest : List Char}

private theorem passes_of_not_mem (apart : separator ∉ text) : ∀ c ∈ text.reverse, (c != separator) = true := by
  intro c member
  rw [bne_iff_ne]
  rintro rfl
  exact apart (List.mem_reverse.mp member)

theorem cutAtLast_absent (apart : separator ∉ text) : cutAtLast separator text = none := by
  have passed : text.reverse.dropWhile (· != separator) = [] := by
    simpa using @List.dropWhile_append_of_pos _ _ _ [] (passes_of_not_mem apart)
  simp only [cutAtLast, passed]

theorem cutAtLast_append (apart : separator ∉ rest) (front : List Char) :
    cutAtLast separator (front ++ separator :: rest) = some (front, rest) := by
  have passes := passes_of_not_mem apart
  have stop : ¬ (separator != separator) = true := by simp
  have turned : (front ++ separator :: rest).reverse = rest.reverse ++ separator :: front.reverse := by simp
  have dropped : (rest.reverse ++ separator :: front.reverse).dropWhile (· != separator) =
      separator :: front.reverse := by
    rw [List.dropWhile_append_of_pos passes, List.dropWhile_cons_of_neg (p := (· != separator)) stop]
  have taken : (rest.reverse ++ separator :: front.reverse).takeWhile (· != separator) = rest.reverse := by
    rw [List.takeWhile_append_of_pos passes, List.takeWhile_cons_of_neg (p := (· != separator)) stop, List.append_nil]
  simp only [cutAtLast, turned, dropped, taken, List.reverse_reverse]

theorem eq_append_of_cutAtLast (cut : cutAtLast separator text = some (front, rest)) :
    text = front ++ separator :: rest := by
  have whole := List.takeWhile_append_dropWhile (p := (· != separator)) (l := text.reverse)
  have head := List.head?_dropWhile_not (· != separator) text.reverse
  unfold cutAtLast at cut
  split at cut
  next => cases cut
  next mark before stopped =>
    cases cut
    rw [stopped] at whole head
    obtain rfl : mark = separator := by simpa using head
    have turned := congrArg List.reverse whole
    simpa using turned.symm

theorem apart_of_mem_splitOnP {separates : Char → Bool} (member : part ∈ text.splitOnP separates) :
    ∀ c ∈ part, separates c = false := by
  induction text generalizing part with
  | nil =>
    cases List.mem_singleton.mp (List.splitOnP_nil ▸ member)
    nofun
  | cons c rest ih =>
    rw [List.splitOnP_cons_eq_if_modifyHead] at member
    split at member
    case isTrue =>
      rcases List.mem_cons.mp member with rfl | member
      · nofun
      · exact ih member
    case isFalse other =>
      cases parts : rest.splitOnP separates with
      | nil => exact absurd parts (List.splitOnP_ne_nil separates rest)
      | cons first later =>
        rw [parts] at member ih
        rcases List.mem_cons.mp member with rfl | member
        · exact List.forall_mem_cons.mpr ⟨eq_false_of_ne_true other, ih List.mem_cons_self⟩
        · exact ih (List.mem_cons_of_mem _ member)

theorem apart_of_mem_splitOn (member : part ∈ text.splitOn separator) : separator ∉ part := by
  intro within
  rw [List.splitOn_eq_splitOnP] at member
  simpa using apart_of_mem_splitOnP member separator within

theorem mem_intercalate {between : List Char} {parts : List (List Char)} (member : c ∈ between.intercalate parts) :
    c ∈ between ∨ ∃ part ∈ parts, c ∈ part := by
  induction parts with
  | nil => cases member
  | cons part parts ih =>
    cases parts with
    | nil =>
      rw [List.intercalate_singleton] at member
      exact .inr ⟨part, List.mem_cons_self, member⟩
    | cons next parts =>
      rw [List.intercalate_cons_cons, List.append_assoc] at member
      rcases List.mem_append.mp member with member | member
      · exact .inr ⟨part, List.mem_cons_self, member⟩
      rcases List.mem_append.mp member with member | member
      · exact .inl member
      · exact (ih member).imp_right fun ⟨other, within, member⟩ => ⟨other, List.mem_cons_of_mem _ within, member⟩

end AliasSync.Text
