import AliasSync.Text.Punycode
import Mathlib.Data.List.Basic
import Mathlib.Data.List.TakeWhile
import Mathlib.Tactic.Ring

/-! What is written in Punycode is read back. The reader follows the writer: whenever the writer has passed a part of
the sequence, reading what has been written so far puts the code points in place that the writer has inserted. -/

namespace AliasSync.Text.Punycode

variable {bias place weight number code basic low : Nat} {rest text : List Char} {sequence before after : List Nat}

/-- The digits of base 36 are no hyphens, are not beyond ASCII, and keep their case. -/
theorem digitChar_spells {value : Nat} (small : value < 36) :
    digitValue? (digitChar value) = some value ∧ digitChar value ≠ '-' ∧ digitChar value ≠ '.' ∧
      (digitChar value).toNat < 0x80 ∧ (digitChar value).toLower = digitChar value := by
  have each : ∀ value < 36, digitValue? (digitChar value) = some value ∧ digitChar value ≠ '-' ∧
      digitChar value ≠ '.' ∧ (digitChar value).toNat < 0x80 ∧ (digitChar value).toLower = digitChar value := by
    decide +kernel
  exact each value small

private theorem ascii_of_digitValue? {c : Char} {value : Nat} (read : digitValue? c = some value) : c.toNat < 0x80 := by
  have last {first last : Char} (small : last.toNat < 0x80) (within : first ≤ c ∧ c ≤ last) : c.toNat < 0x80 :=
    Nat.lt_of_le_of_lt (UInt32.le_iff_toNat_le.mp within.2) small
  unfold digitValue? at read
  split at read
  next lower => exact last (by decide) lower
  split at read
  next upper => exact last (by decide) upper
  split at read
  next digit => exact Nat.lt_of_le_of_lt (Char.isDigit_iff_toNat.mp digit).2 (by decide)
  next => cases read

private theorem ascii_of_readAll {reading : Reading} {codes : List Nat} (read : readAll reading text = some codes) :
    ∀ c ∈ text, c.toNat < 0x80 := by
  induction text generalizing reading with
  | nil => nofun
  | cons c rest ih =>
    rw [readAll] at read
    obtain ⟨value, known, read⟩ := Option.bind_eq_some_iff.mp read
    refine List.forall_mem_cons.mpr ⟨ascii_of_digitValue? known, ?_⟩
    dsimp only at read
    split at read
    · obtain ⟨next, -, read⟩ := Option.bind_eq_some_iff.mp read
      exact ih read
    · obtain ⟨_, -, read⟩ := Option.bind_eq_some_iff.mp read
      exact ih read

/-- The remaining number is small enough for its weight: as long as the thresholds are 1 the weight is a power of 35,
and soon after they are 26. -/
structure Fits (bias place weight number : Nat) : Prop where
  bound : number * weight < 35 ^ 6
  weight : (∃ power, weight = 35 ^ power) ∨ bias + 26 ≤ place

private theorem Fits.step (fits : Fits bias place weight number) (more : threshold place bias ≤ number) :
    weight * (36 - threshold place bias) < 4294967296 ∧
      Fits bias (place + 36) (weight * (36 - threshold place bias))
        ((number - threshold place bias) / (36 - threshold place bias)) := by
  obtain ⟨least, most⟩ := threshold_bounds place bias
  have shorter : (number - threshold place bias) / (36 - threshold place bias) *
      (weight * (36 - threshold place bias)) ≤ number * weight := by
    calc (number - threshold place bias) / (36 - threshold place bias) * (weight * (36 - threshold place bias))
        = (number - threshold place bias) / (36 - threshold place bias) * (36 - threshold place bias) * weight := by ring
      _ ≤ (number - threshold place bias) * weight := Nat.mul_le_mul_right _ (Nat.div_mul_le_self _ _)
      _ ≤ number * weight := Nat.mul_le_mul_right _ (Nat.sub_le _ _)
  have bound := Nat.lt_of_le_of_lt shorter fits.bound
  rcases fits.weight with ⟨power, rfl⟩ | far
  · have low : power < 6 := by
      refine (Nat.pow_lt_pow_iff_right (a := 35) (by decide)).mp (Nat.lt_of_le_of_lt ?_ fits.bound)
      exact Nat.le_mul_of_pos_left _ (by omega)
    have size : 35 ^ power ≤ 35 ^ 5 := Nat.pow_le_pow_right (by decide) (by omega)
    refine ⟨?_, bound, ?_⟩
    · calc 35 ^ power * (36 - threshold place bias) ≤ 35 ^ 5 * 35 := Nat.mul_le_mul size (by omega)
        _ < 4294967296 := by decide
    · by_cases near : place ≤ bias
      · refine .inl ⟨power + 1, ?_⟩
        rw [threshold, if_pos near]
        rfl
      · exact .inr (by omega)
  · have last : threshold place bias = 26 := by
      rw [threshold, if_neg (by omega)]
      omega
    rw [last] at more bound ⊢
    have share : 26 * weight ≤ number * weight := Nat.mul_le_mul_right _ more
    have := fits.bound
    exact ⟨by omega, bound, .inr (by omega)⟩

private theorem readAll_digits (reading : Reading) (fits : Fits reading.bias reading.place reading.weight number)
    (rest : List Char) :
    readAll reading (digits reading.bias reading.place number ++ rest) =
      (insertNext { reading with number := reading.number + number * reading.weight }).bind (readAll · rest) := by
  -- What a digit leaves of the number is smaller, and counts for as much more.
  induction number using Nat.strongRecOn generalizing reading with
  | _ number ih =>
    obtain ⟨positive, most⟩ := threshold_bounds reading.place reading.bias
    rw [digits]
    split
    case isTrue small =>
      rw [List.singleton_append, readAll, (digitChar_spells (by omega)).1]
      simp only [Option.bind_eq_bind, Option.bind_some, if_pos small]
    case isFalse large =>
      have more : threshold reading.place reading.bias ≤ number := Nat.le_of_not_lt large
      obtain ⟨light, fits⟩ := fits.step more
      generalize known : threshold reading.place reading.bias = least at *
      have within := Nat.mod_lt (number - least) (show 0 < 36 - least by omega)
      have shorter : (number - least) / (36 - least) < number :=
        Nat.lt_of_le_of_lt (Nat.div_le_self _ _) (by omega)
      have whole : (least + (number - least) % (36 - least)) * reading.weight +
          (number - least) / (36 - least) * (reading.weight * (36 - least)) = number * reading.weight := by
        have split := Nat.div_add_mod (number - least) (36 - least)
        have total : number =
            least + ((36 - least) * ((number - least) / (36 - least)) + (number - least) % (36 - least)) := by
          omega
        conv_rhs => rw [total]
        ring
      rw [List.cons_append, readAll, (digitChar_spells (by omega)).1]
      simp only [Option.bind_eq_bind, Option.bind_some, known, if_neg (Nat.not_lt.mpr (Nat.le_add_right least _)),
        guard, if_pos light]
      refine (ih _ shorter _ fits).trans ?_
      simp only [Nat.add_assoc, whole]
      rfl

private theorem mem_digits {c : Char} (member : c ∈ digits bias place number) : ∃ value < 36, c = digitChar value := by
  induction number using Nat.strongRecOn generalizing place with
  | _ number ih =>
    obtain ⟨least, most⟩ := threshold_bounds place bias
    rw [digits] at member
    split at member
    case isTrue small => exact ⟨number, by omega, List.mem_singleton.mp member⟩
    case isFalse large =>
      have within := Nat.mod_lt (number - threshold place bias) (show 0 < 36 - threshold place bias by omega)
      rcases List.mem_cons.mp member with rfl | member
      · exact ⟨_, by omega, rfl⟩
      · exact ih _ (Nat.lt_of_le_of_lt (Nat.div_le_self _ _) (by omega)) member

/-- The most code points whose distances are sure to be read. -/
def lengthLimit : Nat := 1000

/-- What the writer knows while it inserts a code point and has passed the first part of the sequence, and what a
reader knows that has read all that has been written. -/
structure Follows (start : Reading) (basic code : Nat) (before after : List Nat) (progress : Progress)
    (reading : Reading) : Prop where
  reads : ∀ rest, readAll start (progress.written ++ rest) = readAll reading rest
  spelled : ∀ c ∈ progress.written, ∃ value < 36, c = digitChar value
  placed : reading.placed = before.filter (· ≤ code) ++ after.filter (· < code)
  count : progress.placed = reading.placed.length
  reached : reading.code ≤ code
  distance : progress.distance + reading.start =
    (code - reading.code) * (progress.placed + 1) + (before.filter (· ≤ code)).length
  number : reading.number = reading.start
  weight : reading.weight = 1
  place : reading.place = 36
  bias : reading.bias = progress.bias
  begun : basic ≤ progress.placed
  first : (reading.start == 0) = (progress.placed == basic)

variable {start reading : Reading} {progress : Progress}

private theorem Follows.near (follows : Follows start basic code before after progress reading)
    (valid : code.isValidChar)
    (short : (before ++ after).length ≤ lengthLimit) : progress.distance < 35 ^ 6 := by
  have placed : progress.placed ≤ 1000 := by
    refine Nat.le_trans ?_ short
    rw [follows.count, follows.placed, List.length_append, List.length_append]
    exact Nat.add_le_add (List.length_filter_le ..) (List.length_filter_le ..)
  have passed : (before.filter (· ≤ code)).length ≤ 1000 := by
    refine Nat.le_trans (Nat.le_trans (List.length_filter_le ..) ?_) short
    rw [List.length_append]
    exact Nat.le_add_right ..
  have size : (code - reading.code) * (progress.placed + 1) ≤ 0x10FFFF * 1001 := by
    refine Nat.mul_le_mul ?_ (by omega)
    rcases valid with below | ⟨-, below⟩ <;> omega
  have distance := follows.distance
  have bound : 0x10FFFF * 1001 + 1000 < 35 ^ 6 := by decide
  omega

/-- Passing an occurrence of the code point that is being inserted writes it, and reading that puts it in place. -/
theorem Follows.insert (follows : Follows start basic code before (code :: after) progress reading)
    (valid : code.isValidChar) (short : (before ++ code :: after).length ≤ lengthLimit) :
    ∃ next, Follows start basic code (before ++ [code]) after (pass basic code progress code) next := by
  have near := follows.near valid short
  obtain ⟨reads, spelled, placed, count, reached, distance, numbered, weighted, here, biased, begun, first⟩ := follows
  have kept : (code :: after).filter (· < code) = after.filter (· < code) :=
    List.filter_cons_of_neg (by simp)
  rw [kept] at placed
  have passed : (before ++ [code]).filter (· ≤ code) = before.filter (· ≤ code) ++ [code] := by
    rw [List.filter_append, List.filter_cons_of_pos (by simp), List.filter_nil]
  have within : (before.filter (· ≤ code)).length ≤ progress.placed := by
    rw [count, placed, List.length_append]
    exact Nat.le_add_right ..
  have total : reading.number + progress.distance * reading.weight =
      (code - reading.code) * (progress.placed + 1) + (before.filter (· ≤ code)).length := by
    rw [numbered, weighted, ← distance]
    omega
  have quotient : (reading.number + progress.distance * reading.weight) / (progress.placed + 1) =
      code - reading.code := by
    rw [total, Nat.mul_comm, Nat.mul_add_div (by omega), Nat.div_eq_of_lt (by omega), Nat.add_zero]
  have remainder : (reading.number + progress.distance * reading.weight) % (progress.placed + 1) =
      (before.filter (· ≤ code)).length := by
    rw [total, Nat.mul_comm, Nat.mul_add_mod, Nat.mod_eq_of_lt (by omega)]
  have covered : reading.number + progress.distance * reading.weight - reading.start = progress.distance := by
    rw [numbered, weighted]
    omega
  let next : Reading :=
    { placed := before.filter (· ≤ code) ++ code :: after.filter (· < code)
      code := code
      start := (before.filter (· ≤ code)).length + 1
      number := (before.filter (· ≤ code)).length + 1
      weight := 1
      place := 36
      bias := adapt progress.distance (progress.placed + 1) (progress.placed == basic) }
  have inserted :
      insertNext { reading with number := reading.number + progress.distance * reading.weight } = some next := by
    have landed : reading.code + (code - reading.code) = code := by omega
    have guarded : (guard (code < 0xD800 ∨ 0xDFFF < code ∧ code ≤ 0x10FFFF) : Option Unit) = some () :=
      if_pos (valid.imp_right fun ⟨high, most⟩ => ⟨high, Nat.le_of_lt_succ most⟩)
    simp only [insertNext, ← count, quotient, remainder, covered, first, landed]
    rw [guarded, placed, List.take_left, List.drop_left]
    rfl
  have fits : Fits reading.bias reading.place reading.weight progress.distance := by
    rw [weighted]
    exact ⟨by omega, .inl ⟨0, rfl⟩⟩
  rw [pass, if_neg (Nat.lt_irrefl code), if_pos rfl]
  exact ⟨next, {
    reads rest := by
      have written := readAll_digits reading fits rest
      rw [inserted, here, biased] at written
      rw [List.append_assoc, reads]
      exact written
    spelled c member := by
      rcases List.mem_append.mp member with member | member
      · exact spelled c member
      · exact mem_digits member
    placed := by
      rw [passed, List.append_assoc]
      rfl
    count := by
      rw [count, placed]
      simp only [next, List.length_append, List.length_cons, Nat.add_assoc]
    reached := Nat.le_refl code
    distance := by
      rw [passed, List.length_append, List.length_singleton]
      simp only [next, Nat.sub_self, Nat.zero_mul]
    number := rfl
    weight := rfl
    place := rfl
    bias := rfl
    first := by
      refine (beq_eq_false_iff_ne.mpr (Nat.succ_ne_zero _)).trans (beq_eq_false_iff_ne.mpr ?_).symm
      exact Nat.ne_of_gt (Nat.lt_succ_of_le begun)
    begun := Nat.le_succ_of_le begun }⟩

/-- Passing a smaller code point makes the distance longer by one place, and a larger one is not there yet. -/
theorem Follows.skip {next : Nat} (follows : Follows start basic code before (next :: after) progress reading)
    (other : next ≠ code) :
    Follows start basic code (before ++ [next]) after (pass basic code progress next) reading := by
  obtain ⟨reads, spelled, placed, count, reached, distance, numbered, weighted, here, biased, begun, first⟩ := follows
  have kept : (before ++ [next]).filter (· ≤ code) ++ after.filter (· < code) =
      before.filter (· ≤ code) ++ (next :: after).filter (· < code) := by
    rw [List.filter_append, List.append_assoc]
    by_cases small : next < code
    · rw [List.filter_cons_of_pos (by simpa using Nat.le_of_lt small), List.filter_cons_of_pos (by simpa using small)]
      rfl
    · rw [List.filter_cons_of_neg (by simp; omega), List.filter_cons_of_neg (by simpa using small)]
      rfl
  by_cases small : next < code
  · have passed : (before ++ [next]).filter (· ≤ code) = before.filter (· ≤ code) ++ [next] := by
      rw [List.filter_append, List.filter_cons_of_pos (by simpa using Nat.le_of_lt small), List.filter_nil]
    rw [pass, if_pos small]
    refine ⟨reads, spelled, placed.trans kept.symm, count, reached, ?_, numbered, weighted, here, biased, begun, first⟩
    rw [passed, List.length_append, List.length_singleton, ← Nat.add_assoc, ← distance]
    exact Nat.add_right_comm ..
  · have passed : (before ++ [next]).filter (· ≤ code) = before.filter (· ≤ code) := by
      rw [List.filter_append, List.filter_cons_of_neg (by simp; omega), List.filter_nil, List.append_nil]
    rw [pass, if_neg small, if_neg other]
    refine ⟨reads, spelled, placed.trans kept.symm, count, reached, ?_, numbered, weighted, here, biased, begun, first⟩
    rw [passed, distance]

private theorem Follows.passAll (follows : Follows start basic code before after progress reading)
    (valid : code.isValidChar)
    (short : (before ++ after).length ≤ lengthLimit) :
    ∃ next, Follows start basic code (before ++ after) [] (after.foldl (pass basic code) progress) next := by
  induction after generalizing before progress reading with
  | nil => exact ⟨reading, by rwa [List.append_nil]⟩
  | cons first after ih =>
    rw [List.append_cons] at short ⊢
    rw [List.foldl_cons]
    by_cases same : first = code
    · subst same
      obtain ⟨next, follows⟩ := follows.insert valid (by rwa [List.append_cons])
      exact ih follows short
    · exact ih (follows.skip same) short

/-- No code point of the sequence lies between the last one that is in place and the next one. -/
theorem Follows.advance (follows : Follows start basic low [] sequence progress reading) (onward : low ≤ code)
    (none : ∀ other ∈ sequence, low ≤ other → code ≤ other) :
    Follows start basic code [] sequence
      { progress with distance := progress.distance + (code - low) * (progress.placed + 1) } reading := by
  obtain ⟨reads, spelled, placed, count, reached, distance, numbered, weighted, here, biased, begun, first⟩ := follows
  refine ⟨reads, spelled, ?_, count, Nat.le_trans reached onward, ?_, numbered, weighted, here, biased, begun, first⟩
  · rw [placed]
    refine congrArg _ (List.filter_congr fun other member => decide_eq_decide.mpr ⟨fun small => ?_, fun small => ?_⟩)
    · exact Nat.lt_of_lt_of_le small onward
    · exact Nat.lt_of_not_le fun large => Nat.not_le_of_lt small (none other member large)
  · have split : code - reading.code = (low - reading.code) + (code - low) := by omega
    simp only [List.filter_nil, List.length_nil, Nat.add_zero] at distance ⊢
    rw [split, Nat.add_mul, ← distance]
    exact Nat.add_right_comm ..

/-- At the end of the sequence the next code point can be inserted, and its first place is one further. -/
theorem Follows.wrap (follows : Follows start basic code sequence [] progress reading) :
    Follows start basic (code + 1) [] sequence { progress with distance := progress.distance + 1 } reading := by
  obtain ⟨reads, spelled, placed, count, reached, distance, numbered, weighted, here, biased, begun, first⟩ := follows
  have same : sequence.filter (· < code + 1) = sequence.filter (· ≤ code) :=
    List.filter_congr fun other _ => decide_eq_decide.mpr Nat.lt_succ_iff
  rw [List.filter_nil, List.append_nil] at placed
  refine ⟨reads, spelled, ?_, count, Nat.le_succ_of_le reached, ?_, numbered, weighted, here, biased, begun, first⟩
  · rw [placed, same]
    rfl
  · have onward : code + 1 - reading.code = (code - reading.code) + 1 := by omega
    have size : (sequence.filter (· ≤ code)).length = progress.placed := by rw [count, placed]
    rw [size] at distance
    rw [onward, Nat.add_mul, Nat.one_mul, List.filter_nil, List.length_nil, Nat.add_zero, Nat.add_right_comm, distance]
    exact Nat.add_assoc ..

/-- Once all code points have been inserted, they are all in place. -/
theorem Follows.insertAll {codes : List Nat} (sorted : codes.Pairwise (· < ·)) (known : ∀ code ∈ codes, low ≤ code)
    (complete : ∀ code ∈ sequence, low ≤ code → code ∈ codes) (valid : ∀ code ∈ codes, code.isValidChar)
    (short : sequence.length ≤ lengthLimit) (follows : Follows start basic low [] sequence progress reading) :
    readAll start (insertAll sequence basic low codes progress).written = some sequence ∧
      ∀ c ∈ (Punycode.insertAll sequence basic low codes progress).written, ∃ value < 36, c = digitChar value := by
  -- The code points come in ascending order: all that are below the next one are in place.
  induction codes generalizing low progress reading with
  | nil =>
    have all : sequence.filter (· < low) = sequence := by
      refine List.filter_eq_self.mpr fun code member => decide_eq_true (Nat.lt_of_not_le fun large => ?_)
      cases complete code member large
    have read := follows.reads []
    rw [List.append_nil, readAll, if_pos follows.place, follows.placed, all] at read
    exact ⟨read, follows.spelled⟩
  | cons code codes ih =>
    obtain ⟨above, sorted⟩ := List.pairwise_cons.mp sorted
    have reached := follows.advance (known code List.mem_cons_self) fun other member large => by
      rcases List.mem_cons.mp (complete other member large) with rfl | later
      · exact Nat.le_refl _
      · exact Nat.le_of_lt (above other later)
    obtain ⟨next, passed⟩ := reached.passAll (valid code List.mem_cons_self) short
    refine ih sorted above (fun other member large => ?_)
      (fun other member => valid other (List.mem_cons_of_mem _ member))
      passed.wrap
    refine (List.mem_cons.mp (complete other member ?_)).resolve_left (Nat.ne_of_gt large)
    exact Nat.le_trans (known code List.mem_cons_self) (Nat.le_of_lt large)

private theorem pairwise_eraseDups {codes : List Nat} (sorted : codes.Pairwise (· ≤ ·)) : codes.eraseDups.Pairwise
    (· < ·) := by
  generalize size : codes.length = length
  induction length using Nat.strongRecOn generalizing codes with
  | _ length ih =>
    cases codes with
    | nil => exact List.Pairwise.nil
    | cons code codes =>
      obtain ⟨above, sorted⟩ := List.pairwise_cons.mp sorted
      rw [List.eraseDups_cons]
      refine List.pairwise_cons.mpr ⟨fun other member => ?_, ih _ ?_ (sorted.filter _) rfl⟩
      · obtain ⟨member, different⟩ := List.mem_filter.mp (List.mem_eraseDups.mp member)
        exact Nat.lt_of_le_of_ne (above other member) (Ne.symm (by simpa using different))
      · rw [← size]
        exact Nat.lt_succ_of_le (List.length_filter_le ..)

private theorem mem_extended : code ∈ extended sequence ↔ code ∈ sequence ∧ 0x80 ≤ code := by
  rw [extended, List.mem_eraseDups, List.mem_mergeSort, List.mem_filter, decide_eq_true_iff]

private theorem pairwise_extended (sequence : List Nat) : (extended sequence).Pairwise (· < ·) := by
  refine pairwise_eraseDups ?_
  have sorted :
      ((sequence.filter (0x80 ≤ ·)).mergeSort (· ≤ ·)).Pairwise fun first second => decide (first ≤ second) = true :=
    List.pairwise_mergeSort (by simpa using fun _ _ _ => Nat.le_trans) (by simpa using Nat.le_total) _
  simpa using sorted

/-- What stands behind the last hyphen has no hyphen, and without code points of ASCII there is none. -/
theorem cutAtHyphen_written (front : List Char) {written : List Char} (apart : '-' ∉ written) :
    cutAtHyphen (front ++ (if front.isEmpty then [] else ['-']) ++ written) = (front, written) := by
  cases front with
  | nil => rw [List.isEmpty_nil, if_pos rfl, List.append_nil, List.nil_append, cutAtHyphen, cutAtLast_absent apart]
  | cons first more =>
    have cut := cutAtLast_append apart (first :: more)
    rw [List.isEmpty_cons, if_neg Bool.false_ne_true, List.append_assoc, List.singleton_append, cutAtHyphen, cut]

private theorem mem_cutAtHyphen {c : Char} (member : c ∈ text) :
    c ∈ (cutAtHyphen text).1 ∨ c = '-' ∨ c ∈ (cutAtHyphen text).2 := by
  unfold cutAtHyphen
  split
  next first more rest cut =>
    rw [eq_append_of_cutAtLast cut] at member
    rcases List.mem_append.mp member with front | back
    · exact .inl front
    · exact .inr (List.mem_cons.mp back)
  next => exact .inr (.inr member)

theorem ascii_of_decode? {codes : List Nat} (read : decode? text = some codes) : ∀ c ∈ text, c.toNat < 0x80 := by
  intro c member
  rw [decode?] at read
  dsimp only at read
  split at read
  next ascii =>
    rcases mem_cutAtHyphen member with front | rfl | back
    · exact of_decide_eq_true (List.all_eq_true.mp ascii c front)
    · decide
    · exact ascii_of_readAll read c back
  next => cases read

section

variable (valid : ∀ code ∈ sequence, code.isValidChar) (short : sequence.length ≤ lengthLimit)
include valid short

private theorem readAll_written :
    let basic := sequence.filter (· < 0x80)
    let written := (insertAll sequence basic.length 0x80 (extended sequence) ⟨[], 0, initialBias, basic.length⟩).written
    readAll ⟨basic, 0x80, 0, 0, 1, 36, initialBias⟩ written = some sequence ∧
      ∀ c ∈ written, ∃ value < 36, c = digitChar value := by
  intro basic written
  have start : Follows ⟨basic, 0x80, 0, 0, 1, 36, initialBias⟩ basic.length 0x80 [] sequence
      ⟨[], 0, initialBias, basic.length⟩ ⟨basic, 0x80, 0, 0, 1, 36, initialBias⟩ := by
    refine ⟨fun _ => rfl, nofun, rfl, rfl, Nat.le_refl _, ?_, rfl, rfl, rfl, rfl, Nat.le_refl _, ?_⟩
    · simp
    · simp
  exact start.insertAll (pairwise_extended sequence) (fun code member => (mem_extended.mp member).2)
    (fun code member large => mem_extended.mpr ⟨member, large⟩)
    (fun code member => valid code (mem_extended.mp member).1) short

/-- What is written in Punycode is read back. -/
theorem decode?_encode : decode? (encode sequence) = some sequence := by
  obtain ⟨read, spelled⟩ := readAll_written valid short
  have same : ∀ code < 0x80, (Char.ofNat code).toNat = code := by decide +kernel
  have kept : ∀ code ∈ sequence.filter (· < 0x80), (Char.ofNat code).toNat = code := fun code member =>
    same code (of_decide_eq_true (List.mem_filter.mp member).2)
  have codes : ((sequence.filter (· < 0x80)).map Char.ofNat).map Char.toNat = sequence.filter (· < 0x80) := by
    rw [List.map_map]
    exact (List.map_congr_left kept).trans (List.map_id _)
  have ascii : ((sequence.filter (· < 0x80)).map Char.ofNat).all (·.toNat < 0x80) = true := by
    rw [List.all_map, List.all_eq_true]
    intro code member
    rw [Function.comp_apply, kept code member]
    exact (List.mem_filter.mp member).2
  have cut := cutAtHyphen_written ((sequence.filter (· < 0x80)).map Char.ofNat) fun hyphen => by
    obtain ⟨value, small, same⟩ := spelled '-' hyphen
    exact (digitChar_spells small).2.1 same.symm
  rw [List.isEmpty_map] at cut
  rw [decode?, encode, cut]
  dsimp only
  rw [if_pos ascii, codes]
  exact read

/-- Punycode is written with the characters of ASCII that there are, hyphens and digits. -/
theorem mem_encode {c : Char} (member : c ∈ encode sequence) :
    (∃ code ∈ sequence, code < 0x80 ∧ c = Char.ofNat code) ∨ c = '-' ∨ ∃ value < 36, c = digitChar value := by
  rw [encode] at member
  rcases List.mem_append.mp member with member | member
  · rcases List.mem_append.mp member with member | member
    · obtain ⟨code, within, rfl⟩ := List.mem_map.mp member
      obtain ⟨known, small⟩ := List.mem_filter.mp within
      exact .inl ⟨code, known, of_decide_eq_true small, rfl⟩
    · split at member
      · cases member
      · exact .inr (.inl (List.mem_singleton.mp member))
  · exact .inr (.inr ((readAll_written valid short).2 c member))

end

end AliasSync.Text.Punycode
