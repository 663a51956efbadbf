import AliasSync.Proofs.UrlText

/-! Reading a URL that is written in parts which stay as they are. -/

namespace AliasSync.Url

variable {c : Char} {text rest : List Char} {scheme : String}

private theorem fileUrl_scheme {url : Url} (read : fileUrl text = .ok url) : url.scheme = "file" := by
  have hosted {text : List Char} (read : fileWithHost text = .ok url) : url.scheme = "file" := by
    unfold fileWithHost at read
    dsimp only at read
    split at read
    · cases read
      rfl
    split at read
    · cases read
      rfl
    obtain ⟨host, -, read⟩ := ok_of_bind read
    split at read <;>
      · cases read
        rfl
  unfold fileUrl at read
  split at read
  · split at read
    · exact hosted read
    · cases read
      rfl
  · cases read
    rfl

private theorem withAuthority_scheme {url : Url} (read : withAuthority scheme text = .ok url) :
    url.scheme = scheme := by
  obtain ⟨⟨authority, left⟩, -, read⟩ := ok_of_bind read
  cases read
  rfl

private theorem otherUrl_scheme {url : Url} (read : otherUrl scheme text = .ok url) : url.scheme = scheme := by
  unfold otherUrl at read
  split at read
  · exact withAuthority_scheme read
  · cases read
    rfl
  · cases read
    rfl

/-- The scheme of a URL is the one that it is written with. -/
theorem parse_scheme {written : String} {url : Url} (read : parse written = .ok url) :
    ∃ rest, scheme? (clean written) = some (url.scheme, rest) := by
  unfold parse at read
  split at read
  · cases read
  case h_2 scheme rest found =>
    split at read
    case isTrue file =>
      rw [fileUrl_scheme read, ← eq_of_beq file]
      exact ⟨rest, found⟩
    split at read
    case isTrue => exact ⟨rest, withAuthority_scheme read ▸ found⟩
    case isFalse => exact ⟨rest, otherUrl_scheme read ▸ found⟩

def IsWeb (scheme : String) : Prop := scheme = "http" ∨ scheme = "https"

theorem IsWeb.special (web : IsWeb scheme) : isSpecial scheme = true ∧ (scheme == "file") = false := by
  rcases web with rfl | rfl <;> decide

theorem parse_web (web : IsWeb scheme) {written : String} (found : scheme? (clean written) = some (scheme, rest)) :
    parse written = withAuthority scheme (rest.dropWhile (isSlash true)) := by
  obtain ⟨special, other⟩ := web.special
  unfold parse
  simp only [found, special, other, Bool.false_eq_true, ↓reduceIte]

def pathLetters (segments : List String) : List Char := segments.flatMap fun segment => '/' :: segment.toList

theorem mem_pathLetters {segments : List String} (inner : ∀ segment ∈ segments, IsInnerText segment)
    (member : c ∈ pathLetters segments) : c = '/' ∨ IsInner c := by
  obtain ⟨segment, within, member⟩ := List.mem_flatMap.mp member
  rcases List.mem_cons.mp member with same | member
  · exact .inl same
  · exact .inr (inner segment within c member)

private theorem clean_of_visible {written : String} (visible : ∀ c ∈ written.toList, 0x20 < c.toNat) :
    clean written = written.toList := by
  have kept (text : List Char) (visible : ∀ c ∈ text, 0x20 < c.toNat) :
      text.dropWhile (fun c => decide (c.toNat ≤ 0x20)) = text := by
    cases text with
    | nil => rfl
    | cons c rest =>
      refine List.dropWhile_cons_of_neg ?_
      simpa using visible c List.mem_cons_self
  simp only [clean]
  rw [kept _ visible, kept _ fun c member => visible c (List.mem_reverse.mp member), List.reverse_reverse]
  refine List.filter_eq_self.mpr fun c member => ?_
  have seen := visible c member
  simp only [Bool.and_eq_true, bne_iff_ne]
  refine ⟨⟨?_, ?_⟩, ?_⟩ <;>
    · rintro rfl
      revert seen
      decide

private theorem splitOnP_letters {letters : List Char} (within : ∀ c ∈ letters, isSlash true c = false)
    {segments : List String} (inner : ∀ segment ∈ segments, IsInnerText segment) :
    (letters ++ pathLetters segments).splitOnP (isSlash true) = letters :: segments.map String.toList := by
  induction segments generalizing letters with
  | nil => rw [pathLetters, List.flatMap_nil, List.append_nil, List.splitOnP_eq_singleton within, List.map_nil]
  | cons segment rest ih =>
    have later : (segment.toList ++ pathLetters rest).splitOnP (isSlash true) =
        segment.toList :: rest.map String.toList :=
      ih (fun c member => (inner segment List.mem_cons_self c member).apart)
        fun other member => inner other (List.mem_cons_of_mem _ member)
    rw [List.map_cons, ← later]
    exact List.splitOnP_append_cons_of_forall_mem within '/' rfl _

theorem cutAtFirst_absent {separator : Char} (absent : separator ∉ text) :
    cutAtFirst separator text = (text, none) := by
  have passed : text.dropWhile (· != separator) = [] := by
    refine List.dropWhile_eq_nil_iff.mpr fun c member => ?_
    rw [bne_iff_ne]
    rintro rfl
    exact absent member
  simp only [cutAtFirst, passed]

theorem cutAtFirst_append {separator : Char} (absent : separator ∉ text) :
    cutAtFirst separator (text ++ separator :: rest) = (text, some rest) := by
  have passed : ∀ c ∈ text, (c != separator) = true := by
    intro c member
    rw [bne_iff_ne]
    rintro rfl
    exact absent member
  have stop : ¬ (separator != separator) = true := by simp
  have dropped : (text ++ separator :: rest).dropWhile (· != separator) = separator :: rest := by
    rw [List.dropWhile_append_of_pos passed, List.dropWhile_cons_of_neg (p := (· != separator)) stop]
  have taken : (text ++ separator :: rest).takeWhile (· != separator) = text := by
    rw [List.takeWhile_append_of_pos passed, List.takeWhile_cons_of_neg (p := (· != separator)) stop, List.append_nil]
  simp only [cutAtFirst, dropped, taken]

def tailLetters (query fragment : Option String) : List Char :=
  (query.map fun query => '?' :: query.toList).getD [] ++ (fragment.map fun fragment => '#' :: fragment.toList).getD []

theorem partsOf_letters {segments : List String} (inner : ∀ segment ∈ segments, IsInnerText segment)
    {query : Option String} (closed : ∀ text, query = some text → '#' ∉ text.toList) (fragment : Option String) :
    partsOf (pathLetters segments ++ tailLetters query fragment) =
      ⟨pathLetters segments, query.map String.toList, fragment.map String.toList⟩ := by
  have absent (separator : Char) (other : separator ≠ '/') (apart : ¬ IsInner separator) :
      separator ∉ pathLetters segments := by
    intro member
    rcases mem_pathLetters inner member with same | inner
    · exact other same
    · exact apart inner
  have hash := absent '#' (by decide) (by decide)
  have mark := absent '?' (by decide) (by decide)
  have front : '#' ∉ pathLetters segments ++ (query.map fun query => '?' :: query.toList).getD [] := by
    rw [List.mem_append, not_or]
    refine ⟨hash, ?_⟩
    cases query with
    | none => exact List.not_mem_nil
    | some query => exact List.not_mem_cons_of_ne_of_not_mem (by decide) (closed query rfl)
  have cut : cutAtFirst '#' (pathLetters segments ++ tailLetters query fragment) =
      (pathLetters segments ++ (query.map fun query => '?' :: query.toList).getD [], fragment.map String.toList) := by
    rw [tailLetters, ← List.append_assoc]
    cases fragment with
    | none => exact (congrArg _ (List.append_nil _)).trans (cutAtFirst_absent front)
    | some fragment => exact cutAtFirst_append front
  rw [partsOf, cut]
  cases query with
  | none =>
    have bare : cutAtFirst '?' (pathLetters segments ++ []) = (pathLetters segments, none) := by
      rw [List.append_nil]
      exact cutAtFirst_absent mark
    exact congrArg (fun pieces : List Char × Option (List Char) => (⟨pieces.1, pieces.2, _⟩ : Parts)) bare
  | some query =>
    have open_ : cutAtFirst '?' (pathLetters segments ++ '?' :: query.toList) =
        (pathLetters segments, some query.toList) :=
      cutAtFirst_append mark
    exact congrArg (fun pieces : List Char × Option (List Char) => (⟨pieces.1, pieces.2, _⟩ : Parts)) open_

private theorem scheme?_letters (web : IsWeb scheme) (rest : List Char) :
    scheme? (scheme.toList ++ ':' :: rest) = some (scheme, rest) := by
  rcases web with rfl | rfl <;> rfl

theorem segmentsOf_letters {segments : List String} (some : segments ≠ [])
    (inner : ∀ segment ∈ segments, IsInnerText segment) :
    segmentsOf true (pathLetters segments) = resolveSegments false [] (segments.map String.toList) := by
  obtain ⟨segment, later, rfl⟩ := List.exists_cons_of_ne_nil some
  have parts := splitOnP_letters (fun c member => (inner segment List.mem_cons_self c member).apart)
    fun other member => inner other (List.mem_cons_of_mem segment member)
  exact congrArg (resolveSegments false []) parts

/-- Reading a URL whose authority is written as it is, with a path behind it. -/
theorem parse_site (web : IsWeb scheme) {written : String} {site after : List Char} (placed : site ≠ [])
    (within : ∀ c ∈ site, IsInner c) (visible : ∀ c ∈ '/' :: after, 0x20 < c.toNat)
    (spelled : written.toList = scheme.toList ++ ':' :: '/' :: '/' :: (site ++ '/' :: after)) :
    parse written = (readAuthority scheme site false).bind fun read =>
      .ok (assemble scheme (some read.1) (.segments (segmentsOf true (read.2 ++ (partsOf ('/' :: after)).path)))
        (partsOf ('/' :: after))) := by
  have seen : ∀ c ∈ written.toList, 0x20 < c.toNat := by
    intro c member
    rw [spelled] at member
    rcases List.mem_append.mp member with member | member
    · have each : ("http".toList ++ "https".toList).all (0x20 < ·.toNat) = true := by decide
      refine of_decide_eq_true (List.all_eq_true.mp each c ?_)
      rcases web with rfl | rfl
      · exact List.mem_append_left _ member
      · exact List.mem_append_right _ member
    · rw [List.mem_cons, List.mem_cons, List.mem_cons, List.mem_append] at member
      rcases member with rfl | rfl | rfl | member | member
      · decide
      · decide
      · decide
      · exact (within c member).1
      · exact visible c member
  have ends : ∀ c ∈ site, (!endsAuthority true c) = true := fun c member => by
    rw [(within c member).2]
    rfl
  have opened : ('/' :: '/' :: (site ++ '/' :: after)).dropWhile (isSlash true) = site ++ '/' :: after := by
    obtain ⟨first, others, rfl⟩ := List.exists_cons_of_ne_nil placed
    have apart := (within first List.mem_cons_self).apart
    rw [List.dropWhile_cons_of_pos rfl, List.dropWhile_cons_of_pos rfl, List.cons_append,
      List.dropWhile_cons_of_neg (ne_true_of_eq_false apart)]
  have taken : (site ++ '/' :: after).takeWhile (fun c => !endsAuthority true c) = site := by
    rw [List.takeWhile_append_of_pos ends]
    exact List.append_nil site
  have dropped : (site ++ '/' :: after).dropWhile (fun c => !endsAuthority true c) = '/' :: after := by
    rw [List.dropWhile_append_of_pos ends]
    rfl
  rw [parse_web web ((clean_of_visible seen).trans spelled ▸ scheme?_letters web _), opened, withAuthority,
    web.special.1, taken, dropped, List.isEmpty_cons]
  cases readAuthority scheme site false <;> rfl

/-- A segment that is no step within a path and has nothing to encode. -/
structure IsSettled (segment : String) : Prop where
  inner : IsInnerText segment
  forward : isDoubleDot segment.toList = false
  onward : isSingleDot segment.toList = false
  encoded : percentEncode inPathSet segment.toList = segment.toList

instance : DecidablePred IsSettled := fun segment =>
  decidable_of_iff (IsInnerText segment ∧ isDoubleDot segment.toList = false ∧ isSingleDot segment.toList = false ∧
      percentEncode inPathSet segment.toList = segment.toList)
    ⟨fun ⟨inner, forward, onward, encoded⟩ => ⟨inner, forward, onward, encoded⟩,
      fun settled => ⟨settled.inner, settled.forward, settled.onward, settled.encoded⟩⟩

theorem resolveSegments_append {segments : List String} (settled : ∀ segment ∈ segments, IsSettled segment)
    (done : List String) (parts : List (List Char)) :
    resolveSegments false done (segments.map String.toList ++ parts) =
      resolveSegments false (done ++ segments) parts := by
  induction segments generalizing done with
  | nil => exact congrArg (resolveSegments false · parts) (List.append_nil done).symm
  | cons segment rest ih =>
    have first := settled segment List.mem_cons_self
    rw [List.map_cons, List.cons_append, resolveSegments, if_neg (ne_true_of_eq_false first.forward),
      if_neg (ne_true_of_eq_false first.onward), ih fun other member => settled other (List.mem_cons_of_mem _ member),
      Bool.false_and, segmentText, Bool.false_and, if_neg Bool.false_ne_true, first.encoded, String.ofList_toList,
      List.append_assoc, List.singleton_append]

theorem resolveSegments_settled {segments : List String} (settled : ∀ segment ∈ segments, IsSettled segment)
    (done : List String) : resolveSegments false done (segments.map String.toList) = done ++ segments := by
  have all := resolveSegments_append settled done []
  rwa [List.append_nil] at all

end AliasSync.Url
