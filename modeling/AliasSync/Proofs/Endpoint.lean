import AliasSync.Http.Endpoint
import AliasSync.Proofs.UrlWriting
import Mathlib.Data.List.DropRight
import Mathlib.Data.List.Induction

/-! Where the calls of a service go. Behind a base a path becomes further segments of the path of the base, as long as
nothing in it has to be encoded or resolved. -/

namespace AliasSync

namespace Url

variable {c : Char} {text rest : List Char} {host : Host} {scheme : String}

def root (url : Url) : List String :=
  match url.path with
  | .plain _ => []
  | .segments segments => segments.rdropWhile (· == "")

def below (base : Url) (segments : List String) : Url := { base with path := .segments (base.root ++ segments) }

theorem parse_eq_ok {text : String} {url : Url} (read : (parse text).toOption = some url) : parse text = .ok url := by
  cases found : parse text with
  | error cause =>
    rw [found] at read
    cases read
  | ok other =>
    rw [found] at read
    exact congrArg Except.ok (Option.some.inj read)

/-- A URL that other URLs can be built upon: reading it as it is written gives it back, and it ends with its path. -/
structure IsBase (base : Url) : Prop where
  reads : parse base.text = .ok base
  query : base.query = none
  fragment : base.fragment = none

private theorem IsBase.sited {base : Url} (sound : base.IsBase) (web : IsWeb base.scheme) :
    ∃ host segments, base.IsSited host ∧ host.IsReadable ∧ base.path = .segments segments ∧
      ∀ segment ∈ segments, IsSettled segment := by
  obtain ⟨host, segments, sited, path, several, settled⟩ := isSited_of_parse sound.reads web
  have read := sited.parse_settled path several settled
  rw [sound.reads] at read
  refine ⟨host, segments, sited, ?_, path, settled⟩
  split at read
  · assumption
  · cases read

theorem pathLetters_append (first last : List String) :
    pathLetters (first ++ last) = pathLetters first ++ pathLetters last := List.flatMap_append

private theorem rdropWhile_inner {letters : List Char} (some : letters ≠ []) (inner : ∀ c ∈ letters, IsInner c)
    (front : List Char) : (front ++ letters).rdropWhile (· == '/') = front ++ letters := by
  obtain rfl | ⟨init, last, rfl⟩ := List.eq_nil_or_concat' letters
  · exact absurd rfl some
  · rw [← List.append_assoc]
    refine List.rdropWhile_concat_neg _ _ _ fun slash => ?_
    have apart := (inner last (List.mem_append_right _ (List.mem_singleton_self last))).apart
    rw [eq_of_beq slash] at apart
    cases apart

/-- Leaving out the slashes at the end of a path leaves out its empty segments there. -/
theorem rdropWhile_letters {front : List Char} (ends : front.rdropWhile (· == '/') = front) {segments : List String}
    (inner : ∀ segment ∈ segments, IsInnerText segment) :
    (front ++ pathLetters segments).rdropWhile (· == '/') =
      front ++ pathLetters (segments.rdropWhile (· == "")) := by
  induction segments using List.reverseRecOn with
  | nil => rw [List.rdropWhile_nil, pathLetters, List.flatMap_nil, List.append_nil, ends]
  | append_singleton init segment ih =>
    by_cases empty : segment = ""
    · subst empty
      rw [List.rdropWhile_concat_pos _ _ _ rfl, pathLetters_append, ← List.append_assoc]
      exact (List.rdropWhile_concat_pos _ _ _ rfl).trans
        (ih fun other member => inner other (List.mem_append_left _ member))
    · have filled : segment.toList ≠ [] := by simpa using empty
      have last := rdropWhile_inner filled
        (inner segment (List.mem_append_right _ (List.mem_singleton_self segment))) (front ++ pathLetters init ++ ['/'])
      have whole : front ++ pathLetters (init ++ [segment]) =
          front ++ pathLetters init ++ ['/'] ++ segment.toList := by
        have single : pathLetters [segment] = ['/'] ++ segment.toList := List.append_nil _
        rw [pathLetters_append, single]
        simp only [List.append_assoc]
      rw [List.rdropWhile_concat_neg _ _ _ (by simpa using empty), whole, last]

/-- A path behind a base is written as further segments of its path. -/
theorem endpointText_below {base : Url} (sited : base.IsSited host) {known : List String}
    (path : base.path = .segments known) (inner : ∀ segment ∈ known, IsInnerText segment) (query : base.query = none)
    (fragment : base.fragment = none) {segments : List String} {written : String}
    (spelled : written.toList = pathLetters segments) :
    Http.endpointText base written = (base.below segments).text := by
  obtain ⟨placed, within⟩ := sited.site_inner
  have tail : tailLetters base.query base.fragment = [] := by
    rw [query, fragment]
    rfl
  have root : base.root = known.rdropWhile (· == "") := by rw [Url.root, path]
  have letters := sited.text_letters path
  have below := (sited.withPath (.segments (base.root ++ segments))).text_letters rfl
  rw [tail, List.append_nil] at letters
  change (base.below segments).text.toList = base.scheme.toList ++ ':' :: '/' :: '/' ::
    ((base.credentials.toList ++ (host.text.toList ++ portLetters base.port)) ++
      (pathLetters (base.root ++ segments) ++ tailLetters base.query base.fragment)) at below
  rw [tail, List.append_nil] at below
  have front := rdropWhile_inner placed within (base.scheme.toList ++ [':', '/', '/'])
  have stripped := rdropWhile_letters front inner
  refine String.toList_inj.mp ?_
  rw [below, Http.endpointText, String.toList_append, String.toList_ofList, spelled, letters, pathLetters_append, root]
  simp only [List.append_assoc, List.cons_append, List.nil_append] at stripped ⊢
  rw [← List.rdropWhile, stripped]
  simp only [List.append_assoc, List.cons_append]

theorem root_settled {base : Url} {known : List String} (same : base.path = .segments known)
    (settled : ∀ segment ∈ known, IsSettled segment) : ∀ segment ∈ base.root, IsSettled segment := by
  rw [root, same]
  exact fun segment member => settled segment ((List.rdropWhile_prefix _ _).subset member)

/-- Behind a base a path is read as further segments of its path, the steps among them being taken. -/
theorem below_reads {base : Url} (sound : base.IsBase) (web : IsWeb base.scheme) {segments : List String}
    (some : segments ≠ []) (inner : ∀ segment ∈ segments, IsInnerText segment) {path : String}
    (spelled : path.toList = pathLetters segments) :
    parse (Http.endpointText base path) =
      .ok { base with path := .segments (resolveSegments false base.root (segments.map String.toList)) } := by
  obtain ⟨host, known, sited, readable, same, settled⟩ := sound.sited web
  have root := root_settled same settled
  have each : ∀ segment ∈ base.root ++ segments, IsInnerText segment :=
    List.forall_mem_append.mpr ⟨fun segment member => (root segment member).inner, inner⟩
  rw [endpointText_below sited same (fun segment member => (settled segment member).inner) sound.query sound.fragment
    spelled, below, (sited.withPath _).parse_text rfl (List.append_ne_nil_of_right_ne_nil _ some) each, if_pos readable,
    List.map_append, resolveSegments_append root, List.nil_append]

def isUnreserved (c : Char) : Bool := c.isAlphanum || "-._~".toList.contains c

/-- An id that a path can end in: it has only unreserved characters, and it is no step within a path. -/
structure IsPlainId (id : String) : Prop where
  unreserved : ∀ c ∈ id.toList, isUnreserved c = true
  onward : id ≠ "."
  forward : id ≠ ".."

private theorem isControl_of_isAlphanum (alphanumeric : c.isAlphanum = true) : isControl c = false := by
  have ranges : (decide ('A'.val ≤ c.val ∧ c.val ≤ 'Z'.val) || (decide ('a'.val ≤ c.val) && decide (c.val ≤ 'z'.val)) ||
      (decide ('0'.val ≤ c.val) && decide (c.val ≤ '9'.val))) = true := alphanumeric
  simp only [Bool.or_eq_true, Bool.and_eq_true, decide_eq_true_eq, Char.reduceVal, UInt32.le_iff_toNat_le,
    UInt32.reduceToNat] at ranges
  simp only [isControl, Char.toNat, decide_eq_false_iff_not]
  omega

private theorem isControl_of_unreserved (unreserved : isUnreserved c = true) : isControl c = false := by
  rcases Bool.or_eq_true_iff.mp unreserved with alphanumeric | mark
  · exact isControl_of_isAlphanum alphanumeric
  · have each : "-._~".toList.all (!isControl ·) = true := by decide
    exact Bool.not_eq_true' _ ▸ List.all_eq_true.mp each c (List.contains_iff_mem.mp mark)

theorem of_unreserved {motive : Char → Prop}
    (ascii : ∀ code < 0x7F, isUnreserved (Char.ofNat code) = true → motive (Char.ofNat code))
    (unreserved : isUnreserved c = true) : motive c :=
  of_not_isControl (motive := fun c => isUnreserved c = true → motive c) ascii (isControl_of_unreserved unreserved)
    unreserved

/-- Unreserved characters in lower case are dots only if they have been dots. -/
theorem eq_of_lower_dots {id dots : String} (unreserved : ∀ c ∈ id.toList, isUnreserved c = true)
    (only : dots.toList.all (· == '.') = true) (lower : String.ofList (id.toList.map Char.toLower) = dots) :
    id = dots := by
  have letters : id.toList.map Char.toLower = dots.toList := by rw [← lower, String.toList_ofList]
  refine String.toList_inj.mp ?_
  rw [← letters]
  refine (List.map_id _).symm.trans (List.map_congr_left fun c member => ?_)
  have dot := beq_iff_eq.mp (List.all_eq_true.mp only c.toLower (letters ▸ List.mem_map_of_mem member))
  have same : c.toLower = '.' → c = c.toLower :=
    of_unreserved (motive := fun c => c.toLower = '.' → c = c.toLower) (by decide +kernel) (unreserved c member)
  exact same dot

private theorem lower_ne_percent {id escaped : String} (unreserved : ∀ c ∈ id.toList, isUnreserved c = true)
    (percent : '%' ∈ escaped.toList) : String.ofList (id.toList.map Char.toLower) ≠ escaped := by
  rintro rfl
  rw [String.toList_ofList] at percent
  obtain ⟨c, member, same⟩ := List.mem_map.mp percent
  exact of_unreserved (motive := fun c => c.toLower ≠ '%') (by decide +kernel) (unreserved c member) same

theorem IsPlainId.settled {id : String} (plain : IsPlainId id) : IsSettled id where
  inner c member := of_unreserved (by decide +kernel) (plain.unreserved c member)
  forward := by
    refine eq_false_of_ne_true fun double => ?_
    have spelled := List.contains_iff_mem.mp double
    simp only [List.mem_cons, List.not_mem_nil, or_false] at spelled
    rcases spelled with dots | escaped | escaped | escaped
    · exact plain.forward (eq_of_lower_dots plain.unreserved (by decide) dots)
    · exact lower_ne_percent plain.unreserved (by decide) escaped
    · exact lower_ne_percent plain.unreserved (by decide) escaped
    · exact lower_ne_percent plain.unreserved (by decide) escaped
  onward := by
    refine eq_false_of_ne_true fun single => ?_
    have spelled := List.contains_iff_mem.mp single
    simp only [List.mem_cons, List.not_mem_nil, or_false] at spelled
    rcases spelled with dot | escaped
    · exact plain.onward (eq_of_lower_dots plain.unreserved (by decide) dot)
    · exact lower_ne_percent plain.unreserved (by decide) escaped
  encoded := percentEncode_encoded fun c member =>
    of_unreserved (motive := fun c => inPathSet c = false) (by decide +kernel) (plain.unreserved c member)

theorem rdropWhile_front (drops : Char → Bool) (last : Char) (stays : drops last = false) (front rest : List Char) :
    (front ++ last :: rest).rdropWhile drops = front ++ last :: rest.rdropWhile drops := by
  induction rest using List.reverseRecOn with
  | nil => exact List.rdropWhile_concat_neg _ _ _ (ne_true_of_eq_false stays)
  | append_singleton rest c ih =>
    rw [← List.cons_append, ← List.append_assoc]
    by_cases drop : drops c = true
    · rw [List.rdropWhile_concat_pos _ _ _ drop, List.rdropWhile_concat_pos _ _ _ drop]
      exact ih
    · rw [List.rdropWhile_concat_neg _ _ _ drop, List.rdropWhile_concat_neg _ _ _ drop, List.append_assoc]
      rfl

def isSchemeChar (c : Char) : Bool := c.isAlphanum || c == '+' || c == '-' || c == '.'

/-- A scheme as it is kept: it begins with a letter and is in lower case. -/
structure IsScheme (scheme : List Char) : Prop where
  letter : ∃ first rest, scheme = first :: rest ∧ first.isAlpha = true
  marks : ∀ c ∈ scheme, isSchemeChar c = true
  lower : ∀ c ∈ scheme, c.toLower = c

private theorem of_isSchemeChar {motive : Char → Prop}
    (ascii : ∀ code < 0x7F, isSchemeChar (Char.ofNat code) = true → motive (Char.ofNat code))
    (mark : isSchemeChar c = true) : motive c := by
  refine of_not_isControl (motive := fun c => isSchemeChar c = true → motive c) ascii ?_ mark
  simp only [isSchemeChar, Bool.or_eq_true, beq_iff_eq] at mark
  rcases mark with ((alphanumeric | rfl) | rfl) | rfl
  · exact isControl_of_isAlphanum alphanumeric
  · decide
  · decide
  · decide

private theorem isScheme_of_scheme? {found : String} (read : scheme? text = some (found, rest)) :
    IsScheme found.toList := by
  have same : (fun c : Char => c.isAlphanum || c == '+' || c == '-' || c == '.') = isSchemeChar := rfl
  simp only [scheme?, same] at read
  split at read
  case h_2 => cases read
  case h_1 first more after begins =>
    split at read
    case isFalse => cases read
    case isTrue letter =>
      cases read
      rw [String.toList_ofList]
      have marks : ∀ c ∈ (first :: more).takeWhile isSchemeChar, isSchemeChar c = true :=
        fun c member => List.mem_takeWhile_imp member
      have opening : isSchemeChar first = true := by
        simp only [isSchemeChar, Char.isAlphanum, letter, Bool.true_or]
      constructor
      · refine ⟨first.toLower, _, by rw [List.takeWhile_cons_of_pos opening]; rfl, ?_⟩
        exact of_isSchemeChar (motive := fun c => c.isAlpha = true → c.toLower.isAlpha = true) (by decide +kernel)
          opening letter
      · intro c member
        obtain ⟨source, within, rfl⟩ := List.mem_map.mp member
        exact of_isSchemeChar (motive := fun c => isSchemeChar c.toLower = true) (by decide +kernel)
          (marks source within)
      · intro c member
        obtain ⟨source, within, rfl⟩ := List.mem_map.mp member
        exact of_isSchemeChar (motive := fun c => c.toLower.toLower = c.toLower) (by decide +kernel)
          (marks source within)

private theorem scheme?_front {front : List Char} (sound : IsScheme front) (rest : List Char) :
    scheme? (front ++ ':' :: rest) = some (String.ofList front, rest) := by
  obtain ⟨first, more, rfl, letter⟩ := sound.letter
  have dropped : (first :: more ++ ':' :: rest).dropWhile isSchemeChar = ':' :: rest := by
    rw [List.dropWhile_append_of_pos sound.marks]
    rfl
  have taken : (first :: more ++ ':' :: rest).takeWhile isSchemeChar = first :: more := by
    rw [List.takeWhile_append_of_pos sound.marks]
    exact List.append_nil _
  have lower : (first :: more).map Char.toLower = first :: more :=
    (List.map_congr_left sound.lower).trans (List.map_id _)
  have same : (fun c : Char => c.isAlphanum || c == '+' || c == '-' || c == '.') = isSchemeChar := rfl
  simp only [scheme?, same, dropped, taken, lower]
  rw [List.cons_append]
  exact if_pos letter

private theorem clean_front {front : List Char} (sound : IsScheme front) {written : String}
    (spelled : written.toList = front ++ ':' :: rest) : ∃ kept, clean written = front ++ ':' :: kept := by
  have visible : ∀ c ∈ front ++ [':'], 0x20 < c.toNat := by
    intro c member
    rcases List.mem_append.mp member with member | member
    · exact of_isSchemeChar (motive := fun c => 0x20 < c.toNat) (by decide +kernel) (sound.marks c member)
    · cases List.mem_singleton.mp member
      decide
  have solid : ∀ c ∈ front ++ [':'], (c != '\t' && c != '\n' && c != '\r') = true := by
    intro c member
    have seen := visible c member
    simp only [Bool.and_eq_true, bne_iff_ne]
    refine ⟨⟨?_, ?_⟩, ?_⟩ <;>
      · rintro rfl
        revert seen
        decide
  obtain ⟨first, more, rfl, -⟩ := sound.letter
  have opening : ¬ decide (first.toNat ≤ 0x20) = true := by
    simpa using visible first (List.mem_append_left _ List.mem_cons_self)
  have trimmed := rdropWhile_front (fun c => decide (c.toNat ≤ 0x20)) ':' rfl (first :: more) rest
  simp only [clean, spelled]
  have leading : (first :: more ++ ':' :: rest).dropWhile (fun c => decide (c.toNat ≤ 0x20)) =
      first :: more ++ ':' :: rest := List.dropWhile_cons_of_neg opening
  rw [leading, ← List.rdropWhile, trimmed,
    List.append_cons, List.filter_append, List.filter_eq_self.mpr solid]
  exact ⟨_, (List.append_cons ..).symm⟩

private theorem text_front (url : Url) : ∃ rest, url.text.toList = url.scheme.toList ++ ':' :: rest := by
  have colon : ":".toList = [':'] := rfl
  simp only [text, String.append_assoc]
  generalize url.authority ++ _ = rest
  refine ⟨rest.toList, ?_⟩
  rw [String.toList_append, String.toList_append, colon]
  rfl

end Url

namespace Http

variable {base : Url} {path : String}

private theorem endpoint_eq_ok {url : Url} (found : endpoint base path = .ok url) :
    Url.parse (endpointText base path) = .ok url := by
  simp only [endpoint] at found
  cases read : Url.parse (endpointText base path) with
  | error fault =>
    rw [read] at found
    cases found
  | ok value =>
    rw [read] at found
    cases found
    rfl

open Url in
/-- Whatever path is put behind a base, the scheme stays. -/
theorem endpoint_scheme {url : Url} (reads : parse base.text = .ok base) (found : endpoint base path = .ok url) :
    url.scheme = base.scheme := by
  obtain ⟨rest, known⟩ := parse_scheme reads
  obtain ⟨after, taken⟩ := parse_scheme (endpoint_eq_ok found)
  have sound := isScheme_of_scheme? known
  obtain ⟨rest, spelled⟩ := base.text_front
  have stripped := rdropWhile_front (· == '/') ':' rfl base.scheme.toList rest
  have extended : (endpointText base path).toList =
      base.scheme.toList ++ ':' :: (rest.rdropWhile (· == '/') ++ path.toList) := by
    rw [endpointText, String.toList_append, String.toList_ofList, spelled, ← List.rdropWhile, stripped,
      List.append_assoc, List.cons_append]
  obtain ⟨more, cleaned⟩ := clean_front sound extended
  rw [cleaned, scheme?_front sound, String.ofList_toList] at taken
  exact (Prod.mk.inj (Option.some.inj taken)).1.symm

/-- Behind a base under which services can be called a path becomes further segments, the steps among them being
taken. -/
theorem endpoint_resolved (sound : base.IsBase) (web : Url.IsWeb base.scheme) {segments : List String}
    (some : segments ≠ []) (inner : ∀ segment ∈ segments, Url.IsInnerText segment)
    (spelled : path.toList = Url.pathLetters segments) :
    endpoint base path =
      .ok { base with path := .segments (Url.resolveSegments false base.root (segments.map String.toList)) } := by
  rw [endpoint, Url.below_reads sound web some inner spelled]
  rfl

theorem endpoint_below (sound : base.IsBase) (web : Url.IsWeb base.scheme) {segments : List String}
    (some : segments ≠ []) (settled : ∀ segment ∈ segments, Url.IsSettled segment)
    (spelled : path.toList = Url.pathLetters segments) : endpoint base path = .ok (base.below segments) := by
  rw [endpoint_resolved sound web some (fun segment member => (settled segment member).inner) spelled,
    Url.resolveSegments_settled settled]
  rfl

end Http

end AliasSync
