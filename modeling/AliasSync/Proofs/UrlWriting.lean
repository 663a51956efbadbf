import AliasSync.Proofs.ByteOrder
import AliasSync.Proofs.HostReading
import AliasSync.Proofs.UrlReading

/-! URLs that are read as they are written. Reading a URL under which services can be called leaves it in a form that
reading does not change any more, and of such a form any part can be replaced. -/

namespace AliasSync.Url

open AliasSync.Text (cutAtLast cutAtLast_absent cutAtLast_append)

variable {c : Char} {text rest : List Char} {host : Host} {scheme : String} {encoded : Char → Bool}

def IsEncoded (encoded : Char → Bool) (text : List Char) : Prop := ∀ c ∈ text, encoded c = false

theorem percentEncode_encoded (settled : IsEncoded encoded text) : percentEncode encoded text = text := by
  rw [percentEncode]
  exact (List.flatMap_congr fun c member => if_neg (ne_true_of_eq_false (settled c member))).trans
    (List.flatMap_singleton' _)

private theorem isEncoded_percentEncode (spared : percentMarks.all (!encoded ·) = true) (text : List Char) :
    IsEncoded encoded (percentEncode encoded text) := by
  intro c member
  rcases mem_percentEncode member with ⟨-, kept⟩ | mark
  · exact kept
  · exact Bool.not_eq_true' _ ▸ List.all_eq_true.mp spared c mark

/-- An encoded character is written as bytes none of which is a dot. -/
theorem escape_of_mem (member : c ∈ text) (escaped : inPathSet c = true) :
    ∃ front byte back, percentEncode inPathSet text = front ++ percentByte byte ++ back ∧ byte ≠ 0x2E := by
  obtain ⟨before, after, rfl⟩ := List.append_of_mem member
  refine ⟨percentEncode inPathSet before, .ofNat (Text.lead c.toNat),
    (Text.trail c.toNat (Text.trailing c.toNat)).flatMap percentByte ++ percentEncode inPathSet after, ?_, ?_⟩
  · have bytes : Text.utf8 [c] = .ofNat (Text.lead c.toNat) :: Text.trail c.toNat (Text.trailing c.toNat) := by
      rw [Text.utf8_lead, Text.utf8, List.flatMap_nil, List.append_nil]
    simp only [percentEncode, List.flatMap_append, List.flatMap_cons, if_pos escaped, bytes, List.append_assoc]
  · intro dot
    have below := Text.lead_lt (Text.toNat_lt c)
    have value : Text.lead c.toNat = 0x2E := by
      have bytes := congrArg UInt8.toNat dot
      rwa [UInt8.toNat_ofNat', Nat.mod_eq_of_lt below] at bytes
    have code : c.toNat = 0x2E := by
      unfold Text.lead Text.trailing at value
      split_ifs at value <;> simp only [Text.leadMark, Nat.pow_zero, Nat.div_one] at value <;> omega
    have same : c = '.' := Char.toNat_inj.mp code
    subst same
    cases escaped

def stepTexts : List String := [".", "%2e", "..", "%2e.", ".%2e", "%2e%2e"]

/-- A step within a path holds no encoded characters. -/
theorem percentEncode_step
    (step : String.ofList ((percentEncode inPathSet text).map Char.toLower) ∈ stepTexts) :
    percentEncode inPathSet text = text := by
  refine percentEncode_encoded fun c member => eq_false_of_ne_true fun escaped => ?_
  obtain ⟨front, byte, back, written, other⟩ := escape_of_mem member escaped
  have dots : ∀ step ∈ stepTexts, step.toList.length ≤ 6 ∧ ∀ place < 6, step.toList[place]? = some '%' →
      step.toList[place + 1]? = some '2' ∧ step.toList[place + 2]? = some 'e' := by decide
  have digits : ∀ n < 16, ((hexDigit n).toLower = '2' → n = 2) ∧ ((hexDigit n).toLower = 'e' → n = 14) := by decide
  have letters : (percentEncode inPathSet text).map Char.toLower = front.map Char.toLower ++
      ('%' :: (hexDigit (byte.toNat / 16)).toLower :: (hexDigit (byte.toNat % 16)).toLower ::
        back.map Char.toLower) := by
    rw [written, List.map_append, List.map_append, List.append_assoc]
    rfl
  obtain ⟨short, each⟩ := dots _ step
  rw [String.toList_ofList, letters] at short each
  have room := short
  simp only [List.length_append, List.length_cons] at room
  generalize front.map Char.toLower = before at short each room letters
  have place (offset : Nat) (later : List Char) : (before ++ later)[before.length + offset]? = later[offset]? := by
    rw [List.getElem?_append_right (Nat.le_add_right _ _), Nat.add_sub_cancel_left]
  obtain ⟨high, low⟩ := each before.length (by omega) (place 0 _)
  rw [place] at high low
  have two := (digits _ (by have := byte.toNat_lt; omega)).1 (Option.some.inj high)
  have fourteen := (digits _ (Nat.mod_lt _ (by decide))).2 (Option.some.inj low)
  refine other (UInt8.toNat_inj.mp ?_)
  change byte.toNat = 46
  omega

private theorem isDoubleDot_percentEncode (double : isDoubleDot (percentEncode inPathSet text) = true) :
    isDoubleDot text = true := by
  have spelled := List.contains_iff_mem.mp double
  have same : percentEncode inPathSet text = text :=
    percentEncode_step (List.mem_cons_of_mem _ (List.mem_cons_of_mem _ spelled))
  rwa [same] at double

private theorem isSingleDot_percentEncode (single : isSingleDot (percentEncode inPathSet text) = true) :
    isSingleDot text = true := by
  have spelled := List.contains_iff_mem.mp single
  have same : percentEncode inPathSet text = text :=
    percentEncode_step (List.mem_append_left ["..", "%2e.", ".%2e", "%2e%2e"] spelled)
  rwa [same] at single

/-- The segments of a path that has been read stay as they are. -/
theorem segmentsOf_settled (text : List Char) : ∀ segment ∈ segmentsOf true text, IsSettled segment := by
  intro segment member
  have inner := (segmentsOf_inner text).2 segment member
  have nothing : IsSettled "" := by decide +kernel
  cases text with
  | nil =>
    cases List.mem_singleton.mp member
    exact nothing
  | cons c rest =>
    rcases mem_resolveSegments member with member | rfl | ⟨part, -, forward, onward, rfl⟩
    · cases member
    · exact nothing
    · refine ⟨inner, ?_, ?_, ?_⟩ <;> rw [String.toList_ofList]
      · exact eq_false_of_ne_true fun double => ne_true_of_eq_false forward (isDoubleDot_percentEncode double)
      · exact eq_false_of_ne_true fun single => ne_true_of_eq_false onward (isSingleDot_percentEncode single)
      · exact percentEncode_encoded (isEncoded_percentEncode (by decide) part)

/-- Outside of brackets a host ends with the first colon. -/
theorem cutHost_outside (plain : ∀ c ∈ text, c ≠ ':' ∧ c ≠ '[') (rest : List Char) :
    cutHost false (text ++ rest) = (text ++ (cutHost false rest).1, (cutHost false rest).2) := by
  induction text with
  | nil => rfl
  | cons c text ih =>
    obtain ⟨uncolon, unbracket⟩ := plain c List.mem_cons_self
    have stays : (if c = '[' then true else if c = ']' then false else false) = false := by
      rw [if_neg unbracket, ite_self]
    rw [List.cons_append, cutHost, if_neg fun both => uncolon both.1, stays,
      ih fun other member => plain other (List.mem_cons_of_mem _ member)]
    rfl

/-- Brackets keep colons within a host. -/
theorem cutHost_inside (plain : ∀ c ∈ text, c ≠ ']') (rest : List Char) :
    cutHost true (text ++ ']' :: rest) = (text ++ ']' :: (cutHost false rest).1, (cutHost false rest).2) := by
  induction text with
  | nil => rfl
  | cons c text ih =>
    have stays : (if c = '[' then true else if c = ']' then false else true) = true := by
      rw [if_neg (plain c List.mem_cons_self), ite_self]
    rw [List.cons_append, cutHost, if_neg fun both => Bool.noConfusion both.2, stays,
      ih fun other member => plain other (List.mem_cons_of_mem _ member)]
    rfl

def portLetters (port : Option Nat) : List Char := (port.map fun port => ':' :: Nat.toDigits 10 port).getD []

private theorem isDigit_of_mem_portLetters {port : Option Nat} (member : c ∈ portLetters port) :
    c = ':' ∨ c.isDigit = true := by
  cases port with
  | none => cases member
  | some port =>
    rcases List.mem_cons.mp member with colon | digit
    · exact .inl colon
    · exact .inr (Nat.isDigit_of_mem_toDigits (by decide) (by decide) digit)

private theorem cutHost_letters (found : specialHost text = .ok host) (port : Option Nat) :
    cutHost false (host.text.toList ++ portLetters port) = (host.text.toList, portLetters port) := by
  have ends : cutHost false (portLetters port) = ([], portLetters port) := by
    cases port <;> rfl
  rcases host_letters found with plain | ⟨inner, letters, closed⟩
  · rw [cutHost_outside (fun c member => ⟨(plain c member).1, (plain c member).2.1⟩), ends, List.append_nil]
  · rw [letters, List.cons_append, List.append_assoc, cutHost, if_neg (by decide), if_pos rfl, List.singleton_append,
      cutHost_inside (fun c member => (closed c member).1), ends]

private theorem port?_letters {port : Option Nat} (kept : ∀ value, port = some value → value ≤ 65535 ∧
    defaultPort? scheme ≠ some value) : port? scheme (portLetters port) = .ok port := by
  cases port with
  | none => rfl
  | some value =>
    obtain ⟨small, unusual⟩ := kept value rfl
    have digits : (Nat.toDigits 10 value).isEmpty = false := by simp [Nat.toDigits_ne_nil]
    have letters : portLetters (some value) = ':' :: Nat.toDigits 10 value := rfl
    rw [letters, port?, digits, Text.number?_toDigits (by decide) (by decide)]
    simp only [Bool.false_eq_true, if_false, if_neg (Nat.not_lt.mpr small), if_neg unusual]

/-- The parts of a URL under which services can be called, apart from its path, are as reading leaves them. -/
structure IsSited (url : Url) (host : Host) : Prop where
  web : IsWeb url.scheme
  username : IsEncoded inUserinfoSet url.username.toList
  password : IsEncoded inUserinfoSet url.password.toList
  placed : url.host = some host
  hosted : ∃ text, specialHost text = .ok host
  port : ∀ port, url.port = some port → port ≤ 65535 ∧ defaultPort? url.scheme ≠ some port
  query : ∀ query, url.query = some query → IsEncoded inSpecialQuerySet query.toList
  fragment : ∀ fragment, url.fragment = some fragment → IsEncoded inFragmentSet fragment.toList

theorem isSited_of_parse {written : String} {url : Url} (read : parse written = .ok url) (web : IsWeb url.scheme) :
    ∃ host segments, url.IsSited host ∧ url.path = .segments segments ∧ segments ≠ [] ∧
      ∀ segment ∈ segments, IsSettled segment := by
  obtain ⟨rest, found⟩ := parse_scheme read
  obtain ⟨⟨authority, left⟩, sited, read⟩ := ok_of_bind ((parse_web web found).symm.trans read)
  obtain ⟨hosted, ⟨username, user⟩, ⟨password, pass⟩, -, port⟩ := readAuthority_cases web.special.1 sited
  have same := Except.ok.inj read
  generalize url.scheme = scheme at same web port
  subst same
  rw [web.special.1]
  have spared : percentMarks.all (!inUserinfoSet ·) = true ∧ percentMarks.all (!inSpecialQuerySet ·) = true ∧
      percentMarks.all (!inFragmentSet ·) = true := by decide
  refine ⟨authority.host, _, ⟨web, ?_, ?_, rfl, hosted, port, fun query kept => ?_, fun fragment kept => ?_⟩, rfl,
    (segmentsOf_inner _).1, segmentsOf_settled _⟩
  · change IsEncoded inUserinfoSet authority.username.toList
    rw [user, String.toList_ofList]
    exact isEncoded_percentEncode spared.1 username
  · change IsEncoded inUserinfoSet authority.password.toList
    rw [pass, String.toList_ofList]
    exact isEncoded_percentEncode spared.1 password
  · obtain ⟨part, -, rfl⟩ := Option.map_eq_some_iff.mp kept
    rw [queryText, web.special.1, String.toList_ofList]
    exact isEncoded_percentEncode spared.2.1 part
  · obtain ⟨part, -, rfl⟩ := Option.map_eq_some_iff.mp kept
    rw [fragmentText, String.toList_ofList]
    exact isEncoded_percentEncode spared.2.2 part

namespace IsSited

variable {url : Url} {segments : List String} (sited : url.IsSited host)
include sited

theorem withPath (path : Path) : ({ url with path := path } : Url).IsSited host :=
  ⟨sited.web, sited.username, sited.password, sited.placed, sited.hosted, sited.port, sited.query, sited.fragment⟩

private theorem authority_letters : url.authority.toList =
    '/' :: '/' :: (url.credentials.toList ++ (host.text.toList ++ portLetters url.port)) := by
  have colon : ":".toList = [':'] := rfl
  have slashes : "//".toList = ['/', '/'] := rfl
  rw [authority, sited.placed]
  cases url.port with
  | none => simp only [String.toList_append, slashes, portLetters, Option.map_none, Option.getD_none, String.toList_empty,
      List.append_nil, List.cons_append, List.nil_append]
  | some port =>
    simp only [String.toList_append, slashes, colon, portLetters, Option.map_some, Option.getD_some,
      Nat.toString_eq_repr, Nat.toList_repr, List.append_assoc, List.cons_append, List.nil_append]

private theorem credentialsOf_letters :
    credentialsOf (url.username.toList ++ if url.password.isEmpty then [] else ':' :: url.password.toList) =
      (url.username, url.password) := by
  have closed : ':' ∉ url.username.toList := fun member => by
    have kept := sited.username ':' member
    cases kept
  rw [credentialsOf]
  by_cases empty : url.password.isEmpty = true
  · have none : url.password = "" := String.isEmpty_iff.mp empty
    rw [if_pos empty, List.append_nil, cutAtFirst_absent closed]
    dsimp only
    rw [percentEncode_encoded sited.username, String.ofList_toList, none]
    rfl
  · rw [if_neg empty, cutAtFirst_append closed]
    dsimp only
    rw [percentEncode_encoded sited.username, String.ofList_toList, Option.getD_some,
      percentEncode_encoded sited.password, String.ofList_toList]

/-- The host and the port are read as they are written. -/
theorem readAuthority_placed (userinfo : Option (List Char)) (filled : userinfo ≠ some []) (letters : List Char)
    (cut : cutAtLast '@' letters = userinfo.map fun before => (before, host.text.toList ++ portLetters url.port))
    (bare : userinfo = none → letters = host.text.toList ++ portLetters url.port)
    (named : credentialsOf (userinfo.getD []) = (url.username, url.password)) :
    readAuthority url.scheme letters false =
      if host.IsReadable then .ok (⟨url.username, url.password, host, url.port⟩, [])
      else .error .invalidDomainName := by
  obtain ⟨text, found⟩ := sited.hosted
  have marked : (userinfo == .some []) = false := beq_eq_false_iff_ne.mpr filled
  have written : host.text.toList.isEmpty = false := by
    have some := (host_text found).1
    simpa using some
  have named? : (host == .domain "") = false := by
    refine beq_eq_false_iff_ne.mpr fun empty => ?_
    subst empty
    exact (host_text found).1 rfl
  have port : ∀ c ∈ portLetters url.port, (c != '\\') = true := by
    intro c member
    rcases isDigit_of_mem_portLetters member with rfl | digit
    · rfl
    · rw [bne_iff_ne]
      rintro rfl
      cases digit
  have taken : (portLetters url.port).takeWhile (· != '\\') = portLetters url.port := List.takeWhile_eq_self_iff.mpr port
  have dropped : (portLetters url.port).dropWhile (· != '\\') = [] := List.dropWhile_eq_nil_iff.mpr port
  rcases userinfo with _ | before
  case' none =>
    obtain rfl := bare rfl
    rw [Option.map_none] at cut
  case' some => rw [Option.map_some] at cut
  all_goals
    rw [readAuthority, cut]
    simp only [marked, Bool.false_and, Bool.false_eq_true, if_false, cutHost_letters found, sited.web.special.1,
      Bool.true_and, written, if_true, host_again found, taken, dropped, port?_letters sited.port, named]
    split
    · simp only [Except.bind, Bind.bind, named?, Bool.false_and, Bool.false_eq_true, if_false]
      rfl
    · rfl

private theorem readAuthority_letters :
    readAuthority url.scheme (url.credentials.toList ++ (host.text.toList ++ portLetters url.port)) false =
      if host.IsReadable then .ok (⟨url.username, url.password, host, url.port⟩, [])
      else .error .invalidDomainName := by
  obtain ⟨text, found⟩ := sited.hosted
  have unmarked : '@' ∉ host.text.toList ++ portLetters url.port := by
    rw [List.mem_append, not_or]
    constructor
    · intro member
      rcases host_letters found with plain | ⟨inner, letters, closed⟩
      · exact (plain '@' member).2.2 rfl
      · rw [letters] at member
        rcases List.mem_cons.mp member with first | member
        · cases first
        rcases List.mem_append.mp member with member | last
        · exact (closed '@' member).2 rfl
        · cases List.mem_singleton.mp last
    · intro member
      rcases isDigit_of_mem_portLetters member with colon | digit
      · cases colon
      · cases digit
  by_cases anonymous : (url.username.isEmpty && url.password.isEmpty) = true
  · have nothing : url.credentials = "" := by rw [credentials, if_pos anonymous]
    obtain ⟨unnamed, unguarded⟩ := Bool.and_eq_true_iff.mp anonymous
    rw [nothing, String.toList_empty, List.nil_append]
    refine sited.readAuthority_placed none (by simp) _ (cutAtLast_absent unmarked) (fun _ => rfl) ?_
    rw [String.isEmpty_iff.mp unnamed, String.isEmpty_iff.mp unguarded]
    rfl
  · have spelled : url.credentials.toList =
        (url.username.toList ++ if url.password.isEmpty then [] else ':' :: url.password.toList) ++ ['@'] := by
      have mark : "@".toList = ['@'] := rfl
      have colon : ":".toList = [':'] := rfl
      rw [credentials, if_neg anonymous, String.toList_append, String.toList_append, mark]
      split <;> simp [colon]
    rw [spelled, List.append_assoc, List.singleton_append]
    refine sited.readAuthority_placed (.some _) ?_ _ (cutAtLast_append unmarked _) (fun none => by cases none)
      sited.credentialsOf_letters
    intro none
    obtain ⟨unnamed, unguarded⟩ := List.append_eq_nil_iff.mp (Option.some.inj none)
    refine anonymous (Bool.and_eq_true_iff.mpr ⟨?_, ?_⟩)
    · simpa using unnamed
    · split at unguarded
      · assumption
      · cases unguarded

theorem pathText_letters (path : url.path = .segments segments) : url.pathText.toList = pathLetters segments := by
  have hosted : url.authority.isEmpty = false := by
    refine eq_false_of_ne_true fun empty => ?_
    have letters := sited.authority_letters
    rw [String.isEmpty_iff.mp empty] at letters
    cases letters
  rw [pathText, path, hosted]
  simp only [Bool.false_and, Bool.false_eq_true, if_false]
  rw [String.toList_join, List.flatMap_map]
  exact List.flatMap_congr fun segment _ => String.toList_append

theorem text_letters (path : url.path = .segments segments) : url.text.toList = url.scheme.toList ++ ':' :: '/' :: '/' ::
    ((url.credentials.toList ++ (host.text.toList ++ portLetters url.port)) ++
      (pathLetters segments ++ tailLetters url.query url.fragment)) := by
  have colon : ":".toList = [':'] := rfl
  have mark : "?".toList = ['?'] := rfl
  have hash : "#".toList = ['#'] := rfl
  rw [text]
  simp only [String.toList_append, colon, sited.authority_letters, sited.pathText_letters path, List.append_assoc,
    List.cons_append, List.nil_append, tailLetters]
  cases url.query <;> cases url.fragment <;>
    simp only [String.toList_append, String.toList_empty, mark, hash, Option.map_none, Option.map_some, Option.getD_none,
      Option.getD_some, List.append_nil, List.nil_append, List.cons_append]

/-- What is written before the path separates nothing. -/
theorem site_inner : url.credentials.toList ++ (host.text.toList ++ portLetters url.port) ≠ [] ∧
    ∀ c ∈ url.credentials.toList ++ (host.text.toList ++ portLetters url.port), IsInner c := by
  obtain ⟨text, found⟩ := sited.hosted
  obtain ⟨some, inner⟩ := host_text found
  have credentials : IsInnerText url.credentials := by
    have username : IsInnerText url.username := fun c member => isInner_of_userinfo (sited.username c member)
    have password : IsInnerText url.password := fun c member => isInner_of_userinfo (sited.password c member)
    unfold credentials
    split
    · decide
    · refine (username.append ?_).append (by decide)
      split
      · decide
      · exact IsInnerText.append (by decide) password
  refine ⟨List.append_ne_nil_of_right_ne_nil _ (List.append_ne_nil_of_left_ne_nil (by simpa using some) _), ?_⟩
  refine List.forall_mem_append.mpr ⟨credentials, List.forall_mem_append.mpr ⟨inner, fun c member => ?_⟩⟩
  cases port : url.port with
  | none =>
    rw [port] at member
    cases member
  | some port =>
    rw [‹url.port = _›] at member
    rcases List.mem_cons.mp member with rfl | member
    · decide
    · exact isInner_of_mem_toDigits (by decide) (by decide) member

private theorem query_unhashed : ∀ query, url.query = some query → '#' ∉ query.toList := by
  intro query kept member
  have hash := sited.query query kept '#' member
  cases hash

private theorem tail_visible : ∀ c ∈ tailLetters url.query url.fragment, 0x20 < c.toNat := by
  have query {c : Char} (kept : inSpecialQuerySet c = false) : 0x20 < c.toNat := by
    have printed : isControl c = false := by
      simp only [inSpecialQuerySet, inQuerySet, Bool.or_eq_false_iff] at kept
      exact kept.1.1
    exact of_not_isControl (motive := fun c => inSpecialQuerySet c = false → 0x20 < c.toNat) (by decide +kernel)
      printed kept
  have fragment {c : Char} (kept : inFragmentSet c = false) : 0x20 < c.toNat := by
    have printed : isControl c = false := by
      simp only [inFragmentSet, Bool.or_eq_false_iff] at kept
      exact kept.1
    exact of_not_isControl (motive := fun c => inFragmentSet c = false → 0x20 < c.toNat) (by decide +kernel)
      printed kept
  rw [tailLetters]
  refine List.forall_mem_append.mpr ⟨fun c member => ?_, fun c member => ?_⟩
  · cases asked : url.query with
    | none =>
      rw [asked] at member
      cases member
    | some text =>
      rw [asked] at member
      rcases List.mem_cons.mp member with rfl | member
      · decide
      · exact query (sited.query text asked c member)
  · cases asked : url.fragment with
    | none =>
      rw [asked] at member
      cases member
    | some text =>
      rw [asked] at member
      rcases List.mem_cons.mp member with rfl | member
      · decide
      · exact fragment (sited.fragment text asked c member)

/-- A URL is read as it is written, the steps within its path being taken, unless a label of its host has become too
long. -/
theorem parse_text (path : url.path = .segments segments) (several : segments ≠ [])
    (inner : ∀ segment ∈ segments, IsInnerText segment) :
    parse url.text = if host.IsReadable then
      .ok { url with path := .segments (resolveSegments false [] (segments.map String.toList)) }
    else .error .invalidDomainName := by
  obtain ⟨segment, later, rfl⟩ := List.exists_cons_of_ne_nil several
  obtain ⟨placed, within⟩ := sited.site_inner
  have visible : ∀ c ∈ pathLetters (segment :: later) ++ tailLetters url.query url.fragment, 0x20 < c.toNat := by
    refine List.forall_mem_append.mpr ⟨fun c member => ?_, sited.tail_visible⟩
    rcases mem_pathLetters inner member with rfl | inner
    · decide
    · exact inner.1
  have read := parse_site sited.web placed within visible (sited.text_letters path)
  have parts := partsOf_letters inner sited.query_unhashed url.fragment
  rw [read, sited.readAuthority_letters]
  split
  next =>
    have query : (url.query.map String.toList).map (queryText (isSpecial url.scheme)) = url.query := by
      cases asked : url.query with
      | none => rfl
      | some text =>
        rw [Option.map_some, Option.map_some, queryText, sited.web.special.1, if_pos rfl,
          percentEncode_encoded (sited.query text asked), String.ofList_toList]
    have fragment : (url.fragment.map String.toList).map fragmentText = url.fragment := by
      cases asked : url.fragment with
      | none => rfl
      | some text =>
        rw [Option.map_some, Option.map_some, fragmentText, percentEncode_encoded (sited.fragment text asked),
          String.ofList_toList]
    change Except.ok (assemble url.scheme _ (.segments (segmentsOf true
      (partsOf (pathLetters (segment :: later) ++ tailLetters url.query url.fragment)).path))
      (partsOf (pathLetters (segment :: later) ++ tailLetters url.query url.fragment))) = _
    rw [parts]
    simp only [segmentsOf_letters several inner, assemble, query, fragment]
    rw [sited.placed]
    rfl
  next => rfl

/-- A URL whose path is settled is read again as it is written. -/
theorem parse_settled (path : url.path = .segments segments) (several : segments ≠ [])
    (settled : ∀ segment ∈ segments, IsSettled segment) :
    parse url.text = if host.IsReadable then .ok url else .error .invalidDomainName := by
  rw [sited.parse_text path several fun segment member => (settled segment member).inner,
    resolveSegments_settled settled, List.nil_append, ← path]

end IsSited

end AliasSync.Url
