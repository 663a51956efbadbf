import AliasSync.Proofs.Endpoint

/-! What a path becomes behind any base under which services can be called. The site of the base stays. A path becomes
part of the path of the base unless the base has a query or a fragment: then it ends up there, for it is put behind the
whole written base. -/

namespace AliasSync

namespace Url

variable {base : Url} {host : Host} {segments known : List String}

def unslashed (text : String) : String := String.ofList (text.toList.rdropWhile (· == '/'))

structure SameSite (url base : Url) : Prop where
  scheme : url.scheme = base.scheme
  username : url.username = base.username
  password : url.password = base.password
  host : url.host = base.host
  port : url.port = base.port

/-- What a base becomes with a path written behind it. Where it is read as a path, it leads to a target. -/
structure Joined (url base : Url) (written target : String) : Prop extends url.SameSite base where
  bare : base.query = none → base.fragment = none →
    url.pathText = unslashed base.pathText ++ target ∧ url.query = none ∧ url.fragment = none
  queried : ∀ query, base.query = some query → base.fragment = none →
    url.path = base.path ∧ url.query = some (unslashed query ++ written) ∧ url.fragment = none
  marked : ∀ fragment, base.fragment = some fragment →
    url.path = base.path ∧ url.query = base.query ∧ url.fragment = some (unslashed fragment ++ written)

def HasReadableHost (url : Url) : Prop := ∀ host ∈ url.host, host.IsReadable

instance : DecidablePred HasReadableHost := fun url => inferInstanceAs (Decidable (∀ host ∈ url.host, host.IsReadable))

def IsUnreservedText (text : String) : Prop := ∀ c ∈ text.toList, isUnreserved c = true

instance : DecidablePred IsUnreservedText := fun text =>
  decidable_of_iff (text.toList.all isUnreserved = true) List.all_eq_true

private theorem IsUnreservedText.inner {text : String} (unreserved : IsUnreservedText text) : IsInnerText text :=
  fun c member => of_unreserved (by decide +kernel) (unreserved c member)

def extended (base : Url) (path : String) (segments : List String) : Url :=
  match base.query, base.fragment with
  | _, some fragment => { base with fragment := some (unslashed fragment ++ path) }
  | some query, none => { base with query := some (unslashed query ++ path) }
  | none, none => base.below segments

def resolved (url : Url) : Url :=
  match url.path with
  | .plain _ => url
  | .segments segments => { url with path := .segments (resolveSegments false [] (segments.map String.toList)) }

private theorem resolved_of_settled (same : base.path = .segments known)
    (settled : ∀ segment ∈ known, IsSettled segment) :
    base.resolved = base := by
  rw [resolved, same]
  dsimp only
  rw [resolveSegments_settled settled, List.nil_append, ← same]

private theorem resolved_sameSite {url : Url} (site : url.SameSite base) : url.resolved.SameSite base := by
  unfold resolved
  split
  · exact site
  · exact ⟨site.scheme, site.username, site.password, site.host, site.port⟩

private theorem extended_sameSite (base : Url) (path : String) (segments : List String) :
    (base.extended path segments).SameSite base := by
  unfold extended
  split <;> exact ⟨rfl, rfl, rfl, rfl, rfl⟩

private theorem mem_unslashed {text : String} {c : Char} (member : c ∈ (unslashed text).toList) : c ∈ text.toList := by
  rw [unslashed, String.toList_ofList] at member
  exact (List.rdropWhile_prefix _ _).subset member

/-- Behind a mark that is no slash, the slashes at the end give way to a path. -/
theorem rdropWhile_marked (mark : Char) (other : (mark == '/') = false) (front : List Char) (text path : String) :
    (front ++ mark :: text.toList).rdropWhile (· == '/') ++ path.toList =
      front ++ mark :: (unslashed text ++ path).toList := by
  rw [rdropWhile_front (· == '/') mark other, String.toList_append, unslashed, String.toList_ofList, List.append_assoc,
    List.cons_append]

section

variable {path : String} (spelled : path.toList = pathLetters segments)
  (unreserved : ∀ segment ∈ segments, IsUnreservedText segment)
include spelled unreserved

/-- What has been encoded stays so with a path behind it that holds only unreserved characters. -/
theorem isEncoded_extended {encoded : Char → Bool} {text : String} (kept : IsEncoded encoded text.toList)
    (slash : encoded '/' = false)
    (spared : ∀ code < 0x7F, isUnreserved (Char.ofNat code) = true → encoded (Char.ofNat code) = false) :
    IsEncoded encoded (unslashed text ++ path).toList := by
  rw [String.toList_append, spelled]
  refine List.forall_mem_append.mpr ⟨fun c member => kept c (mem_unslashed member), fun c member => ?_⟩
  obtain ⟨segment, within, member⟩ := List.mem_flatMap.mp member
  rcases List.mem_cons.mp member with rfl | member
  · exact slash
  · exact of_unreserved (motive := fun c => encoded c = false) spared (unreserved segment within c member)

/-- The extended URL is as reading leaves URLs. -/
theorem IsSited.extended (sited : base.IsSited host) : (base.extended path segments).IsSited host := by
  unfold Url.extended
  split
  next fragment present =>
    refine ⟨sited.web, sited.username, sited.password, sited.placed, sited.hosted, sited.port, sited.query,
      fun text same => ?_⟩
    cases same
    exact isEncoded_extended spelled unreserved (sited.fragment fragment present) (by decide) (by decide +kernel)
  next query asked absent =>
    refine ⟨sited.web, sited.username, sited.password, sited.placed, sited.hosted, sited.port, fun text same => ?_,
      sited.fragment⟩
    cases same
    exact isEncoded_extended spelled unreserved (sited.query query asked) (by decide) (by decide +kernel)
  next => exact sited.withPath _

/-- Behind the written base a path is written as part of the extended URL. -/
theorem endpointText_extended (sited : base.IsSited host) (same : base.path = .segments known)
    (settled : ∀ segment ∈ known, IsSettled segment) :
    Http.endpointText base path = (base.extended path segments).text := by
  have letters := sited.text_letters same
  have extended := sited.extended spelled unreserved
  -- The slashes that give way are those of the last part that the base has.
  unfold Url.extended at extended ⊢
  split at extended
  next fragment present =>
    have hash := rdropWhile_marked '#' rfl (base.scheme.toList ++ ':' :: '/' :: '/' ::
      ((base.credentials.toList ++ (host.text.toList ++ portLetters base.port)) ++
        (pathLetters known ++ (base.query.map fun query => '?' :: query.toList).getD []))) fragment path
    refine String.toList_inj.mp ?_
    rw [extended.text_letters same, Http.endpointText, String.toList_append, String.toList_ofList, letters, present,
      ← List.rdropWhile]
    simp only [tailLetters, Option.map_some, Option.getD_some, List.append_assoc, List.cons_append] at hash ⊢
    exact hash
  next query asked absent =>
    have mark := rdropWhile_marked '?' rfl (base.scheme.toList ++ ':' :: '/' :: '/' ::
      ((base.credentials.toList ++ (host.text.toList ++ portLetters base.port)) ++ pathLetters known)) query path
    refine String.toList_inj.mp ?_
    rw [extended.text_letters same, Http.endpointText, String.toList_append, String.toList_ofList, letters, asked,
      absent, ← List.rdropWhile]
    simp only [tailLetters, Option.map_some, Option.getD_some, Option.map_none, Option.getD_none, List.append_nil,
      List.append_assoc, List.cons_append] at mark ⊢
    exact mark
  next asked absent =>
    exact endpointText_below sited same (fun segment member => (settled segment member).inner) asked absent spelled

end

private theorem extended_inner (path : String) (same : base.path = .segments known) (several : known ≠ [])
    (settled : ∀ segment ∈ known, IsSettled segment) (some : segments ≠ [])
    (inner : ∀ segment ∈ segments, IsInnerText segment) :
    ∃ others, (base.extended path segments).path = .segments others ∧ others ≠ [] ∧
      ∀ segment ∈ others, IsInnerText segment := by
  have kept : ∀ segment ∈ known, IsInnerText segment := fun segment member => (settled segment member).inner
  unfold extended
  split
  next => exact ⟨known, same, several, kept⟩
  next => exact ⟨known, same, several, kept⟩
  next => exact ⟨base.root ++ segments, rfl, List.append_ne_nil_of_right_ne_nil _ some,
    List.forall_mem_append.mpr ⟨fun segment member => (root_settled same settled segment member).inner, inner⟩⟩

private theorem pathText_below (sited : base.IsSited host) (same : base.path = .segments known)
    (inner : ∀ segment ∈ known, IsInnerText segment) {path : String} (spelled : path.toList = pathLetters segments) :
    (base.below segments).pathText = unslashed base.pathText ++ path := by
  refine String.toList_inj.mp ?_
  have root : base.root = known.rdropWhile (· == "") := by rw [Url.root, same]
  have below : (base.below segments).pathText.toList = pathLetters (base.root ++ segments) :=
    (sited.withPath _).pathText_letters rfl
  have stripped : (pathLetters known).rdropWhile (· == '/') = pathLetters (known.rdropWhile (· == "")) := by
    have bare : ([] : List Char).rdropWhile (· == '/') = [] := rfl
    simpa only [List.nil_append] using rdropWhile_letters bare inner
  rw [below, String.toList_append, spelled, unslashed, String.toList_ofList, sited.pathText_letters same, stripped,
    pathLetters_append, root]

end Url

namespace Http

open Url

variable {base : Url} {text path : String} {segments : List String}

section

variable (accepted : Url.parse text = .ok base) (web : IsWeb base.scheme) (some : segments ≠ [])
  (spelled : path.toList = pathLetters segments)
include accepted web some spelled

/-- A path that is put behind a base is read as part of the extended URL, unless a label of the host has become too
long to be read. -/
theorem endpoint_extended (unreserved : ∀ segment ∈ segments, IsUnreservedText segment) :
    endpoint base path = if base.HasReadableHost then .ok (base.extended path segments).resolved
      else .error (.invalidUrl (endpointText base path) .invalidDomainName) := by
  obtain ⟨host, known, sited, same, several, settled⟩ := isSited_of_parse accepted web
  obtain ⟨others, path, several, inner⟩ :=
    extended_inner path same several settled some fun segment member => (unreserved segment member).inner
  have readable : base.HasReadableHost ↔ host.IsReadable := by
    rw [HasReadableHost, sited.placed]
    exact ⟨fun each => each host rfl, fun short other same => Option.some.inj same ▸ short⟩
  rw [endpoint, endpointText_extended spelled unreserved sited same settled,
    (sited.extended spelled unreserved).parse_text path several inner, resolved, path]
  by_cases short : host.IsReadable
  · rw [if_pos short, if_pos (readable.mpr short)]
    rfl
  · rw [if_neg short, if_neg (mt readable.mp short)]
    rfl

/-- Joining a path to a base keeps the site of the base. Where the base has no query and no fragment, what the path
leads to comes behind the path of the base, and else the path becomes part of what the base ends with and the path of
the base stays as it is. The one base that nothing can be joined to is one whose host has a label that has become too
long to be read. -/
theorem endpoint_joined (unreserved : ∀ segment ∈ segments, IsUnreservedText segment) {target : String}
    {others : List String} (aim : target.toList = pathLetters others)
    (taken : resolveSegments false base.root (segments.map String.toList) = base.root ++ others) :
    ∃ url, (endpoint base path = if base.HasReadableHost then .ok url
        else .error (.invalidUrl (endpointText base path) .invalidDomainName)) ∧ url.Joined base path target := by
  obtain ⟨host, known, sited, same, -, settled⟩ := isSited_of_parse accepted web
  refine ⟨_, endpoint_extended accepted web some spelled unreserved,
    resolved_sameSite (extended_sameSite base path segments), fun query fragment => ?_, fun query asked fragment => ?_,
    fun fragment present => ?_⟩
  · have below : (base.extended path segments).resolved = base.below others := by
      have all := resolveSegments_append (root_settled same settled) [] (segments.map String.toList)
      simp only [extended, query, fragment, resolved, below, List.map_append, all, List.nil_append, taken]
    rw [below]
    exact ⟨pathText_below sited same (fun segment member => (settled segment member).inner) aim, query, fragment⟩
  · have extended : base.extended path segments = { base with query := .some (unslashed query ++ path) } := by
      simp only [extended, asked, fragment]
    have stays : (base.extended path segments).resolved = base.extended path segments := by
      rw [extended]
      exact resolved_of_settled same settled
    rw [stays, extended]
    exact ⟨rfl, rfl, fragment⟩
  · have extended : base.extended path segments = { base with fragment := .some (unslashed fragment ++ path) } := by
      simp only [extended, present]
    have stays : (base.extended path segments).resolved = base.extended path segments := by
      rw [extended]
      exact resolved_of_settled same settled
    rw [stays, extended]
    exact ⟨rfl, rfl, rfl⟩

/-- A path without steps is joined to a base as it is. -/
theorem endpoint_keeps_site (plain : ∀ segment ∈ segments, IsPlainId segment) :
    ∃ url, (endpoint base path = if base.HasReadableHost then .ok url
        else .error (.invalidUrl (endpointText base path) .invalidDomainName)) ∧ url.Joined base path path :=
  endpoint_joined accepted web some spelled (fun segment member => (plain segment member).unreserved) spelled
    (resolveSegments_settled (fun segment member => (plain segment member).settled) base.root)

end

/-- A path behind a base with credentials, a port, a host that is an address and more than one slash at its end. -/
theorem endpoint_keeps_site_rehearsed :
    let base : Url :=
      ⟨"http", "u", "p", some (.ipv6 [0, 0, 0, 0, 0, 0, 0, 1]), some 8080, .segments ["a", "", ""], none, none⟩
    Url.parse "http://u:p@[::1]:8080/a//" = .ok base ∧ IsWeb base.scheme ∧
      (∀ segment ∈ ["api", "x"], IsPlainId segment) ∧ "/api/x".toList = pathLetters ["api", "x"] ∧
      base.HasReadableHost ∧
      ∃ url, endpoint base "/api/x" = .ok url ∧ url.SameSite base ∧ url.pathText = "/a/api/x" := by
  intro base
  have accepted : Url.parse "http://u:p@[::1]:8080/a//" = .ok base := parse_eq_ok (by decide +kernel)
  have web : IsWeb base.scheme := .inl rfl
  have plain : ∀ segment ∈ ["api", "x"], IsPlainId segment := by
    intro segment member
    rcases List.mem_cons.mp member with rfl | member
    · exact ⟨List.all_eq_true.mp (by decide +kernel), by decide, by decide⟩
    · rw [List.mem_singleton.mp member]
      exact ⟨List.all_eq_true.mp (by decide +kernel), by decide, by decide⟩
  have spelled : "/api/x".toList = pathLetters ["api", "x"] := rfl
  have readable : base.HasReadableHost := by decide +kernel
  obtain ⟨url, reached, joined⟩ := endpoint_keeps_site accepted web (List.cons_ne_nil _ _) spelled plain
  rw [if_pos readable] at reached
  refine ⟨accepted, web, plain, spelled, readable, url, reached, joined.toSameSite, ?_⟩
  exact (joined.bare rfl rfl).1.trans (by decide +kernel)

/-- Behind a base with a query, a path becomes part of the query, and what is reached is the path of the base. -/
theorem query_swallows_path :
    ((Url.parse "http://[::1]/p?x=1").toOption.bind fun base => (endpoint base "/api").toOption).map
        (fun url => (url.pathText, url.query)) = some ("/p", some "x=1/api") := by
  decide +kernel

end Http

end AliasSync
