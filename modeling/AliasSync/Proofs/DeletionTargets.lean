import AliasSync.Proofs.Exchanges
import AliasSync.Proofs.JoinedPaths

/-! Which ids deletions go out with: from the reply to a search to the URL at which a listed alias is ordered to be
deleted. A row without an id is listed with an empty one, and that is not the missing id that a deletion is refused
for. -/

namespace AliasSync.Resolver

open Http
open Url (IsUnreservedText IsWeb pathLetters)

variable {σ : Type} {service : Service}

def rowItems? (text : String) : Option (List Json) := do
  match ← (← Json.parse? text).record? ["rows"] with
  | [rows] => Json.orDefault [] Json.items? rows
  | _ => none

def idMember (json : Json) : Option Json :=
  (json.record? ["uuid", "hostname", "domain", "description"]).bind (·.head?.join)

/-- A row has this text for its id, or it has nothing for its id and the text is empty. -/
def HasId (json : Json) (id : String) : Prop :=
  idMember json = some (.string (some id)) ∨ id = "" ∧ idMember json = none

private theorem hasId_of_row? {json : Json} {row : Row} (read : row? json = some row) : HasId json row.uuid := by
  obtain ⟨fields, taken, read⟩ := Option.bind_eq_some_iff.mp read
  split at read
  case h_2 => cases read
  case h_1 uuid hostname domain description =>
    obtain ⟨id, given, read⟩ := Option.bind_eq_some_iff.mp read
    have kept : row.uuid = id := by
      simp only [Option.bind_eq_bind, Option.bind_eq_some_iff, Option.pure_def, Option.some.injEq] at read
      obtain ⟨_, -, _, -, _, -, rfl⟩ := read
      rfl
    have member : idMember json = uuid := by
      rw [idMember, taken]
      rfl
    rw [HasId, kept, member]
    cases uuid with
    | none => exact .inr ⟨(Option.some.inj given).symm, rfl⟩
    | some value =>
      left
      cases value with
      | string text => exact congrArg (some ∘ Json.string) given
      | _ => cases given

private theorem hasIds_of_rows? {text : String} {rows : List Row} (read : rows? text = some rows) :
    ∃ items, rowItems? text = some items ∧ List.Forall₂ (fun json row => HasId json row.uuid) items rows := by
  obtain ⟨json, parsed, read⟩ := Option.bind_eq_some_iff.mp read
  obtain ⟨fields, taken, read⟩ := Option.bind_eq_some_iff.mp read
  split at read
  case h_2 => cases read
  case h_1 list =>
    have told : rowItems? text = Json.orDefault [] Json.items? list := by
      simp only [rowItems?, parsed, taken, Option.bind_eq_bind, Option.bind_some]
    rw [told]
    cases list with
    | none =>
      cases read
      exact ⟨[], rfl, .nil⟩
    | some list =>
      obtain ⟨items, given, read⟩ := Option.bind_eq_some_iff.mp read
      exact ⟨items, given, (mapM_eq_some.mp read).imp fun _ _ => hasId_of_row?⟩

section

variable (service) (network : Network σ) (before : σ × List Exchange)

private theorem search_records (path : String) (rows : List Row) :
    (search service path network.recorded before).1 = .ok rows ↔
      ∃ seen, (search service path network.recorded before).2.2 = before.2 ++ [seen] ∧
        seen.read rows? = some rows := by
  have told := service.call_recorded path (Call.json .get · none rows?) network before
  dsimp only at told
  rw [search]
  generalize service.call path (Call.json .get · none rows?) network.recorded before = reply at told
  obtain ⟨-, ⟨cause, failed⟩, log⟩ | ⟨url, -, -, settled, log⟩ := told
  · -- Nothing was sent, so there is no reply at the end of the log.
    rw [failed, log]
    constructor
    · intro impossible
      cases impossible
    · rintro ⟨seen, more, -⟩
      cases List.self_eq_append_right.mp more
  · rw [settled, log, Call.settle_json]
    constructor
    · exact fun read => ⟨_, rfl, read⟩
    · rintro ⟨seen, same, read⟩
      obtain rfl := List.singleton_injective (List.append_cancel_left same)
      exact read

private theorem search_andThen {α : Type} (path : String) (next : List Row → α) (value : α) :
    let answer := andThen (search service path network.recorded before) fun rows => .ok (next rows)
    answer.1 = .ok value ↔
      ∃ seen rows, answer.2.2 = before.2 ++ [seen] ∧ seen.read rows? = some rows ∧ value = next rows := by
  dsimp only
  rw [andThen_eq_ok, andThen_state]
  constructor
  · rintro ⟨rows, found, same⟩
    obtain ⟨seen, log, read⟩ := (search_records ..).mp found
    exact ⟨seen, rows, log, read, (Except.ok.inj same).symm⟩
  · rintro ⟨seen, rows, log, read, rfl⟩
    exact ⟨rows, (search_records ..).mpr ⟨seen, log, read⟩, rfl⟩

private theorem aliases_listed (parent : String) (listed : List HostAlias) :
    (aliases service parent network.recorded before).1 = .ok listed ↔
      ∃ seen rows, (aliases service parent network.recorded before).2.2 = before.2 ++ [seen] ∧
        seen.read rows? = some rows ∧ listed = rows.map Row.entry := by
  rw [aliases]
  exact search_andThen service network before (searchAliasesPath ++ parent) (List.map Row.entry) listed

private theorem findOverride_found (fqdn : String) (found : Option String) :
    (findOverride service fqdn network.recorded before).1 = .ok found ↔
      ∃ seen rows, (findOverride service fqdn network.recorded before).2.2 = before.2 ++ [seen] ∧
        seen.read rows? = some rows ∧ found = (rows.find? (Row.isNamed fqdn)).map Row.uuid := by
  rw [findOverride]
  exact search_andThen service network before searchOverridesPath
    (fun rows => (rows.find? (Row.isNamed fqdn)).map Row.uuid) found

end

/-- Only an alias that has no id at all is refused to be deleted for that. -/
theorem delete_missingId_iff (entry : HostAlias) (network : Network σ) (state : σ) :
    (∃ key, (delete service entry network state).1 = .error (.missingId key)) ↔ entry.id = none := by
  rw [delete]
  cases entry.id with
  | none => exact ⟨fun _ => rfl, fun _ => ⟨_, rfl⟩⟩
  | some id =>
    constructor
    · rintro ⟨key, refused⟩
      dsimp only at refused
      generalize service.call (deleteAliasPath ++ id) (Call.plain .post) network state = reply at refused
      obtain ⟨_ | _, _⟩ := reply <;> cases refused
    · intro impossible
      cases impossible

/-- The segments that the path of a deletion leads to. The id may be a step. -/
private def deletionSegments (id : String) : List String :=
  if id = ".." then ["api", "unbound", "settings", ""]
  else settingPath "del_host_alias" (if id = "." then "" else id)

def deletionTarget (id : String) : String :=
  if id = ".." then "/api/unbound/settings/" else deleteAliasPath ++ (if id = "." then "" else id)

private theorem deletionTarget_letters (id : String) :
    (deletionTarget id).toList = pathLetters (deletionSegments id) := by
  rw [deletionTarget, deletionSegments]
  split
  · rfl
  · exact settingPath_letters deleteAliasPath _ rfl

private theorem goBack_append {segment : String} (drive : Url.isDrive segment.toList = false) (done : List String) :
    Url.goBack (done ++ [segment]) = done := by
  simp [Url.goBack, drive]

private theorem resolveSegments_deletion {id : String} (unreserved : IsUnreservedText id) (root : List String) :
    Url.resolveSegments false root ((settingPath "del_host_alias" id).map String.toList) =
      root ++ deletionSegments id := by
  have front : ∀ segment ∈ ["api", "unbound", "settings", "del_host_alias"], Url.IsSettled segment := by decide +kernel
  have opened := Url.resolveSegments_append front root [id.toList]
  change Url.resolveSegments false root
    (["api", "unbound", "settings", "del_host_alias"].map String.toList ++ [id.toList]) = _
  rw [opened]
  by_cases back : id = ".."
  · subst back
    have double : Url.isDoubleDot "..".toList = true := by decide +kernel
    have gone : Url.goBack (root ++ ["api", "unbound", "settings", "del_host_alias"]) =
        root ++ ["api", "unbound", "settings"] := by
      have last := goBack_append (by decide +kernel : Url.isDrive "del_host_alias".toList = false)
        (root ++ ["api", "unbound", "settings"])
      rwa [List.append_assoc] at last
    rw [Url.resolveSegments, if_pos double, Url.resolveSegments, gone, List.append_assoc]
    rfl
  by_cases here : id = "."
  · subst here
    have double : Url.isDoubleDot ".".toList = false := by decide +kernel
    have single : Url.isSingleDot ".".toList = true := by decide +kernel
    rw [Url.resolveSegments, if_neg (ne_true_of_eq_false double), if_pos single, Url.resolveSegments,
      List.append_assoc]
    rfl
  · have settled : ∀ segment ∈ [id], Url.IsSettled segment :=
      List.forall_mem_singleton.mpr (Url.IsPlainId.settled ⟨unreserved, here, back⟩)
    have whole := Url.resolveSegments_settled settled (root ++ ["api", "unbound", "settings", "del_host_alias"])
    rw [List.map_singleton] at whole
    rw [whole, deletionSegments, if_neg back, if_neg here, List.append_assoc]
    rfl

/-- The deletion of an id is ordered where the path of such orders with the id behind it leads, if the URL can be read
and stand in a request. -/
def OrdersDeletion (service : Service) (id : String) (before after : List Exchange) : Prop :=
  ∃ url exchange, url.Joined service.base (deleteAliasPath ++ id) (deletionTarget id) ∧
    after = before ++ Option.toList exchange ∧
    exchange.isSome = (decide service.base.HasReadableHost && (Call.plain .post url).isCallable) ∧
    ∀ seen, exchange = some seen → seen.request = (Call.plain .post url).request service

section

variable {text : String} (accepted : Url.parse text = .ok service.base) (web : IsWeb service.base.scheme)
  (network : Network σ) (before : σ × List Exchange)
include accepted web

private theorem delete_orders {entry : HostAlias} {id : String} (known : entry.id = some id)
    (unreserved : IsUnreservedText id) :
    OrdersDeletion service id before.2 (delete service entry network.recorded before).2.2 := by
  have spelled : (deleteAliasPath ++ id).toList = pathLetters (settingPath "del_host_alias" id) :=
    settingPath_letters deleteAliasPath id rfl
  have each : ∀ segment ∈ settingPath "del_host_alias" id, IsUnreservedText segment := by
    have front : ∀ segment ∈ ["api", "unbound", "settings", "del_host_alias"], IsUnreservedText segment := by
      decide +kernel
    exact List.forall_mem_append.mpr ⟨front, List.forall_mem_singleton.mpr unreserved⟩
  obtain ⟨url, reached, joined⟩ := endpoint_joined accepted web (List.cons_ne_nil _ _) spelled each
    (deletionTarget_letters id) (resolveSegments_deletion unreserved service.base.root)
  have told := service.call_recorded (deleteAliasPath ++ id) (Call.plain .post) network before
  dsimp only at told
  simp only [delete, known, andThen_state]
  generalize service.call (deleteAliasPath ++ id) (Call.plain .post) network.recorded before = reply at told
  obtain ⟨unfit, -, log⟩ | ⟨other, found, callable, -, log⟩ := told
  · refine ⟨url, none, joined, log.trans (List.append_nil _).symm, ?_, fun _ impossible => by cases impossible⟩
    by_cases readable : service.base.HasReadableHost
    · rw [if_pos readable] at reached
      rw [unfit url reached, Bool.and_false]
      rfl
    · rw [decide_eq_false readable, Bool.false_and]
      rfl
  · have readable : service.base.HasReadableHost := by
      by_contra unreadable
      rw [found, if_neg unreadable] at reached
      cases reached
    rw [found, if_pos readable] at reached
    obtain rfl := Except.ok.inj reached
    refine ⟨other, some _, joined, log, ?_, fun seen same => ?_⟩
    · rw [decide_eq_true readable, callable]
      rfl
    · rw [← Option.some.inj same]

/-- Every row of a reply to a search is listed with an id, which is empty where the row has none, and that id is what
its deletion goes out with. So no deletion of a listed alias is refused for a missing id, and also the id of the host
override may be an empty one. -/
theorem deletion_follows_row :
    (∀ (seen : Exchange) rows, seen.read rows? = some rows →
      ∃ items, seen.read rowItems? = some items ∧ List.Forall₂ (fun json row => HasId json row.uuid) items rows) ∧
    (∀ parent listed, (aliases service parent network.recorded before).1 = .ok listed ↔
      ∃ seen rows, (aliases service parent network.recorded before).2.2 = before.2 ++ [seen] ∧
        seen.read rows? = some rows ∧ listed = rows.map Row.entry) ∧
    (∀ row : Row, (∀ key, (delete service row.entry network.recorded before).1 ≠ .error (.missingId key)) ∧
      (IsUnreservedText row.uuid →
        OrdersDeletion service row.uuid before.2 (delete service row.entry network.recorded before).2.2)) ∧
    ∀ fqdn found, (findOverride service fqdn network.recorded before).1 = .ok found ↔
      ∃ seen rows, (findOverride service fqdn network.recorded before).2.2 = before.2 ++ [seen] ∧
        seen.read rows? = some rows ∧ found = (rows.find? (Row.isNamed fqdn)).map Row.uuid := by
  refine ⟨fun seen rows read => ?_, aliases_listed service network before, fun row => ⟨fun key refused => ?_,
    delete_orders accepted web network before rfl⟩, findOverride_found service network before⟩
  · obtain ⟨response, good, read⟩ := Option.bind_eq_some_iff.mp read
    obtain ⟨body, came, read⟩ := Option.bind_eq_some_iff.mp read
    obtain ⟨letters, decoded, read⟩ := Option.bind_eq_some_iff.mp read
    obtain ⟨items, told, ids⟩ := hasIds_of_rows? read
    refine ⟨items, ?_, ids⟩
    simp only [Exchange.read, good, came, decoded, Option.bind_eq_bind, Option.bind_some, told]
  · cases (delete_missingId_iff row.entry network.recorded before).mp ⟨key, refused⟩

end

def nearby : Service :=
  ⟨⟨"http", "", "", some (.ipv6 [0, 0, 0, 0, 0, 0, 0, 1]), none, .segments [""], none, none⟩, ⟨"", ""⟩, .ofSeconds 10,
    true⟩

def repeating (body : String) : Network Unit :=
  fun state _ => (some ⟨"", ⟨200⟩, some (Text.utf8 body.toList)⟩, state)

theorem deletion_follows_row_rehearsed :
    let network := repeating "\x7b\"rows\":[\x7b\"uuid\":\"e\",\"hostname\":\"svc\",\"domain\":\"example.com\"\x7d]\x7d"
    Url.parse "http://[::1]" = .ok nearby.base ∧ IsWeb nearby.base.scheme ∧ IsUnreservedText "e" ∧
      (aliases nearby "p" network.recorded ((), [])).1.toOption = some [⟨some "e", "svc", "example.com", ""⟩] ∧
      deletionTarget "e" = "/api/unbound/settings/del_host_alias/e" ∧
      OrdersDeletion nearby "e" []
        (delete nearby ⟨some "e", "svc", "example.com", ""⟩ network.recorded ((), [])).2.2 := by
  intro network
  have accepted : Url.parse "http://[::1]" = .ok nearby.base := Url.parse_eq_ok (by decide +kernel)
  have web : IsWeb nearby.base.scheme := .inl rfl
  have unreserved : IsUnreservedText "e" := by decide +kernel
  obtain ⟨-, -, deletion, -⟩ := deletion_follows_row accepted web network ((), [])
  refine ⟨accepted, web, unreserved, by decide +kernel, by decide, ?_⟩
  exact (deletion ⟨"e", "svc", "example.com", ""⟩).2 unreserved

/-- A row without an id is ordered to be deleted at the path of such orders without an id, and it can be taken for the
host override. -/
theorem row_without_id_is_deleted :
    let body := "\x7b\"rows\":[\x7b\"hostname\":\"svc\",\"domain\":\"example.com\"\x7d]\x7d"
    let network := (repeating body).recorded
    (rowItems? body).map (List.map fun json => (idMember json).isNone) = some [true] ∧
      (aliases nearby "p" network ((), [])).1.toOption = some [⟨some "", "svc", "example.com", ""⟩] ∧
      (delete nearby ⟨some "", "svc", "example.com", ""⟩ network ((), [])).1.toBool = true ∧
      (delete nearby ⟨some "", "svc", "example.com", ""⟩ network ((), [])).2.2.map (·.request.url.pathText) =
        [deleteAliasPath] ∧
      (findOverride nearby "svc.example.com" network ((), [])).1.toOption = some (some "") := by
  decide +kernel

end AliasSync.Resolver
