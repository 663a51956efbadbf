import AliasSync.Proofs.Endpoint
import AliasSync.Proxy.Client
import AliasSync.Resolver.Client

/-! What goes over the wire: a network that keeps a record of its exchanges, and what a call adds to the record. A call
goes out as it is meant, or not at all where its URL has no place in a request. -/

namespace AliasSync

namespace Http

variable {σ α : Type}

structure Exchange where
  request : Request
  response : Option Response
  deriving DecidableEq, Repr

namespace Exchange

def isSuccess (exchange : Exchange) : Bool := exchange.response.any (·.status.isSuccess)

def read (exchange : Exchange) (parse : String → Option α) : Option α := do
  let response ← exchange.response.filter (·.status.isSuccess)
  parse (String.ofList (← Text.decode? (← response.body)))

end Exchange

def Network.recorded (network : Network σ) : Network (σ × List Exchange) := fun (state, log) request =>
  let (response, later) := network state request
  (response, later, log ++ [⟨request, response⟩])

namespace Call

/-- Whether a call can be made is a matter of its URL. -/
theorem isCallable_congr {first : Call α} {second : Call β} (same : first.url = second.url) :
    first.isCallable = second.isCallable := by
  simp only [isCallable, hostFits, address, same]

private theorem isWeb_of_isCallable {call : Call α} (callable : call.isCallable = true) :
    Url.IsWeb call.url.scheme := by
  simp only [isCallable, Bool.and_eq_true, Bool.or_eq_true, beq_iff_eq] at callable
  exact callable.1.1

theorem settle_json {method : Method} {url : Url} {body : Option String} {parse : String → Option α}
    {request : Request} {response : Option Response} {value : α} :
    (json method url body parse).settle response = .ok value ↔
      (Exchange.mk request response).read parse = some value := by
  cases response with
  | none => simp [settle, Exchange.read]
  | some response =>
    cases good : response.status.isSuccess with
    | false => simp [settle, Exchange.read, Option.filter_some, good]
    | true =>
      have decoded : (json method url body parse).read response.body =
          (Exchange.mk request (some response)).read parse := by
        simp [Exchange.read, json, Option.filter_some, good]
      simp only [settle, good, ↓reduceIte, decoded]
      cases (Exchange.mk request (some response)).read parse <;> simp

private theorem settle_plain {method : Method} {url : Url} {request : Request} {response : Option Response} :
    (plain method url).settle response = .ok () ↔ (Exchange.mk request response).isSuccess = true := by
  cases response with
  | none => simp [settle, Exchange.isSuccess]
  | some response =>
    simp only [settle, Exchange.isSuccess, Option.any_some]
    cases response.status.isSuccess <;> simp [plain]

end Call

namespace Service

variable {service : Service} {segments : List String} {path : String} {method : Method} {body : Option String}

/-- A call goes out once if there is a URL for it that has a place in a request, and else it fails. -/
theorem call_recorded (service : Service) (path : String) (make : Url → Call α) (network : Network σ)
    (before : σ × List Exchange) :
    let answer := service.call path make network.recorded before
    ((∀ url, endpoint service.base path = .ok url → (make url).isCallable = false) ∧
        (∃ cause, answer.1 = .error cause) ∧ answer.2.2 = before.2) ∨
      ∃ url, endpoint service.base path = .ok url ∧ (make url).isCallable = true ∧
        let request := (make url).request service
        let response := (network before.1 request).1
        answer.1 = (make url).settle response ∧ answer.2.2 = before.2 ++ [⟨request, response⟩] := by
  intro answer
  cases found : endpoint service.base path with
  | error cause =>
    simp only [answer, call, found]
    exact .inl ⟨nofun, ⟨cause, rfl⟩, trivial⟩
  | ok url =>
    simp only [answer, call, found, Call.perform]
    cases callable : (make url).isCallable with
    | false =>
      refine .inl ⟨fun other same => ?_, ⟨_, rfl⟩, rfl⟩
      cases same
      exact callable
    | true => exact .inr ⟨url, rfl, callable, rfl, rfl⟩

def reaches (service : Service) (segments : List String) : Bool :=
  (Call.plain .get (service.base.below segments)).isCallable

def order (service : Service) (method : Method) (segments : List String) (body : Option String) : Request :=
  { (Call.plain method (service.base.below segments)).request service with body := body }

/-- The exchange, if there is one, is what the service is asked at a path, and it takes place if the path can stand in
a request. -/
structure Asks (service : Service) (method : Method) (segments : List String) (body : Option String)
    (exchange : Option Exchange) : Prop where
  sent : exchange.isSome = service.reaches segments
  request : ∀ seen, exchange = some seen → seen.request = service.order method segments body

/-- The service has been asked, and the record tells of it. -/
structure Records (service : Service) (method : Method) (segments : List String) (body : Option String)
    (network : Network σ) (before after : σ × List Exchange) (exchange : Option Exchange) : Prop
    extends service.Asks method segments body exchange where
  given : ∀ seen, exchange = some seen → seen.response = (network before.1 seen.request).1
  log : after.2 = before.2 ++ exchange.toList

structure Fits (segments : List String) (path : String) : Prop where
  some : segments ≠ []
  settled : ∀ segment ∈ segments, Url.IsSettled segment
  spelled : path.toList = Url.pathLetters segments

/-- Behind a sound base a call goes out as it is meant. -/
theorem call_records (sound : service.base.IsBase) (fits : Fits segments path) (make : Url → Call α)
    (shape : ∀ url, (make url).url = url ∧
      (make url).request service = { (Call.plain method url).request service with body := body })
    (network : Network σ) (before : σ × List Exchange) :
    let answer := service.call path make network.recorded before
    ∃ exchange, service.Records method segments body network before answer.2 exchange ∧
      ∀ value, answer.1 = .ok value ↔
        ∃ seen, exchange = some seen ∧ (make (service.base.below segments)).settle seen.response = .ok value := by
  intro answer
  have told := service.call_recorded path make network before
  have fit : (make (service.base.below segments)).isCallable = service.reaches segments :=
    Call.isCallable_congr (shape _).1
  dsimp only at told
  generalize answered : service.call path make network.recorded before = reply at told
  have same : answer = reply := answered
  rw [same]
  rcases told with ⟨unfit, ⟨cause, failed⟩, log⟩ | ⟨url, found, callable, settled, log⟩
  · refine ⟨none, ⟨⟨?_, fun _ impossible => ?_⟩, fun _ impossible => ?_, log.trans (List.append_nil _).symm⟩, ?_⟩
    · refine (eq_false_of_ne_true fun reaches => ?_).symm
      have found := endpoint_below sound (Call.isWeb_of_isCallable reaches) fits.some fits.settled fits.spelled
      exact Bool.false_ne_true ((unfit _ found).symm.trans (fit.trans reaches))
    · cases impossible
    · cases impossible
    · intro value
      rw [failed]
      constructor
      · intro impossible
        cases impossible
      · rintro ⟨seen, impossible, -⟩
        cases impossible
  · have web := Call.isWeb_of_isCallable callable
    rw [(shape url).1, endpoint_scheme sound.reads found] at web
    have below := Except.ok.inj (found.symm.trans (endpoint_below sound web fits.some fits.settled fits.spelled))
    subst below
    refine ⟨some _, ⟨⟨(fit.symm.trans callable).symm, fun seen taken => ?_⟩, fun seen taken => ?_, log⟩, ?_⟩
    · rw [← Option.some.inj taken]
      exact (shape _).2
    · rw [← Option.some.inj taken]
    · intro value
      rw [settled]
      constructor
      · exact fun done => ⟨_, rfl, done⟩
      · rintro ⟨seen, taken, done⟩
        rw [← Option.some.inj taken] at done
        exact done

private theorem json_records (sound : service.base.IsBase) (fits : Fits segments path) (body : Option String)
    (parse : String → Option α) (network : Network σ) (before : σ × List Exchange) :
    let answer := service.call path (Call.json method · body parse) network.recorded before
    ∃ exchange, service.Records method segments body network before answer.2 exchange ∧
      ∀ value, answer.1 = .ok value ↔ ∃ seen, exchange = some seen ∧ seen.read parse = some value := by
  obtain ⟨exchange, records, settled⟩ :=
    call_records sound fits (Call.json method · body parse) (fun url => ⟨rfl, rfl⟩) network before
  exact ⟨exchange, records, fun value => (settled value).trans
    (exists_congr fun seen => and_congr_right fun _ => Call.settle_json)⟩

private theorem plain_records (sound : service.base.IsBase) (fits : Fits segments path) (network : Network σ)
    (before : σ × List Exchange) :
    let answer := service.call path (Call.plain method) network.recorded before
    ∃ exchange, service.Records method segments none network before answer.2 exchange ∧
      (answer.1 = .ok () ↔ ∃ seen, exchange = some seen ∧ seen.isSuccess = true) := by
  obtain ⟨exchange, records, settled⟩ :=
    call_records sound fits (Call.plain method) (fun url => ⟨rfl, rfl⟩) network before
  exact ⟨exchange, records, (settled ()).trans (exists_congr fun seen => and_congr_right fun _ => Call.settle_plain)⟩

end Service

end Http

namespace Http.Service

/-- What is written of a path behind a base comes after what does not depend on it. -/
theorem pathText_below (base : Url) (first : String) :
    ∃ front, ∀ later : List String, later ≠ [] →
      (base.below (first :: later)).pathText = front ++ String.join (later.map ("/" ++ ·)) := by
  refine ⟨(if base.authority.isEmpty && (base.root ++ [first]).head? == some "" then "/." else "") ++
    String.join ((base.root ++ [first]).map ("/" ++ ·)), fun later several => ?_⟩
  have segments : (base.below (first :: later)).path = .segments (base.root ++ [first] ++ later) := by
    rw [List.append_assoc]
    rfl
  have placed : (base.below (first :: later)).authority = base.authority := rfl
  have long : 1 < (base.root ++ [first] ++ later).length := by
    have some := List.length_pos_iff.mpr several
    simp only [List.length_append, List.length_singleton]
    omega
  have opened : (base.root ++ [first] ++ later).head? = (base.root ++ [first]).head? := by
    cases base.root <;> rfl
  simp only [Url.pathText, segments, placed, long, opened, decide_true, Bool.and_true, List.map_append,
    String.join_append]
  split <;> simp only [String.append_assoc, String.empty_append]

private theorem utf8ByteSize_text_below (base : Url) (first : String) {long short : List String} (several : long ≠ [])
    (some : short ≠ [])
    (shorter : (String.join (short.map ("/" ++ ·))).utf8ByteSize ≤ (String.join (long.map ("/" ++ ·))).utf8ByteSize) :
    (base.below (first :: short)).text.utf8ByteSize ≤ (base.below (first :: long)).text.utf8ByteSize := by
  obtain ⟨front, written⟩ := pathText_below base first
  have placed (later : List String) : (base.below (first :: later)).authority = base.authority := rfl
  simp only [Url.text, placed, written long several, written short some, String.utf8ByteSize_append]
  exact Nat.add_le_add_right (Nat.add_le_add_right (Nat.add_le_add_left (Nat.add_le_add_left shorter _) _) _) _

theorem address_below (url : Url) (segments : List String) :
    (Call.plain .get (url.below segments)).address = (Call.plain .get url).address.below segments := by
  have address (segments : List String) : (Call.plain .get (url.below segments)).address =
      if (Credentials.ofUrl? url).isSome then { url with username := "", password := "" }.below segments
      else url.below segments := rfl
  have bare : (Call.plain .get url).address =
      if (Credentials.ofUrl? url).isSome then { url with username := "", password := "" } else url := rfl
  rw [address, bare]
  split <;> rfl

/-- A shorter path can stand in a request if a longer one can. -/
theorem reaches_of_shorter (service : Service) {first : String} {long short : List String}
    (several : long ≠ []) (some : short ≠ [])
    (shorter : (String.join (short.map ("/" ++ ·))).utf8ByteSize ≤ (String.join (long.map ("/" ++ ·))).utf8ByteSize)
    (reaches : service.reaches (first :: long) = true) : service.reaches (first :: short) = true := by
  simp only [Service.reaches, Call.isCallable, Bool.and_eq_true, decide_eq_true_eq] at reaches ⊢
  obtain ⟨⟨web, fits⟩, size⟩ := reaches
  refine ⟨⟨web, fits⟩, Nat.le_trans ?_ size⟩
  rw [address_below, address_below]
  exact utf8ByteSize_text_below _ first several some shorter

end Http.Service

namespace Proxy

open Http

def AsksRouters (service : Service) (exchange : Exchange) : Prop :=
  ∃ url, endpoint service.base routersPath = .ok url ∧ exchange.request = (Call.plain .get url).request service

theorem routers_records {σ : Type} (service : Service) (network : Network σ) (before : σ × List Exchange) :
    ∃ exchange : Option Exchange,
      (routers service network.recorded before).2.2 = before.2 ++ exchange.toList ∧
      (∀ seen, exchange = some seen → AsksRouters service seen) ∧
      ∀ served, (routers service network.recorded before).1 = .ok served →
        ∃ seen, exchange = some seen ∧ seen.read routers? = some served := by
  have told := service.call_recorded routersPath (Call.json .get · none routers?) network before
  rw [routers]
  dsimp only at told
  generalize service.call routersPath (Call.json .get · none routers?) network.recorded before = reply at told ⊢
  obtain ⟨-, ⟨cause, failed⟩, log⟩ | ⟨url, found, -, settled, log⟩ := told
  · refine ⟨none, log.trans (List.append_nil _).symm, fun _ impossible => ?_, fun served replied => ?_⟩
    · cases impossible
    · cases failed.symm.trans replied
  · refine ⟨some _, log, fun seen took => ?_, fun served replied => ⟨_, rfl, ?_⟩⟩
    · rw [← Option.some.inj took]
      exact ⟨url, found, rfl⟩
    · exact Call.settle_json.mp (settled.symm.trans replied)

end Proxy

namespace Resolver

open Http

variable {σ α β : Type} {service : Service}

def settingPath (action id : String) : List String := ["api", "unbound", "settings", action, id]

def applyPath : List String := ["api", "unbound", "service", "reconfigure", ""]

theorem settingPath_letters {action : String} (front id : String)
    (spelled : front.toList = Url.pathLetters (settingPath action "")) :
    (front ++ id).toList = Url.pathLetters (settingPath action id) := by
  rw [String.toList_append, spelled]
  simp [Url.pathLetters, settingPath]

private theorem fits_settingPath {action id : String} (front : String) (known : Url.IsSettled action)
    (settled : Url.IsSettled id) (spelled : front.toList = Url.pathLetters (settingPath action "")) :
    Service.Fits (settingPath action id) (front ++ id) where
  some := List.cons_ne_nil _ _
  settled := by
    have fixed : ∀ segment ∈ ["api", "unbound", "settings"], Url.IsSettled segment := by decide +kernel
    intro segment member
    have apart : segment ∈ ["api", "unbound", "settings"] ++ [action, id] := member
    rcases List.mem_append.mp apart with member | member
    · exact fixed segment member
    · simp only [List.mem_cons, List.not_mem_nil, or_false] at member
      rcases member with rfl | rfl
      · exact known
      · exact settled
  spelled := settingPath_letters front id spelled

private theorem fits_searchOverrides : Service.Fits (settingPath "search_host_override" "") searchOverridesPath :=
  fits_settingPath searchOverridesPath (by decide +kernel) (by decide +kernel) rfl

private theorem fits_applyPath : Service.Fits applyPath reconfigurePath where
  some := List.cons_ne_nil _ _
  settled := by decide +kernel
  spelled := rfl

theorem andThen_eq_ok {reply : Except HttpError α × σ} {next : α → Except StoreError β} {value : β} :
    (andThen reply next).1 = .ok value ↔ ∃ found, reply.1 = .ok found ∧ next found = .ok value := by
  obtain ⟨result, state⟩ := reply
  cases result <;> simp [andThen]

theorem andThen_state (reply : Except HttpError α × σ) (next : α → Except StoreError β) :
    (andThen reply next).2 = reply.2 := by
  obtain ⟨result, state⟩ := reply
  cases result <;> rfl

end Resolver

namespace Http.Exchange

open Resolver

def rows (exchange : Exchange) : List Row := (exchange.read rows?).getD []

private theorem rows_of_read {exchange : Exchange} {rows : List Row} (said : exchange.read rows? = some rows) :
    exchange.rows = rows := by
  rw [Exchange.rows, said]
  rfl

/-- The reply says that an alias has been saved, and under which id. -/
def saves (exchange : Exchange) : Bool :=
  (exchange.read added?).any fun added => added.result == "saved" && added.uuid.isSome

end Http.Exchange

namespace Resolver

open Http

variable {σ : Type} {service : Service} (network : Network σ) (before : σ × List Exchange)

private theorem toBool_eq_true {ε α : Type} {result : Except ε α} :
    result.toBool = true ↔ ∃ value, result = .ok value := by
  cases result with
  | error cause => exact ⟨nofun, nofun⟩
  | ok value => exact ⟨fun _ => ⟨value, rfl⟩, fun _ => rfl⟩

private theorem Added.outcome_toBool (added : Added) (entry : HostAlias) :
    (added.outcome entry).toBool = (added.result == "saved" && added.uuid.isSome) := by
  unfold outcome
  cases added.uuid with
  | none => simp [Except.toBool]
  | some uuid =>
    by_cases saved : added.result = "saved" <;> simp [saved, Except.toBool]

/-- An order for which it is enough that it succeeds. -/
theorem plain_records (sound : service.base.IsBase) {segments : List String} {path : String}
    (fits : Service.Fits segments path) :
    let answer := andThen (service.call path (Call.plain .post) network.recorded before) .ok
    ∃ exchange, service.Records .post segments none network before answer.2 exchange ∧
      answer.1.toBool = exchange.any Exchange.isSuccess := by
  intro answer
  obtain ⟨exchange, records, read⟩ := Service.plain_records sound fits network before
  refine ⟨exchange, (andThen_state ..).symm ▸ records, Bool.eq_iff_iff.mpr ?_⟩
  rw [toBool_eq_true, Option.any_eq_true]
  constructor
  · rintro ⟨done, answered⟩
    obtain ⟨reply, replied, -⟩ := andThen_eq_ok.mp answered
    exact read.mp replied
  · intro good
    exact ⟨(), andThen_eq_ok.mpr ⟨(), read.mpr good, rfl⟩⟩

theorem findOverride_records (sound : service.base.IsBase) (fqdn : String) :
    let answer := findOverride service fqdn network.recorded before
    ∃ exchange, service.Records .get (settingPath "search_host_override" "") none network before answer.2 exchange ∧
      ∀ parent, answer.1 = .ok (some parent) ↔
        ∃ seen row, exchange = some seen ∧ seen.rows.find? (Row.isNamed fqdn) = some row ∧ row.uuid = parent := by
  intro answer
  obtain ⟨exchange, records, read⟩ := Service.json_records sound fits_searchOverrides none rows? network before
  refine ⟨exchange, (andThen_state ..).symm ▸ records, fun parent => ?_⟩
  constructor
  · intro done
    obtain ⟨rows, replied, same⟩ := andThen_eq_ok.mp done
    obtain ⟨seen, took, said⟩ := (read rows).mp replied
    obtain ⟨row, found, named⟩ := Option.map_eq_some_iff.mp (Except.ok.inj same)
    exact ⟨seen, row, took, (Exchange.rows_of_read said).symm ▸ found, named⟩
  · rintro ⟨seen, row, took, found, rfl⟩
    cases said : seen.read rows? with
    | none =>
      rw [Exchange.rows, said] at found
      cases found
    | some rows =>
      rw [Exchange.rows_of_read said] at found
      refine andThen_eq_ok.mpr ⟨rows, (read rows).mpr ⟨seen, took, said⟩, ?_⟩
      exact congrArg Except.ok (congrArg (Option.map Row.uuid) found)

theorem aliases_records (sound : service.base.IsBase) {parent : String} (plain : Url.IsPlainId parent) :
    let answer := aliases service parent network.recorded before
    ∃ exchange, service.Records .get (settingPath "search_host_alias" parent) none network before answer.2 exchange ∧
      ∀ listed, answer.1 = .ok listed → ∃ seen, exchange = some seen ∧ listed = seen.rows.map Row.entry := by
  intro answer
  have fits : Service.Fits (settingPath "search_host_alias" parent) (searchAliasesPath ++ parent) :=
    fits_settingPath searchAliasesPath (by decide +kernel) plain.settled rfl
  obtain ⟨exchange, records, read⟩ := Service.json_records sound fits none rows? network before
  refine ⟨exchange, (andThen_state ..).symm ▸ records, fun listed done => ?_⟩
  obtain ⟨rows, replied, same⟩ := andThen_eq_ok.mp done
  obtain ⟨seen, took, said⟩ := (read rows).mp replied
  refine ⟨seen, took, ?_⟩
  rw [Exchange.rows_of_read said]
  exact (Except.ok.inj same).symm

theorem create_records (sound : service.base.IsBase) (entry : HostAlias) (parent : String) :
    let answer := create service entry parent network.recorded before
    ∃ exchange, service.Records .post (settingPath "add_host_alias" "") (some (addBody entry parent)) network before
        answer.2 exchange ∧ answer.1.toBool = exchange.any Exchange.saves := by
  intro answer
  have fits : Service.Fits (settingPath "add_host_alias" "") addAliasPath :=
    fits_settingPath addAliasPath (by decide +kernel) (by decide +kernel) rfl
  obtain ⟨exchange, records, read⟩ :=
    Service.json_records sound fits (some (addBody entry parent)) added? network before
  refine ⟨exchange, (andThen_state ..).symm ▸ records, Bool.eq_iff_iff.mpr ?_⟩
  rw [toBool_eq_true, Option.any_eq_true]
  constructor
  · rintro ⟨uuid, done⟩
    obtain ⟨added, replied, outcome⟩ := andThen_eq_ok.mp done
    obtain ⟨seen, took, said⟩ := (read added).mp replied
    refine ⟨seen, took, ?_⟩
    rw [Exchange.saves, said, Option.any_some, ← added.outcome_toBool entry, outcome]
    rfl
  · rintro ⟨seen, took, saves⟩
    obtain ⟨added, said, saved⟩ := (Option.any_eq_true ..).mp saves
    rw [← added.outcome_toBool entry] at saved
    obtain ⟨uuid, outcome⟩ := toBool_eq_true.mp saved
    exact ⟨uuid, andThen_eq_ok.mpr ⟨added, (read added).mpr ⟨seen, took, said⟩, outcome⟩⟩

theorem delete_records (sound : service.base.IsBase) {entry : HostAlias} {id : String} (known : entry.id = some id)
    (plain : Url.IsPlainId id) :
    let answer := delete service entry network.recorded before
    ∃ exchange, service.Records .post (settingPath "del_host_alias" id) none network before answer.2 exchange ∧
      answer.1.toBool = exchange.any Exchange.isSuccess := by
  intro answer
  have fits : Service.Fits (settingPath "del_host_alias" id) (deleteAliasPath ++ id) :=
    fits_settingPath deleteAliasPath (by decide +kernel) plain.settled rfl
  have called :
      answer = andThen (service.call (deleteAliasPath ++ id) (Call.plain .post) network.recorded before) .ok := by
    simp only [answer, delete, known]
  rw [called]
  exact plain_records network before sound fits

theorem apply_records (sound : service.base.IsBase) :
    let answer := apply service network.recorded before
    ∃ exchange, service.Records .post applyPath none network before answer.2 exchange ∧
      answer.1.toBool = exchange.any Exchange.isSuccess :=
  plain_records network before sound fits_applyPath

/-- Where an alias can be added or deleted, the changes can be applied. -/
theorem reaches_applyPath {action id : String} (long : "reconfigure".utf8ByteSize ≤ action.utf8ByteSize)
    (reaches : service.reaches (settingPath action id) = true) : service.reaches applyPath = true := by
  refine service.reaches_of_shorter (List.cons_ne_nil _ _) (List.cons_ne_nil _ _) ?_ reaches
  have slash : "/".utf8ByteSize = 1 := rfl
  have service : "service".utf8ByteSize = 7 := rfl
  have settings : "settings".utf8ByteSize = 8 := rfl
  have nothing : "".utf8ByteSize = 0 := rfl
  simp only [List.map_cons, List.map_nil, String.join_cons, String.join_nil, String.utf8ByteSize_append, slash, service,
    settings, nothing]
  omega

end Resolver

end AliasSync
