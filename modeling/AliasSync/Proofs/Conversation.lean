import AliasSync.Proofs.CycleCourse
import AliasSync.Proofs.Isolation
import AliasSync.Proofs.JsonWriting
import AliasSync.Proofs.Recording
import AliasSync.Proofs.TimedRun

/-! What a cycle and its services say to each other, from the search for the host override to the order to apply the
changes: which requests go out, from which replies they take their names and ids, and which replies make a success. -/

namespace AliasSync

open Http Resolver Sync
open Proxy (AsksRouters)

variable {σ : Type}

namespace Deployment

def logged (state : (σ × List Exchange) × Exrex) : List Exchange := state.1.2

def Quiet (before after : (σ × List Exchange) × Exrex) : Prop := logged after = logged before

/-- The rows of every good reply have ids that a path can end in. -/
def HasPlainIds (network : Network σ) : Prop :=
  ∀ state request, ∀ row ∈ (Exchange.mk request (network state request).1).rows, Url.IsPlainId row.uuid

def AsksSnapshot (deployment : Deployment) (parent : String) (exchange : Exchange) : Prop :=
  deployment.resolver.Asks .get (settingPath "search_host_alias" parent) none (some exchange) ∨
    AsksRouters deployment.proxy exchange

structure Fetched (deployment : Deployment) (parent : String) (reads : List Exchange) (listing : Exchange)
    (served : List Router) : Prop where
  aliases : deployment.resolver.Asks .get (settingPath "search_host_alias" parent) none (some listing)
  routers : ∃ serving, AsksRouters deployment.proxy serving ∧ serving.read Proxy.routers? = some served ∧
    (reads = [listing, serving] ∨ reads = [serving, listing])

/-- An operation is ordered, and what the reply says is its outcome. -/
inductive Carries (resolver : Service) (parent : String) : OperationOutcome → Option Exchange → Prop where
  | create {entry : HostAlias} {result : Except StoreError Unit} {body : String} {exchange : Option Exchange}
      (asks : resolver.Asks .post (settingPath "add_host_alias" "") (some body) exchange)
      (spelled : Json.parse? body =
        some (.object [(some "alias", .object ((orderTexts entry parent).map Json.textMember))]))
      (counts : result.toBool = exchange.any Exchange.saves) :
      Carries resolver parent ⟨.create entry, result⟩ exchange
  | delete {entry : HostAlias} {id : String} {result : Except StoreError Unit} {exchange : Option Exchange}
      (known : entry.id = some id) (asks : resolver.Asks .post (settingPath "del_host_alias" id) none exchange)
      (counts : result.toBool = exchange.any Exchange.isSuccess) :
      Carries resolver parent ⟨.delete entry, result⟩ exchange

def IsApply (resolver : Service) (exchange : Exchange) : Prop := exchange.request = resolver.order .post applyPath none

/-- The changes are ordered to be applied if there are any, and what the reply says is what becomes of them. -/
structure Closes (resolver : Service) (execution : Execution) (closing : Option Exchange) : Prop where
  due : closing.isSome = execution.outcomes.any OperationOutcome.succeeded
  asks : ∀ last, closing = some last → IsApply resolver last
  noted : execution.applied.isSome = closing.isSome
  counts : execution.applied.any Except.toBool = closing.any Exchange.isSuccess

private theorem Closes.nothing {resolver : Service} {execution : Execution}
    (failed : ∀ outcome ∈ execution.outcomes, outcome.succeeded = false) (unapplied : execution.applied = none) :
    Closes resolver execution none where
  due := by
    refine (List.any_eq_false.mpr fun outcome member => ?_).symm
    rw [failed outcome member]
    exact Bool.false_ne_true
  asks last impossible := by cases impossible
  noted := by
    rw [unapplied]
    rfl
  counts := by
    rw [unapplied]
    rfl

def Plans (deployment : Deployment) (outside : Outside σ) (planner : Planner) (served : List Router) (rows : List Row)
    (plan : Plan) : Prop :=
  ∃ before planning later after,
    (deployment.world outside.recorded).Course Quiet (planner.plan served (rows.map Row.entry)) before planning
      (some (plan, later)) after

/-- All that a cycle exchanges with its services, and the reply that it comes to. Without a host override it is the
search for it, without both snapshots it is not more than the questions for them, and else the operations of the plan
follow one by one, and the order to apply the changes comes last. -/
inductive Conversation (deployment : Deployment) (outside : Outside σ) (syncer : Syncer) :
    List Exchange → Except CycleError Summary → Prop where
  | unfound {lookup : Option Exchange} {cause : CycleError}
      (asks : deployment.resolver.Asks .get (settingPath "search_host_override" "") none lookup)
      (absent : ∀ seen, lookup = some seen → seen.rows.find? (Row.isNamed syncer.hostOverride) = none) :
      Conversation deployment outside syncer lookup.toList (.error cause)
  | unread {lookup : Exchange} {row : Row} {reads : List Exchange} {cause : CycleError}
      (asks : deployment.resolver.Asks .get (settingPath "search_host_override" "") none (some lookup))
      (first : lookup.rows.find? (Row.isNamed syncer.hostOverride) = some row)
      (each : ∀ seen ∈ reads, deployment.AsksSnapshot row.uuid seen) :
      Conversation deployment outside syncer (lookup :: reads) (.error cause)
  | acted {lookup : Exchange} {row : Row} {reads : List Exchange} {listing : Exchange} {served : List Router}
      {plan : Plan} {execution : Execution} {turns : List (OperationOutcome × Option Exchange)}
      {closing : Option Exchange}
      (asks : deployment.resolver.Asks .get (settingPath "search_host_override" "") none (some lookup))
      (first : lookup.rows.find? (Row.isNamed syncer.hostOverride) = some row)
      (fetched : deployment.Fetched row.uuid reads listing served)
      (plans : deployment.Plans outside syncer.planner served listing.rows plan)
      (marked : plan.Marked syncer.planner.marker (listing.rows.map Row.entry))
      (planned : execution.outcomes.map OperationOutcome.operation = plan.operations)
      (outcomes : turns.map Prod.fst = execution.outcomes)
      (carries : ∀ turn ∈ turns, Carries deployment.resolver row.uuid turn.1 turn.2)
      (closes : Closes deployment.resolver execution closing)
      (once : ∀ seen ∈ lookup :: reads ++ turns.filterMap Prod.snd, ¬ IsApply deployment.resolver seen) :
      Conversation deployment outside syncer (lookup :: reads ++ turns.filterMap Prod.snd ++ closing.toList)
        (execution.verdict plan)

private theorem not_isApply_of_get {resolver : Service} {exchange : Exchange} (gets : exchange.request.method = .get) :
    ¬ IsApply resolver exchange := by
  intro applies
  cases gets.symm.trans (congrArg Request.method applies)

private theorem not_isApply_of_setting {resolver : Service} {action id : String} {body : Option String}
    {exchange : Exchange}
    (asks : resolver.Asks .post (settingPath action id) body (some exchange)) : ¬ IsApply resolver exchange := by
  intro applies
  have url (segments : List String) (body : Option String) :
      (resolver.order .post segments body).url = (Call.plain .get resolver.base).address.below segments :=
    Service.address_below resolver.base segments
  have same := congrArg Request.url ((asks.request exchange rfl).symm.trans applies)
  rw [url, url] at same
  have path := List.append_cancel_left (Url.Path.segments.inj (congrArg Url.path same))
  simp [settingPath, applyPath] at path

private theorem AsksSnapshot.not_isApply {deployment : Deployment} {parent : String} {exchange : Exchange}
    (asks : deployment.AsksSnapshot parent exchange) : ¬ IsApply deployment.resolver exchange := by
  obtain asks | ⟨url, -, asks⟩ := asks
  · exact not_isApply_of_get (congrArg Request.method (asks.request exchange rfl))
  · exact not_isApply_of_get (congrArg Request.method asks)

private theorem Carries.not_isApply {resolver : Service} {parent : String} {outcome : OperationOutcome}
    {exchange : Exchange}
    (carries : Carries resolver parent outcome (some exchange)) : ¬ IsApply resolver exchange := by
  cases carries with
  | create asks => exact not_isApply_of_setting asks
  | delete _ asks => exact not_isApply_of_setting asks

/-- Where an operation succeeds, the changes can be applied. -/
theorem Carries.reaches {resolver : Service} {parent : String} {outcome : OperationOutcome} {exchange : Option Exchange}
    (carries : Carries resolver parent outcome exchange) (succeeded : outcome.succeeded = true) :
    resolver.reaches applyPath = true := by
  have sent {segments : List String} {body : Option String} {good : Exchange → Bool}
      (asks : resolver.Asks .post segments body exchange) (seen : exchange.any good = true) :
      resolver.reaches segments = true := by
    rw [← asks.sent]
    exact Option.isSome_of_any seen
  cases carries with
  | create asks _ counts => exact reaches_applyPath (by decide) (sent asks (counts.symm.trans succeeded))
  | delete _ asks counts => exact reaches_applyPath (by decide) (sent asks (counts.symm.trans succeeded))

structure Said (service : Service) (method : Method) (segments : List String) (body : Option String)
    (before after : (σ × List Exchange) × Exrex) (exchange : Option Exchange) : Prop
    extends service.Asks method segments body exchange where
  log : logged after = logged before ++ exchange.toList
  plain : ∀ seen, exchange = some seen → ∀ row ∈ seen.rows, Url.IsPlainId row.uuid

variable {deployment : Deployment} {outside : Outside σ} {before after : (σ × List Exchange) × Exrex}

private theorem Said.asksSnapshot {parent : String} {exchange : Option Exchange}
    (said : Said deployment.resolver .get (settingPath "search_host_alias" parent) none before after exchange) :
    ∀ seen ∈ exchange.toList, deployment.AsksSnapshot parent seen := by
  intro seen member
  rw [Option.mem_toList] at member
  exact .inl (member ▸ said.toAsks)

private theorem said_of_records {service : Service} {method : Method} {segments : List String} {body : Option String}
    {waited : (σ × List Exchange) × Exrex} {exchange : Option Exchange} (quiet : Quiet before waited)
    (ids : HasPlainIds outside.network)
    (records : service.Records method segments body outside.network waited.1 after.1 exchange) :
    Said service method segments body before after exchange where
  toAsks := records.toAsks
  log := by
    have log := records.log
    exact log.trans (congrArg (· ++ exchange.toList) quiet)
  plain seen took row member := by
    refine ids waited.1.1 seen.request row ?_
    rw [← records.given seen took]
    exact member

/-- A reaction over the network, apart from the generator. -/
theorem reacts_overNetwork {request : Sync.Request} {reply : request.Reply}
    (reacts : (deployment.world outside.recorded).Reacts Quiet before request reply after)
    (exchange : σ × List Exchange → request.Reply × (σ × List Exchange))
    (answers : ∀ state, deployment.answer outside.recorded state request = overNetwork state exchange) :
    ∃ waited, Quiet before waited ∧ (exchange waited.1).1 = reply ∧ (exchange waited.1).2 = after.1 := by
  obtain ⟨waited, quiet, answered⟩ := reacts
  cases (answers waited).symm.trans answered
  exact ⟨waited, quiet, rfl, rfl⟩

private theorem routers_said {reply : Except HttpError (List Router)}
    (reacts : (deployment.world outside.recorded).Reacts Quiet before .routers reply after) :
    ∃ exchange : Option Exchange, logged after = logged before ++ exchange.toList ∧
      (∀ seen, exchange = some seen → AsksRouters deployment.proxy seen) ∧
      ∀ served, reply = .ok served → ∃ seen, exchange = some seen ∧ seen.read Proxy.routers? = some served := by
  obtain ⟨waited, quiet, replied, left⟩ :=
    reacts_overNetwork reacts (Proxy.routers deployment.proxy outside.network.recorded) fun _ => rfl
  -- A reply to this request is a reply of the proxy, but `rw` does not see that.
  have left : (Proxy.routers deployment.proxy outside.network.recorded waited.1).2 = after.1 := left
  obtain ⟨exchange, log, asks, read⟩ := Proxy.routers_records deployment.proxy outside.network waited.1
  rw [left] at log
  refine ⟨exchange, log.trans (congrArg (· ++ exchange.toList) quiet), asks, fun served same => ?_⟩
  exact read served (replied.trans same)

/-- The generator is not asked over the network. -/
theorem plan_quiet {planner : Planner} {routers : List Router} {listed : List HostAlias} {steps : List Step}
    {planned : Option (Plan × Planner)}
    (course : (deployment.world outside.recorded).Course Quiet (planner.plan routers listed) before steps planned
      after) : Quiet before after := by
  refine course.keeps (Quiet before) (planner.plan_uses routers listed) (fun quiet kept => quiet.trans kept) ?_ rfl
  rintro first request reply last ⟨pattern, rfl⟩ ⟨waited, quiet, answered⟩ kept
  cases answered
  exact quiet.trans kept

private theorem toBool_map {ε α β : Type} (f : α → β) (result : Except ε α) :
    (result.map f).toBool = result.toBool := by
  cases result <;> rfl

section

variable (sound : deployment.resolver.base.IsBase) (ids : HasPlainIds outside.network)

include sound ids

private theorem lookup_said {fqdn : String} {reply : Except StoreError (Option String)}
    (reacts : (deployment.world outside.recorded).Reacts Quiet before (.lookup fqdn) reply after) :
    ∃ exchange,
      Said deployment.resolver .get (settingPath "search_host_override" "") none before after exchange ∧
      ∀ parent, reply = .ok (some parent) ↔
        ∃ seen row, exchange = some seen ∧ seen.rows.find? (Row.isNamed fqdn) = some row ∧ row.uuid = parent := by
  obtain ⟨waited, quiet, replied, left⟩ :=
    reacts_overNetwork reacts (findOverride deployment.resolver fqdn outside.network.recorded) fun _ => rfl
  obtain ⟨exchange, records, read⟩ := findOverride_records outside.network waited.1 sound fqdn
  exact ⟨exchange, said_of_records quiet ids (left ▸ records), fun parent => replied ▸ read parent⟩

private theorem aliases_said {parent : String} {reply : Except StoreError (List HostAlias)}
    (plain : Url.IsPlainId parent)
    (reacts : (deployment.world outside.recorded).Reacts Quiet before (.aliases parent) reply after) :
    ∃ exchange,
      Said deployment.resolver .get (settingPath "search_host_alias" parent) none before after exchange ∧
      ∀ listed, reply = .ok listed → ∃ seen, exchange = some seen ∧ listed = seen.rows.map Row.entry := by
  obtain ⟨waited, quiet, replied, left⟩ :=
    reacts_overNetwork reacts (aliases deployment.resolver parent outside.network.recorded) fun _ => rfl
  obtain ⟨exchange, records, read⟩ := aliases_records outside.network waited.1 sound plain
  exact ⟨exchange, said_of_records quiet ids (left ▸ records), fun listed same => read listed (replied.trans same)⟩

private theorem apply_said {reply : Except StoreError Unit}
    (reacts : (deployment.world outside.recorded).Reacts Quiet before .apply reply after) :
    ∃ exchange, Said deployment.resolver .post applyPath none before after exchange ∧
      reply.toBool = exchange.any Exchange.isSuccess := by
  obtain ⟨waited, quiet, replied, left⟩ :=
    reacts_overNetwork reacts (apply deployment.resolver outside.network.recorded) fun _ => rfl
  obtain ⟨exchange, records, read⟩ := apply_records outside.network waited.1 sound
  exact ⟨exchange, said_of_records quiet ids (left ▸ records), replied ▸ read⟩

/-- An operation goes out as it is planned. -/
theorem operation_said {parent : String} {operation : Operation} {reply : (operation.request parent).Reply}
    (known : ∀ entry, operation = .delete entry → ∃ id, entry.id = some id ∧ Url.IsPlainId id)
    (reacts : (deployment.world outside.recorded).Reacts Quiet before (operation.request parent) reply after) :
    ∃ exchange, logged after = logged before ++ exchange.toList ∧
      Carries deployment.resolver parent ⟨operation, operation.verdict parent reply⟩ exchange := by
  cases operation with
  | create entry =>
    obtain ⟨waited, quiet, replied, left⟩ := reacts_overNetwork reacts
      (create deployment.resolver entry parent outside.network.recorded) fun _ => rfl
    obtain ⟨exchange, records, read⟩ := create_records outside.network waited.1 sound entry parent
    have said := said_of_records quiet ids (left ▸ records)
    refine ⟨exchange, said.log, .create said.toAsks (parse_addBody entry parent) ?_⟩
    rw [← read, replied]
    exact toBool_map _ reply
  | delete entry =>
    obtain ⟨id, named, plain⟩ := known entry rfl
    obtain ⟨waited, quiet, replied, left⟩ := reacts_overNetwork reacts
      (delete deployment.resolver entry outside.network.recorded) fun _ => rfl
    obtain ⟨exchange, records, read⟩ := delete_records outside.network waited.1 sound named plain
    have said := said_of_records quiet ids (left ▸ records)
    exact ⟨exchange, said.log, .delete named said.toAsks (replied ▸ read)⟩

/-- The operations of a plan go out one by one. -/
theorem performs_said {parent : String} {operations : List Operation} {calls : List Step}
    {outcomes : List OperationOutcome}
    (known : ∀ entry, .delete entry ∈ operations → ∃ id, entry.id = some id ∧ Url.IsPlainId id)
    (performs : Performs (deployment.world outside.recorded) Quiet parent operations before calls outcomes after) :
    ∃ turns : List (OperationOutcome × Option Exchange), turns.map Prod.fst = outcomes ∧
      logged after = logged before ++ turns.filterMap Prod.snd ∧
      ∀ turn ∈ turns, Carries deployment.resolver parent turn.1 turn.2 := by
  induction performs with
  | nil => exact ⟨[], rfl, (List.append_nil _).symm, List.forall_mem_nil _⟩
  | @cons operation rest before reply middle calls outcomes after reacts later ih =>
    obtain ⟨exchange, log, carries⟩ :=
      operation_said sound ids (fun entry same => known entry (same ▸ List.mem_cons_self)) reacts
    obtain ⟨turns, same, logs, each⟩ := ih fun entry member => known entry (List.mem_cons_of_mem _ member)
    refine ⟨(⟨operation, operation.verdict parent reply⟩, exchange) :: turns, ?_, ?_, ?_⟩
    · rw [List.map_cons, same]
    · rw [logs, log, List.append_assoc]
      cases exchange <;> rfl
    · exact List.forall_mem_cons.mpr ⟨carries, each⟩

/-- A plan goes out operation by operation, and the order to apply the changes comes last. -/
theorem execute_said {parent : String} {operations : List Operation} {steps : List Step} {execution : Execution}
    (known : ∀ entry, .delete entry ∈ operations → ∃ id, entry.id = some id ∧ Url.IsPlainId id)
    (course : (deployment.world outside.recorded).Course Quiet (execute parent operations) before steps
      (some execution) after) :
    ∃ (turns : List (OperationOutcome × Option Exchange)) (closing : Option Exchange),
      logged after = logged before ++ turns.filterMap Prod.snd ++ closing.toList ∧
      execution.outcomes.map OperationOutcome.operation = operations ∧ turns.map Prod.fst = execution.outcomes ∧
      (∀ turn ∈ turns, Carries deployment.resolver parent turn.1 turn.2) ∧
      Closes deployment.resolver execution closing := by
  obtain ⟨calls, middle, performs, ending⟩ := execute_result course
  obtain ⟨turns, outcomes, logs, carries⟩ := performs_said sound ids known performs
  obtain ⟨failed, unapplied, -, rfl⟩ | ⟨⟨outcome, member, succeeded⟩, reply, reacts, applied, -⟩ := ending
  · refine ⟨turns, none, ?_, performs.map_operation, outcomes, carries, .nothing failed unapplied⟩
    rw [logs, Option.toList_none, List.append_nil]
  · obtain ⟨closing, said, read⟩ := apply_said sound ids reacts
    have sent : closing.isSome = true := by
      rw [said.sent]
      have taken := member
      rw [← outcomes] at taken
      obtain ⟨turn, taken, same⟩ := List.mem_map.mp taken
      exact (carries turn taken).reaches (same ▸ succeeded)
    refine ⟨turns, closing, by rw [said.log, logs], performs.map_operation, outcomes, carries, ?_⟩
    constructor
    case due => rw [List.any_eq_true.mpr ⟨outcome, member, succeeded⟩, sent]
    case asks => exact said.request
    case noted =>
      rw [applied, sent]
      rfl
    case counts =>
      rw [applied]
      exact read

/-- Both snapshots are asked for, or one of them if that fails. -/
theorem fetch_said {parent : String} {steps : List Step} {reply : Except CycleError Snapshots}
    (plain : Url.IsPlainId parent)
    (fetch : (deployment.world outside.recorded).Fetch Quiet parent before steps (some reply) after) :
    ∃ reads, logged after = logged before ++ reads ∧ (∀ seen ∈ reads, deployment.AsksSnapshot parent seen) ∧
      ∀ listed served, reply = .ok (listed, served) → ∃ listing, deployment.Fetched parent reads listing served ∧
        listed = listing.rows.map Row.entry ∧ ∀ row ∈ listing.rows, Url.IsPlainId row.uuid := by
  generalize finished : some reply = result at fetch
  cases fetch with
  | interrupted | aliasesOnly | routersOnly => cases finished
  | aliasesFail aliases =>
    cases finished
    obtain ⟨exchange, said, -⟩ := aliases_said sound ids plain aliases
    exact ⟨exchange.toList, said.log, said.asksSnapshot, fun _ _ impossible => by cases impossible⟩
  | routersFail routers =>
    cases finished
    obtain ⟨exchange, log, asks, -⟩ := routers_said routers
    exact ⟨exchange.toList, log, fun seen member => .inr (asks seen (Option.mem_toList.mp member)),
      fun _ _ impossible => by cases impossible⟩
  | @routersLast _ _ answer _ aliases routers =>
    cases finished
    obtain ⟨first, said, heard⟩ := aliases_said sound ids plain aliases
    obtain ⟨last, log, asks, told⟩ := routers_said routers
    refine ⟨first.toList ++ last.toList, ?_, fun seen member => ?_, fun listed served same => ?_⟩
    · rw [log, said.log, List.append_assoc]
    · obtain member | member := List.mem_append.mp member
      · exact said.asksSnapshot seen member
      · exact .inr (asks seen (Option.mem_toList.mp member))
    · cases answer with
      | error cause => cases same
      | ok answer =>
        cases same
        obtain ⟨listing, rfl, rows⟩ := heard _ rfl
        obtain ⟨serving, rfl, read⟩ := told _ rfl
        exact ⟨listing, ⟨said.toAsks, serving, asks _ rfl, read, .inl rfl⟩, rows, said.plain _ rfl⟩
  | @aliasesLast _ _ answer _ routers aliases =>
    cases finished
    obtain ⟨first, log, asks, told⟩ := routers_said routers
    obtain ⟨last, said, heard⟩ := aliases_said sound ids plain aliases
    refine ⟨first.toList ++ last.toList, ?_, fun seen member => ?_, fun listed served same => ?_⟩
    · rw [said.log, log, List.append_assoc]
    · obtain member | member := List.mem_append.mp member
      · exact .inr (asks seen (Option.mem_toList.mp member))
      · exact said.asksSnapshot seen member
    · cases answer with
      | error cause => cases same
      | ok answer =>
        cases same
        obtain ⟨serving, rfl, read⟩ := told _ rfl
        obtain ⟨listing, rfl, rows⟩ := heard _ rfl
        exact ⟨listing, ⟨said.toAsks, serving, asks _ rfl, read, .inr rfl⟩, rows, said.plain _ rfl⟩

private theorem act_said {parent : String} {plan : Plan} {steps : List Step} {reply : Except CycleError Summary}
    (known : ∀ entry, .delete entry ∈ plan.operations → ∃ id, entry.id = some id ∧ Url.IsPlainId id)
    (course : (deployment.world outside.recorded).Course Quiet (act parent false plan) before steps
      (some reply) after) :
    ∃ (execution : Execution) (turns : List (OperationOutcome × Option Exchange)) (closing : Option Exchange),
      logged after = logged before ++ turns.filterMap Prod.snd ++ closing.toList ∧ reply = execution.verdict plan ∧
      execution.outcomes.map OperationOutcome.operation = plan.operations ∧
      turns.map Prod.fst = execution.outcomes ∧
      (∀ turn ∈ turns, Carries deployment.resolver parent turn.1 turn.2) ∧
      Closes deployment.resolver execution closing := by
  by_cases idle : plan.operations = []
  · obtain ⟨finished, -, rfl⟩ := act_idle_course (.inl idle) course
    refine ⟨⟨[], none⟩, [], none, ?_, Option.some.inj finished, idle.symm, rfl, List.forall_mem_nil _, ?_⟩
    · rw [Option.toList_none, List.filterMap_nil, List.append_nil, List.append_nil]
    · exact .nothing (List.forall_mem_nil _) rfl
  · rw [act_of_due idle, World.course_bind_some] at course
    obtain ⟨execution, _, _, _, -, executing, -, finished, rfl⟩ := course
    obtain ⟨turns, closing, log, planned, outcomes, carries, closes⟩ := execute_said sound ids known executing
    exact ⟨execution, turns, closing, log, Option.some.inj finished, planned, outcomes, carries, closes⟩

/-- All that is exchanged in the course of a cycle is a conversation. -/
theorem conversation_of_course {syncer later : Syncer} {steps : List Step} {reply : Except CycleError Summary}
    (live : syncer.dryRun = false)
    (course : syncer.CycleCourse (deployment.world outside.recorded) Quiet before steps (some (reply, later)) after) :
    ∃ log, logged after = logged before ++ log ∧ Conversation deployment outside syncer log reply := by
  generalize finished : some (reply, later) = result at course
  cases course with
  | lookupWaits | snapshotsWait | planWaits => cases finished
  | lookupFails reacts | overrideMissing reacts =>
    cases finished
    obtain ⟨lookup, said, read⟩ := lookup_said sound ids reacts
    refine ⟨lookup.toList, said.log, .unfound said.toAsks fun seen took => ?_⟩
    refine Option.eq_none_iff_forall_ne_some.mpr fun row first => ?_
    cases (read row.uuid).mpr ⟨seen, row, took, first, rfl⟩
  | @snapshotsFail parent _ _ _ _ found fetch =>
    cases finished
    obtain ⟨_, said, read⟩ := lookup_said sound ids found
    obtain ⟨lookup, row, rfl, first, rfl⟩ := (read parent).mp rfl
    have plain := said.plain lookup rfl row (List.mem_of_find?_eq_some first)
    obtain ⟨reads, log, each, -⟩ := fetch_said sound ids plain fetch
    refine ⟨lookup :: reads, ?_, .unread said.toAsks first each⟩
    rw [log, said.log, List.append_assoc]
    rfl
  | @acts parent _ _ listed served _ _ _ _ _ _ _ _ found fetch computes carries =>
    obtain ⟨_, rfl, same⟩ := Option.map_eq_some_iff.mp finished.symm
    cases same
    rw [live] at carries
    obtain ⟨_, said, read⟩ := lookup_said sound ids found
    obtain ⟨lookup, row, rfl, first, rfl⟩ := (read parent).mp rfl
    have plain := said.plain lookup rfl row (List.mem_of_find?_eq_some first)
    obtain ⟨reads, log, each, snapshots⟩ := fetch_said sound ids plain fetch
    obtain ⟨listing, fetched, rfl, known⟩ := snapshots _ _ rfl
    have quiet := plan_quiet computes
    rw [Quiet] at quiet
    have marked := Planner.plan_marked computes
    obtain ⟨execution, turns, closing, acting, rfl, planned, outcomes, carries, closes⟩ :=
      act_said sound ids (fun entry member => by
        obtain ⟨listed, -⟩ := marked _ member
        obtain ⟨row, stored, rfl⟩ := List.mem_map.mp listed
        exact ⟨row.uuid, rfl, known row stored⟩) carries
    refine ⟨lookup :: reads ++ turns.filterMap Prod.snd ++ closing.toList, ?_,
      .acted said.toAsks first fetched ⟨_, _, _, _, computes⟩ marked planned outcomes carries closes ?_⟩
    · rw [acting, quiet, log, said.log]
      simp only [List.append_assoc, List.cons_append, Option.toList_some, List.nil_append]
    · rw [List.cons_append]
      refine List.forall_mem_cons.mpr ⟨?_, fun seen member => ?_⟩
      · exact not_isApply_of_get (congrArg Request.method (said.request lookup rfl))
      · obtain member | member := List.mem_append.mp member
        · exact (each seen member).not_isApply
        · obtain ⟨turn, member, sent⟩ := List.mem_filterMap.mp member
          exact (sent ▸ carries turn member).not_isApply

end

/-- All that a cycle and its services say to each other is a conversation, and with the record of it left out the
cycle is what it is without a record. -/
theorem cycle_conversation (deployment : Deployment) (outside : Outside σ) (syncer : Syncer)
    (live : syncer.dryRun = false) (sound : deployment.resolver.base.IsBase) (ids : HasPlainIds outside.network)
    (now : Nat) (state : σ) (exrex : Exrex) :
    let recorded := (deployment.world outside.recorded).run none syncer.cycle now ((state, []), exrex)
    recorded.through unrecorded = (deployment.world outside).run none syncer.cycle now (state, exrex) ∧
      ∃ reply later, recorded.result = some (reply, later) ∧
        Conversation deployment outside syncer (logged recorded.state) reply := by
  intro recorded
  refine ⟨deployment.run_recorded outside none syncer.cycle now ((state, []), exrex), ?_⟩
  obtain ⟨⟨reply, later⟩, finished⟩ :=
    (deployment.world outside.recorded).run_completes syncer.cycle now ((state, []), exrex)
  have course := (deployment.world outside.recorded).run_course none syncer.cycle now ((state, []), exrex) Quiet
    fun _ _ _ _ _ => rfl
  rw [finished] at course
  obtain ⟨log, logs, conversation⟩ := conversation_of_course sound ids live (cycle_course course)
  have same : logged recorded.state = log := logs
  exact ⟨reply, later, finished, same ▸ conversation⟩

def scriptedBody (uuid : String) (request : Http.Request) : String :=
  if request.method = .post then "\x7b\"result\":\"saved\",\"uuid\":\"\"\x7d"
  else if request.url.path = .segments ["api", "http", "routers"] then "[\x7b\"rule\":\"Host(`c.d`)\"\x7d]"
  else if request.url.path = .segments (settingPath "search_host_override" "") then
    "\x7b\"rows\":[\x7b\"uuid\":\"id\",\"hostname\":\"A\",\"domain\":\"b\"\x7d]\x7d"
  else "\x7b\"rows\":[\x7b\"uuid\":\"" ++ uuid ++ "\",\"description\":\"mine\"\x7d]\x7d"

def scripted (uuid : String) : Outside Unit where
  network state request := (some ⟨"", ⟨200⟩, some (Text.utf8 (scriptedBody uuid request).toList)⟩, state)
  machine _ := ⟨fun _ => false, none, none, fun _ _ => .notStarted ""⟩
  wait _ _ := 0
  elapse _ _ state := state

def sampleUrl (last : Nat) : Url :=
  ⟨"http", "", "", some (.ipv6 [0, 0, 0, 0, 0, 0, 0, last]), none, .segments [""], none, none⟩

def sample : Deployment where
  resolver := ⟨sampleUrl 1, ⟨"", ""⟩, .ofSeconds 10, true⟩
  proxy := ⟨sampleUrl 2, ⟨"", ""⟩, .ofSeconds 10, true⟩
  exrex := .start "" (.ofSeconds 2)
  reconciler := ⟨⟨⟨⟨[], [], [], []⟩, "mine", 100, .empty⟩, "a.B", false⟩, 60000⟩

def sampleRun (uuid : String) : Run ((Unit × List Exchange) × Exrex) (Except CycleError Summary × Syncer) :=
  (sample.world (scripted uuid).recorded).run none sample.reconciler.syncer.cycle 0 (((), []), sample.exrex)

private theorem sample_isBase : sample.resolver.base.IsBase where
  reads := Url.parse_eq_ok (by decide +kernel)
  query := rfl
  fragment := rfl

private theorem scripted_hasPlainIds : HasPlainIds (scripted "e").network := by
  have plain (body : String) (each : ((Exchange.mk (sample.resolver.order .get [] none)
      (some ⟨"", ⟨200⟩, some (Text.utf8 body.toList)⟩)).rows.all fun row =>
        row.uuid.toList.all Url.isUnreserved && row.uuid != "." && row.uuid != "..") = true) (request : Http.Request) :
      ∀ row ∈ (Exchange.mk request (some ⟨"", ⟨200⟩, some (Text.utf8 body.toList)⟩)).rows, Url.IsPlainId row.uuid := by
    intro row member
    have plain := List.all_eq_true.mp each row member
    simp only [Bool.and_eq_true, List.all_eq_true, bne_iff_ne, ne_eq] at plain
    exact ⟨plain.1.1, plain.1.2, plain.2⟩
  intro state request
  refine plain (scriptedBody "e" request) ?_ request
  unfold scriptedBody
  repeat' split
  all_goals decide +kernel

theorem sample_cycle_conversation :
    sample.reconciler.syncer.dryRun = false ∧ sample.resolver.base.IsBase ∧ HasPlainIds (scripted "e").network ∧
      (logged (sampleRun "e").state).map (·.request.url.path) =
        [settingPath "search_host_override" "", settingPath "search_host_alias" "id", ["api", "http", "routers"],
          settingPath "del_host_alias" "e", settingPath "add_host_alias" "", applyPath].map .segments ∧
      ∃ reply later, (sampleRun "e").result = some (reply, later) ∧
        Conversation sample (scripted "e") sample.reconciler.syncer (logged (sampleRun "e").state) reply := by
  refine ⟨rfl, sample_isBase, scripted_hasPlainIds, by decide +kernel, ?_⟩
  exact (cycle_conversation sample (scripted "e") sample.reconciler.syncer rfl sample_isBase scripted_hasPlainIds
    0 () sample.exrex).2

/-- An alias whose id is a way back within a path is planned to be deleted, and another path is asked for that. -/
theorem dotted_id_misses_its_path :
    "..".toList.all Url.isUnreserved = true ∧
      (sampleRun "..").trace.filterMap Step.attempted =
        [.delete ⟨some "..", "", "", "mine"⟩, .create ⟨none, "c", "d", "mine"⟩] ∧
      (logged (sampleRun "..").state).map (·.request.url.path) =
        [settingPath "search_host_override" "", settingPath "search_host_alias" "id", ["api", "http", "routers"],
          ["api", "unbound", "settings", ""], settingPath "add_host_alias" "", applyPath].map .segments := by
  decide +kernel

end Deployment

end AliasSync
