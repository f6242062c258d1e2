import ControlPlane.Fencing

/-!
Governed replays over whole runs of the workflow store, whatever is delivered
and in whatever order. A workflow is reopened by the delivery that an
authorization describes and by no other, and an authorization is consumed at
most once: it is completed by its use, and what is completed stays so. A command
delivery that is rejected leaves a poison record only; a replay request that is
rejected leaves its receipt, its decision and its resolution.
-/
namespace ControlPlane.Replays
open ControlPlane.Tables ControlPlane.Runs ControlPlane.Domain ControlPlane.Commands
open ControlPlane.EventValidation ControlPlane.WorkflowSchema ControlPlane.WorkflowStore ControlPlane.StoreRules
open ControlPlane.Fencing

variable {host : Host}

/-! ### The authorizations -/

/-- How one call changes the replay requests: a new decision is kept, or an
    authorization is completed. -/
inductive RequestsFrom (before : List ReplayRequestRow) : List ReplayRequestRow → Prop
  | kept : RequestsFrom before before
  | decided (row : ReplayRequestRow) (new : ∀ r ∈ before, r.replayRequestId ≠ row.replayRequestId)
      (open_ : row.status ≠ .completed) : RequestsFrom before (before ++ [row])
  | consumed (id : Uuid) (now : Instant) :
      RequestsFrom before (update (fun r : ReplayRequestRow => r.replayRequestId = id ∧ r.status = .authorized)
        (fun r => { r with status := .completed, completedAt := some now }) before)

theorem rejectReplayCommand_requests (db : WorkflowDb) (delivery : MessageDeliveryIdentity) (payloadHash : String)
    (failureCode : CommandRejectionCode) (now : Instant) :
    (rejectReplayCommand db delivery payloadHash failureCode now).replayRequests = db.replayRequests := by
  obtain ⟨records, same⟩ := rejectReplayCommand_same db delivery payloadHash failureCode now
  rw [same]

theorem rejectReplayCommand_workflows (db : WorkflowDb) (delivery : MessageDeliveryIdentity) (payloadHash : String)
    (failureCode : CommandRejectionCode) (now : Instant) :
    (rejectReplayCommand db delivery payloadHash failureCode now).workflows = db.workflows := by
  obtain ⟨records, same⟩ := rejectReplayCommand_same db delivery payloadHash failureCode now
  rw [same]

theorem rejectReplayCommand_letters (db : WorkflowDb) (delivery : MessageDeliveryIdentity) (payloadHash : String)
    (failureCode : CommandRejectionCode) (now : Instant) :
    (rejectReplayCommand db delivery payloadHash failureCode now).deadLetters = db.deadLetters := by
  obtain ⟨records, same⟩ := rejectReplayCommand_same db delivery payloadHash failureCode now
  rw [same]

theorem requests_admitted {db after : WorkflowDb} {fresh : Nat → Uuid} {command : LifecycleCommand}
    {delivery : MessageDeliveryIdentity} {now : Instant} {admission : CommandAdmission}
    (admitted : CommandAdmitted host db fresh command delivery now admission after) :
    RequestsFrom db.replayRequests after.replayRequests := by
  cases admitted with
  | duplicate => exact .kept
  | noted => exact .kept
  | started => exact .kept
  | misidentified => rw [rejectReplayCommand_requests]; exact .kept
  | unauthorized => rw [rejectReplayCommand_requests]; exact .kept
  | conflicting => rw [rejectReplayCommand_requests]; exact .kept
  | reopened authorization => exact .consumed authorization.replayRequestId now
  | introduced authorization => exact .consumed authorization.replayRequestId now

theorem requests_decided {db after : WorkflowDb} {fresh : Nat → Uuid} {request : ProvisioningReplayRequested}
    {delivery : MessageDeliveryIdentity} {now : Instant} {admission : ReplayAdmission}
    (decided : ReplayDecided host db fresh request delivery now admission after) :
    RequestsFrom db.replayRequests after.replayRequests := by
  cases decided with
  | duplicate => exact .kept
  | rejected generation new refused undecided => exact .decided _ undecided.request (fun done => by cases done)
  | accepted letter original new replayable undecided =>
    exact .decided _ undecided.request (fun done => by cases done)

/-- What each call does to the replay requests. -/
theorem requests_next {s t : State} {call : StoreCall} (taken : next host s call = some t) :
    RequestsFrom s.db.replayRequests t.db.replayRequests := by
  have called := (called_next host taken).1
  generalize t.db = after at called
  cases called with
  | nothing => exact .kept
  | admitted admitted => exact requests_admitted admitted
  | decided decided => exact requests_decided decided
  | stored => exact .kept
  | claimed claim =>
    obtain ⟨leases, rfl⟩ := claim.frame
    exact .kept
  | checkpointed => exact .kept
  | completed => exact .kept
  | exhausted => exact .kept

/-- The replay requests have one row for each request. -/
abbrev KeyedRequests (s : State) : Prop := Keyed ReplayRequestRow.replayRequestId s.db.replayRequests

theorem RequestsFrom.keyed {before after : List ReplayRequestRow} (changed : RequestsFrom before after)
    (keyed : Keyed ReplayRequestRow.replayRequestId before) : Keyed ReplayRequestRow.replayRequestId after := by
  cases changed with
  | kept => exact keyed
  | decided row new => exact keyed_append keyed new
  | consumed id now => exact keyed_update keyed fun _ _ => rfl

theorem keyed_execute {now : Instant} {calls : List StoreCall} {s : State}
    (executed : execute (next host) (initial now) calls = some s) : KeyedRequests s :=
  reaches_invariant KeyedRequests (fun _ _ _ keyed _ taken => (requests_next taken).keyed keyed)
    (reaches_execute (meets_anything _ _) executed) List.nodup_nil

/-! ### Consumption -/

def Completed (rows : List ReplayRequestRow) (id : Uuid) : Prop :=
  ∃ row ∈ rows, row.replayRequestId = id ∧ row.status = .completed

instance (rows : List ReplayRequestRow) (id : Uuid) : Decidable (Completed rows id) :=
  inferInstanceAs (Decidable (∃ row ∈ rows, _))

/-- The authorizations that a step completes. -/
def consumed (before after : WorkflowDb) : List Uuid :=
  (before.replayRequests.filter fun row => row.status = .authorized ∧
    Completed after.replayRequests row.replayRequestId).map ReplayRequestRow.replayRequestId

/-- The authorizations that the calls of a run complete, in order. -/
def consumptions (host : Host) (s : State) : List StoreCall → List Uuid
  | [] => []
  | call :: rest =>
    match next host s call with
    | none => []
    | some t => consumed s.db t.db ++ consumptions host t rest

/-- What is completed stays completed. -/
theorem RequestsFrom.completed {before after : List ReplayRequestRow} (changed : RequestsFrom before after) {id : Uuid}
    (completed : Completed before id) : Completed after id := by
  obtain ⟨row, member, same, done⟩ := completed
  cases changed with
  | kept => exact ⟨row, member, same, done⟩
  | decided => exact ⟨row, List.mem_append_left _ member, same, done⟩
  | consumed other now =>
    refine ⟨row, mem_update.mpr ⟨row, member, .inr ⟨fun chosen => ?_, rfl⟩⟩, same, done⟩
    rw [done] at chosen
    exact absurd chosen.2 (by decide)

theorem mem_consumed {before after : WorkflowDb} {id : Uuid} :
    id ∈ consumed before after ↔
      ∃ row ∈ before.replayRequests, row.status = .authorized ∧ Completed after.replayRequests id ∧
        row.replayRequestId = id := by
  simp only [consumed, List.mem_map, List.mem_filter, decide_eq_true_eq]
  constructor
  · rintro ⟨row, ⟨member, authorized, done⟩, rfl⟩
    exact ⟨row, member, authorized, done, rfl⟩
  · rintro ⟨row, member, authorized, done, rfl⟩
    exact ⟨row, ⟨member, authorized, done⟩, rfl⟩

/-- No run completes an authorization twice, or one that was completed before. -/
theorem consumptions_once (s : State) (calls : List StoreCall) (keyed : KeyedRequests s) :
    (consumptions host s calls).Nodup ∧ ∀ id ∈ consumptions host s calls, ¬ Completed s.db.replayRequests id := by
  induction calls generalizing s with
  | nil => exact ⟨List.nodup_nil, fun _ impossible => absurd impossible List.not_mem_nil⟩
  | cons call rest ih =>
    simp only [consumptions]
    cases taken : next host s call with
    | none => exact ⟨List.nodup_nil, fun _ impossible => absurd impossible List.not_mem_nil⟩
    | some t =>
      have changed := requests_next taken
      obtain ⟨once, later⟩ := ih t (changed.keyed keyed)
      have here : (consumed s.db t.db).Nodup := (List.filter_sublist.map _).nodup keyed
      refine ⟨List.nodup_append.mpr ⟨here, once, ?_⟩, fun id member done => ?_⟩
      · rintro id first _ second rfl
        obtain ⟨-, -, -, done, -⟩ := mem_consumed.mp first
        exact later id second done
      · rcases List.mem_append.mp member with first | second
        · obtain ⟨row, present, authorized, -, same⟩ := mem_consumed.mp first
          obtain ⟨other, also, equal, ended⟩ := done
          rw [keyed.eq_of_key also present (equal.trans same.symm), authorized] at ended
          cases ended
        · exact later id second (changed.completed done)

/-! ### Reopening -/

/-- A delivery that reopens a failed workflow, and the authorization that it
    consumes. -/
structure Reopening (host : Host) (before after : WorkflowDb) (command : LifecycleCommand)
    (delivery : MessageDeliveryIdentity) (authorization : ReplayRequestRow) (row : WorkflowRow) : Prop where
  stored : authorization ∈ before.replayRequests
  status : authorization.status = .authorized
  event : authorization.originalEventId = command.eventId
  generation : authorization.replayGeneration = some delivery.replayGeneration
  payload : authorization.authorizedCommandHash = some (host.canonicalSha256 (.lifecycle command))
  outbox : authorization.authorizedOutboxId.isSome ∧ authorization.authorizedOutboxId = delivery.outboxId
  operation : row.operationId = command.operationId ∧ row.eventId = command.eventId
  failed : row.status = .failed
  raised : delivery.replayGeneration = row.replayGeneration + 1
  used : consumed before after = [authorization.replayRequestId]

theorem authorizationOf_some {db : WorkflowDb} {command : LifecycleCommand} {delivery : MessageDeliveryIdentity}
    {payloadHash : String} {authorization : ReplayRequestRow}
    (authorized : authorizationOf db command delivery payloadHash = some authorization) :
    authorization ∈ db.replayRequests ∧ authorization.originalEventId = command.eventId ∧
      authorization.replayGeneration = some delivery.replayGeneration ∧ authorization.status = .authorized ∧
      authorization.authorizedCommandHash = some payloadHash ∧ authorization.authorizedOutboxId.isSome ∧
      authorization.authorizedOutboxId = delivery.outboxId := by
  obtain ⟨found, matching⟩ := Option.filter_eq_some_iff.mp authorized
  have selected := List.find?_some found
  simp only [Bool.and_eq_true, decide_eq_true_eq] at selected matching
  exact ⟨List.mem_of_find?_eq_some found, selected.1, selected.2, matching.1.1.1, matching.1.1.2, matching.1.2,
    matching.2⟩

/-- Completing an authorized row completes that row and no other. -/
theorem consumed_update {before after : WorkflowDb} {authorization : ReplayRequestRow} {now : Instant}
    (keyed : Keyed ReplayRequestRow.replayRequestId before.replayRequests)
    (stored : authorization ∈ before.replayRequests) (status : authorization.status = .authorized)
    (rows : after.replayRequests = update
      (fun r : ReplayRequestRow => r.replayRequestId = authorization.replayRequestId ∧ r.status = .authorized)
      (fun r => { r with status := .completed, completedAt := some now }) before.replayRequests) :
    consumed before after = [authorization.replayRequestId] := by
  have members : ∀ id, id ∈ consumed before after ↔ id = authorization.replayRequestId := by
    intro id
    rw [mem_consumed, rows]
    constructor
    · rintro ⟨row, member, authorized, ⟨done, inside, same, ended⟩, equal⟩
      obtain ⟨old, present, ⟨⟨key, -⟩, rfl⟩ | ⟨-, rfl⟩⟩ := mem_update.mp inside
      · exact same.symm.trans key
      · rw [keyed.eq_of_key present member (same.trans equal.symm), authorized] at ended
        cases ended
    · rintro rfl
      exact ⟨authorization, stored, status,
        ⟨_, mem_update.mpr ⟨authorization, stored, .inl ⟨⟨rfl, status⟩, rfl⟩⟩, rfl, rfl⟩, rfl⟩
  have once : (consumed before after).Nodup := (List.filter_sublist.map _).nodup keyed
  exact List.perm_singleton.mp ((List.perm_ext_iff_of_nodup once (List.nodup_singleton _)).mpr fun id =>
    (members id).trans List.mem_singleton.symm)

/-- A row that is found stays found when rows are appended. -/
theorem workflow_append {rows more : List WorkflowRow} {op : Uuid} {row row' : WorkflowRow}
    (found : find WorkflowRow.operationId op rows = some row)
    (later : find WorkflowRow.operationId op (rows ++ more) = some row') : row' = row := by
  rw [find_append, found] at later
  exact (Option.some.inj later).symm

/-- A row that is found again after rows were rewritten without touching their
    keys. -/
theorem workflow_update {rows : List WorkflowRow} {op id : Uuid} {rewrite : WorkflowRow → WorkflowRow}
    {row row' : WorkflowRow} (keeps : ∀ w, (rewrite w).operationId = w.operationId)
    (found : find WorkflowRow.operationId op rows = some row)
    (later : find WorkflowRow.operationId op
      (update (fun w : WorkflowRow => w.operationId = id) rewrite rows) = some row') :
    (row.operationId = id ∧ row' = rewrite row) ∨ row' = row := by
  rw [find_update keeps, found] at later
  have same : (if row.operationId = id then rewrite row else row) = row' := Option.some.inj later
  split at same
  next chosen => exact .inl ⟨chosen, same.symm⟩
  next => exact .inr same.symm

/-- A call that raises the generation of a workflow is the admission of the
    command that an authorization describes. -/
theorem reopening_admitted {db after : WorkflowDb} {fresh : Nat → Uuid} {command : LifecycleCommand}
    {delivery : MessageDeliveryIdentity} {now : Instant} {admission : CommandAdmission} {op : Uuid}
    {row row' : WorkflowRow} (keyed : Keyed ReplayRequestRow.replayRequestId db.replayRequests)
    (admitted : CommandAdmitted host db fresh command delivery now admission after)
    (found : db.workflow op = some row) (later : after.workflow op = some row')
    (raised : row'.replayGeneration ≠ row.replayGeneration) :
    row'.replayGeneration = delivery.replayGeneration ∧
      ∃ authorization, Reopening host db after command delivery authorization row := by
  have unchanged (same : row' = row) : False := raised (congrArg WorkflowRow.replayGeneration same)
  have kept (same : after.workflows = db.workflows) : False := by
    rw [WorkflowDb.workflow, same] at later
    exact unchanged (Option.some.inj (later.symm.trans found))
  cases admitted with
  | duplicate => exact (kept rfl).elim
  | noted => exact (kept rfl).elim
  | started => exact (unchanged (workflow_append found later)).elim
  | misidentified => exact (kept (rejectReplayCommand_workflows _ _ _ _ _)).elim
  | unauthorized => exact (kept (rejectReplayCommand_workflows _ _ _ _ _)).elim
  | conflicting => exact (kept (rejectReplayCommand_workflows _ _ _ _ _)).elim
  | introduced => exact (unchanged (workflow_append found later)).elim
  | reopened authorization held replay new authorized present matching =>
    obtain ⟨stored, event, generation, status, payload, outbox⟩ := authorizationOf_some authorized
    have again : find WorkflowRow.operationId op (update (fun w : WorkflowRow => w.operationId = command.operationId)
      (reopenedWorkflow command delivery.replayGeneration now) db.workflows) = some row' := later
    obtain ⟨chosen, rfl⟩ | same := workflow_update (by intro w; rfl) found again
    · have key : row.operationId = op := find_key found
      rw [← chosen, key] at present
      obtain rfl : row = held := Option.some.inj (found.symm.trans present)
      obtain ⟨sameEvent, failed, next⟩ := replayConflict_false.mp matching
      exact ⟨rfl, authorization, stored, status, event, generation, payload, outbox, ⟨chosen, sameEvent⟩, failed, next,
        consumed_update keyed stored status rfl⟩
    · exact (unchanged same).elim

theorem reopening_next {s t : State} {call : StoreCall} {op : Uuid} {row row' : WorkflowRow} (keyed : KeyedRequests s)
    (taken : next host s call = some t) (found : s.db.workflow op = some row) (later : t.db.workflow op = some row')
    (raised : row'.replayGeneration ≠ row.replayGeneration) :
    ∃ fresh command delivery authorization, call = .admitCommand fresh command delivery ∧
      row'.replayGeneration = delivery.replayGeneration ∧
      Reopening host s.db t.db command delivery authorization row := by
  have called := (called_next host taken).1
  generalize t.db = after at called later
  have unchanged (same : row' = row) : False := raised (congrArg WorkflowRow.replayGeneration same)
  have rewritten {id : Uuid} {rewrite : WorkflowRow → WorkflowRow}
      (keeps : ∀ w, (rewrite w).operationId = w.operationId ∧ (rewrite w).replayGeneration = w.replayGeneration)
      (again : find WorkflowRow.operationId op
        (update (fun w : WorkflowRow => w.operationId = id) rewrite s.db.workflows) = some row') : False := by
    obtain ⟨-, rfl⟩ | same := workflow_update (fun w => (keeps w).1) found again
    · exact raised (keeps row).2
    · exact unchanged same
  cases called with
  | nothing => exact (unchanged (Option.some.inj (later.symm.trans found))).elim
  | @admitted fresh command delivery admission after admitted =>
    obtain ⟨generation, authorization, reopening⟩ := reopening_admitted keyed admitted found later raised
    exact ⟨fresh, command, delivery, authorization, rfl, generation, reopening⟩
  | decided decided =>
    cases decided with
    | duplicate => exact (unchanged (Option.some.inj (later.symm.trans found))).elim
    | rejected => exact (unchanged (Option.some.inj (later.symm.trans found))).elim
    | accepted => exact (unchanged (Option.some.inj (later.symm.trans found))).elim
  | stored => exact (unchanged (Option.some.inj (later.symm.trans found))).elim
  | claimed claim =>
    obtain ⟨leases, rfl⟩ := claim.frame
    exact (rewritten (by intro w; exact ⟨rfl, rfl⟩) later).elim
  | checkpointed => exact (rewritten (by intro w; exact ⟨rfl, rfl⟩) later).elim
  | completed => exact (rewritten (by intro w; exact ⟨rfl, rfl⟩) later).elim
  | exhausted => exact (rewritten (by intro w; exact ⟨rfl, rfl⟩) later).elim

/-! ### Rejections -/

/-- At most a poison record of the delivery was added. -/
def OnlyQuarantined (before after : WorkflowDb) (delivery : MessageDeliveryIdentity) : Prop :=
  after = before ∨ ∃ record : PoisonRecord, record.delivery = delivery ∧
    after = { before with poisonRecords := before.poisonRecords ++ [record] }

theorem rejectReplayCommand_quarantines (db : WorkflowDb) (delivery : MessageDeliveryIdentity) (payloadHash : String)
    (failureCode : CommandRejectionCode) (now : Instant) :
    OnlyQuarantined db (rejectReplayCommand db delivery payloadHash failureCode now) delivery := by
  simp only [rejectReplayCommand]
  split
  · exact .inl rfl
  · exact .inr ⟨_, rfl, rfl⟩

theorem rejected_quarantines {db after : WorkflowDb} {fresh : Nat → Uuid} {command : LifecycleCommand}
    {delivery : MessageDeliveryIdentity} {now : Instant} {failureCode : CommandRejectionCode}
    (rejected : admitCommand host db fresh command delivery now = .ok (.rejected failureCode, after)) :
    OnlyQuarantined db after delivery := by
  cases admitCommand_cases rejected with
  | misidentified => exact rejectReplayCommand_quarantines _ _ _ _ _
  | unauthorized => exact rejectReplayCommand_quarantines _ _ _ _ _
  | conflicting => exact rejectReplayCommand_quarantines _ _ _ _ _

/-- A rejected replay request left its receipt, its decision and its resolution,
    and nothing else. -/
def OnlyDecided (before after : WorkflowDb) (request : ProvisioningReplayRequested)
    (delivery : MessageDeliveryIdentity) : Prop :=
  ∃ receipt : CommandReceipt, ∃ decision : ReplayRequestRow, ∃ resolution : OutboxRow WorkflowMessage,
    receipt.eventId = request.eventId ∧ receipt.delivery = delivery ∧
      decision.replayRequestId = request.replayRequestId ∧ decision.status = .rejected ∧
      decision.replayGeneration = none ∧
      after = { before with
        commandReceipts := before.commandReceipts ++ [receipt],
        replayRequests := before.replayRequests ++ [decision],
        outbox := before.outbox ++ [resolution] }

theorem rejected_decides {db after : WorkflowDb} {fresh : Nat → Uuid} {request : ProvisioningReplayRequested}
    {delivery : MessageDeliveryIdentity} {now : Instant}
    (rejected : admitReplayRequest host db fresh request delivery now = .ok (.rejected, after)) :
    OnlyDecided db after request delivery := by
  cases admitReplayRequest_cases rejected with
  | rejected generation new refused undecided => exact ⟨_, _, _, rfl, rfl, rfl, rfl, rfl, rfl⟩

/-! ### Every run -/

/-- A request to replay the creation of a sample instance. -/
def sampleReplay : ProvisioningReplayRequested :=
  { sampleCreate.toEnvelope with
    eventId := "00000000-0000-4000-8000-0000000000e9", correlationId := "00000000-0000-4000-8000-0000000000d9",
    causationId := "00000000-0000-4000-8000-0000000000f9",
    replayRequestId := "00000000-0000-4000-8000-0000000000f9", originalEventId := sampleCreate.eventId,
    requestedAt := 0 }

/-- A creation that exhausted its retries. -/
def exhaustedOnce : List StoreCall :=
  [.admitCommand (fun _ => "") sampleCreate ⟨"provisioning.commands.v1", 0, 0, 0, none⟩,
   .claimNext "worker" 30 .createInstance fun _ => false,
   .deadLetterWorkflow (fun _ => "")
     { operationId := sampleCreate.operationId, workerId := "worker", fencingToken := 1, attempts := 8,
       failureCode := "RETRY_EXHAUSTED", safeMessage := "The provider stayed unavailable.",
       lastErrorCategory := "transient", lastErrorCode := "unavailable", envelope := sampleCreate.toEnvelope,
       action := .createInstance, failure := ⟨.transient, "unavailable", "The provider stayed unavailable.", none⟩,
       compensationState := .notRequired }]

/-- And that was replayed. -/
def replayedOnce : List StoreCall :=
  exhaustedOnce ++
    [.admitReplayRequest (fun n => if n = 0 then "outbox" else "") sampleReplay
       ⟨"provisioning.commands.v1", 0, 1, 0, none⟩,
     .admitCommand (fun _ => "") (restoredCommand sampleCreate sampleReplay 0)
       ⟨"provisioning.commands.v1", 0, 2, 1, some "outbox"⟩]

end ControlPlane.Replays
