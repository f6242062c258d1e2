import ControlPlane.EventValidation
import ControlPlane.WorkflowSchema
import ControlPlane.Tables

/-!
The workflow store of the orchestrator: the inbox of commands, the leases with
their fencing tokens, the stage writes, the governed dead letters and the
outbox. Every function is one transaction; one that throws changes nothing. The
parameter `fresh` lists the random identifiers that a transaction draws.
-/
namespace ControlPlane.WorkflowStore
open ControlPlane.Tables ControlPlane.Domain ControlPlane.Commands ControlPlane.EventValidation
open ControlPlane.WorkflowSchema

/-- Whether two deliveries are of one broker record. -/
def sameRecord (a b : MessageDeliveryIdentity) : Bool :=
  a.topic = b.topic && a.partition = b.partition && a.offset = b.offset

section
variable (host : Host)

/-! ### Shared statements -/

def writeWorkflowOutbox (db : WorkflowDb) (outboxId : Uuid) (message : WorkflowMessage)
    (replayGeneration : Nat) (occurredAt : Instant) : WorkflowDb :=
  { db with outbox := db.outbox ++ [⟨outboxId, message, replayGeneration, occurredAt⟩] }

def writeEvent (db : WorkflowDb) (outboxId : Uuid) (event : WorkflowEvent) : WorkflowDb :=
  writeWorkflowOutbox db outboxId (.event event) 0 event.occurredAt

/-- Inserts one physical command receipt, unless its event has one in this
    generation. The coordinates of a broker record are unique. -/
def insertCommandReceipt (db : WorkflowDb) (message : CommandMessage) (delivery : MessageDeliveryIdentity)
    (now : Instant) (completedAt : Option Instant) : Except String (Option WorkflowDb) :=
  match db.receipt message.envelope.eventId delivery.replayGeneration with
  | some _ => return none
  | none => do
    let receipts ← insert (fun r : CommandReceipt => sameRecord r.delivery delivery)
      ⟨message.envelope.eventId, delivery.replayGeneration, delivery, host.canonicalSha256 message, now, completedAt⟩
      db.commandReceipts
    return some { db with commandReceipts := receipts }

def completeReceipt (db : WorkflowDb) (row : WorkflowRow) (now : Instant) : WorkflowDb :=
  { db with
    commandReceipts := update
      (fun r : CommandReceipt => r.eventId = row.eventId ∧ r.replayGeneration = row.replayGeneration)
      (fun r => { r with completedAt := some now }) db.commandReceipts }

/-- Expires a worker's lease and keeps its token. -/
def releaseLease (db : WorkflowDb) (instanceId : Uuid) (fence : Fence) (now : Instant) : WorkflowDb :=
  { db with
    instanceLeases := update
      (fun l : LeaseRow =>
        l.instanceId = instanceId ∧ l.ownerId = fence.workerId ∧ l.fencingToken = fence.fencingToken)
      (fun l => { l with leasedUntil := now }) db.instanceLeases }

def updateWorkflow (db : WorkflowDb) (operationId : Uuid) (rewrite : WorkflowRow → WorkflowRow) :
    WorkflowDb :=
  { db with workflows := update (fun w : WorkflowRow => w.operationId = operationId) rewrite db.workflows }

/-- Proves that a worker still holds a valid, current lease before any write. -/
def assertLease (db : WorkflowDb) (fence : Fence) (now : Instant) : Except String WorkflowRow :=
  match db.workflow fence.operationId with
  | none => .error "Workflow fencing token is stale."
  | some row =>
    if row.fencingToken ≠ fence.fencingToken then .error "Workflow fencing token is stale." else
      match db.lease row.instanceId with
      | none => .error "Workflow lease is missing, expired, or fenced."
      | some lease =>
        if lease.ownerId ≠ fence.workerId ∨ lease.fencingToken ≠ fence.fencingToken ∨ lease.leasedUntil ≤ now then
          .error "Workflow lease is missing, expired, or fenced."
        else .ok row

/-! ### Dead letters -/

structure DeadLetterNote where
  original : CommandMessage
  failureCategory : ErrorCategory
  failureCode : String
  safeMessage : String
  attempts : Nat
  replayAllowed : Bool
  replayGeneration : Nat

/-- Writes or reopens dead-letter evidence and publishes its own fact. -/
def writeDeadLetter (db : WorkflowDb) (deadLetterEventId outboxId : Uuid) (note : DeadLetterNote)
    (now : Instant) : WorkflowDb :=
  let original := note.original.envelope
  let row : DeadLetterRow :=
    { originalEventId := original.eventId, deadLetterEventId := deadLetterEventId,
      originalSchemaName := note.original.schemaName, originalSchemaVersion := original.schemaVersion,
      aggregateId := original.aggregateId, projectId := original.projectId, operationId := original.operationId,
      originalPayload := note.original, failureCategory := note.failureCategory, failureCode := note.failureCode,
      safeMessage := note.safeMessage, attempts := note.attempts, replayAllowed := note.replayAllowed,
      replayGeneration := note.replayGeneration, status := .open_, deadLetteredAt := now, lastReplayAt := none }
  let deadLetters :=
    match find DeadLetterRow.originalEventId original.eventId db.deadLetters with
    | none => db.deadLetters ++ [row]
    | some _ =>
      -- The conflicting row keeps its identity and its original payload.
      update (fun d : DeadLetterRow => d.originalEventId = original.eventId)
        (fun d => { d with
          deadLetterEventId := deadLetterEventId, failureCategory := note.failureCategory,
          failureCode := note.failureCode, safeMessage := note.safeMessage, attempts := note.attempts,
          replayAllowed := note.replayAllowed, replayGeneration := note.replayGeneration, status := .open_,
          deadLetteredAt := now }) db.deadLetters
  let event : ProvisioningDeadLettered :=
    { eventId := deadLetterEventId, schemaVersion := 1, aggregateType := "instance",
      aggregateId := original.aggregateId, projectId := original.projectId, operationId := original.operationId,
      correlationId := original.correlationId, causationId := original.eventId, occurredAt := now,
      partitionKey := original.partitionKey, originalEventId := original.eventId,
      originalSchemaName := note.original.schemaName, originalSchemaVersion := original.schemaVersion,
      failure := { category := note.failureCategory, code := note.failureCode, safeMessage := note.safeMessage },
      attempts := note.attempts, replayAllowed := note.replayAllowed, deadLetteredAt := now }
  writeWorkflowOutbox { db with deadLetters := deadLetters } outboxId (.deadLettered event) 0 now

/-- Stores the evidence of a command that its consumer gave up on. The answer
    tells whether it was dead-lettered or a duplicate. -/
def deadLetterCommand (db : WorkflowDb) (fresh : Nat → Uuid) (input : DeadLetterCommandInput) (now : Instant) :
    Except String (Bool × WorkflowDb) := do
  match ← insertCommandReceipt host db input.message input.delivery now (some now) with
  | none => return (false, db)
  | some db =>
    return (true, writeDeadLetter db (fresh 0) (fresh 1)
      { original := input.message, failureCategory := .permanent, failureCode := input.failureCode,
        safeMessage := input.safeMessage, attempts := input.attempts, replayAllowed := input.replayAllowed,
        replayGeneration := input.delivery.replayGeneration } now)

/-! ### Admission -/

/-- The workflow row of an admitted command. -/
def newWorkflow (command : LifecycleCommand) (replayGeneration : Nat) (providerResourceId : Option String)
    (now : Instant) : WorkflowRow :=
  { operationId := command.operationId, eventId := command.eventId, projectId := command.projectId,
    instanceId := command.aggregateId, action := command.data.action, command := command, status := .running,
    stage := .stage .accepted, attempt := 0, stageAttempt := 0, retryStartedAt := none,
    replayGeneration := replayGeneration, fencingToken := 0, providerResourceId := providerResourceId,
    providerTaskReference := none, nextAttemptAt := now, failure := none, lastErrorCategory := none,
    lastErrorCode := none, createdAt := now, completedAt := none }

/-- The resource id of the earliest workflow of an instance that has one. -/
def inheritedResource (db : WorkflowDb) (command : LifecycleCommand) : Option String :=
  if command.data.action = .createInstance then none else
    let rows := db.workflows.filter fun w => w.instanceId = command.aggregateId && w.providerResourceId.isSome
    let first := rows.foldl (fun best w => match best with
      | none => some w
      | some b => if w.createdAt < b.createdAt then some w else some b) none
    first.bind WorkflowRow.providerResourceId

/-- A workflow row, unless its operation or its event has one. -/
def insertWorkflow (db : WorkflowDb) (row : WorkflowRow) : Except String WorkflowDb := do
  let workflows ← insert (fun w : WorkflowRow => w.operationId = row.operationId || w.eventId = row.eventId) row
    db.workflows
  return { db with workflows := workflows }

/-- Inserts the receipt of a command and its first workflow as one admission. -/
def admitOriginalDelivery (db : WorkflowDb) (command : LifecycleCommand) (delivery : MessageDeliveryIdentity)
    (now : Instant) : Except String (CommandAdmission × WorkflowDb) := do
  match db.workflow command.operationId with
  | some _ =>
    let received ← insertCommandReceipt host db (.lifecycle command) delivery now (some now)
    return (.duplicate, received.getD db)
  | none =>
    match ← insertCommandReceipt host db (.lifecycle command) delivery now none with
    | none => return (.duplicate, db)
    | some db =>
      let db ← insertWorkflow db
        (newWorkflow command delivery.replayGeneration (inheritedResource db command) now)
      return (.accepted, db)

/-- Persists a rejected physical replay by its hash and coordinates. -/
def rejectReplayCommand (db : WorkflowDb) (delivery : MessageDeliveryIdentity) (payloadHash : String)
    (failureCode : CommandRejectionCode) (now : Instant) : WorkflowDb :=
  if db.poisonRecords.any fun p => sameRecord p.delivery delivery then db else
    { db with poisonRecords := db.poisonRecords ++
      [⟨delivery, payloadHash, failureCode.text, replayRejectionMessage failureCode, now⟩] }

/-- Publishes what became of a replay request. -/
def writeReplayResolution (db : WorkflowDb) (eventId outboxId : Uuid) (request : ProvisioningReplayRequested)
    (outcome : ReplayOutcome) (replayGeneration : Nat) (resolvedAt : Instant) : WorkflowDb :=
  writeEvent db outboxId
    { eventId := eventId, schemaVersion := 1, aggregateType := "instance", aggregateId := request.aggregateId,
      projectId := request.projectId, operationId := request.operationId, correlationId := request.correlationId,
      causationId := request.eventId, occurredAt := resolvedAt, partitionKey := request.partitionKey,
      data := .replayResolved request.replayRequestId request.originalEventId outcome replayGeneration resolvedAt }

/-- A failed workflow as an authorized replay reopens it. -/
def reopenedWorkflow (command : LifecycleCommand) (replayGeneration : Nat) (now : Instant) (row : WorkflowRow) :
    WorkflowRow :=
  { row with
    command := command, status := .running, stage := .stage .accepted, attempt := 0, stageAttempt := 0,
    retryStartedAt := none, replayGeneration := replayGeneration, providerResourceId := none,
    providerTaskReference := none, nextAttemptAt := now, failure := none, lastErrorCategory := none,
    lastErrorCode := none, completedAt := none }

/-- The authorization of a replay, if the delivery matches it in every respect. -/
def authorizationOf (db : WorkflowDb) (command : LifecycleCommand) (delivery : MessageDeliveryIdentity)
    (payloadHash : String) : Option ReplayRequestRow :=
  (db.replayRequests.find? fun r =>
      r.originalEventId = command.eventId && r.replayGeneration = some delivery.replayGeneration).filter fun r =>
    r.status = .authorized && r.authorizedCommandHash = some payloadHash && r.authorizedOutboxId.isSome &&
      r.authorizedOutboxId = delivery.outboxId

/-- Whether a row may not be reopened by this replay. -/
def replayConflict (command : LifecycleCommand) (delivery : MessageDeliveryIdentity) (row : WorkflowRow) : Bool :=
  row.eventId ≠ command.eventId || row.status ≠ .failed || delivery.replayGeneration ≠ row.replayGeneration + 1

/-- The tables after an authorized replay was admitted. -/
def consumeAuthorization (db : WorkflowDb) (fresh : Nat → Uuid) (authorization : ReplayRequestRow)
    (command : LifecycleCommand) (delivery : MessageDeliveryIdentity) (now : Instant) : WorkflowDb :=
  let db := { db with
    deadLetters := update
      (fun d : DeadLetterRow => d.originalEventId = command.eventId ∧ d.status = .replayRequested ∧
        d.replayGeneration = delivery.replayGeneration)
      (fun d => { d with status := .replayed, lastReplayAt := some now }) db.deadLetters,
    replayRequests := update
      (fun r : ReplayRequestRow =>
        r.replayRequestId = authorization.replayRequestId ∧ r.status = .authorized)
      (fun r => { r with status := .completed, completedAt := some now }) db.replayRequests }
  writeReplayResolution db (fresh 0) (fresh 1) authorization.requestPayload .completed delivery.replayGeneration now

/-- Reopens a failed workflow after its authorized command came back. -/
def admitAuthorizedReplayCommand (db : WorkflowDb) (fresh : Nat → Uuid) (command : LifecycleCommand)
    (delivery : MessageDeliveryIdentity) (now : Instant) : Except String (CommandAdmission × WorkflowDb) :=
  let payloadHash := host.canonicalSha256 (.lifecycle command)
  let reject (failureCode : CommandRejectionCode) : CommandAdmission × WorkflowDb :=
    (.rejected failureCode, rejectReplayCommand db delivery payloadHash failureCode now)
  match db.receipt command.eventId delivery.replayGeneration with
  | some receipt =>
    return if receipt.payloadHash = payloadHash then (.duplicate, db) else reject .replayCommandIdentityConflict
  | none =>
    match authorizationOf db command delivery payloadHash with
    | none => return reject .replayCommandUnauthorized
    | some authorization =>
      if !isProvisioningReplayRequested authorization.requestPayload then
        throw "Stored replay authorization payload is invalid."
      else
        match db.workflow command.operationId with
        | some row => do
          if replayConflict command delivery row then return reject .replayCommandStateConflict else
            match ← insertCommandReceipt host db (.lifecycle command) delivery now none with
            | none => return (.duplicate, db)
            | some db =>
              let db := updateWorkflow db command.operationId
                (reopenedWorkflow command delivery.replayGeneration now)
              return (.accepted, consumeAuthorization db fresh authorization command delivery now)
        | none => do
          -- A command that was dead-lettered before its admission starts its workflow here.
          match ← insertCommandReceipt host db (.lifecycle command) delivery now none with
          | none => return (.duplicate, db)
          | some db =>
            let db ← insertWorkflow db (newWorkflow command delivery.replayGeneration none now)
            return (.accepted, consumeAuthorization db fresh authorization command delivery now)

/-- Records a delivery and creates a resumable workflow. -/
def admitCommand (db : WorkflowDb) (fresh : Nat → Uuid) (command : LifecycleCommand)
    (delivery : MessageDeliveryIdentity) (now : Instant) : Except String (CommandAdmission × WorkflowDb) :=
  if delivery.replayGeneration = 0 then admitOriginalDelivery host db command delivery now
  else admitAuthorizedReplayCommand host db fresh command delivery now

/-- The command of an open dead letter that may be replayed. -/
def replayableCommand (db : WorkflowDb) (originalEventId : Uuid) : Option (DeadLetterRow × LifecycleCommand) :=
  (find DeadLetterRow.originalEventId originalEventId db.deadLetters).bind fun deadLetter =>
    if deadLetter.replayAllowed && deadLetter.status = .open_ then
      (workflowActionForSchema deadLetter.originalSchemaName).bind fun action =>
        (lifecycleCommand deadLetter.originalPayload action).map fun original => (deadLetter, original)
    else none

/-- Keeps a replay decision, under the unique constraints of its table. -/
def persistReplayRequest (db : WorkflowDb) (row : ReplayRequestRow) : Except String WorkflowDb := do
  let rows ← insert
    (fun r : ReplayRequestRow => r.replayRequestId = row.replayRequestId || r.requestEventId = row.requestEventId ||
      (row.replayGeneration.isSome && r.originalEventId = row.originalEventId &&
        r.replayGeneration = row.replayGeneration))
    row db.replayRequests
  return { db with replayRequests := rows }

/-- The quarantined command as a replay request restores it. -/
def restoredCommand (original : LifecycleCommand) (request : ProvisioningReplayRequested) (now : Instant) :
    LifecycleCommand :=
  { original with correlationId := request.correlationId, causationId := request.eventId, occurredAt := now }

/-- Authorizes a replay and publishes the restored command. -/
def admitReplayRequest (db : WorkflowDb) (fresh : Nat → Uuid) (request : ProvisioningReplayRequested)
    (delivery : MessageDeliveryIdentity) (now : Instant) : Except String (ReplayAdmission × WorkflowDb) := do
  match ← insertCommandReceipt host db (.replayRequest request) delivery now (some now) with
  | none => return (.duplicate, db)
  | some db =>
    match replayableCommand db request.originalEventId with
    | none =>
      let generation :=
        ((find DeadLetterRow.originalEventId request.originalEventId db.deadLetters).map
          DeadLetterRow.replayGeneration).getD 0
      let db ← persistReplayRequest db
        { replayRequestId := request.replayRequestId, requestEventId := request.eventId,
          originalEventId := request.originalEventId, replayGeneration := none, status := .rejected,
          requestPayload := request, authorizedCommandHash := none, authorizedOutboxId := none,
          requestedAt := request.occurredAt, decidedAt := now, completedAt := some now }
      return (.rejected, writeReplayResolution db (fresh 0) (fresh 1) request .rejected generation now)
    | some (deadLetter, original) =>
      let replayGeneration := deadLetter.replayGeneration + 1
      let replayed := restoredCommand original request now
      let authorizedOutboxId := fresh 0
      let db ← persistReplayRequest db
        { replayRequestId := request.replayRequestId, requestEventId := request.eventId,
          originalEventId := request.originalEventId, replayGeneration := some replayGeneration,
          status := .authorized, requestPayload := request,
          authorizedCommandHash := some (host.canonicalSha256 (.lifecycle replayed)),
          authorizedOutboxId := some authorizedOutboxId, requestedAt := request.occurredAt, decidedAt := now,
          completedAt := none }
      let db := writeWorkflowOutbox db authorizedOutboxId (.command replayed) replayGeneration now
      return (.accepted, { db with
        deadLetters := update
          (fun d : DeadLetterRow => d.originalEventId = original.eventId ∧ d.status = .open_)
          (fun d => { d with
            replayGeneration := replayGeneration, status := .replayRequested, lastReplayAt := some now })
          db.deadLetters })

/-- Quarantines a record that could not be decoded, by its hash and coordinates. -/
def quarantineRecord (db : WorkflowDb) (delivery : MessageDeliveryIdentity)
    (payloadHash failureCode safeMessage : String) (now : Instant) : Bool × WorkflowDb :=
  if db.poisonRecords.any fun p => sameRecord p.delivery delivery then (false, db) else
    (true, { db with
      poisonRecords := db.poisonRecords ++ [⟨delivery, payloadHash, failureCode, safeMessage, now⟩] })

end

/-! ### Claims -/

/-- Whether a workflow is due and its instance is not leased to someone else. -/
def ready (db : WorkflowDb) (workerId : String) (action : WorkflowAction) (now : Instant)
    (locked : Uuid → Bool) (row : WorkflowRow) : Bool :=
  row.action = action && decide row.live && row.nextAttemptAt ≤ now && !locked row.operationId &&
    match db.lease row.instanceId with
    | none => true
    | some lease => lease.leasedUntil ≤ now || lease.ownerId = workerId

def earlier (a b : WorkflowRow) : Bool :=
  a.nextAttemptAt < b.nextAttemptAt || (a.nextAttemptAt = b.nextAttemptAt && a.createdAt < b.createdAt)

/-- The workflow due first, past the rows that other transactions have locked. -/
def readyWorkflow (db : WorkflowDb) (workerId : String) (action : WorkflowAction) (now : Instant)
    (locked : Uuid → Bool) : Option WorkflowRow :=
  (db.workflows.filter (ready db workerId action now locked)).foldl (fun best w => match best with
    | none => some w
    | some b => if earlier w b then some w else some b) none

/-- Takes the lease of an instance, unless a live one belongs to someone else. -/
def takeLease (db : WorkflowDb) (instanceId : Uuid) (workerId : String) (leasedUntil now : Instant) :
    Option (Nat × WorkflowDb) :=
  match db.lease instanceId with
  | none => some (1, { db with instanceLeases := db.instanceLeases ++ [⟨instanceId, workerId, 1, leasedUntil⟩] })
  | some lease =>
    if lease.leasedUntil ≤ now ∨ lease.ownerId = workerId then
      some (lease.fencingToken + 1, { db with
        instanceLeases := update (fun l : LeaseRow => l.instanceId = instanceId)
          (fun l => { l with
            ownerId := workerId, fencingToken := l.fencingToken + 1, leasedUntil := leasedUntil })
          db.instanceLeases })
    else none

/-- A claimed workflow row. -/
def claimedRow (fencingToken : Nat) (row : WorkflowRow) : WorkflowRow :=
  { row with status := .running, attempt := row.attempt + 1, fencingToken := fencingToken }

/-- What the worker is handed. An empty identifier counts as none. -/
def claimedWorkflow (row : WorkflowRow) (command : LifecycleCommand) (stage : WorkflowStage) : ClaimedWorkflow :=
  { action := row.action, command := command, stage := stage, attempt := row.attempt,
    stageAttempt := row.stageAttempt, retryStartedAt := row.retryStartedAt, fencingToken := row.fencingToken,
    providerResourceId := row.providerResourceId.filter (· ≠ ""),
    providerTaskReference := row.providerTaskReference.filter (· ≠ "") }

/-- Claims the next ready workflow for `leaseSeconds`. -/
def claimNext (db : WorkflowDb) (workerId : String) (leaseSeconds : Nat) (action : WorkflowAction)
    (locked : Uuid → Bool) (now : Instant) : Except String (Option (ClaimedWorkflow × WorkflowDb)) :=
  if workerId = "" ∨ leaseSeconds < 5 ∨ leaseSeconds > 300 then
    throw "A worker ID and a lease between 5 and 300 seconds are required."
  else
    match readyWorkflow db workerId action now locked with
    | none => return none
    | some workflow =>
      match takeLease db workflow.instanceId workerId (now + leaseSeconds * 1000) now with
      | none => return none
      | some (fencingToken, db) =>
        let claimed := claimedRow fencingToken workflow
        match lifecycleCommand (.lifecycle claimed.command) claimed.action, claimed.stage with
        | none, _ => throw "The persisted workflow command is not supported by this deployment."
        | some _, .completed | some _, .failed | some _, .manualReview => throw "Unsupported workflow stage"
        | some command, .stage stage =>
          return some (claimedWorkflow claimed command stage,
            updateWorkflow db workflow.operationId (claimedRow fencingToken))

/-! ### Stage writes -/

def checkpointRow (input : CheckpointInput) (now : Instant) (row : WorkflowRow) : WorkflowRow :=
  { row with
    -- A delay that the caller supplies parks the row until that moment.
    status := if input.nextAttemptAt.isSome then .retryWait else .running,
    stage := .stage input.stage,
    providerResourceId := (input.providerResourceId.filter (· ≠ "")).or row.providerResourceId,
    providerTaskReference := input.providerTaskReference.getD row.providerTaskReference,
    nextAttemptAt := input.nextAttemptAt.getD now,
    stageAttempt := (input.retry.map RetryNote.attempt).getD 0,
    retryStartedAt := input.retry.map RetryNote.startedAt,
    lastErrorCategory := input.retry.map RetryNote.errorCategory,
    lastErrorCode := input.retry.map RetryNote.errorCode }

/-- Advances the stage, records the event that explains it, and releases the lease. -/
def checkpoint (db : WorkflowDb) (fresh : Nat → Uuid) (input : CheckpointInput) (now : Instant) :
    Except String WorkflowDb := do
  let workflow ← assertLease db input.toFence now
  let db := updateWorkflow db input.operationId (checkpointRow input now)
  let db := writeEvent db (fresh 0) input.event
  return releaseLease db workflow.instanceId input.toFence now

def completedRow (input : CompleteInput) (now : Instant) (row : WorkflowRow) : WorkflowRow :=
  { row with
    status := input.status.status, stage := input.status.stage, nextAttemptAt := now,
    failure := match input.event.data with
      | .failed _ failure _ => some failure
      | _ => none,
    completedAt := some now }

/-- Ends the workflow and completes its receipt. -/
def complete (db : WorkflowDb) (fresh : Nat → Uuid) (input : CompleteInput) (now : Instant) :
    Except String WorkflowDb := do
  let workflow ← assertLease db input.toFence now
  let db := updateWorkflow db input.operationId (completedRow input now)
  let db := completeReceipt db workflow now
  let db := writeEvent db (fresh 0) input.event
  return releaseLease db workflow.instanceId input.toFence now

def deadLetteredRow (input : DeadLetterWorkflowInput) (now : Instant) (row : WorkflowRow) : WorkflowRow :=
  { row with
    status := .failed, stage := .failed, stageAttempt := input.attempts, nextAttemptAt := now,
    failure := some input.failure, lastErrorCategory := some input.lastErrorCategory,
    lastErrorCode := some input.lastErrorCode, completedAt := some now }

/-- The evidence of an exhausted workflow. -/
def exhaustedNote (input : DeadLetterWorkflowInput) (command : LifecycleCommand) (replayGeneration : Nat) :
    DeadLetterNote :=
  { original := .lifecycle command, failureCategory := input.failure.category, failureCode := input.failureCode,
    safeMessage := input.safeMessage, attempts := input.attempts, replayAllowed := true,
    replayGeneration := replayGeneration }

/-- Ends an exhausted safe retry with its operation fact and its dead letter. -/
def deadLetterWorkflow (db : WorkflowDb) (fresh : Nat → Uuid) (input : DeadLetterWorkflowInput) (now : Instant) :
    Except String WorkflowDb := do
  let workflow ← assertLease db input.toFence now
  match lifecycleCommand (.lifecycle workflow.command) workflow.action with
  | none => throw "Cannot dead-letter an invalid persisted workflow command."
  | some command =>
    let db := updateWorkflow db input.operationId (deadLetteredRow input now)
    let db := completeReceipt db workflow now
    let db := writeEvent db (fresh 0) input.event
    let db := writeDeadLetter db (fresh 1) (fresh 2) (exhaustedNote input command workflow.replayGeneration) now
    return releaseLease db workflow.instanceId input.toFence now

end ControlPlane.WorkflowStore
