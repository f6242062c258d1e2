import ControlPlane.ControlSchema

/-!
The projection of workflow events onto the write tables and the documents.
Every function is one transaction; one that throws changes nothing.
-/
namespace ControlPlane.ProjectionStore
open ControlPlane.Tables ControlPlane.Domain ControlPlane.Commands ControlPlane.WorkflowSchema
open ControlPlane.ControlSchema

/-! ### Documents -/

/-- The documents that an event is applied to; both have to exist. -/
def lockDocuments (db : ControlDb) (instanceId operationId : Uuid) : Except String (InstanceView × OperationView) :=
  match find InstanceView.id instanceId db.instanceDocuments, find OperationView.id operationId db.operationDocuments with
  | some document, some operation => .ok (document, operation)
  | _, _ => .error "no result"

def writeDocuments (document : InstanceView) (operation : OperationView) (db : ControlDb) : ControlDb :=
  { db with
    instanceDocuments := update (fun d : InstanceView => d.id = document.id) (fun _ => document) db.instanceDocuments,
    operationDocuments := update (fun o : OperationView => o.id = operation.id) (fun _ => operation)
      db.operationDocuments }

def updateOperation (operationId : Uuid) (rewrite : OperationView → OperationView) (db : ControlDb) : ControlDb :=
  { db with operations := update (fun o : OperationView => o.id = operationId) rewrite db.operations }

/-- Inserts an inbox receipt, unless the event has one in this generation. -/
def insertReceipt (db : ControlDb) (consumerName : ProjectionConsumer) (eventId : Uuid)
    (delivery : MessageDeliveryIdentity) (now : Instant) : Except String (Option ControlDb) :=
  if db.eventReceipts.any fun r => r.consumerName = consumerName && r.eventId = eventId &&
      r.delivery.replayGeneration = delivery.replayGeneration then return none
  else do
    let receipts ← insert
      (fun r : EventReceipt => r.consumerName = consumerName && r.delivery.topic = delivery.topic &&
        r.delivery.partition = delivery.partition && r.delivery.offset = delivery.offset)
      ⟨consumerName, eventId, delivery, now⟩ db.eventReceipts
    return some { db with eventReceipts := receipts }

/-! ### Workflow events -/

/-- Applies a mid-workflow progress event: the instance moves to `provisioning`. -/
def applyProgress (db : ControlDb) (event : WorkflowEvent) (stage : WorkflowStage) (operationState : OperationState) :
    Except String ControlDb := do
  let (document, operation) ← lockDocuments db event.aggregateId event.operationId
  let progressed (o : OperationView) : OperationView :=
    { o with
      state := operationState, stage := .stage stage, progressPercent := progressPercent (.stage stage),
      startedAt := some (operation.startedAt.getD event.occurredAt), updatedAt := event.occurredAt }
  let db := updateOperation event.operationId progressed db
  let db := db.updateInstance event.aggregateId fun row => { row with lifecycleState := .provisioning }
  return writeDocuments { document with lifecycleState := .provisioning, updatedAt := event.occurredAt }
    (progressed operation) db

/-- The observed block that a terminal event carries. -/
def observedFromEvent (observed : Option ObservedState) (fallbackObservedAt : Instant) : ObservedState :=
  observed.getD ⟨true, .unknown, none, true, fallbackObservedAt⟩

/-- Settles the snapshot that a completed snapshot operation acted on. -/
def settleSnapshot (action : WorkflowAction) (operation : OperationView) (now : Instant) (db : ControlDb) : ControlDb :=
  if operation.targetType ≠ .snapshot then db
  else if action = .deleteSnapshot then
    { db with
      snapshots := db.snapshots.filter fun s => s.id ≠ operation.targetId,
      snapshotDocuments := db.snapshotDocuments.filter fun d => d.id ≠ operation.targetId }
  else
    match find SnapshotRow.id operation.targetId db.snapshots with
    | none => db
    | some row =>
      { db with
        snapshots := update (fun s : SnapshotRow => s.id = operation.targetId)
          (fun s => { s with state := .available, updatedAt := now }) db.snapshots,
        snapshotDocuments := update (fun d : SnapshotView => d.id = operation.targetId)
          (fun _ => ⟨row.id, row.instanceId, row.name, row.description, .available, row.createdAt, now⟩)
          db.snapshotDocuments }

/-- The columns of an instance that a completion sets. -/
def completedInstance (lifecycleState : LifecycleState) (observed : ObservedState) (now : Instant) (row : InstanceRow) :
    InstanceRow :=
  { row with
    lifecycleState := lifecycleState, activeOperationId := none, observed := some observed, drift := .none,
    lastReconciledAt := some now }

/-- Applies a successful terminal event, which releases the instance. -/
def applyCompleted (db : ControlDb) (event : WorkflowEvent) (action : WorkflowAction) (lifecycleState : LifecycleState)
    (observed : Option ObservedState) : Except String ControlDb := do
  let (document, operation) ← lockDocuments db event.aggregateId event.operationId
  let observed := observedFromEvent observed event.occurredAt
  match db.instance_ event.aggregateId with
  | none => throw "no result"
  | some row =>
    let succeeded (o : OperationView) : OperationView :=
      { o with
        state := .succeeded, stage := .completed, progressPercent := progressPercent .completed,
        updatedAt := event.occurredAt, completedAt := some event.occurredAt, errorCategory := none, errorCode := none,
        errorMessage := none, manualReviewRequired := false }
    let db := db.updateInstance event.aggregateId (completedInstance lifecycleState observed event.occurredAt)
    let db := updateOperation event.operationId succeeded db
    let db := settleSnapshot action operation event.occurredAt db
    -- The retention columns are read back from the row.
    return writeDocuments
      { document with
        lifecycleState := lifecycleState, observed := some observed, activeOperationId := none,
        drift := DriftClassification.none.text, lastReconciledAt := some event.occurredAt,
        retentionDeadline := row.retentionDeadline, purgeEligible := row.purgeEligible,
        updatedAt := event.occurredAt }
      (succeeded operation) db

/-- A failure that leaves a question for a human, and not a clean one. -/
def manual (failure : FailureValue) (compensationState : CompensationState) : Bool :=
  failure.category = .unknownOutcome || failure.category = .manualReview || compensationState = .notSafe

/-- The columns of an instance that a failure sets. -/
def failedInstance (failure : FailureValue) (compensationState : CompensationState) (row : InstanceRow) : InstanceRow :=
  { row with
    lifecycleState := if manual failure compensationState then .manualReview else .failed,
    activeOperationId := none }

/-- Applies a terminal failure. -/
def applyFailed (db : ControlDb) (event : WorkflowEvent) (failure : FailureValue)
    (compensationState : CompensationState) : Except String ControlDb := do
  let (document, operation) ← lockDocuments db event.aggregateId event.operationId
  let review := manual failure compensationState
  let failed (o : OperationView) : OperationView :=
    { o with
      state := if review then .manualReview else .failed, stage := if review then .manualReview else .failed,
      updatedAt := event.occurredAt, completedAt := some event.occurredAt, errorCategory := some failure.category,
      errorCode := some failure.code, errorMessage := some failure.safeMessage, manualReviewRequired := review }
  let db := db.updateInstance event.aggregateId (failedInstance failure compensationState)
  let db := updateOperation event.operationId failed db
  return writeDocuments
    { document with
      lifecycleState := if review then .manualReview else .failed, activeOperationId := none,
      updatedAt := event.occurredAt }
    (failed operation) db

def ReplayOutcome.requestStatus : ReplayOutcome → ReplayRequestStatus
  | .completed => .completed
  | .rejected => .rejected

/-- Applies the orchestrator's replay decision. -/
def applyReplayResolved (db : ControlDb) (replayRequestId originalEventId : Uuid) (outcome : ReplayOutcome)
    (resolvedAt : Instant) : Except String ControlDb :=
  if db.replayRequests.any fun r => r.id = replayRequestId && r.originalEventId = originalEventId then
    let db := { db with
      replayRequests := update
        (fun r : ControlReplayRequest => r.id = replayRequestId ∧ r.originalEventId = originalEventId)
        (fun r => { r with status := ReplayOutcome.requestStatus outcome }) db.replayRequests }
    if outcome ≠ .completed then .ok db
    else
      match find DeadLetterView.eventId originalEventId db.deadLetterDocuments with
      | none => .error "no result"
      | some _ =>
        .ok { db with
          deadLetterDocuments := update (fun d : DeadLetterView => d.eventId = originalEventId)
            (fun d => { d with replayAllowed := false, lastReplayAt := some resolvedAt }) db.deadLetterDocuments }
  else .error "Replay resolution does not match an owned replay request."

/-- Dispatches a workflow event inside its receipt transaction. -/
def applyEvent (db : ControlDb) (event : WorkflowEvent) : Except String ControlDb :=
  match event.data with
  | .progressed stage _ operationState _ _ => applyProgress db event stage operationState
  | .completed action lifecycleState _ _ observed => applyCompleted db event action lifecycleState observed
  | .failed _ failure compensationState => applyFailed db event failure compensationState
  | .replayResolved replayRequestId originalEventId outcome _ resolvedAt =>
    applyReplayResolved db replayRequestId originalEventId outcome resolvedAt

/-- Applies one workflow event and its inbox receipt. The answer tells whether
    it was applied or a duplicate. -/
def applyWorkflowEvent (db : ControlDb) (event : WorkflowEvent) (delivery : MessageDeliveryIdentity) (now : Instant) :
    Except String (Bool × ControlDb) := do
  match ← insertReceipt db .events event.eventId delivery now with
  | none => return (false, db)
  | some db => return (true, ← applyEvent db event)

/-- Projects governed dead-letter evidence for the administrators. -/
def applyDeadLetterEvent (db : ControlDb) (event : ProvisioningDeadLettered) (delivery : MessageDeliveryIdentity)
    (now : Instant) : Except String (Bool × ControlDb) := do
  match ← insertReceipt db .deadLetters event.eventId delivery now with
  | none => return (false, db)
  | some db =>
    let document : DeadLetterView :=
      { eventId := event.originalEventId, schemaName := event.originalSchemaName,
        schemaVersion := event.originalSchemaVersion, aggregateId := event.aggregateId, projectId := event.projectId,
        operationId := event.operationId, category := event.failure.category, safeMessage := event.failure.safeMessage,
        attempts := event.attempts, deadLetteredAt := event.deadLetteredAt, replayAllowed := event.replayAllowed,
        lastReplayAt := none }
    return (true, { db with
      deadLetterDocuments :=
        if db.deadLetterDocuments.any fun d => d.eventId = event.originalEventId then
          update (fun d : DeadLetterView => d.eventId = event.originalEventId) (fun _ => document) db.deadLetterDocuments
        else db.deadLetterDocuments ++ [document] })

/-- Projects a reconciliation finding onto the document of its instance. -/
def applyDriftEvent (db : ControlDb) (event : Envelope) (classification : Option String)
    (delivery : MessageDeliveryIdentity) (now : Instant) : Except String (Bool × ControlDb) := do
  match ← insertReceipt db .reconciliation event.eventId delivery now with
  | none => return (false, db)
  | some db =>
    match classification.filter (· ≠ "") with
    | none => return (true, db)
    | some drift =>
      -- A finding about an instance without a document is not an error.
      return (true, { db with
        instanceDocuments := update (fun d : InstanceView => d.id = event.aggregateId)
          (fun d => { d with drift := drift, lastReconciledAt := some event.occurredAt, updatedAt := event.occurredAt })
          db.instanceDocuments })

/-! ### Quarantine -/

structure QuarantineInput where
  delivery : MessageDeliveryIdentity
  eventId : Option Uuid
  payloadHash : String
  failureCode : String
  safeMessage : String

/-- The consumer in whose name a record is quarantined. -/
def quarantineConsumer (delivery : MessageDeliveryIdentity) : ProjectionConsumer :=
  if delivery.topic = "provisioning.dlq.v1" then .deadLetters else .events

/-- Inserts the poison record of a delivery, unless it has one. -/
def insertPoison (db : ControlDb) (consumerName : ProjectionConsumer) (input : QuarantineInput) (now : Instant) :
    Option ControlDb :=
  if db.poisonRecords.any fun r => r.consumerName = consumerName && r.delivery.topic = input.delivery.topic &&
      r.delivery.partition = input.delivery.partition && r.delivery.offset = input.delivery.offset then none
  else some { db with
    poisonRecords := db.poisonRecords ++
      [⟨⟨input.delivery, input.payloadHash, input.failureCode, input.safeMessage, now⟩, consumerName⟩] }

/-- Quarantines input that was refused, without its raw body. The answer tells
    whether the record was new. -/
def quarantineRecord (db : ControlDb) (input : QuarantineInput) (now : Instant) : Except String (Bool × ControlDb) := do
  let consumerName := quarantineConsumer input.delivery
  let inserted := insertPoison db consumerName input now
  let db := inserted.getD db
  match input.eventId.filter (· ≠ "") with
  | none => return (inserted.isSome, db)
  | some eventId =>
    let received ← insertReceipt db consumerName eventId input.delivery now
    return (inserted.isSome, received.getD db)

end ControlPlane.ProjectionStore
