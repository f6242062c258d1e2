import ControlPlane.Commands
import ControlPlane.Tables

/-!
The rows of the workflow schema, and what the operations of the workflow store
take and answer.
-/
namespace ControlPlane.WorkflowSchema
open ControlPlane.Tables ControlPlane.Domain ControlPlane.Commands

/-! ### Rows -/

inductive WorkflowStatus
  | running
  | retryWait
  | succeeded
  | failed
  | manualReview
  deriving DecidableEq, Repr

/-- A row of `workflow.workflows`. -/
structure WorkflowRow where
  operationId : Uuid
  eventId : Uuid
  projectId : Uuid
  instanceId : Uuid
  action : WorkflowAction
  command : LifecycleCommand
  status : WorkflowStatus
  stage : PersistedStage
  attempt : Nat
  stageAttempt : Nat
  retryStartedAt : Option Instant
  replayGeneration : Nat
  fencingToken : Nat
  providerResourceId : Option String
  providerTaskReference : Option String
  nextAttemptAt : Instant
  failure : Option FailureValue
  lastErrorCategory : Option String
  lastErrorCode : Option String
  createdAt : Instant
  completedAt : Option Instant
  deriving DecidableEq, Repr

/-- A row of `workflow.instance_leases`. -/
structure LeaseRow where
  instanceId : Uuid
  ownerId : String
  fencingToken : Nat
  leasedUntil : Instant
  deriving DecidableEq, Repr

/-- A row of `workflow.command_receipts`. -/
structure CommandReceipt where
  eventId : Uuid
  replayGeneration : Nat
  delivery : MessageDeliveryIdentity
  payloadHash : String
  receivedAt : Instant
  completedAt : Option Instant
  deriving DecidableEq, Repr

inductive DeadLetterStatus
  | open_
  | replayRequested
  | replayed
  | closed
  deriving DecidableEq, Repr

/-- A row of `workflow.dead_letters`. -/
structure DeadLetterRow where
  originalEventId : Uuid
  deadLetterEventId : Uuid
  originalSchemaName : String
  originalSchemaVersion : Nat
  aggregateId : Uuid
  projectId : Uuid
  operationId : Uuid
  originalPayload : CommandMessage
  failureCategory : ErrorCategory
  failureCode : String
  safeMessage : String
  attempts : Nat
  replayAllowed : Bool
  replayGeneration : Nat
  status : DeadLetterStatus
  deadLetteredAt : Instant
  lastReplayAt : Option Instant
  deriving DecidableEq, Repr

inductive ReplayStatus
  | authorized
  | completed
  | rejected
  deriving DecidableEq, Repr

/-- A row of `workflow.replay_requests`. -/
structure ReplayRequestRow where
  replayRequestId : Uuid
  requestEventId : Uuid
  originalEventId : Uuid
  replayGeneration : Option Nat
  status : ReplayStatus
  requestPayload : ProvisioningReplayRequested
  authorizedCommandHash : Option String
  authorizedOutboxId : Option Uuid
  requestedAt : Instant
  decidedAt : Instant
  completedAt : Option Instant
  deriving DecidableEq, Repr

/-- A row of `workflow.poison_records`. -/
structure PoisonRecord where
  delivery : MessageDeliveryIdentity
  payloadHash : String
  failureCode : String
  safeMessage : String
  quarantinedAt : Instant
  deriving DecidableEq, Repr

/-- What the orchestrator publishes, by topic: commands, events and dead letters. -/
inductive WorkflowMessage
  | command (command : LifecycleCommand)
  | event (event : WorkflowEvent)
  | deadLettered (event : ProvisioningDeadLettered)
  deriving DecidableEq, Repr

/-- A row of an outbox. -/
structure OutboxRow (Message : Type) where
  outboxId : Uuid
  message : Message
  replayGeneration : Nat
  occurredAt : Instant
  deriving DecidableEq, Repr

/-- The tables of the workflow schema. -/
structure WorkflowDb where
  workflows : List WorkflowRow := []
  instanceLeases : List LeaseRow := []
  commandReceipts : List CommandReceipt := []
  deadLetters : List DeadLetterRow := []
  replayRequests : List ReplayRequestRow := []
  poisonRecords : List PoisonRecord := []
  outbox : List (OutboxRow WorkflowMessage) := []

/-! ### Rows by their key -/

def WorkflowDb.receipt (db : WorkflowDb) (eventId : Uuid) (replayGeneration : Nat) : Option CommandReceipt :=
  find (fun r : CommandReceipt => (r.eventId, r.replayGeneration)) (eventId, replayGeneration) db.commandReceipts

def WorkflowDb.workflow (db : WorkflowDb) (operationId : Uuid) : Option WorkflowRow :=
  find WorkflowRow.operationId operationId db.workflows

def WorkflowDb.lease (db : WorkflowDb) (instanceId : Uuid) : Option LeaseRow :=
  find LeaseRow.instanceId instanceId db.instanceLeases

/-- A workflow that takes part in the exclusion of an instance. -/
def WorkflowRow.live (row : WorkflowRow) : Prop := row.status = .running ∨ row.status = .retryWait

instance (row : WorkflowRow) : Decidable row.live := inferInstanceAs (Decidable (_ ∨ _))

/-! ### Inputs and answers -/

inductive CommandRejectionCode
  | replayCommandIdentityConflict
  | replayCommandUnauthorized
  | replayCommandStateConflict
  deriving DecidableEq, Repr

def CommandRejectionCode.text : CommandRejectionCode → String
  | .replayCommandIdentityConflict => "REPLAY_COMMAND_IDENTITY_CONFLICT"
  | .replayCommandUnauthorized => "REPLAY_COMMAND_UNAUTHORIZED"
  | .replayCommandStateConflict => "REPLAY_COMMAND_STATE_CONFLICT"

def replayRejectionMessage : CommandRejectionCode → String
  | .replayCommandIdentityConflict =>
    "A receipt for this replay generation already exists with a different canonical payload."
  | .replayCommandUnauthorized => "The replay command did not match a durable replay authorization."
  | .replayCommandStateConflict =>
    "The replay was authorized, but its target workflow is no longer in a reopenable state."

inductive CommandAdmission
  | accepted
  | duplicate
  | rejected (failureCode : CommandRejectionCode)
  deriving DecidableEq, Repr

inductive ReplayAdmission
  | accepted
  | duplicate
  | rejected
  deriving DecidableEq, Repr

/-- What a worker is handed with a claim. -/
structure ClaimedWorkflow where
  action : WorkflowAction
  command : LifecycleCommand
  stage : WorkflowStage
  attempt : Nat
  stageAttempt : Nat
  retryStartedAt : Option Instant
  fencingToken : Nat
  providerResourceId : Option String
  providerTaskReference : Option String
  deriving DecidableEq, Repr

structure RetryNote where
  attempt : Nat
  startedAt : Instant
  errorCategory : String
  errorCode : String
  deriving DecidableEq, Repr

/-- Who writes to which workflow under which token. -/
structure Fence where
  operationId : Uuid
  workerId : String
  fencingToken : Nat
  deriving DecidableEq, Repr

structure CheckpointInput extends Fence where
  stage : WorkflowStage
  providerResourceId : Option String
  /-- Absent, an explicit `null`, or a reference. -/
  providerTaskReference : Option (Option String)
  nextAttemptAt : Option Instant
  retry : Option RetryNote
  event : WorkflowEvent
  deriving DecidableEq, Repr

inductive FinalStatus
  | succeeded
  | failed
  | manualReview
  deriving DecidableEq, Repr

def FinalStatus.status : FinalStatus → WorkflowStatus
  | .succeeded => .succeeded
  | .failed => .failed
  | .manualReview => .manualReview

def FinalStatus.stage : FinalStatus → PersistedStage
  | .succeeded => .completed
  | .failed => .failed
  | .manualReview => .manualReview

structure CompleteInput extends Fence where
  status : FinalStatus
  event : WorkflowEvent
  deriving DecidableEq, Repr

/-- The failure event of a dead-lettered workflow is told by its envelope,
    action, failure and compensation state. -/
structure DeadLetterWorkflowInput extends Fence where
  attempts : Nat
  failureCode : String
  safeMessage : String
  lastErrorCategory : String
  lastErrorCode : String
  envelope : Envelope
  action : WorkflowAction
  failure : FailureValue
  compensationState : CompensationState
  deriving DecidableEq, Repr

def DeadLetterWorkflowInput.event (input : DeadLetterWorkflowInput) : WorkflowEvent :=
  { input.envelope with data := .failed input.action input.failure input.compensationState }

structure DeadLetterCommandInput where
  message : CommandMessage
  delivery : MessageDeliveryIdentity
  attempts : Nat
  failureCode : String
  safeMessage : String
  replayAllowed : Bool

end ControlPlane.WorkflowSchema
