import ControlPlane.Domain

/-!
The commands and events of the control plane: what the API accepts, what the
orchestrator executes, and what it reports back. Telemetry (spans, metrics and
the trace context that every message passes along) is left out.
-/
namespace ControlPlane.Commands
open ControlPlane.Domain

/-! ### Actions and stages -/

/-- The capability a workflow executes. -/
inductive WorkflowAction
  | createInstance
  | powerInstance
  | resizeInstance
  | createSnapshot
  | rollbackSnapshot
  | deleteSnapshot
  | retainInstance
  | purgeInstance
  | reconcileInstance
  deriving DecidableEq, Repr

/-- A stage that a workflow can be claimed at. -/
inductive WorkflowStage
  | accepted
  | submittingCreate
  | pollingCreate
  | configuring
  | pollingConfiguration
  | starting
  | pollingStart
  | observing
  | submittingPower
  | pollingPower
  | observingPower
  | submittingResize
  | pollingResize
  | observingResize
  | submittingSnapshot
  | pollingSnapshot
  | observingSnapshot
  | submittingRetention
  | pollingRetention
  | observingRetention
  | verifyingPurge
  | submittingPurge
  | pollingPurge
  | observingPurge
  deriving DecidableEq, Repr

def WorkflowAction.text : WorkflowAction → String
  | .createInstance => "create_instance"
  | .powerInstance => "power_instance"
  | .resizeInstance => "resize_instance"
  | .createSnapshot => "create_snapshot"
  | .rollbackSnapshot => "rollback_snapshot"
  | .deleteSnapshot => "delete_snapshot"
  | .retainInstance => "retain_instance"
  | .purgeInstance => "purge_instance"
  | .reconcileInstance => "reconcile_instance"

def WorkflowStage.text : WorkflowStage → String
  | .accepted => "accepted"
  | .submittingCreate => "submitting_create"
  | .pollingCreate => "polling_create"
  | .configuring => "configuring"
  | .pollingConfiguration => "polling_configuration"
  | .starting => "starting"
  | .pollingStart => "polling_start"
  | .observing => "observing"
  | .submittingPower => "submitting_power"
  | .pollingPower => "polling_power"
  | .observingPower => "observing_power"
  | .submittingResize => "submitting_resize"
  | .pollingResize => "polling_resize"
  | .observingResize => "observing_resize"
  | .submittingSnapshot => "submitting_snapshot"
  | .pollingSnapshot => "polling_snapshot"
  | .observingSnapshot => "observing_snapshot"
  | .submittingRetention => "submitting_retention"
  | .pollingRetention => "polling_retention"
  | .observingRetention => "observing_retention"
  | .verifyingPurge => "verifying_purge"
  | .submittingPurge => "submitting_purge"
  | .pollingPurge => "polling_purge"
  | .observingPurge => "observing_purge"

/-- Any value of the stage column. -/
inductive PersistedStage
  | stage (stage : WorkflowStage)
  | completed
  | failed
  | manualReview
  deriving DecidableEq, Repr

def progressPercent : PersistedStage → Nat
  | .stage .accepted => 0
  | .stage .submittingCreate => 10
  | .stage .pollingCreate => 25
  | .stage .configuring => 40
  | .stage .pollingConfiguration => 55
  | .stage .starting => 70
  | .stage .pollingStart => 82
  | .stage .observing => 92
  | .stage .submittingPower => 20
  | .stage .pollingPower => 55
  | .stage .observingPower => 85
  | .stage .submittingResize => 20
  | .stage .pollingResize => 55
  | .stage .observingResize => 85
  | .stage .submittingSnapshot => 20
  | .stage .pollingSnapshot => 55
  | .stage .observingSnapshot => 85
  | .stage .submittingRetention => 20
  | .stage .pollingRetention => 55
  | .stage .observingRetention => 85
  | .stage .verifyingPurge => 15
  | .stage .submittingPurge => 40
  | .stage .pollingPurge => 65
  | .stage .observingPurge => 88
  | .completed => 100
  | .failed => 100
  | .manualReview => 100

/-- The lifecycle of an instance. -/
inductive LifecycleState
  | pending
  | provisioning
  | active
  | updating
  | failed
  | unknownOutcome
  | deleting
  | retained
  | purgePending
  | purged
  | manualReview
  deriving DecidableEq, Repr

/-- The state of an operation as its readers see it. -/
inductive OperationState
  | accepted
  | running
  | retryWait
  | compensating
  | unknownOutcome
  | succeeded
  | failed
  | manualReview
  deriving DecidableEq, Repr

/-! ### Commands -/

/-- The fields that every message carries. The schema name is told by the data. -/
structure Envelope where
  eventId : Uuid
  schemaVersion : Nat
  aggregateType : String
  aggregateId : Uuid
  projectId : Uuid
  operationId : Uuid
  correlationId : Uuid
  causationId : Uuid
  occurredAt : Instant
  partitionKey : String
  deriving DecidableEq, Repr

inductive PowerAction
  | start
  | shutdown
  | stop
  | reboot
  deriving DecidableEq, Repr

def PowerAction.text : PowerAction → String
  | .start => "start"
  | .shutdown => "shutdown"
  | .stop => "stop"
  | .reboot => "reboot"

inductive LeaseReleaseMode
  | quarantineUntilPurge
  | releaseOnRetain
  deriving DecidableEq, Repr

structure Ipv4Attachment where
  address : String
  prefixLength : Int
  gateway : String
  dnsServers : List String
  deriving DecidableEq, Repr

structure CreateData where
  imageId : String
  flavorId : String
  networkId : String
  providerProfileId : String
  hostname : String
  resources : Resources
  ipv4 : Ipv4Attachment
  sshPublicKeys : Option (List String)
  deriving DecidableEq, Repr

structure PowerData where
  action : PowerAction
  providerProfileId : String
  createOperationId : String
  deriving DecidableEq, Repr

structure ResizeData where
  flavorId : String
  targetResources : Resources
  providerProfileId : String
  createOperationId : String
  deriving DecidableEq, Repr

structure SnapshotCreateData where
  snapshotId : Uuid
  name : String
  description : Option String
  providerProfileId : String
  createOperationId : String
  deriving DecidableEq, Repr

structure SnapshotActionData where
  snapshotId : Uuid
  providerSnapshotReference : String
  providerProfileId : String
  createOperationId : String
  deriving DecidableEq, Repr

structure RetentionData where
  retentionDeadline : Instant
  leaseReleaseMode : LeaseReleaseMode
  providerProfileId : String
  createOperationId : String
  deriving DecidableEq, Repr

structure PurgeData where
  purgeAuthorizationId : Uuid
  retentionDeadline : Instant
  reasonReference : Uuid
  providerProfileId : String
  createOperationId : String
  deriving DecidableEq, Repr

/-- The payload of a lifecycle command, by schema. -/
inductive CommandData
  | create (data : CreateData)
  | power (data : PowerData)
  | resize (data : ResizeData)
  | snapshotCreate (data : SnapshotCreateData)
  | snapshotRollback (data : SnapshotActionData)
  | snapshotDelete (data : SnapshotActionData)
  | retention (data : RetentionData)
  | purge (data : PurgeData)
  deriving DecidableEq, Repr

def CommandData.schemaName : CommandData → String
  | .create _ => "instance.create.requested"
  | .power _ => "instance.power.requested"
  | .resize _ => "instance.resize.requested"
  | .snapshotCreate _ => "snapshot.create.requested"
  | .snapshotRollback _ => "snapshot.rollback.requested"
  | .snapshotDelete _ => "snapshot.delete.requested"
  | .retention _ => "instance.retention.requested"
  | .purge _ => "instance.purge.requested"

structure LifecycleCommand extends Envelope where
  data : CommandData
  deriving DecidableEq, Repr

/-- The capability that executes a schema. -/
def workflowActionForSchema : String → Option WorkflowAction
  | "instance.create.requested" => some .createInstance
  | "instance.power.requested" => some .powerInstance
  | "instance.resize.requested" => some .resizeInstance
  | "snapshot.create.requested" => some .createSnapshot
  | "snapshot.rollback.requested" => some .rollbackSnapshot
  | "snapshot.delete.requested" => some .deleteSnapshot
  | "instance.retention.requested" => some .retainInstance
  | "instance.purge.requested" => some .purgeInstance
  | _ => none

/-- The capability that executes a command. -/
def CommandData.action : CommandData → WorkflowAction
  | .create _ => .createInstance
  | .power _ => .powerInstance
  | .resize _ => .resizeInstance
  | .snapshotCreate _ => .createSnapshot
  | .snapshotRollback _ => .rollbackSnapshot
  | .snapshotDelete _ => .deleteSnapshot
  | .retention _ => .retainInstance
  | .purge _ => .purgeInstance

theorem workflowActionForSchema_schemaName (data : CommandData) :
    workflowActionForSchema data.schemaName = some data.action := by
  cases data <;> rfl

structure ProvisioningReplayRequested extends Envelope where
  replayRequestId : Uuid
  originalEventId : Uuid
  requestedAt : Instant
  deriving DecidableEq, Repr

/-- What the command topic may carry once an envelope was decoded. -/
inductive CommandMessage
  | lifecycle (command : LifecycleCommand)
  | replayRequest (request : ProvisioningReplayRequested)
  | unsupported (schemaName : String) (envelope : Envelope)
  deriving DecidableEq, Repr

namespace CommandMessage

def envelope : CommandMessage → Envelope
  | .lifecycle command => command.toEnvelope
  | .replayRequest request => request.toEnvelope
  | .unsupported _ envelope => envelope

def schemaName : CommandMessage → String
  | .lifecycle command => command.data.schemaName
  | .replayRequest _ => "provisioning.replay.requested"
  | .unsupported schemaName _ => schemaName

end CommandMessage

/-! ### Workflow events -/

inductive ErrorCategory
  | validation
  | authorization
  | conflict
  | transient
  | permanent
  | unknownOutcome
  | compensationFailure
  | manualReview
  deriving DecidableEq, Repr

inductive CompensationState
  | notRequired
  | pending
  | succeeded
  | failed
  | notSafe
  deriving DecidableEq, Repr

structure FailureValue where
  category : ErrorCategory
  code : String
  safeMessage : String
  /-- Absent, a number that is no integer, or an integer. -/
  retryAfterMilliseconds : Option (Option Int) := none
  deriving DecidableEq, Repr

inductive PowerState
  | running
  | stopped
  | suspended
  | unknown
  deriving DecidableEq, Repr

/-- A sizing that the provider reported; a size that is no number is missing. -/
structure MeasuredResources where
  cpuCount : Nat
  memoryMiB : Option Int
  diskGiB : Option Int
  deriving DecidableEq, Repr

structure ObservedState where
  existing : Bool
  powerState : PowerState
  resources : Option MeasuredResources
  markerMatch : Bool
  observedAt : Instant
  deriving DecidableEq, Repr

inductive ReplayOutcome
  | completed
  | rejected
  deriving DecidableEq, Repr

/-- The payload of a workflow event, by schema. -/
inductive WorkflowEventData
  | progressed (stage : WorkflowStage) (attempt : Nat) (operationState : OperationState)
      (providerTaskReference : Option String) (nextActionAt : Option Instant)
  | completed (action : WorkflowAction) (lifecycleState : LifecycleState) (providerResourceId : Option String)
      (evidenceId : Uuid) (observed : Option ObservedState)
  | failed (action : WorkflowAction) (failure : FailureValue) (compensationState : CompensationState)
  | replayResolved (replayRequestId originalEventId : Uuid) (outcome : ReplayOutcome) (replayGeneration : Nat)
      (resolvedAt : Instant)
  deriving DecidableEq, Repr

structure WorkflowEvent extends Envelope where
  data : WorkflowEventData
  deriving DecidableEq, Repr

namespace WorkflowEventData

/-- Whether an event ends its operation. -/
def isTerminal : WorkflowEventData → Bool
  | .completed .. => true
  | .failed .. => true
  | _ => false

end WorkflowEventData

structure ProvisioningDeadLettered extends Envelope where
  originalEventId : Uuid
  originalSchemaName : String
  originalSchemaVersion : Nat
  failure : FailureValue
  attempts : Nat
  replayAllowed : Bool
  deadLetteredAt : Instant
  deriving DecidableEq, Repr

/-! ### Deliveries -/

/-- Where a broker record was read, and the headers of its outbox row. -/
structure MessageDeliveryIdentity where
  topic : String
  partition : Nat
  offset : Nat
  replayGeneration : Nat
  outboxId : Option Uuid
  deriving DecidableEq, Repr

/-- What the programs use of their host's library. -/
structure Host where
  /-- The integer that `Number` reads from a text. -/
  number : String → Option Int
  /-- The hash of a message's canonical JSON. -/
  canonicalSha256 : CommandMessage → String

end ControlPlane.Commands
