import ControlPlane.WorkflowSchema

/-!
The rows of the control and projection schemas, the validated requests of the
API and what their acceptance answers. Left out are the audit trail and the
recovery columns that only an administrator reads beside an operation document.
-/
namespace ControlPlane.ControlSchema
open ControlPlane.Tables ControlPlane.Domain ControlPlane.Commands ControlPlane.WorkflowSchema

/-! ### The catalog -/

structure ProjectRow where
  id : Uuid
  enabled : Bool
  deriving DecidableEq, Repr

structure QuotaRow where
  projectId : Uuid
  instances : Nat
  cpuCount : Nat
  memoryMib : Nat
  diskGib : Nat
  ipv4Addresses : Nat
  snapshots : Nat
  deriving DecidableEq, Repr

structure NetworkRow where
  id : String
  ipv4Cidr : String
  gateway : String
  dnsServers : List String
  exclusions : List String
  enabled : Bool
  deriving DecidableEq, Repr

inductive ProfileState
  | disabled
  | validationPending
  | validated
  | active
  | validationFailed
  deriving DecidableEq, Repr

structure ProviderProfileRow where
  id : String
  state : ProfileState
  networkId : String
  deriving DecidableEq, Repr

structure ImageRow where
  id : String
  providerProfileId : String
  enabled : Bool
  deriving DecidableEq, Repr

structure FlavorRow where
  id : String
  cpuCount : Nat
  memoryMib : Nat
  minimumDiskGib : Nat
  enabled : Bool
  deriving DecidableEq, Repr

/-- The single row of `control.retention_policy`. -/
structure RetentionPolicy where
  retentionHours : Nat
  leaseReleaseMode : LeaseReleaseMode
  deriving DecidableEq, Repr

/-- The tables that only operators change. -/
structure Catalog where
  projects : List ProjectRow := []
  quotas : List QuotaRow := []
  networks : List NetworkRow := []
  providerProfiles : List ProviderProfileRow := []
  images : List ImageRow := []
  flavors : List FlavorRow := []
  retentionPolicy : Option RetentionPolicy := none

/-! ### Instances and their operations -/

inductive DesiredPower
  | running
  | stopped
  deriving DecidableEq, Repr

/-- A row of `control.instances`. -/
structure InstanceRow where
  id : Uuid
  projectId : Uuid
  imageId : String
  flavorId : String
  networkId : String
  providerProfileId : String
  hostname : String
  sshPublicKeys : List String
  desiredCpuCount : Nat
  desiredMemoryMib : Nat
  desiredDiskGib : Nat
  desiredPowerState : DesiredPower
  lifecycleState : LifecycleState
  activeOperationId : Option Uuid
  createOperationId : Option Uuid
  retentionDeadline : Option Instant
  purgeEligible : Bool
  observed : Option ObservedState
  drift : DriftClassification := .none
  lastReconciledAt : Option Instant := none
  deriving DecidableEq, Repr

/-- The sizing that an instance row asks for. -/
def InstanceRow.sizing (row : InstanceRow) : Resources := ⟨row.desiredCpuCount, row.desiredMemoryMib, row.desiredDiskGib⟩

inductive TargetType
  | instance_
  | snapshot
  deriving DecidableEq, Repr

/-- A row of `control.operations`, which is also the document that its readers
    are served. -/
structure OperationView where
  id : Uuid
  projectId : Uuid
  action : WorkflowAction
  targetType : TargetType
  targetId : Uuid
  state : OperationState
  stage : PersistedStage
  progressPercent : Nat
  acceptedAt : Instant
  startedAt : Option Instant := none
  updatedAt : Instant
  completedAt : Option Instant := none
  errorCategory : Option ErrorCategory := none
  errorCode : Option String := none
  errorMessage : Option String := none
  manualReviewRequired : Bool := false
  deriving DecidableEq, Repr

inductive LeaseState
  | active
  | quarantined
  | released
  deriving DecidableEq, Repr

/-- A row of `control.ipv4_leases`. -/
structure Ipv4LeaseRow where
  id : Uuid
  projectId : Uuid
  instanceId : Uuid
  networkId : String
  address : String
  prefixLength : Int
  gateway : String
  state : LeaseState
  deriving DecidableEq, Repr

/-- A lease that occupies its address. -/
def Ipv4LeaseRow.occupies (lease : Ipv4LeaseRow) : Bool := lease.state ≠ .released

inductive SnapshotState
  | creating
  | available
  | rollingBack
  | deleting
  | failed
  deriving DecidableEq, Repr

/-- A row of `control.snapshots`. -/
structure SnapshotRow where
  id : Uuid
  projectId : Uuid
  instanceId : Uuid
  name : String
  description : Option String
  state : SnapshotState
  providerSnapshotName : Option String
  createdAt : Instant
  updatedAt : Instant
  deriving DecidableEq, Repr

/-- What a request is answered with once it is durable. -/
structure AcceptedMutation where
  operationId : Uuid
  targetId : Uuid
  acceptedAt : Instant
  statusUrl : String
  replayed : Bool
  deriving DecidableEq, Repr

/-- A row of `control.idempotency_records`. -/
structure IdempotencyRecord where
  actorId : String
  projectId : Uuid
  operationType : WorkflowAction
  idempotencyKey : String
  targetId : Uuid
  requestHash : String
  operationId : Uuid
  response : AcceptedMutation
  expiresAt : Instant
  deriving DecidableEq, Repr

inductive ReplayRequestStatus
  | accepted
  | rejected
  | published
  | completed
  deriving DecidableEq, Repr

/-- A row of `control.replay_requests`. -/
structure ControlReplayRequest where
  id : Uuid
  originalEventId : Uuid
  actorId : String
  idempotencyKey : String
  requestHash : String
  reason : String
  correlationId : Uuid
  status : ReplayRequestStatus
  requestedAt : Instant
  deriving DecidableEq, Repr

/-! ### Documents -/

structure DesiredView where
  imageId : String
  flavorId : String
  networkId : String
  hostname : String
  powerState : DesiredPower
  retentionRequested : Bool
  deriving DecidableEq, Repr

structure LeaseView where
  address : String
  prefixLength : Int
  gateway : String
  state : LeaseState
  deriving DecidableEq, Repr

/-- The document of an instance. -/
structure InstanceView where
  id : Uuid
  projectId : Uuid
  lifecycleState : LifecycleState
  desired : DesiredView
  observed : Option ObservedState
  ipv4Lease : LeaseView
  activeOperationId : Option Uuid
  drift : String
  lastReconciledAt : Option Instant
  retentionDeadline : Option Instant
  purgeEligible : Bool
  createdAt : Instant
  updatedAt : Instant
  deriving DecidableEq, Repr

/-- The document of a snapshot. -/
structure SnapshotView where
  id : Uuid
  instanceId : Uuid
  name : String
  description : Option String
  state : SnapshotState
  createdAt : Instant
  updatedAt : Instant
  deriving DecidableEq, Repr

/-- The document of a dead letter. -/
structure DeadLetterView where
  eventId : Uuid
  schemaName : String
  schemaVersion : Nat
  aggregateId : Uuid
  projectId : Uuid
  operationId : Uuid
  category : ErrorCategory
  safeMessage : String
  attempts : Nat
  deadLetteredAt : Instant
  replayAllowed : Bool
  lastReplayAt : Option Instant
  deriving DecidableEq, Repr

/-- The consumers of the projection. -/
inductive ProjectionConsumer
  | events
  | deadLetters
  | reconciliation
  deriving DecidableEq, Repr

/-- A row of `projection.event_receipts`. -/
structure EventReceipt where
  consumerName : ProjectionConsumer
  eventId : Uuid
  delivery : MessageDeliveryIdentity
  receivedAt : Instant
  deriving DecidableEq, Repr

/-- A row of `projection.poison_records`. -/
structure ProjectionPoisonRecord extends PoisonRecord where
  consumerName : ProjectionConsumer
  deriving DecidableEq, Repr

/-- The tables of the control and projection schemas. -/
structure ControlDb extends Catalog where
  instances : List InstanceRow := []
  operations : List OperationView := []
  ipv4Leases : List Ipv4LeaseRow := []
  idempotencyRecords : List IdempotencyRecord := []
  snapshots : List SnapshotRow := []
  replayRequests : List ControlReplayRequest := []
  outbox : List (OutboxRow CommandMessage) := []
  instanceDocuments : List InstanceView := []
  operationDocuments : List OperationView := []
  snapshotDocuments : List SnapshotView := []
  deadLetterDocuments : List DeadLetterView := []
  eventReceipts : List EventReceipt := []
  poisonRecords : List ProjectionPoisonRecord := []

namespace ControlDb

def instance_ (db : ControlDb) (id : Uuid) : Option InstanceRow := find InstanceRow.id id db.instances

/-- The operation that holds an instance. -/
def activeOperation (db : ControlDb) (instanceId : Uuid) : Option Uuid :=
  (db.instance_ instanceId).bind InstanceRow.activeOperationId

def updateInstance (db : ControlDb) (id : Uuid) (rewrite : InstanceRow → InstanceRow) : ControlDb :=
  { db with instances := update (fun row : InstanceRow => row.id = id) rewrite db.instances }

end ControlDb

/-! ### Requests -/

/-- What scopes an idempotency key besides the capability. The actor is the
    caller's subject. -/
structure MutationIdentity where
  actor : String
  projectId : Uuid
  idempotencyKey : String
  deriving DecidableEq, Repr

structure CreateInstanceCommand extends MutationIdentity where
  correlationId : Uuid
  imageId : String
  flavorId : String
  networkId : String
  hostname : String
  sshPublicKeys : List String
  deriving DecidableEq, Repr

/-- What the requests about one instance share. -/
structure InstanceRequest extends MutationIdentity where
  instanceId : Uuid
  correlationId : Uuid
  deriving DecidableEq, Repr

structure PowerInstanceCommand extends InstanceRequest where
  action : PowerAction
  deriving DecidableEq, Repr

structure ResizeInstanceCommand extends InstanceRequest where
  flavorId : String
  diskGiB : Option Nat
  deriving DecidableEq, Repr

structure CreateSnapshotCommand extends InstanceRequest where
  name : String
  description : Option String
  deriving DecidableEq, Repr

structure SnapshotActionCommand extends InstanceRequest where
  snapshotId : Uuid
  deriving DecidableEq, Repr

abbrev RetainInstanceCommand := InstanceRequest

/-- A request of an administrator, which names no project. -/
structure PurgeInstanceCommand where
  actor : String
  idempotencyKey : String
  instanceId : Uuid
  correlationId : Uuid
  confirmInstanceId : Uuid
  deriving DecidableEq, Repr

structure ReplayDeadLetterCommand where
  actor : String
  idempotencyKey : String
  originalEventId : Uuid
  correlationId : Uuid
  reason : String
  deriving DecidableEq, Repr

/-- What a transaction reads from its process: the clock, and random identifiers. -/
structure Draws where
  now : Instant
  fresh : Nat → Uuid

end ControlPlane.ControlSchema
