import ControlPlane.ControlSchema
import ControlPlane.Transactions

/-!
The acceptance of requests: what the control plane store does in one
transaction for each of them. Locks and reads stand in the order of the source;
the writes of a transaction are made at its commit. A lock of a row that the
transaction then refuses is taken all the same.
-/
namespace ControlPlane.Acceptance
open ControlPlane.Programs ControlPlane.Programs.Program ControlPlane.Tables ControlPlane.Texts ControlPlane.Domain
open ControlPlane.Commands ControlPlane.WorkflowSchema ControlPlane.ControlSchema ControlPlane.Transactions

/-- An advisory lock on a text, or the lock of a row. -/
inductive ControlLock
  | advisory (scope : String)
  | instance_ (id : Uuid)
  | snapshot (id : Uuid)
  deriving DecidableEq, Repr

/-- What a statement reads. -/
inductive ControlQuery
  | idempotencyRecord
  | instance_
  | project
  | image
  | flavor
  | network
  | quota
  | usage
  | snapshotUsage
  | leases
  | snapshotName
  | snapshot
  | retentionPolicy
  | replayRequest
  | deadLetter
  deriving DecidableEq, Repr

/-- Why a transaction of a store rolls back. -/
inductive StoreError
  | domain (error : DomainError)
  | database (message : String)
  deriving DecidableEq, Repr

abbrev Step (α : Type) : Type := Reading ControlDb ControlLock ControlQuery StoreError α

abbrev Accepting : Type := Step (Commit ControlDb StoreError AcceptedMutation)

abbrev Write : Type := ControlDb → Except StoreError ControlDb

def refuse {α : Type} (code : DomainErrorCode) (message : String) : Step α := .raise (.domain ⟨code, message⟩)

/-- A check that throws a domain error. -/
def checked {α : Type} : Except DomainError α → Step α
  | .ok value => .done value
  | .error error => .raise (.domain error)

/-! ### Shared statements -/

/-- The scope of an administrative action, which has no project of its own. -/
def adminScope (actor idempotencyKey : String) : MutationIdentity :=
  ⟨actor, "00000000-0000-0000-0000-000000000000", idempotencyKey⟩

def lockIdempotencyScope (identity : MutationIdentity) (action : WorkflowAction) : Step Unit :=
  lock (.advisory (":".intercalate [identity.actor, identity.projectId, action.text, identity.idempotencyKey]))

def IdempotencyRecord.key (record : IdempotencyRecord) : String × Uuid × WorkflowAction × String :=
  (record.actorId, record.projectId, record.operationType, record.idempotencyKey)

/-- The original response, when the request was accepted before. -/
def findReplayedResponse (identity : MutationIdentity) (action : WorkflowAction) (requestHash : String) :
    Step (Option AcceptedMutation) := do
  let db ← select .idempotencyRecord
  match find IdempotencyRecord.key (identity.actor, identity.projectId, action, identity.idempotencyKey)
      db.idempotencyRecords with
  | none => return none
  | some previous =>
    if previous.requestHash ≠ requestHash then
      refuse .idempotencyConflict "The idempotency key is already bound to different input."
    else return some { previous.response with replayed := true }

/-- How every acceptance begins: a request that was accepted before is answered
    as it was then. -/
def unlessReplayed (identity : MutationIdentity) (action : WorkflowAction) (requestHash : String)
    (accept : Accepting) : Accepting := do
  lockIdempotencyScope identity action
  match ← findReplayedResponse identity action requestHash with
  | some replayed => return ⟨replayed, .ok⟩
  | none => accept

/-- The lifecycle states from which a tenant may request a further mutation. -/
def mutableLifecycleState (state : LifecycleState) : Bool := state = .active || state = .failed

/-- Locks one instance and asserts that it can accept a new mutation. -/
def lockInstanceForMutation (projectId instanceId : Uuid) : Step InstanceRow := do
  lock (.instance_ instanceId)
  let db ← select .instance_
  match (db.instance_ instanceId).filter fun row => row.projectId = projectId with
  | none => refuse .instanceNotFound "The requested instance does not exist."
  | some row =>
    if row.activeOperationId.isSome then
      refuse .instanceBusy "Another operation is already in progress for this instance."
    else if !mutableLifecycleState row.lifecycleState then
      refuse .instanceBusy "The instance is not in a state that accepts this operation."
    else return row

/-! ### Shared writes -/

/-- Inserts a row; a violated constraint rolls the transaction back. -/
def insertRow {Row : Type} (clashes : Row → Bool) (row : Row) (rows : List Row) : Except StoreError (List Row) :=
  (insert clashes row rows).mapError .database

/-- Inserts the row of an operation and its document. -/
def insertOperation (operation document : OperationView) : Write := fun db => do
  let operations ← insertRow (fun o : OperationView => o.id = operation.id) operation db.operations
  let documents ← insertRow (fun o : OperationView => o.id = operation.id) document db.operationDocuments
  return { db with operations := operations, operationDocuments := documents }

def insertIdempotencyRecord (record : IdempotencyRecord) : Write := fun db => do
  let records ← insertRow (fun r => IdempotencyRecord.key r = IdempotencyRecord.key record) record db.idempotencyRecords
  return { db with idempotencyRecords := records }

def writeControlOutbox (outboxId : Uuid) (message : CommandMessage) (now : Instant) (db : ControlDb) : ControlDb :=
  { db with outbox := db.outbox ++ [⟨outboxId, message, 0, now⟩] }

/-- Mirrors the busy marker onto the projected instance document. -/
def markInstanceBusyInProjection (instanceId operationId : Uuid) (now : Instant) (db : ControlDb) : ControlDb :=
  { db with
    instanceDocuments := update (fun document : InstanceView => document.id = instanceId)
      (fun document => { document with activeOperationId := some operationId, updatedAt := now })
      db.instanceDocuments }

def acceptedMutation (operationId targetId : Uuid) (statusUrl : String) (now : Instant) : AcceptedMutation :=
  { operationId := operationId, targetId := targetId, acceptedAt := now, statusUrl := statusUrl, replayed := false }

def projectStatusUrl (projectId operationId : Uuid) : String := s!"/v1/projects/{projectId}/operations/{operationId}"

/-- The row of an operation as it is accepted. -/
def acceptedOperation (operationId projectId : Uuid) (action : WorkflowAction) (targetType : TargetType)
    (targetId : Uuid) (now : Instant) : OperationView :=
  { id := operationId, projectId := projectId, action := action, targetType := targetType, targetId := targetId,
    state := .accepted, stage := .stage .accepted, progressPercent := progressPercent (.stage .accepted),
    acceptedAt := now, updatedAt := now }

/-- The document of an operation as it is accepted, which names no other field. -/
def acceptedDocument (operationId projectId : Uuid) (action : WorkflowAction) (targetType : TargetType)
    (targetId : Uuid) (now : Instant) : OperationView :=
  { id := operationId, projectId := projectId, action := action, targetType := targetType, targetId := targetId,
    state := .accepted, stage := .stage .accepted, progressPercent := progressPercent (.stage .accepted),
    acceptedAt := now, updatedAt := now, manualReviewRequired := false }

/-- How long an idempotency record stays replayable. -/
def idempotencyRecordTtlMs : Nat := 86400000

/-- The record that makes a retry of a request safe. It is written at the moment
    of the acceptance. -/
def idempotencyRecord (identity : MutationIdentity) (action : WorkflowAction) (requestHash : String)
    (accepted : AcceptedMutation) : IdempotencyRecord :=
  ⟨identity.actor, identity.projectId, action, identity.idempotencyKey, accepted.targetId, requestHash,
    accepted.operationId, accepted, accepted.acceptedAt + idempotencyRecordTtlMs⟩

/-- The envelope of a command about an instance. -/
def commandEnvelope (eventId instanceId projectId operationId correlationId : Uuid) (now : Instant) : Envelope :=
  { eventId := eventId, schemaVersion := 1, aggregateType := "instance", aggregateId := instanceId,
    projectId := projectId, operationId := operationId, correlationId := correlationId, causationId := operationId,
    occurredAt := now, partitionKey := instanceId }

/-- What the acceptance of a mutation of an existing instance writes: the
    operation, the instance, the documents, the idempotency record and the command. -/
def writeMutation (identity : MutationIdentity) (requestHash : String) (accepted : AcceptedMutation)
    (operation document : OperationView) (instanceId : Uuid) (rewrite : InstanceRow → InstanceRow) (event : LifecycleCommand)
    (outboxId : Uuid) (now : Instant) : Write := fun db => do
  let db ← insertOperation operation document db
  let db := db.updateInstance instanceId fun row =>
    { rewrite row with activeOperationId := some operation.id }
  let db := markInstanceBusyInProjection instanceId operation.id now db
  let db ← insertIdempotencyRecord (idempotencyRecord identity operation.action requestHash accepted) db
  return writeControlOutbox outboxId (.lifecycle event) now db

/-! ### Power, resize -/

/-- Commits a power request as durable intent. -/
def acceptPowerAction (draws : Draws) (command : PowerInstanceCommand) (requestHash : String) : Accepting :=
  unlessReplayed command.toMutationIdentity .powerInstance requestHash do
    let row ← lockInstanceForMutation command.projectId command.instanceId
    let operationId := draws.fresh 0
    let accepted := acceptedMutation operationId row.id (projectStatusUrl command.projectId operationId) draws.now
    let event : LifecycleCommand :=
      { commandEnvelope (draws.fresh 1) row.id command.projectId operationId command.correlationId draws.now with
        data := .power
          { action := command.action, providerProfileId := row.providerProfileId,
            createOperationId := row.createOperationId.getD "" } }
    return ⟨accepted, writeMutation command.toMutationIdentity requestHash accepted
      (acceptedOperation operationId command.projectId .powerInstance .instance_ row.id draws.now)
      (acceptedDocument operationId command.projectId .powerInstance .instance_ row.id draws.now) row.id
      (fun row => { row with
        desiredPowerState :=
          if command.action = .start ∨ command.action = .reboot then .running else .stopped })
      event (draws.fresh 2) draws.now⟩

/-- What the live instances of a project ask for. -/
structure Usage where
  instances : Nat
  cpuCount : Nat
  memoryMib : Nat
  diskGib : Nat
  deriving DecidableEq, Repr

/-- The instances that count against a project's quota. -/
def countedInstances (projectId : Uuid) (instances : List InstanceRow) : List InstanceRow :=
  instances.filter fun row => row.projectId = projectId && row.lifecycleState ≠ .purged

def usageOf (rows : List InstanceRow) : Usage :=
  ⟨rows.length, (rows.map InstanceRow.desiredCpuCount).sum, (rows.map InstanceRow.desiredMemoryMib).sum,
    (rows.map InstanceRow.desiredDiskGib).sum⟩

def usage (db : ControlDb) (projectId : Uuid) : Usage := usageOf (countedInstances projectId db.instances)

/-- Checks project quota against the change that a resize makes. -/
def assertResizeQuotaHeadroom (projectId : Uuid) (current target : Resources) : Step Unit := do
  let db ← select .quota
  match find QuotaRow.projectId projectId db.quotas with
  | none => refuse .projectNotFound "The project does not exist."
  | some quota =>
    let db ← select .usage
    let used := usage db projectId
    if (used.cpuCount : Int) - current.cpuCount + target.cpuCount > quota.cpuCount ∨
        (used.memoryMib : Int) - current.memoryMiB + target.memoryMiB > quota.memoryMib ∨
        (used.diskGib : Int) - current.diskGiB + target.diskGiB > quota.diskGib then
      refuse .quotaExceeded "The resize request exceeds project quota."
    else return ()

def enabledFlavor (db : ControlDb) (flavorId : String) : Option FlavorRow :=
  (find FlavorRow.id flavorId db.flavors).filter FlavorRow.enabled

/-- The sizing that a resize asks for: of the disk, the largest of three floors. -/
def resizeTarget (flavor : FlavorRow) (current : Resources) (diskGiB : Option Nat) : Resources :=
  ⟨flavor.cpuCount, flavor.memoryMib, max (max current.diskGiB flavor.minimumDiskGib) (diskGiB.getD 0)⟩

/-- Commits a resize as durable intent. -/
def acceptResize (draws : Draws) (command : ResizeInstanceCommand) (requestHash : String) : Accepting :=
  unlessReplayed command.toMutationIdentity .resizeInstance requestHash do
    let row ← lockInstanceForMutation command.projectId command.instanceId
    let db ← select .flavor
    match enabledFlavor db command.flavorId with
    | none => refuse .validationFailed "The requested flavor is not available."
    | some flavor =>
      let target := resizeTarget flavor row.sizing command.diskGiB
      -- Checked against what the tenant asked for, so that a shrink is refused.
      checked (validateResize row.sizing { target with diskGiB := command.diskGiB.getD target.diskGiB })
      assertResizeQuotaHeadroom command.projectId row.sizing target
      let operationId := draws.fresh 0
      let accepted := acceptedMutation operationId row.id (projectStatusUrl command.projectId operationId) draws.now
      let event : LifecycleCommand :=
        { commandEnvelope (draws.fresh 1) row.id command.projectId operationId command.correlationId draws.now with
          data := .resize
            { flavorId := command.flavorId, targetResources := target, providerProfileId := row.providerProfileId,
              createOperationId := row.createOperationId.getD "" } }
      return ⟨accepted, writeMutation command.toMutationIdentity requestHash accepted
        (acceptedOperation operationId command.projectId .resizeInstance .instance_ row.id draws.now)
        (acceptedDocument operationId command.projectId .resizeInstance .instance_ row.id draws.now) row.id
        (fun row => { row with
          flavorId := command.flavorId, desiredCpuCount := target.cpuCount, desiredMemoryMib := target.memoryMiB,
          desiredDiskGib := target.diskGiB })
        event (draws.fresh 2) draws.now⟩

/-! ### Snapshots -/

/-- The snapshots that count against a project's quota. -/
def snapshotUsage (db : ControlDb) (projectId : Uuid) : Nat :=
  db.snapshots.countP fun snapshot => snapshot.projectId = projectId && snapshot.state ≠ .failed

/-- Refuses a snapshot that would exceed the project's snapshot quota. -/
def assertSnapshotHeadroom (projectId : Uuid) : Step Unit := do
  let db ← select .quota
  match find QuotaRow.projectId projectId db.quotas with
  | none => refuse .projectNotFound "The project does not exist."
  | some quota =>
    let db ← select .snapshotUsage
    if snapshotUsage db projectId + 1 > quota.snapshots then
      refuse .quotaExceeded "The snapshot request exceeds project quota."
    else return ()

def insertSnapshot (snapshot : SnapshotRow) : Write := fun db => do
  let snapshots ← insertRow
    (fun s : SnapshotRow => s.id = snapshot.id || (s.instanceId = snapshot.instanceId && s.name = snapshot.name))
    snapshot db.snapshots
  return { db with snapshots := snapshots }

def snapshotView (row : SnapshotRow) : SnapshotView :=
  ⟨row.id, row.instanceId, row.name, row.description, row.state, row.createdAt, row.updatedAt⟩

/-- Mirrors the authoritative snapshot row into the read projection. -/
def writeSnapshotProjection (snapshotId : Uuid) : Write := fun db =>
  match find SnapshotRow.id snapshotId db.snapshots with
  | none => .error (.database "no result")
  | some row =>
    .ok { db with
      snapshotDocuments :=
        if db.snapshotDocuments.any fun document => document.id = snapshotId then
          update (fun document : SnapshotView => document.id = snapshotId) (fun _ => snapshotView row)
            db.snapshotDocuments
        else db.snapshotDocuments ++ [snapshotView row] }

/-- What the three snapshot actions write. -/
def writeSnapshotOperation (command : InstanceRequest) (action : WorkflowAction) (requestHash : String)
    (accepted : AcceptedMutation) (snapshotId instanceId : Uuid) (event : LifecycleCommand) (outboxId : Uuid)
    (now : Instant) : Write := fun db => do
  let db ← writeMutation command.toMutationIdentity requestHash accepted
    (acceptedOperation accepted.operationId command.projectId action .snapshot snapshotId now)
    (acceptedDocument accepted.operationId command.projectId action .snapshot snapshotId now) instanceId id event
    outboxId now db
  writeSnapshotProjection snapshotId db

/-- Commits a snapshot creation as durable intent. -/
def acceptSnapshotCreate (draws : Draws) (command : CreateSnapshotCommand) (requestHash : String) : Accepting :=
  unlessReplayed command.toMutationIdentity .createSnapshot requestHash do
    let row ← lockInstanceForMutation command.projectId command.instanceId
    assertSnapshotHeadroom command.projectId
    let db ← select .snapshotName
    if db.snapshots.any fun s => s.instanceId = row.id && s.name = command.name then
      refuse .validationFailed "A snapshot with this name already exists on the instance."
    else
      let operationId := draws.fresh 0
      let snapshotId := draws.fresh 3
      let accepted := acceptedMutation operationId snapshotId (projectStatusUrl command.projectId operationId) draws.now
      let snapshot : SnapshotRow :=
        { id := snapshotId, projectId := command.projectId, instanceId := row.id, name := command.name,
          description := command.description, state := .creating, providerSnapshotName := some command.name,
          createdAt := draws.now, updatedAt := draws.now }
      let event : LifecycleCommand :=
        { commandEnvelope (draws.fresh 1) row.id command.projectId operationId command.correlationId draws.now with
          data := .snapshotCreate
            { snapshotId := snapshotId, name := command.name, description := command.description.filter (· ≠ ""),
              providerProfileId := row.providerProfileId, createOperationId := row.createOperationId.getD "" } }
      return ⟨accepted, fun db => do
        let db ← insertSnapshot snapshot db
        writeSnapshotOperation command.toInstanceRequest .createSnapshot requestHash accepted snapshotId row.id event
          (draws.fresh 2) draws.now db⟩

/-- What may be done with an existing snapshot. -/
inductive SnapshotAction
  | rollbackSnapshot
  | deleteSnapshot
  deriving DecidableEq, Repr

def SnapshotAction.action : SnapshotAction → WorkflowAction
  | .rollbackSnapshot => .rollbackSnapshot
  | .deleteSnapshot => .deleteSnapshot

def SnapshotAction.state : SnapshotAction → SnapshotState
  | .rollbackSnapshot => .rollingBack
  | .deleteSnapshot => .deleting

def SnapshotAction.data : SnapshotAction → SnapshotActionData → CommandData
  | .rollbackSnapshot => .snapshotRollback
  | .deleteSnapshot => .snapshotDelete

def updateSnapshot (id : Uuid) (state : SnapshotState) (now : Instant) (db : ControlDb) : ControlDb :=
  { db with
    snapshots := update (fun s : SnapshotRow => s.id = id) (fun s => { s with state := state, updatedAt := now })
      db.snapshots }

/-- Commits a rollback or delete of an existing snapshot. -/
def acceptSnapshotAction (action : SnapshotAction) (draws : Draws) (command : SnapshotActionCommand)
    (requestHash : String) : Accepting :=
  unlessReplayed command.toMutationIdentity action.action requestHash do
    let row ← lockInstanceForMutation command.projectId command.instanceId
    lock (.snapshot command.snapshotId)
    let db ← select .snapshot
    match find SnapshotRow.id command.snapshotId db.snapshots with
    | none => refuse .snapshotNotFound "The requested snapshot does not exist."
    | some snapshot =>
      if snapshot.instanceId ≠ row.id then
        refuse .snapshotOwnershipMismatch "The snapshot does not belong to the requested instance."
      else if snapshot.state ≠ .available then
        refuse .instanceBusy "The snapshot is not in a state that accepts this operation."
      else
        let operationId := draws.fresh 0
        let accepted :=
          acceptedMutation operationId snapshot.id (projectStatusUrl command.projectId operationId) draws.now
        let event : LifecycleCommand :=
          { commandEnvelope (draws.fresh 1) row.id command.projectId operationId command.correlationId draws.now with
            data := action.data
              { snapshotId := snapshot.id,
                providerSnapshotReference := snapshot.providerSnapshotName.getD snapshot.name,
                providerProfileId := row.providerProfileId, createOperationId := row.createOperationId.getD "" } }
        return ⟨accepted, fun db =>
          writeSnapshotOperation command.toInstanceRequest action.action requestHash accepted snapshot.id row.id event
            (draws.fresh 2) draws.now (updateSnapshot snapshot.id action.state draws.now db)⟩

/-! ### Retention and purge -/

/-- Moves the active lease of an instance out of `active`. -/
def moveLease (instanceId : Uuid) (mode : LeaseReleaseMode) (db : ControlDb) : ControlDb :=
  { db with
    ipv4Leases := update (fun lease : Ipv4LeaseRow => lease.instanceId = instanceId ∧ lease.state = .active)
      (fun lease => { lease with state := if mode = .releaseOnRetain then .released else .quarantined })
      db.ipv4Leases }

/-- Commits a soft deletion as durable intent. -/
def acceptRetention (draws : Draws) (command : RetainInstanceCommand) (requestHash : String) : Accepting :=
  unlessReplayed command.toMutationIdentity .retainInstance requestHash do
    let row ← lockInstanceForMutation command.projectId command.instanceId
    let db ← select .retentionPolicy
    match db.retentionPolicy with
    | none => .raise (.database "no result")
    | some policy =>
      let retentionDeadline := draws.now + policy.retentionHours * 60 * 60 * 1000
      let operationId := draws.fresh 0
      let accepted := acceptedMutation operationId row.id (projectStatusUrl command.projectId operationId) draws.now
      let event : LifecycleCommand :=
        { commandEnvelope (draws.fresh 1) row.id command.projectId operationId command.correlationId draws.now with
          data := .retention
            { retentionDeadline := retentionDeadline, leaseReleaseMode := policy.leaseReleaseMode,
              providerProfileId := row.providerProfileId, createOperationId := row.createOperationId.getD "" } }
      return ⟨accepted, fun db =>
        writeMutation command.toMutationIdentity requestHash accepted
          (acceptedOperation operationId command.projectId .retainInstance .instance_ row.id draws.now)
          (acceptedDocument operationId command.projectId .retainInstance .instance_ row.id draws.now) row.id
          (fun row => { row with
            lifecycleState := .deleting, retentionDeadline := some retentionDeadline, purgeEligible := false })
          event (draws.fresh 2) draws.now (moveLease row.id policy.leaseReleaseMode db)⟩

/-- Commits an administrative purge as durable intent. -/
def acceptPurge (draws : Draws) (command : PurgeInstanceCommand) (requestHash : String) : Accepting :=
  if command.confirmInstanceId ≠ command.instanceId then
    refuse .validationFailed "The confirmation identifier does not match the instance being purged."
  else
    let scope := adminScope command.actor command.idempotencyKey
    unlessReplayed scope .purgeInstance requestHash do
      lock (.instance_ command.instanceId)
      let db ← select .instance_
      match db.instance_ command.instanceId with
      | none => refuse .instanceNotFound "The requested instance does not exist."
      | some row =>
        if row.activeOperationId.isSome then
          refuse .instanceBusy "Another operation is already in progress for this instance."
        else if row.lifecycleState ≠ .retained then
          refuse .instanceBusy "Only a retained instance can be purged."
        else
          match row.retentionDeadline.filter (· ≤ draws.now) with
          | none => refuse .instanceBusy "The retention period has not expired."
          | some deadline =>
            let operationId := draws.fresh 0
            let purgeAuthorizationId := draws.fresh 3
            let accepted := acceptedMutation operationId row.id s!"/v1/admin/operations/{operationId}" draws.now
            let event : LifecycleCommand :=
              { commandEnvelope (draws.fresh 1) row.id row.projectId operationId command.correlationId draws.now with
                data := .purge
                  { purgeAuthorizationId := purgeAuthorizationId, retentionDeadline := deadline,
                    reasonReference := purgeAuthorizationId, providerProfileId := row.providerProfileId,
                    createOperationId := row.createOperationId.getD "" } }
            return ⟨accepted, writeMutation scope requestHash accepted
              (acceptedOperation operationId row.projectId .purgeInstance .instance_ row.id draws.now)
              (acceptedDocument operationId row.projectId .purgeInstance .instance_ row.id draws.now) row.id
              (fun row => { row with lifecycleState := .purgePending, purgeEligible := true })
              event (draws.fresh 2) draws.now⟩

/-! ### Create -/

/-- Catalog and quota rows resolved once. -/
structure AcceptanceContext where
  providerProfileId : String
  flavor : FlavorRow
  network : NetworkRow
  quota : QuotaRow

/-- The profile of an image, by an inner join. -/
def imageProfile (db : ControlDb) (imageId : String) : Option (ImageRow × ProviderProfileRow) :=
  (find ImageRow.id imageId db.images).bind fun image =>
    (find ProviderProfileRow.id image.providerProfileId db.providerProfiles).map fun profile => (image, profile)

def unavailable : String := "The selected project catalog entry is unavailable."

/-- Resolves the project, catalog and quota rows, and rejects anything unusable. -/
def loadAcceptanceContext (command : CreateInstanceCommand) : Step AcceptanceContext := do
  let db ← select .project
  match find ProjectRow.id command.projectId db.projects with
  | none => refuse .projectNotFound "Project was not found."
  | some project =>
    if !project.enabled then refuse .projectAccessDenied "Project is disabled." else
      let imageDb ← select .image
      let flavorDb ← select .flavor
      let networkDb ← select .network
      let quotaDb ← select .quota
      match (imageProfile imageDb command.imageId).filter (fun found => found.1.enabled),
          enabledFlavor flavorDb command.flavorId,
          (find NetworkRow.id command.networkId networkDb.networks).filter NetworkRow.enabled,
          find QuotaRow.projectId command.projectId quotaDb.quotas with
      | some (_, profile), some flavor, some network, some quota =>
        if profile.state ≠ .active then refuse .profileDisabled "Provider profile is disabled."
        else if profile.networkId ≠ network.id then
          refuse .validationFailed "The selected image and network do not share a provider profile."
        else return ⟨profile.id, flavor, network, quota⟩
      | _, _, _, _ => refuse .validationFailed unavailable

/-- Rejects a request whose instance would exceed the project's quota. -/
def assertQuotaHeadroom (command : CreateInstanceCommand) (context : AcceptanceContext) : Step Unit := do
  let db ← select .usage
  let used := usage db command.projectId
  let flavor := context.flavor
  let quota := context.quota
  if used.instances + 1 > quota.instances ∨ used.cpuCount + flavor.cpuCount > quota.cpuCount ∨
      used.memoryMib + flavor.memoryMib > quota.memoryMib ∨ used.diskGib + flavor.minimumDiskGib > quota.diskGib then
    refuse .quotaExceeded "The create request exceeds project quota."
  else return ()

/-- The leases that occupy an address of a network. -/
def occupied (db : ControlDb) (networkId : String) : List Ipv4LeaseRow :=
  db.ipv4Leases.filter fun lease => lease.networkId = networkId && lease.occupies

/-- Reserves the lowest free address of the network, one transaction at a time. -/
def reserveIpv4Address (host : Host) (context : AcceptanceContext) : Step String := do
  let network := context.network
  lock (.advisory network.id)
  let db ← select .leases
  let leaseRows := occupied db network.id
  if leaseRows.length + 1 > context.quota.ipv4Addresses then
    refuse .quotaExceeded "The create request exceeds IPv4 quota."
  else checked (allocateIpv4 host.number ⟨network.ipv4Cidr, network.gateway, network.exclusions⟩
    (leaseRows.map Ipv4LeaseRow.address))

/-- Narrows a configured DNS list to the 1-4 entries of the event contract. -/
def dnsTuple (values : List String) : Except DomainError (List String) :=
  if values.length < 1 ∨ values.length > 4 then
    .error ⟨.validationFailed, "The configured DNS server list is invalid."⟩
  else .ok values

/-- Narrows an SSH key list to the 0-5 entries of the event contract. -/
def sshTuple (values : List String) : Except DomainError (List String) :=
  if values.length > 5 then .error ⟨.validationFailed, "At most five SSH public keys are accepted."⟩
  else .ok values

/-- The field of the keys in the command, which is left out when there are none. -/
def sshField (values : List String) : Except DomainError (Option (List String)) :=
  if values.length > 0 then (sshTuple values).map some else .ok none

/-- The records that an accepted create writes. -/
structure AcceptanceRecords where
  accepted : AcceptedMutation
  row : InstanceRow
  lease : Ipv4LeaseRow
  operation : OperationView
  operationDocument : OperationView
  document : InstanceView
  event : LifecycleCommand

def buildAcceptanceRecords (host : Host) (draws : Draws) (command : CreateInstanceCommand)
    (context : AcceptanceContext) (address : String) : Except DomainError AcceptanceRecords := do
  let flavor := context.flavor
  let network := context.network
  let instanceId := draws.fresh 3
  let operationId := draws.fresh 0
  -- The allocation has read this prefix length as a number.
  let prefixLength := (((split '/' network.ipv4Cidr)[1]?).bind host.number).getD 0
  let dnsServers ← dnsTuple network.dnsServers
  let sshPublicKeys ← sshField command.sshPublicKeys
  return {
    accepted := acceptedMutation operationId instanceId (projectStatusUrl command.projectId operationId) draws.now,
    row :=
      { id := instanceId, projectId := command.projectId, imageId := command.imageId, flavorId := command.flavorId,
        networkId := command.networkId, providerProfileId := context.providerProfileId, hostname := command.hostname,
        sshPublicKeys := command.sshPublicKeys, desiredCpuCount := flavor.cpuCount,
        desiredMemoryMib := flavor.memoryMib, desiredDiskGib := flavor.minimumDiskGib, desiredPowerState := .running,
        lifecycleState := .pending, activeOperationId := some operationId, createOperationId := some operationId,
        retentionDeadline := none, purgeEligible := false, observed := none },
    lease :=
      { id := draws.fresh 4, projectId := command.projectId, instanceId := instanceId, networkId := network.id,
        address := address, prefixLength := prefixLength, gateway := network.gateway, state := .active },
    operation :=
      { acceptedOperation operationId command.projectId .createInstance .instance_ instanceId draws.now with
        progressPercent := 0, startedAt := none, completedAt := none, errorCategory := none, errorCode := none,
        errorMessage := none },
    operationDocument :=
      { acceptedDocument operationId command.projectId .createInstance .instance_ instanceId draws.now with
        progressPercent := 0, startedAt := none, completedAt := none, errorCategory := none, errorCode := none,
        errorMessage := none },
    document :=
      { id := instanceId, projectId := command.projectId, lifecycleState := .pending,
        desired := ⟨command.imageId, command.flavorId, command.networkId, command.hostname, .running, false⟩,
        observed := none, ipv4Lease := ⟨address, prefixLength, network.gateway, .active⟩,
        activeOperationId := some operationId, drift := "none", lastReconciledAt := none,
        retentionDeadline := none, purgeEligible := false, createdAt := draws.now, updatedAt := draws.now },
    event :=
      { commandEnvelope (draws.fresh 1) instanceId command.projectId operationId command.correlationId draws.now with
        data := .create
          { imageId := command.imageId, flavorId := command.flavorId, networkId := command.networkId,
            providerProfileId := context.providerProfileId, hostname := command.hostname,
            resources := ⟨flavor.cpuCount, flavor.memoryMib, flavor.minimumDiskGib⟩,
            ipv4 := ⟨address, prefixLength, network.gateway, dnsServers⟩, sshPublicKeys := sshPublicKeys } } }

def insertInstance (row : InstanceRow) (document : InstanceView) : Write := fun db => do
  let instances ← insertRow (fun other : InstanceRow => other.id = row.id) row db.instances
  let documents ← insertRow (fun other : InstanceView => other.id = row.id) document db.instanceDocuments
  return { db with instances := instances, instanceDocuments := documents }

/-- Inserts a lease. An instance has one, and only one that occupies it names an
    address of a network. -/
def insertLease (lease : Ipv4LeaseRow) : Write := fun db => do
  let leases ← insertRow
    (fun other : Ipv4LeaseRow => other.id = lease.id || other.instanceId = lease.instanceId ||
      (other.networkId = lease.networkId && other.address = lease.address && other.occupies && lease.occupies))
    lease db.ipv4Leases
  return { db with ipv4Leases := leases }

def writeAcceptanceRecords (identity : MutationIdentity) (records : AcceptanceRecords) (requestHash : String)
    (outboxId : Uuid) (now : Instant) : Write := fun db => do
  let db ← insertInstance records.row records.document db
  let db ← insertOperation records.operation records.operationDocument db
  let db ← insertLease records.lease db
  let db ← insertIdempotencyRecord (idempotencyRecord identity .createInstance requestHash records.accepted) db
  return writeControlOutbox outboxId (.lifecycle records.event) now db

/-- Commits a create request as durable intent. -/
def acceptCreate (host : Host) (draws : Draws) (command : CreateInstanceCommand) (requestHash : String) : Accepting :=
  unlessReplayed command.toMutationIdentity .createInstance requestHash do
    let context ← loadAcceptanceContext command
    assertQuotaHeadroom command context
    let address ← reserveIpv4Address host context
    let records ← checked (buildAcceptanceRecords host draws command context address)
    return ⟨records.accepted,
      writeAcceptanceRecords command.toMutationIdentity records requestHash (draws.fresh 2) draws.now⟩

/-! ### Replay requests -/

def insertReplayRequest (request : ControlReplayRequest) : Write := fun db => do
  let requests ← insertRow
    (fun other : ControlReplayRequest => other.id = request.id ||
      (other.actorId = request.actorId && other.idempotencyKey = request.idempotencyKey))
    request db.replayRequests
  return { db with replayRequests := requests }

/-- Persists an attributed replay intent with its command. -/
def requestDeadLetterReplay (draws : Draws) (command : ReplayDeadLetterCommand) (requestHash : String) : Accepting := do
  lock (.advisory s!"{command.actor}:replay_dead_letter:{command.idempotencyKey}")
  let requests ← select .replayRequest
  let previous := find (fun r : ControlReplayRequest => (r.actorId, r.idempotencyKey))
    (command.actor, command.idempotencyKey) requests.replayRequests
  let db ← select .deadLetter
  match find DeadLetterView.eventId command.originalEventId db.deadLetterDocuments, previous with
  | none, _ => refuse .deadLetterNotFound "The dead letter was not found."
  | some deadLetter, some previous =>
    if previous.requestHash ≠ requestHash then
      refuse .idempotencyConflict "The idempotency key is already bound to different replay intent."
    else
      return ⟨{
        operationId := deadLetter.operationId, targetId := deadLetter.aggregateId, acceptedAt := previous.requestedAt,
        statusUrl := projectStatusUrl deadLetter.projectId deadLetter.operationId, replayed := true }, .ok⟩
  | some deadLetter, none =>
    if !deadLetter.replayAllowed then refuse .replayNotAllowed "This dead letter is not replayable." else
      let replayRequestId := draws.fresh 0
      let event : ProvisioningReplayRequested :=
        { eventId := draws.fresh 1, schemaVersion := 1, aggregateType := "instance",
          aggregateId := deadLetter.aggregateId, projectId := deadLetter.projectId,
          operationId := deadLetter.operationId, correlationId := command.correlationId,
          causationId := command.originalEventId, occurredAt := draws.now, partitionKey := deadLetter.aggregateId,
          replayRequestId := replayRequestId, originalEventId := command.originalEventId, requestedAt := draws.now }
      let request : ControlReplayRequest :=
        { id := replayRequestId, originalEventId := command.originalEventId, actorId := command.actor,
          idempotencyKey := command.idempotencyKey, requestHash := requestHash, reason := command.reason,
          correlationId := command.correlationId, status := .accepted, requestedAt := draws.now }
      return ⟨acceptedMutation deadLetter.operationId deadLetter.aggregateId
          (projectStatusUrl deadLetter.projectId deadLetter.operationId) draws.now,
        fun db => do
          let db ← insertReplayRequest request db
          return writeControlOutbox (draws.fresh 2) (.replayRequest event) draws.now db⟩

end ControlPlane.Acceptance
