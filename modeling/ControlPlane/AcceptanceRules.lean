import ControlPlane.Acceptance
import ControlPlane.ProjectionStore

/-!
What the acceptance of a request and the projection of an event do to the
tables, stated once: a caller of these rules never unfolds a transaction.
-/
namespace ControlPlane.AcceptanceRules
open ControlPlane.Programs ControlPlane.Programs.Program ControlPlane.Tables ControlPlane.Texts ControlPlane.Domain
open ControlPlane.Commands ControlPlane.WorkflowSchema ControlPlane.ControlSchema ControlPlane.Transactions
open ControlPlane.Acceptance ControlPlane.ProjectionStore

/-! ### Any request -/

inductive Request
  | create (command : CreateInstanceCommand)
  | power (command : PowerInstanceCommand)
  | resize (command : ResizeInstanceCommand)
  | snapshotCreate (command : CreateSnapshotCommand)
  | snapshotAction (action : SnapshotAction) (command : SnapshotActionCommand)
  | retention (command : RetainInstanceCommand)
  | purge (command : PurgeInstanceCommand)
  | replay (command : ReplayDeadLetterCommand)

def accept (host : Host) (draws : Draws) (requestHash : String) : Request → Accepting
  | .create command => acceptCreate host draws command requestHash
  | .power command => acceptPowerAction draws command requestHash
  | .resize command => acceptResize draws command requestHash
  | .snapshotCreate command => acceptSnapshotCreate draws command requestHash
  | .snapshotAction action command => acceptSnapshotAction action draws command requestHash
  | .retention command => acceptRetention draws command requestHash
  | .purge command => acceptPurge draws command requestHash
  | .replay command => requestDeadLetterReplay draws command requestHash

/-- The instance that a tenant's request would mutate. -/
def Request.mutates : Request → Option Uuid
  | .power command => some command.instanceId
  | .resize command => some command.instanceId
  | .snapshotCreate command => some command.instanceId
  | .snapshotAction _ command => some command.instanceId
  | .retention command => some command.instanceId
  | .create _ | .purge _ | .replay _ => none

section
variable {db after : ControlDb} {answer : AcceptedMutation}

/-! ### Shared parts -/

theorem insertRow_ok {Row : Type} {clashes : Row → Bool} {row : Row} {rows more : List Row}
    (inserted : insertRow clashes row rows = .ok more) :
    more = rows ++ [row] ∧ ∀ other ∈ rows, clashes other = false := by
  unfold insertRow at inserted
  cases ended : insert clashes row rows with
  | error _ => rw [ended] at inserted; cases inserted
  | ok result => rw [ended] at inserted; cases inserted; exact insert_ok ended

/-- An acceptance was answered before, or is made now. -/
theorem unlessReplayed_ok {identity : MutationIdentity} {action : WorkflowAction} {requestHash : String}
    {accepting : Accepting}
    (ended : atomically (unlessReplayed identity action requestHash accepting) db = .ok (answer, after)) :
    (after = db ∧ answer.replayed = true) ∨ atomically accepting db = .ok (answer, after) := by
  obtain ⟨_, -, rest⟩ := atomically_bind_ok ended
  obtain ⟨found, read, rest⟩ := atomically_bind_ok rest
  cases found with
  | none => exact .inr rest
  | some replayed =>
    cases rest
    refine .inl ⟨rfl, ?_⟩
    obtain ⟨read, -, matched⟩ := answered_bind_ok read
    split at matched
    next => cases matched
    next =>
      split at matched
      next => cases matched
      next => cases matched; rfl

/-- An instance that can accept a new mutation. -/
structure Idle (db : ControlDb) (projectId instanceId : Uuid) (row : InstanceRow) : Prop where
  id : row.id = instanceId
  found : db.instance_ row.id = some row
  project : row.projectId = projectId
  idle : row.activeOperationId = none
  open_ : mutableLifecycleState row.lifecycleState = true

theorem lockInstanceForMutation_ok {projectId instanceId : Uuid} {row : InstanceRow}
    (locked : Reading.on (lockInstanceForMutation projectId instanceId) db = .ok row) :
    Idle db projectId instanceId row := by
  obtain ⟨_, -, locked⟩ := answered_bind_ok locked
  obtain ⟨_, read, locked⟩ := answered_bind_ok locked
  cases read
  split at locked
  next => cases locked
  next found =>
    split at locked
    next => cases locked
    next idle =>
      split at locked
      next => cases locked
      next open_ =>
        cases locked
        obtain ⟨present, project⟩ := Option.filter_eq_some_iff.mp found
        have id : row.id = instanceId := find_key present
        exact ⟨id, id ▸ present, by simpa using project, by simpa using idle, by simpa using open_⟩

/-- An instance that is taken for an operation, with the command that says so. -/
structure Taken (db after : ControlDb) (row : InstanceRow) (rewrite : InstanceRow → InstanceRow)
    (event : LifecycleCommand) : Prop where
  found : db.instance_ row.id = some row
  idle : row.activeOperationId = none
  about : event.aggregateId = row.id
  keeps : ∀ row, (rewrite row).id = row.id
  unused : ∀ operation ∈ db.operations, operation.id ≠ event.operationId
  instances : after.instances =
    (db.updateInstance row.id fun row => { rewrite row with activeOperationId := some event.operationId }).instances
  operations : ∃ operation, operation.id = event.operationId ∧ after.operations = db.operations ++ [operation]
  outbox : ∃ outboxId occurredAt, after.outbox = db.outbox ++ [⟨outboxId, .lifecycle event, 0, occurredAt⟩]

/-- What the acceptance of a mutation leaves alone. -/
structure Frame (db after : ControlDb) : Prop where
  catalog : after.toCatalog = db.toCatalog
  deadLetters : after.deadLetterDocuments = db.deadLetterDocuments
  receipts : after.eventReceipts = db.eventReceipts

/-- The ways in which a request is accepted. -/
inductive Accepted (db after : ControlDb) (answer : AcceptedMutation) : Request → Prop
  | replayed (request : Request) (same : after = db) (again : answer.replayed = true) : Accepted db after answer request
  | create (command : CreateInstanceCommand) (row : InstanceRow) (lease : Ipv4LeaseRow) (operation : OperationView)
      (event : LifecycleCommand) (first : answer.replayed = false) (fresh : ∀ other ∈ db.instances, other.id ≠ row.id)
      (pending : row.lifecycleState = .pending) (undue : row.retentionDeadline = none)
      (held : row.activeOperationId = some event.operationId) (about : event.aggregateId = row.id)
      (unused : ∀ other ∈ db.operations, other.id ≠ event.operationId) (same : operation.id = event.operationId)
      (leased : lease.instanceId = row.id ∧ lease.state = .active)
      (free : ∀ other ∈ db.ipv4Leases, other.instanceId ≠ lease.instanceId ∧
        (other.networkId = lease.networkId → other.address = lease.address → other.state = .released))
      (instances : after.instances = db.instances ++ [row]) (operations : after.operations = db.operations ++ [operation])
      (leases : after.ipv4Leases = db.ipv4Leases ++ [lease])
      (outbox : ∃ outboxId occurredAt, after.outbox = db.outbox ++ [⟨outboxId, .lifecycle event, 0, occurredAt⟩])
      (frame : Frame db after) : Accepted db after answer (.create command)
  | tenant (request : Request) (row : InstanceRow) (rewrite : InstanceRow → InstanceRow) (event : LifecycleCommand)
      (first : answer.replayed = false) (asks : request.mutates = some row.id)
      (open_ : mutableLifecycleState row.lifecycleState = true) (taken : Taken db after row rewrite event)
      (keeps : ∀ row, (rewrite row).lifecycleState = row.lifecycleState ∧
        (rewrite row).retentionDeadline = row.retentionDeadline)
      (leases : after.ipv4Leases = db.ipv4Leases) (frame : Frame db after) : Accepted db after answer request
  | retention (command : RetainInstanceCommand) (row : InstanceRow) (deadline : Instant) (policy : RetentionPolicy)
      (event : LifecycleCommand) (first : answer.replayed = false) (asks : command.instanceId = row.id)
      (open_ : mutableLifecycleState row.lifecycleState = true) (current : db.retentionPolicy = some policy)
      (taken : Taken db after row (fun row => { row with
        lifecycleState := .deleting, retentionDeadline := some deadline, purgeEligible := false }) event)
      (leases : after.ipv4Leases = (moveLease row.id policy.leaseReleaseMode db).ipv4Leases) (frame : Frame db after) :
      Accepted db after answer (.retention command)
  | purge (command : PurgeInstanceCommand) (row : InstanceRow) (event : LifecycleCommand)
      (first : answer.replayed = false) (retained : row.lifecycleState = .retained)
      (taken : Taken db after row (fun row => { row with lifecycleState := .purgePending, purgeEligible := true }) event)
      (leases : after.ipv4Leases = db.ipv4Leases) (frame : Frame db after) : Accepted db after answer (.purge command)
  | replay (command : ReplayDeadLetterCommand) (event : ProvisioningReplayRequested) (first : answer.replayed = false)
      (instances : after.instances = db.instances) (operations : after.operations = db.operations)
      (leases : after.ipv4Leases = db.ipv4Leases)
      (outbox : ∃ outboxId occurredAt, after.outbox = db.outbox ++ [⟨outboxId, .replayRequest event, 0, occurredAt⟩])
      (frame : Frame db after) : Accepted db after answer (.replay command)

/-! ### What an acceptance writes -/

/-- What the acceptance of a mutation of an existing instance decides to write. -/
structure Mutation where
  operation : OperationView
  row : InstanceRow
  rewrite : InstanceRow → InstanceRow := id
  event : LifecycleCommand
  snapshots : List SnapshotRow → List SnapshotRow := id
  leases : List Ipv4LeaseRow → List Ipv4LeaseRow := id

/-- A mutation and nothing else is written. -/
structure Mutates (db after : ControlDb) (now : Instant) (m : Mutation) : Prop where
  unused : ∀ o ∈ db.operations, o.id ≠ m.operation.id
  undocumented : ∀ o ∈ db.operationDocuments, o.id ≠ m.operation.id
  instances : after.instances = (db.updateInstance m.row.id fun row =>
    { m.rewrite row with activeOperationId := some m.operation.id }).instances
  operations : after.operations = db.operations ++ [m.operation]
  instanceDocuments : after.instanceDocuments =
    (markInstanceBusyInProjection m.row.id m.operation.id now db).instanceDocuments
  operationDocuments : after.operationDocuments = db.operationDocuments ++ [m.operation]
  leases : after.ipv4Leases = m.leases db.ipv4Leases
  snapshots : after.snapshots = m.snapshots db.snapshots
  replayRequests : after.replayRequests = db.replayRequests
  outbox : ∃ outboxId, after.outbox = db.outbox ++ [⟨outboxId, .lifecycle m.event, 0, now⟩]
  frame : Frame db after

theorem writeMutation_ok {identity : MutationIdentity} {requestHash : String} {accepted : AcceptedMutation}
    {operation document : OperationView} {instanceId : Uuid} {rewrite : InstanceRow → InstanceRow}
    {event : LifecycleCommand} {outboxId : Uuid} {now : Instant}
    (written : writeMutation identity requestHash accepted operation document instanceId rewrite event outboxId now db =
      .ok after) :
    (∀ o ∈ db.operations, o.id ≠ operation.id) ∧ (∀ o ∈ db.operationDocuments, o.id ≠ operation.id) ∧
      ∃ records, after = { db with
        instances := (db.updateInstance instanceId fun row =>
          { rewrite row with activeOperationId := some operation.id }).instances,
        operations := db.operations ++ [operation], operationDocuments := db.operationDocuments ++ [document],
        instanceDocuments := (markInstanceBusyInProjection instanceId operation.id now db).instanceDocuments,
        idempotencyRecords := records, outbox := db.outbox ++ [⟨outboxId, .lifecycle event, 0, now⟩] } := by
  obtain ⟨middle, inserted, rest⟩ := bind_ok written
  obtain ⟨operations, first, more⟩ := bind_ok inserted
  obtain ⟨documents, second, same⟩ := bind_ok more
  cases same
  obtain ⟨last, recorded, done⟩ := bind_ok rest
  obtain ⟨records, -, same⟩ := bind_ok recorded
  cases same
  cases done
  obtain ⟨rfl, free⟩ := insertRow_ok first
  obtain ⟨rfl, blank⟩ := insertRow_ok second
  exact ⟨fun o member => by simpa using free o member, fun o member => by simpa using blank o member, _, rfl⟩

/-- A mutation is written over the snapshots and leases that it changes. The
    document of its operation is the row. -/
theorem writeMutation_mutates (m : Mutation) {identity : MutationIdentity} {requestHash : String}
    {accepted : AcceptedMutation} {outboxId : Uuid} {now : Instant}
    (written : writeMutation identity requestHash accepted m.operation m.operation m.row.id m.rewrite m.event outboxId now
      { db with snapshots := m.snapshots db.snapshots, ipv4Leases := m.leases db.ipv4Leases } = .ok after) :
    Mutates db after now m := by
  obtain ⟨unused, undocumented, records, rfl⟩ := writeMutation_ok written
  exact ⟨unused, undocumented, rfl, rfl, rfl, rfl, rfl, rfl, rfl, ⟨outboxId, rfl⟩, rfl, rfl, rfl⟩

theorem writeSnapshotProjection_ok {snapshotId : Uuid} (written : writeSnapshotProjection snapshotId db = .ok after) :
    ∃ documents, after = { db with snapshotDocuments := documents } := by
  unfold writeSnapshotProjection at written
  split at written
  next => cases written
  next => cases written; exact ⟨_, rfl⟩

/-- A snapshot operation is a mutation that also mirrors its snapshot. -/
theorem writeSnapshotOperation_mutates (m : Mutation) {command : InstanceRequest} {action : WorkflowAction}
    {requestHash : String} {accepted : AcceptedMutation} {snapshotId outboxId : Uuid} {now : Instant}
    (operation : m.operation =
      acceptedOperation accepted.operationId command.projectId action .snapshot snapshotId now)
    (rewrite : m.rewrite = id)
    (written : writeSnapshotOperation command action requestHash accepted snapshotId m.row.id m.event outboxId now
      { db with snapshots := m.snapshots db.snapshots, ipv4Leases := m.leases db.ipv4Leases } = .ok after) :
    Mutates db after now m := by
  obtain ⟨middle, mutated, projected⟩ := bind_ok written
  have document : m.operation =
      acceptedDocument accepted.operationId command.projectId action .snapshot snapshotId now := operation
  rw [← document, ← operation, ← rewrite] at mutated
  have mutates := writeMutation_mutates m mutated
  obtain ⟨_, rfl⟩ := writeSnapshotProjection_ok projected
  have ⟨unused, undocumented, instances, operations, documents, views, leases, snapshots, requests, outbox, frame⟩ := mutates
  exact ⟨unused, undocumented, instances, operations, documents, views, leases, snapshots, requests, outbox, frame.1,
    frame.2, frame.3⟩

/-! ### What each request decides to write -/

section
variable (draws : Draws)

def powerMutation (command : PowerInstanceCommand) (row : InstanceRow) : Mutation :=
  { operation := acceptedOperation (draws.fresh 0) command.projectId .powerInstance .instance_ row.id draws.now,
    row := row,
    rewrite := fun row => { row with
      desiredPowerState := if command.action = .start ∨ command.action = .reboot then .running else .stopped },
    event :=
      { commandEnvelope (draws.fresh 1) row.id command.projectId (draws.fresh 0) command.correlationId draws.now with
        data := .power
          { action := command.action, providerProfileId := row.providerProfileId,
            createOperationId := row.createOperationId.getD "" } } }

def resizeMutation (command : ResizeInstanceCommand) (row : InstanceRow) (flavor : FlavorRow) : Mutation :=
  let target := resizeTarget flavor row.sizing command.diskGiB
  { operation := acceptedOperation (draws.fresh 0) command.projectId .resizeInstance .instance_ row.id draws.now,
    row := row,
    rewrite := fun row => { row with
      flavorId := command.flavorId, desiredCpuCount := target.cpuCount, desiredMemoryMib := target.memoryMiB,
      desiredDiskGib := target.diskGiB },
    event :=
      { commandEnvelope (draws.fresh 1) row.id command.projectId (draws.fresh 0) command.correlationId draws.now with
        data := .resize
          { flavorId := command.flavorId, targetResources := target, providerProfileId := row.providerProfileId,
            createOperationId := row.createOperationId.getD "" } } }

/-- The row of a snapshot that is to be taken. -/
def newSnapshot (command : CreateSnapshotCommand) (row : InstanceRow) : SnapshotRow :=
  { id := draws.fresh 3, projectId := command.projectId, instanceId := row.id, name := command.name,
    description := command.description, state := .creating, providerSnapshotName := some command.name,
    createdAt := draws.now, updatedAt := draws.now }

def snapshotCreateMutation (command : CreateSnapshotCommand) (row : InstanceRow) : Mutation :=
  { operation := acceptedOperation (draws.fresh 0) command.projectId .createSnapshot .snapshot (draws.fresh 3) draws.now,
    row := row, snapshots := fun snapshots => snapshots ++ [newSnapshot draws command row],
    event :=
      { commandEnvelope (draws.fresh 1) row.id command.projectId (draws.fresh 0) command.correlationId draws.now with
        data := .snapshotCreate
          { snapshotId := draws.fresh 3, name := command.name, description := command.description.filter (· ≠ ""),
            providerProfileId := row.providerProfileId, createOperationId := row.createOperationId.getD "" } } }

def snapshotActionMutation (action : SnapshotAction) (command : SnapshotActionCommand) (row : InstanceRow)
    (snapshot : SnapshotRow) : Mutation :=
  { operation := acceptedOperation (draws.fresh 0) command.projectId action.action .snapshot snapshot.id draws.now,
    row := row,
    snapshots := update (fun s : SnapshotRow => s.id = snapshot.id)
      (fun s => { s with state := action.state, updatedAt := draws.now }),
    event :=
      { commandEnvelope (draws.fresh 1) row.id command.projectId (draws.fresh 0) command.correlationId draws.now with
        data := action.data
          { snapshotId := snapshot.id,
            providerSnapshotReference := snapshot.providerSnapshotName.getD snapshot.name,
            providerProfileId := row.providerProfileId, createOperationId := row.createOperationId.getD "" } } }

/-- When a retention that is accepted now ends. -/
def retentionDeadline (policy : RetentionPolicy) : Instant := draws.now + policy.retentionHours * 60 * 60 * 1000

def retentionMutation (command : RetainInstanceCommand) (row : InstanceRow) (policy : RetentionPolicy) : Mutation :=
  { operation := acceptedOperation (draws.fresh 0) command.projectId .retainInstance .instance_ row.id draws.now,
    row := row,
    rewrite := fun row => { row with
      lifecycleState := .deleting, retentionDeadline := some (retentionDeadline draws policy), purgeEligible := false },
    event :=
      { commandEnvelope (draws.fresh 1) row.id command.projectId (draws.fresh 0) command.correlationId draws.now with
        data := .retention
          { retentionDeadline := retentionDeadline draws policy, leaseReleaseMode := policy.leaseReleaseMode,
            providerProfileId := row.providerProfileId, createOperationId := row.createOperationId.getD "" } },
    leases := fun leases => (moveLease row.id policy.leaseReleaseMode { ipv4Leases := leases }).ipv4Leases }

def purgeMutation (command : PurgeInstanceCommand) (row : InstanceRow) (deadline : Instant) : Mutation :=
  { operation := acceptedOperation (draws.fresh 0) row.projectId .purgeInstance .instance_ row.id draws.now,
    row := row,
    rewrite := fun row => { row with lifecycleState := .purgePending, purgeEligible := true },
    event :=
      { commandEnvelope (draws.fresh 1) row.id row.projectId (draws.fresh 0) command.correlationId draws.now with
        data := .purge
          { purgeAuthorizationId := draws.fresh 3, retentionDeadline := deadline, reasonReference := draws.fresh 3,
            providerProfileId := row.providerProfileId, createOperationId := row.createOperationId.getD "" } } }

end

/-- The records of a creation and nothing else are written. -/
structure Creates (db after : ControlDb) (now : Instant) (records : AcceptanceRecords) : Prop where
  fresh : ∀ other ∈ db.instances, other.id ≠ records.row.id
  undocumented : ∀ other ∈ db.instanceDocuments, other.id ≠ records.row.id
  unused : ∀ o ∈ db.operations, o.id ≠ records.operation.id
  free : ∀ other ∈ db.ipv4Leases, other.instanceId ≠ records.lease.instanceId ∧
    (other.networkId = records.lease.networkId → other.address = records.lease.address → other.state = .released)
  instances : after.instances = db.instances ++ [records.row]
  operations : after.operations = db.operations ++ [records.operation]
  instanceDocuments : after.instanceDocuments = db.instanceDocuments ++ [records.document]
  operationDocuments : after.operationDocuments = db.operationDocuments ++ [records.operation]
  leases : after.ipv4Leases = db.ipv4Leases ++ [records.lease]
  snapshots : after.snapshots = db.snapshots
  replayRequests : after.replayRequests = db.replayRequests
  outbox : ∃ outboxId, after.outbox = db.outbox ++ [⟨outboxId, .lifecycle records.event, 0, now⟩]
  frame : Frame db after

/-- What the acceptance of a request does to the tables. -/
inductive Effects (host : Host) (draws : Draws) (db after : ControlDb) (answer : AcceptedMutation) : Request → Prop
  | replayed (request : Request) (same : after = db) (again : answer.replayed = true) :
      Effects host draws db after answer request
  | create (command : CreateInstanceCommand) (context : AcceptanceContext) (address : String)
      (records : AcceptanceRecords) (loaded : Reading.on (loadAcceptanceContext command) db = .ok context)
      (reserved : Reading.on (reserveIpv4Address host context) db = .ok address)
      (built : buildAcceptanceRecords host draws command context address = .ok records)
      (creates : Creates db after draws.now records) (answered : answer = records.accepted) :
      Effects host draws db after answer (.create command)
  | power (command : PowerInstanceCommand) (row : InstanceRow)
      (idle : Idle db command.projectId command.instanceId row)
      (mutates : Mutates db after draws.now (powerMutation draws command row)) (first : answer.replayed = false)
      (answered : answer.operationId = draws.fresh 0) : Effects host draws db after answer (.power command)
  | resize (command : ResizeInstanceCommand) (row : InstanceRow) (flavor : FlavorRow)
      (idle : Idle db command.projectId command.instanceId row)
      (offered : enabledFlavor db command.flavorId = some flavor)
      (valid : validateResize row.sizing
        { resizeTarget flavor row.sizing command.diskGiB with
          diskGiB := command.diskGiB.getD (resizeTarget flavor row.sizing command.diskGiB).diskGiB } = .ok ())
      (mutates : Mutates db after draws.now (resizeMutation draws command row flavor)) (first : answer.replayed = false)
      (answered : answer.operationId = draws.fresh 0) : Effects host draws db after answer (.resize command)
  | snapshotCreate (command : CreateSnapshotCommand) (row : InstanceRow)
      (idle : Idle db command.projectId command.instanceId row)
      (fresh : ∀ s ∈ db.snapshots, s.id ≠ draws.fresh 3 ∧ (s.instanceId = row.id → s.name ≠ command.name))
      (mutates : Mutates db after draws.now (snapshotCreateMutation draws command row)) (first : answer.replayed = false)
      (answered : answer.operationId = draws.fresh 0) : Effects host draws db after answer (.snapshotCreate command)
  | snapshotAction (action : SnapshotAction) (command : SnapshotActionCommand) (row : InstanceRow)
      (snapshot : SnapshotRow) (idle : Idle db command.projectId command.instanceId row)
      (found : find SnapshotRow.id command.snapshotId db.snapshots = some snapshot) (own : snapshot.instanceId = row.id)
      (available : snapshot.state = .available)
      (mutates : Mutates db after draws.now (snapshotActionMutation draws action command row snapshot))
      (first : answer.replayed = false) (answered : answer.operationId = draws.fresh 0) :
      Effects host draws db after answer (.snapshotAction action command)
  | retention (command : RetainInstanceCommand) (row : InstanceRow) (policy : RetentionPolicy)
      (idle : Idle db command.projectId command.instanceId row) (current : db.retentionPolicy = some policy)
      (mutates : Mutates db after draws.now (retentionMutation draws command row policy))
      (first : answer.replayed = false) (answered : answer.operationId = draws.fresh 0) :
      Effects host draws db after answer (.retention command)
  | purge (command : PurgeInstanceCommand) (row : InstanceRow) (deadline : Instant)
      (found : db.instance_ row.id = some row) (about : row.id = command.instanceId)
      (idle : row.activeOperationId = none) (retained : row.lifecycleState = .retained)
      (due : row.retentionDeadline = some deadline) (past : deadline ≤ draws.now)
      (mutates : Mutates db after draws.now (purgeMutation draws command row deadline))
      (first : answer.replayed = false) (answered : answer.operationId = draws.fresh 0) :
      Effects host draws db after answer (.purge command)
  | replay (command : ReplayDeadLetterCommand) (letter : DeadLetterView) (request : ControlReplayRequest)
      (event : ProvisioningReplayRequested) (outboxId : Uuid)
      (found : find DeadLetterView.eventId command.originalEventId db.deadLetterDocuments = some letter)
      (allowed : letter.replayAllowed = true)
      (written : after = { db with
        replayRequests := db.replayRequests ++ [request],
        outbox := db.outbox ++ [⟨outboxId, .replayRequest event, 0, draws.now⟩] })
      (first : answer.replayed = false) : Effects host draws db after answer (.replay command)

/-! ### Each request -/

variable {host : Host} {draws : Draws} {requestHash : String}

/-- A commit that was computed before its writes are made. -/
theorem committed_ok {commit : Commit ControlDb StoreError AcceptedMutation}
    (ended : atomically (pure commit : Accepting) db = .ok (answer, after)) :
    commit.answer = answer ∧ commit.write db = .ok after := by
  obtain ⟨_, done, same, written⟩ := atomically_ok ended
  cases done
  exact ⟨same, written⟩

theorem refuse_fails {code : DomainErrorCode} {message : String} {P : Prop}
    (ended : atomically (refuse code message : Accepting) db = .ok (answer, after)) : P := by
  cases ended

theorem checked_on {α : Type} (result : Except DomainError α) :
    Reading.on (checked result) db = result.mapError .domain := by
  cases result <;> rfl

theorem checked_ok {α : Type} {result : Except DomainError α} {value : α}
    (read : Reading.on (checked result) db = .ok value) : result = .ok value := by
  cases result with
  | error _ => cases read
  | ok _ => cases read; rfl

theorem acceptPowerAction_effects {command : PowerInstanceCommand}
    (ended : atomically (acceptPowerAction draws command requestHash) db = .ok (answer, after)) :
    Effects host draws db after answer (.power command) := by
  rcases unlessReplayed_ok ended with ⟨same, again⟩ | ended
  · exact .replayed _ same again
  · obtain ⟨row, locked, rest⟩ := atomically_bind_ok ended
    obtain ⟨rfl, written⟩ := committed_ok rest
    exact .power command row (lockInstanceForMutation_ok locked)
      (writeMutation_mutates (powerMutation draws command row) written) rfl rfl

theorem acceptResize_effects {command : ResizeInstanceCommand}
    (ended : atomically (acceptResize draws command requestHash) db = .ok (answer, after)) :
    Effects host draws db after answer (.resize command) := by
  rcases unlessReplayed_ok ended with ⟨same, again⟩ | ended
  · exact .replayed _ same again
  · obtain ⟨row, locked, rest⟩ := atomically_bind_ok ended
    obtain ⟨_, read, rest⟩ := atomically_bind_ok rest
    cases read
    split at rest
    next => exact refuse_fails rest
    next flavor offered =>
      obtain ⟨_, valid, rest⟩ := atomically_bind_ok rest
      obtain ⟨_, -, rest⟩ := atomically_bind_ok rest
      obtain ⟨rfl, written⟩ := committed_ok rest
      exact .resize command row flavor (lockInstanceForMutation_ok locked) offered (checked_ok valid)
        (writeMutation_mutates (resizeMutation draws command row flavor) written) rfl rfl

theorem acceptSnapshotCreate_effects {command : CreateSnapshotCommand}
    (ended : atomically (acceptSnapshotCreate draws command requestHash) db = .ok (answer, after)) :
    Effects host draws db after answer (.snapshotCreate command) := by
  rcases unlessReplayed_ok ended with ⟨same, again⟩ | ended
  · exact .replayed _ same again
  · obtain ⟨row, locked, rest⟩ := atomically_bind_ok ended
    obtain ⟨_, -, rest⟩ := atomically_bind_ok rest
    obtain ⟨_, -, rest⟩ := atomically_bind_ok rest
    split at rest
    next => exact refuse_fails rest
    next =>
      obtain ⟨rfl, written⟩ := committed_ok rest
      obtain ⟨middle, inserted, written⟩ := bind_ok written
      obtain ⟨snapshots, appended, same⟩ := bind_ok inserted
      cases same
      obtain ⟨rfl, apart⟩ := insertRow_ok appended
      refine .snapshotCreate command row (lockInstanceForMutation_ok locked) (fun s member => ?_)
        (writeSnapshotOperation_mutates (snapshotCreateMutation draws command row) rfl rfl written) rfl rfl
      simpa using apart s member

theorem acceptSnapshotAction_effects {action : SnapshotAction} {command : SnapshotActionCommand}
    (ended : atomically (acceptSnapshotAction action draws command requestHash) db = .ok (answer, after)) :
    Effects host draws db after answer (.snapshotAction action command) := by
  rcases unlessReplayed_ok ended with ⟨same, again⟩ | ended
  · exact .replayed _ same again
  · obtain ⟨row, locked, rest⟩ := atomically_bind_ok ended
    obtain ⟨_, -, rest⟩ := atomically_bind_ok rest
    obtain ⟨_, read, rest⟩ := atomically_bind_ok rest
    cases read
    split at rest
    next => exact refuse_fails rest
    next snapshot found =>
      split at rest
      next => exact refuse_fails rest
      next own =>
        split at rest
        next => exact refuse_fails rest
        next available =>
          obtain ⟨rfl, written⟩ := committed_ok rest
          exact .snapshotAction action command row snapshot (lockInstanceForMutation_ok locked) found (not_not.mp own)
            (not_not.mp available)
            (writeSnapshotOperation_mutates (snapshotActionMutation draws action command row snapshot) rfl rfl written)
            rfl rfl

theorem acceptRetention_effects {command : RetainInstanceCommand}
    (ended : atomically (acceptRetention draws command requestHash) db = .ok (answer, after)) :
    Effects host draws db after answer (.retention command) := by
  rcases unlessReplayed_ok ended with ⟨same, again⟩ | ended
  · exact .replayed _ same again
  · obtain ⟨row, locked, rest⟩ := atomically_bind_ok ended
    obtain ⟨_, read, rest⟩ := atomically_bind_ok rest
    cases read
    split at rest
    next => cases rest
    next policy current =>
      obtain ⟨rfl, written⟩ := committed_ok rest
      exact .retention command row policy (lockInstanceForMutation_ok locked) current
        (writeMutation_mutates (retentionMutation draws command row policy) written) rfl rfl

theorem acceptPurge_effects {command : PurgeInstanceCommand}
    (ended : atomically (acceptPurge draws command requestHash) db = .ok (answer, after)) :
    Effects host draws db after answer (.purge command) := by
  unfold acceptPurge at ended
  split at ended
  next => exact refuse_fails ended
  next =>
    rcases unlessReplayed_ok ended with ⟨same, again⟩ | ended
    · exact .replayed _ same again
    · obtain ⟨_, -, rest⟩ := atomically_bind_ok ended
      obtain ⟨_, read, rest⟩ := atomically_bind_ok rest
      cases read
      split at rest
      next => exact refuse_fails rest
      next row present =>
        have about : row.id = command.instanceId := find_key present
        split at rest
        next => exact refuse_fails rest
        next idle =>
          split at rest
          next => exact refuse_fails rest
          next retained =>
            split at rest
            next => exact refuse_fails rest
            next deadline due =>
              obtain ⟨rfl, written⟩ := committed_ok rest
              obtain ⟨due, past⟩ := Option.filter_eq_some_iff.mp due
              exact .purge command row deadline (about ▸ present) about (by simpa using idle) (not_not.mp retained) due
                (of_decide_eq_true past) (writeMutation_mutates (purgeMutation draws command row deadline) written) rfl rfl

theorem requestDeadLetterReplay_effects {command : ReplayDeadLetterCommand}
    (ended : atomically (requestDeadLetterReplay draws command requestHash) db = .ok (answer, after)) :
    Effects host draws db after answer (.replay command) := by
  obtain ⟨_, -, rest⟩ := atomically_bind_ok ended
  obtain ⟨_, -, rest⟩ := atomically_bind_ok rest
  obtain ⟨_, read, rest⟩ := atomically_bind_ok rest
  cases read
  split at rest
  next => exact refuse_fails rest
  next =>
    split at rest
    next => exact refuse_fails rest
    next =>
      obtain ⟨rfl, written⟩ := committed_ok rest
      cases written
      exact .replayed _ rfl rfl
  next letter found _ =>
    split at rest
    next => exact refuse_fails rest
    next allowed =>
      obtain ⟨rfl, written⟩ := committed_ok rest
      obtain ⟨_, inserted, done⟩ := bind_ok written
      obtain ⟨_, appended, same⟩ := bind_ok inserted
      cases same
      cases done
      obtain ⟨rfl, -⟩ := insertRow_ok appended
      exact .replay command letter _ _ _ found (by simpa using allowed) rfl rfl

theorem insertLease_ok {lease : Ipv4LeaseRow} (occupies : lease.state = .active)
    (inserted : insertLease lease db = .ok after) :
    after = { db with ipv4Leases := db.ipv4Leases ++ [lease] } ∧ ∀ other ∈ db.ipv4Leases,
      other.instanceId ≠ lease.instanceId ∧
        (other.networkId = lease.networkId → other.address = lease.address → other.state = .released) := by
  obtain ⟨leases, appended, same⟩ := bind_ok inserted
  cases same
  obtain ⟨rfl, free⟩ := insertRow_ok appended
  refine ⟨rfl, fun other member => ?_⟩
  have apart := free other member
  simp only [Bool.or_eq_false_iff, decide_eq_false_iff_not] at apart
  refine ⟨apart.1.2, fun network address => ?_⟩
  have released := apart.2
  simpa [network, address, Ipv4LeaseRow.occupies, occupies] using released

theorem writeAcceptanceRecords_ok {identity : MutationIdentity} {records : AcceptanceRecords} {outboxId : Uuid}
    {now : Instant} (active : records.lease.state = .active) (same : records.operationDocument = records.operation)
    (written : writeAcceptanceRecords identity records requestHash outboxId now db = .ok after) :
    Creates db after now records := by
  obtain ⟨first, inserted, written⟩ := bind_ok written
  obtain ⟨instances, appended, inserted⟩ := bind_ok inserted
  obtain ⟨views, documented, same⟩ := bind_ok inserted
  cases same
  obtain ⟨second, inserted, written⟩ := bind_ok written
  obtain ⟨operations, journaled, inserted⟩ := bind_ok inserted
  rw [same] at inserted
  obtain ⟨documents, mirrored, same⟩ := bind_ok inserted
  cases same
  obtain ⟨third, leased, written⟩ := bind_ok written
  obtain ⟨fourth, recorded, done⟩ := bind_ok written
  obtain ⟨_, -, same⟩ := bind_ok recorded
  cases same
  cases done
  obtain ⟨rfl, fresh⟩ := insertRow_ok appended
  obtain ⟨rfl, unseen⟩ := insertRow_ok documented
  obtain ⟨rfl, unused⟩ := insertRow_ok journaled
  obtain ⟨rfl, -⟩ := insertRow_ok mirrored
  obtain ⟨rfl, free⟩ := insertLease_ok active leased
  exact ⟨fun other member => of_decide_eq_false (fresh other member),
    fun other member => of_decide_eq_false (unseen other member),
    fun other member => of_decide_eq_false (unused other member), free, rfl, rfl, rfl, rfl, rfl, rfl, rfl, ⟨outboxId, rfl⟩,
    rfl, rfl, rfl⟩

/-- The records of a creation take what the context resolved. -/
theorem buildAcceptanceRecords_ok {command : CreateInstanceCommand} {context : AcceptanceContext} {address : String}
    {records : AcceptanceRecords} (built : buildAcceptanceRecords host draws command context address = .ok records) :
    records.accepted.replayed = false ∧ records.row.projectId = command.projectId ∧
      records.row.lifecycleState = .pending ∧ records.row.retentionDeadline = none ∧
      records.row.activeOperationId = some records.event.operationId ∧ records.event.aggregateId = records.row.id ∧
      records.operation.id = records.event.operationId ∧ records.lease.instanceId = records.row.id ∧
      records.lease.state = .active ∧
      records.row.sizing = ⟨context.flavor.cpuCount, context.flavor.memoryMib, context.flavor.minimumDiskGib⟩ ∧
      records.operationDocument = records.operation := by
  obtain ⟨dnsServers, -, built⟩ := bind_ok built
  obtain ⟨sshPublicKeys, -, built⟩ := bind_ok built
  cases built
  exact ⟨rfl, rfl, rfl, rfl, rfl, rfl, rfl, rfl, rfl, rfl, rfl⟩

theorem acceptCreate_effects {command : CreateInstanceCommand}
    (ended : atomically (acceptCreate host draws command requestHash) db = .ok (answer, after)) :
    Effects host draws db after answer (.create command) := by
  rcases unlessReplayed_ok ended with ⟨same, again⟩ | ended
  · exact .replayed _ same again
  · obtain ⟨context, loaded, rest⟩ := atomically_bind_ok ended
    obtain ⟨_, -, rest⟩ := atomically_bind_ok rest
    obtain ⟨address, reserved, rest⟩ := atomically_bind_ok rest
    obtain ⟨records, made, rest⟩ := atomically_bind_ok rest
    obtain ⟨rfl, written⟩ := committed_ok rest
    have built := checked_ok made
    obtain ⟨-, -, -, -, -, -, -, -, active, -, same⟩ := buildAcceptanceRecords_ok built
    exact .create command context address records loaded reserved built (writeAcceptanceRecords_ok active same written) rfl

theorem accept_effects {request : Request}
    (ended : atomically (accept host draws requestHash request) db = .ok (answer, after)) :
    Effects host draws db after answer request := by
  cases request with
  | create command => exact acceptCreate_effects ended
  | power command => exact acceptPowerAction_effects ended
  | resize command => exact acceptResize_effects ended
  | snapshotCreate command => exact acceptSnapshotCreate_effects ended
  | snapshotAction action command => exact acceptSnapshotAction_effects ended
  | retention command => exact acceptRetention_effects ended
  | purge command => exact acceptPurge_effects ended
  | replay command => exact requestDeadLetterReplay_effects ended

/-- A mutation of an idle instance takes it. -/
theorem Mutates.taken {now : Instant} {m : Mutation} (mutates : Mutates db after now m)
    (found : db.instance_ m.row.id = some m.row) (idle : m.row.activeOperationId = none)
    (about : m.event.aggregateId = m.row.id) (same : m.event.operationId = m.operation.id)
    (keeps : ∀ row, (m.rewrite row).id = row.id) : Taken db after m.row m.rewrite m.event where
  found := found
  idle := idle
  about := about
  keeps := keeps
  unused o member := same ▸ mutates.unused o member
  instances := same ▸ mutates.instances
  operations := ⟨m.operation, same.symm, mutates.operations⟩
  outbox := mutates.outbox.imp fun _ more => ⟨now, more⟩

/-- A tenant's mutation of an idle instance. -/
theorem Idle.accepted {request : Request} {projectId instanceId : Uuid} {now : Instant} {m : Mutation}
    (idle : Idle db projectId instanceId m.row) (mutates : Mutates db after now m) (first : answer.replayed = false)
    (asks : request.mutates = some instanceId) (about : m.event.aggregateId = m.row.id)
    (same : m.event.operationId = m.operation.id) (leases : m.leases db.ipv4Leases = db.ipv4Leases)
    (keeps : ∀ row, (m.rewrite row).id = row.id ∧ (m.rewrite row).lifecycleState = row.lifecycleState ∧
      (m.rewrite row).retentionDeadline = row.retentionDeadline) : Accepted db after answer request :=
  .tenant request m.row m.rewrite m.event first (idle.id ▸ asks) idle.open_
    (mutates.taken idle.found idle.idle about same fun row => (keeps row).1) (fun row => (keeps row).2)
    (mutates.leases.trans leases) mutates.frame

/-- What every acceptance does. -/
theorem accept_ok {request : Request} (ended : atomically (accept host draws requestHash request) db = .ok (answer, after)) :
    Accepted db after answer request := by
  cases accept_effects ended with
  | replayed _ same again => exact .replayed _ same again
  | create command context address records loaded reserved built creates answered =>
    obtain ⟨first, -, pending, undue, held, about, same, owner, active, -⟩ := buildAcceptanceRecords_ok built
    obtain ⟨outboxId, outbox⟩ := creates.outbox
    exact .create command records.row records.lease records.operation records.event (answered ▸ first) creates.fresh pending
      undue held about (same ▸ creates.unused) same ⟨owner, active⟩ creates.free creates.instances creates.operations
      creates.leases ⟨outboxId, draws.now, outbox⟩ creates.frame
  | power command row idle mutates first answered =>
    exact idle.accepted mutates first rfl rfl rfl rfl fun _ => ⟨rfl, rfl, rfl⟩
  | resize command row flavor idle offered valid mutates first answered =>
    exact idle.accepted mutates first rfl rfl rfl rfl fun _ => ⟨rfl, rfl, rfl⟩
  | snapshotCreate command row idle fresh mutates first answered =>
    exact idle.accepted mutates first rfl rfl rfl rfl fun _ => ⟨rfl, rfl, rfl⟩
  | snapshotAction action command row snapshot idle found own available mutates first answered =>
    exact idle.accepted mutates first rfl rfl rfl rfl fun _ => ⟨rfl, rfl, rfl⟩
  | retention command row policy idle current mutates first answered =>
    exact .retention command row (retentionDeadline draws policy) policy _ first idle.id.symm idle.open_ current
      (mutates.taken idle.found idle.idle rfl rfl fun _ => rfl) mutates.leases mutates.frame
  | purge command row deadline found about idle retained due past mutates first answered =>
    exact .purge command row _ first retained (mutates.taken found idle rfl rfl fun _ => rfl) mutates.leases mutates.frame
  | replay command letter request event outboxId found allowed written first =>
    subst written
    exact .replay command event first rfl rfl rfl ⟨outboxId, draws.now, rfl⟩ ⟨rfl, rfl, rfl⟩

end

/-! ### Projected events -/

/-- The row of an instance after rows of one identifier were rewritten. -/
theorem updated_row (instanceId : Uuid) {rewrite : InstanceRow → InstanceRow} (keeps : ∀ row, (rewrite row).id = row.id)
    {id : Uuid} {row : InstanceRow} {db : ControlDb}
    (found : db.instance_ id = some row) :
    (db.updateInstance instanceId rewrite).instance_ id = some (if id = instanceId then rewrite row else row) := by
  rw [ControlDb.instance_, ControlDb.updateInstance, find_update keeps]
  rw [show find InstanceRow.id id db.instances = some row from found, Option.map_some, find_key found]

/-- What a workflow event makes of the row of its instance. -/
def projectedInstance (event : WorkflowEvent) (row : InstanceRow) : InstanceRow :=
  match event.data with
  | .progressed .. => { row with lifecycleState := .provisioning }
  | .completed _ lifecycleState _ _ observed =>
    completedInstance lifecycleState (observedFromEvent observed event.occurredAt) event.occurredAt row
  | .failed _ failure compensationState => failedInstance failure compensationState row
  | .replayResolved .. => row

@[simp] theorem projectedInstance_id (event : WorkflowEvent) (row : InstanceRow) :
    (projectedInstance event row).id = row.id := by
  unfold projectedInstance; split <;> rfl

@[simp] theorem projectedInstance_retentionDeadline (event : WorkflowEvent) (row : InstanceRow) :
    (projectedInstance event row).retentionDeadline = row.retentionDeadline := by
  unfold projectedInstance; split <;> rfl

/-- A terminal event releases the instance, any other leaves its holder. -/
theorem projectedInstance_activeOperationId (event : WorkflowEvent) (row : InstanceRow) :
    (projectedInstance event row).activeOperationId = if event.data.isTerminal then none else row.activeOperationId := by
  unfold projectedInstance
  split <;> next data => rw [data]; rfl

/-- What a workflow event makes of the document of its instance, whose row is
    read back. -/
def projectedDocument (event : WorkflowEvent) (row : Option InstanceRow) (document : InstanceView) : InstanceView :=
  match event.data with
  | .progressed .. => { document with lifecycleState := .provisioning, updatedAt := event.occurredAt }
  | .completed _ lifecycleState _ _ observed =>
    { document with
      lifecycleState := lifecycleState, observed := some (observedFromEvent observed event.occurredAt),
      activeOperationId := none, drift := DriftClassification.none.text, lastReconciledAt := some event.occurredAt,
      retentionDeadline := row.bind InstanceRow.retentionDeadline,
      purgeEligible := row.any InstanceRow.purgeEligible, updatedAt := event.occurredAt }
  | .failed _ failure compensationState =>
    { document with
      lifecycleState := if manual failure compensationState then .manualReview else .failed,
      activeOperationId := none, updatedAt := event.occurredAt }
  | .replayResolved .. => document

/-- What a workflow event makes of an operation, whose document is `document`. -/
def projectedOperation (event : WorkflowEvent) (document o : OperationView) : OperationView :=
  match event.data with
  | .progressed stage _ operationState _ _ =>
    { o with
      state := operationState, stage := .stage stage, progressPercent := progressPercent (.stage stage),
      startedAt := some (document.startedAt.getD event.occurredAt), updatedAt := event.occurredAt }
  | .completed .. =>
    { o with
      state := .succeeded, stage := .completed, progressPercent := progressPercent .completed,
      updatedAt := event.occurredAt, completedAt := some event.occurredAt, errorCategory := none, errorCode := none,
      errorMessage := none, manualReviewRequired := false }
  | .failed _ failure compensationState =>
    let review := manual failure compensationState
    { o with
      state := if review then .manualReview else .failed, stage := if review then .manualReview else .failed,
      updatedAt := event.occurredAt, completedAt := some event.occurredAt, errorCategory := some failure.category,
      errorCode := some failure.code, errorMessage := some failure.safeMessage, manualReviewRequired := review }
  | .replayResolved .. => o

/-- What an operation is about stays what it was. -/
theorem projectedOperation_same (event : WorkflowEvent) (document o : OperationView) :
    (projectedOperation event document o).id = o.id ∧ (projectedOperation event document o).action = o.action ∧
      (projectedOperation event document o).targetType = o.targetType ∧
      (projectedOperation event document o).targetId = o.targetId := by
  unfold projectedOperation
  split <;> exact ⟨rfl, rfl, rfl, rfl⟩

@[simp] theorem projectedOperation_id (event : WorkflowEvent) (document o : OperationView) :
    (projectedOperation event document o).id = o.id := (projectedOperation_same event document o).1

@[simp] theorem projectedDocument_id (event : WorkflowEvent) (row : Option InstanceRow) (document : InstanceView) :
    (projectedDocument event row document).id = document.id := by
  unfold projectedDocument
  split <;> rfl

/-- The snapshots after a workflow event. -/
def projectedSnapshots (event : WorkflowEvent) (operation : OperationView) (snapshots : List SnapshotRow) :
    List SnapshotRow :=
  match event.data with
  | .completed action _ _ _ _ =>
    (settleSnapshot action operation event.occurredAt { snapshots := snapshots }).snapshots
  | _ => snapshots

/-- What the projection of an event does to the tables. -/
inductive Applied (db after : ControlDb) (event : WorkflowEvent) : Prop
  | documented (document : InstanceView) (operation : OperationView) (views : List SnapshotView)
      (found : find InstanceView.id event.aggregateId db.instanceDocuments = some document)
      (journaled : find OperationView.id event.operationId db.operationDocuments = some operation)
      (present : ∀ action lifecycleState resource evidence observed,
        event.data = .completed action lifecycleState resource evidence observed →
          (db.instance_ event.aggregateId).isSome)
      (same : after = { db with
        instances := (db.updateInstance event.aggregateId (projectedInstance event)).instances,
        operations := (updateOperation event.operationId (projectedOperation event operation) db).operations,
        snapshots := projectedSnapshots event operation db.snapshots, snapshotDocuments := views,
        instanceDocuments := update (fun d : InstanceView => d.id = document.id)
          (fun _ => projectedDocument event (db.instance_ event.aggregateId) document) db.instanceDocuments,
        operationDocuments := update (fun o : OperationView => o.id = operation.id)
          (fun _ => projectedOperation event operation operation) db.operationDocuments }) : Applied db after event
  | resolved (replayRequestId originalEventId : Uuid) (outcome : ReplayOutcome) (replayGeneration : Nat)
      (resolvedAt : Instant) (data : event.data = .replayResolved replayRequestId originalEventId outcome replayGeneration resolvedAt)
      (owned : ∃ r ∈ db.replayRequests, r.id = replayRequestId ∧ r.originalEventId = originalEventId)
      (known : outcome = .completed → ∃ letter, find DeadLetterView.eventId originalEventId db.deadLetterDocuments = some letter)
      (same : after = { db with
        replayRequests := update
          (fun r : ControlReplayRequest => r.id = replayRequestId ∧ r.originalEventId = originalEventId)
          (fun r => { r with status := ReplayOutcome.requestStatus outcome }) db.replayRequests,
        deadLetterDocuments :=
          if outcome = .completed then
            update (fun d : DeadLetterView => d.eventId = originalEventId)
              (fun d => { d with replayAllowed := false, lastReplayAt := some resolvedAt }) db.deadLetterDocuments
          else db.deadLetterDocuments }) : Applied db after event

/-- What the projection of an event leaves alone. -/
structure Projected (db after : ControlDb) (event : WorkflowEvent) : Prop where
  instances : after.instances = (db.updateInstance event.aggregateId (projectedInstance event)).instances
  operations : after.operations.map OperationView.id = db.operations.map OperationView.id
  leases : after.ipv4Leases = db.ipv4Leases
  outbox : after.outbox = db.outbox

section
variable {db after : ControlDb} {event : WorkflowEvent} {delivery : MessageDeliveryIdentity} {now : Instant}

/-- A consumer has a receipt of the event in the generation of the delivery. -/
def Seen (db : ControlDb) (consumerName : ProjectionConsumer) (eventId : Uuid) (replayGeneration : Nat) : Prop :=
  ∃ r ∈ db.eventReceipts, r.consumerName = consumerName ∧ r.eventId = eventId ∧
    r.delivery.replayGeneration = replayGeneration

/-- A receipt that is inserted is the first one of its event and generation. -/
theorem insertReceipt_ok {consumerName : ProjectionConsumer} {eventId : Uuid} {received : Option ControlDb}
    (inserted : insertReceipt db consumerName eventId delivery now = .ok received) :
    (received = none ∧ Seen db consumerName eventId delivery.replayGeneration) ∨
      (¬ Seen db consumerName eventId delivery.replayGeneration ∧
        received = some { db with eventReceipts := db.eventReceipts ++ [⟨consumerName, eventId, delivery, now⟩] }) := by
  simp only [insertReceipt] at inserted
  split at inserted
  next known =>
    cases inserted
    exact .inl ⟨rfl, by simpa [Seen, and_assoc] using known⟩
  next unknown =>
    obtain ⟨receipts, appended, rest⟩ := bind_ok inserted
    cases rest
    obtain ⟨rfl, -⟩ := insert_ok appended
    refine .inr ⟨fun known => unknown ?_, rfl⟩
    simpa [Seen, and_assoc] using known

theorem updateOperation_ids (operationId : Uuid) {rewrite : OperationView → OperationView} (db : ControlDb)
    (keeps : ∀ o, (rewrite o).id = o.id) :
    (updateOperation operationId rewrite db).operations.map OperationView.id = db.operations.map OperationView.id :=
  map_update fun o _ => keeps o

theorem lockDocuments_ok {instanceId operationId : Uuid} {document : InstanceView} {operation : OperationView}
    (locked : lockDocuments db instanceId operationId = .ok (document, operation)) :
    find InstanceView.id instanceId db.instanceDocuments = some document ∧
      find OperationView.id operationId db.operationDocuments = some operation := by
  simp only [lockDocuments] at locked
  split at locked
  next found journaled => cases locked; exact ⟨found, journaled⟩
  next => cases locked

/-- The snapshots and their documents are settled apart from the other tables. -/
theorem settleSnapshot_apart (action : WorkflowAction) (operation : OperationView) (now : Instant) (db : ControlDb) :
    ∃ views, settleSnapshot action operation now db =
      { db with snapshots := (settleSnapshot action operation now { snapshots := db.snapshots }).snapshots,
                snapshotDocuments := views } := by
  unfold settleSnapshot
  by_cases other : operation.targetType = .snapshot
  · by_cases deletes : action = .deleteSnapshot
    · simp only [other, deletes, ne_eq, not_true, if_false, if_true]
      exact ⟨_, rfl⟩
    · simp only [other, deletes, ne_eq, not_true, if_false]
      cases found : find SnapshotRow.id operation.targetId db.snapshots with
      | none => exact ⟨db.snapshotDocuments, rfl⟩
      | some row => exact ⟨_, rfl⟩
  · simp only [ne_eq, other, not_false_iff, if_true]
    exact ⟨db.snapshotDocuments, rfl⟩

theorem applyEvent_applied (applied : applyEvent db event = .ok after) : Applied db after event := by
  obtain ⟨envelope, data⟩ := event
  cases data with
  | progressed stage attempt operationState reference nextActionAt =>
    obtain ⟨⟨document, operation⟩, locked, rest⟩ := bind_ok applied
    obtain ⟨found, journaled⟩ := lockDocuments_ok locked
    cases rest
    exact .documented document operation db.snapshotDocuments found journaled (fun _ _ _ _ _ other => by cases other) rfl
  | completed action lifecycleState resource evidence observed =>
    obtain ⟨⟨document, operation⟩, locked, rest⟩ := bind_ok applied
    obtain ⟨found, journaled⟩ := lockDocuments_ok locked
    dsimp only at rest
    split at rest
    next => cases rest
    next row present =>
      obtain ⟨views, settled⟩ := settleSnapshot_apart action operation envelope.occurredAt _
      rw [settled] at rest
      cases rest
      refine .documented document operation views found journaled (fun _ _ _ _ _ _ => by rw [present]; rfl) ?_
      rw [present]
      rfl
  | failed action failure compensationState =>
    obtain ⟨⟨document, operation⟩, locked, rest⟩ := bind_ok applied
    obtain ⟨found, journaled⟩ := lockDocuments_ok locked
    cases rest
    exact .documented document operation db.snapshotDocuments found journaled (fun _ _ _ _ _ other => by cases other) rfl
  | replayResolved replayRequestId originalEventId outcome replayGeneration resolvedAt =>
    simp only [applyEvent, applyReplayResolved] at applied
    split at applied
    next owned =>
      have owned : ∃ r ∈ db.replayRequests, r.id = replayRequestId ∧ r.originalEventId = originalEventId := by
        simpa using owned
      split at applied
      next rejected =>
        cases applied
        refine .resolved replayRequestId originalEventId outcome replayGeneration resolvedAt rfl owned
          (fun completed => absurd completed rejected) ?_
        rw [if_neg rejected]
      next completed =>
        split at applied
        next => cases applied
        next letter known =>
          cases applied
          refine .resolved replayRequestId originalEventId outcome replayGeneration resolvedAt rfl owned
            (fun _ => ⟨letter, known⟩) ?_
          rw [if_pos (not_not.mp completed)]
    next => cases applied

theorem Applied.projected (applied : Applied db after event) : Projected db after event := by
  cases applied with
  | documented document operation views found journaled present same =>
    subst same
    exact ⟨rfl, updateOperation_ids _ db (projectedOperation_id event operation), rfl, rfl⟩
  | resolved replayRequestId originalEventId outcome generation resolvedAt data owned known same =>
    subst same
    have kept : (db.updateInstance event.aggregateId (projectedInstance event)).instances = db.instances := by
      simp [ControlDb.updateInstance, projectedInstance, data, update]
    exact ⟨kept.symm, rfl, rfl, rfl⟩

theorem applyEvent_ok (applied : applyEvent db event = .ok after) : Projected db after event :=
  (applyEvent_applied applied).projected

/-- An event is a duplicate, or is projected with its receipt. -/
theorem applyWorkflowEvent_cases {fresh : Bool}
    (applied : applyWorkflowEvent db event delivery now = .ok (fresh, after)) :
    (fresh = false ∧ after = db ∧ Seen db .events event.eventId delivery.replayGeneration) ∨
      (fresh = true ∧ ¬ Seen db .events event.eventId delivery.replayGeneration ∧
        applyEvent { db with eventReceipts := db.eventReceipts ++ [⟨.events, event.eventId, delivery, now⟩] } event =
          .ok after) := by
  obtain ⟨received, inserted, rest⟩ := bind_ok applied
  rcases insertReceipt_ok inserted with ⟨rfl, seen⟩ | ⟨unseen, rfl⟩
  · cases rest; exact .inl ⟨rfl, rfl, seen⟩
  · obtain ⟨_, projected, done⟩ := bind_ok rest
    cases done
    exact .inr ⟨rfl, unseen, projected⟩

theorem applyWorkflowEvent_ok {fresh : Bool}
    (applied : applyWorkflowEvent db event delivery now = .ok (fresh, after)) :
    (fresh = false ∧ after = db) ∨ (fresh = true ∧ Projected db after event) := by
  rcases applyWorkflowEvent_cases applied with ⟨duplicate, same, -⟩ | ⟨new, -, projected⟩
  · exact .inl ⟨duplicate, same⟩
  · have ⟨instances, operations, leases, outbox⟩ := applyEvent_ok projected
    exact .inr ⟨new, instances, operations, leases, outbox⟩

/-- The document of a dead letter, as its event tells it. -/
def letterDocument (event : ProvisioningDeadLettered) : DeadLetterView :=
  { eventId := event.originalEventId, schemaName := event.originalSchemaName,
    schemaVersion := event.originalSchemaVersion, aggregateId := event.aggregateId, projectId := event.projectId,
    operationId := event.operationId, category := event.failure.category, safeMessage := event.failure.safeMessage,
    attempts := event.attempts, deadLetteredAt := event.deadLetteredAt, replayAllowed := event.replayAllowed,
    lastReplayAt := none }

/-- The documents of the dead letters after an event about one of them. -/
def lettered (event : ProvisioningDeadLettered) (documents : List DeadLetterView) : List DeadLetterView :=
  if documents.any fun d => d.eventId = event.originalEventId then
    update (fun d : DeadLetterView => d.eventId = event.originalEventId) (fun _ => letterDocument event) documents
  else documents ++ [letterDocument event]

/-- The notice of a dead letter is what its document says. -/
theorem find_lettered (event : ProvisioningDeadLettered) (documents : List DeadLetterView) :
    find DeadLetterView.eventId event.originalEventId (lettered event documents) = some (letterDocument event) := by
  unfold lettered
  split
  next known =>
    obtain ⟨d, member, same⟩ := List.any_eq_true.mp known
    obtain ⟨first, found⟩ := find_isSome member (of_decide_eq_true same)
    rw [find_update_of fun _ same => same.symm, found, Option.map_some, if_pos (find_key found)]
  next unknown =>
    have absent : find DeadLetterView.eventId event.originalEventId documents = none := by
      simpa [find] using unknown
    rw [find_append, absent, Option.none_or]
    simp [find, letterDocument]

/-- A dead letter is a duplicate, or its document is written with its receipt. -/
theorem applyDeadLetterEvent_cases {letter : ProvisioningDeadLettered} {fresh : Bool}
    (applied : applyDeadLetterEvent db letter delivery now = .ok (fresh, after)) :
    (fresh = false ∧ after = db ∧ Seen db .deadLetters letter.eventId delivery.replayGeneration) ∨
      (fresh = true ∧ ¬ Seen db .deadLetters letter.eventId delivery.replayGeneration ∧
        after = { db with
          eventReceipts := db.eventReceipts ++ [⟨.deadLetters, letter.eventId, delivery, now⟩],
          deadLetterDocuments := lettered letter db.deadLetterDocuments }) := by
  obtain ⟨received, inserted, rest⟩ := bind_ok applied
  rcases insertReceipt_ok inserted with ⟨rfl, seen⟩ | ⟨unseen, rfl⟩
  · cases rest; exact .inl ⟨rfl, rfl, seen⟩
  · cases rest; exact .inr ⟨rfl, unseen, rfl⟩

end

end ControlPlane.AcceptanceRules
