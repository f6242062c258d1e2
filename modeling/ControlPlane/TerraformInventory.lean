import ControlPlane.Acceptance
import ControlPlane.PlanGate

/-!
The record of the Terraform runs and the inventory of their workspaces, as the
transactions of their store.
-/
namespace ControlPlane.TerraformInventory
open ControlPlane.Tables ControlPlane.Domain ControlPlane.WorkflowSchema ControlPlane.Transactions
open ControlPlane.Acceptance (StoreError insertRow)

/-! ### Tables -/

inductive RunCommand
  | init
  | plan
  | apply
  | refresh
  | destroy
  deriving DecidableEq, Repr

inductive RunStatus
  | running
  | succeeded
  | failed
  | unknown
  deriving DecidableEq, Repr

inductive GateDecision
  | allowed
  | refusedDestructive
  deriving DecidableEq, Repr

inductive DriftState
  | unknown
  | inSync
  | drifted
  | absent
  deriving DecidableEq, Repr

/-- A row of `terraform.runs`. A diagnostic is its JSON text. -/
structure RunRow where
  runId : Uuid
  instanceId : Uuid
  operationId : Uuid
  workspaceName : String
  command : RunCommand
  fencingToken : Int
  executorReference : Option String := none
  status : RunStatus := .running
  gateDecision : Option GateDecision := none
  gateRule : Option String := none
  planActions : Option (List (String × PlanGate.Count)) := none
  exitCode : Option Int := none
  diagnostics : Option (List String) := none
  startedAt : Instant
  finishedAt : Option Instant := none
  deriving DecidableEq, Repr

/-- A row of `terraform.workspaces`. -/
structure WorkspaceRow where
  instanceId : Uuid
  workspaceName : String
  moduleVersion : Option String := none
  providerVersion : Option String := none
  stateSerial : Option Int := none
  stateLineage : Option String := none
  lastRunId : Option Uuid := none
  lastAppliedAt : Option Instant := none
  lastRefreshedAt : Option Instant := none
  driftState : DriftState := .unknown
  driftSummary : Option String := none
  createdAt : Instant
  updatedAt : Instant
  deriving DecidableEq, Repr

/-- The inventory, and the leases that it reads. -/
structure InventoryDb where
  leases : List LeaseRow := []
  runs : List RunRow := []
  workspaces : List WorkspaceRow := []

inductive InventoryQuery
  | lease
  deriving DecidableEq, Repr

/-! ### The store -/

/-- What a run is recorded as before its process starts. The token is a text. -/
structure BeginRunInput where
  runId : Uuid
  instanceId : Uuid
  operationId : Uuid
  workspaceName : String
  command : RunCommand
  fencingToken : String
  executorReference : Option String := none

inductive RunOutcome
  | succeeded
  | failed
  | unknown
  deriving DecidableEq, Repr

def RunOutcome.status : RunOutcome → RunStatus
  | succeeded => .succeeded
  | failed => .failed
  | unknown => .unknown

/-- How a run finished. -/
structure CompleteRunInput where
  runId : Uuid
  fencingToken : String
  status : RunOutcome
  exitCode : Option Int := none
  gateDecision : Option GateDecision := none
  gateRule : Option String := none
  planActions : Option (List (String × PlanGate.Count)) := none
  diagnostics : Option (List String) := none

/-- What an apply or a refresh learned about a workspace. -/
structure RecordWorkspaceInput where
  instanceId : Uuid
  workspaceName : String
  moduleVersion : Option String := none
  providerVersion : Option String := none
  stateSerial : Option Int := none
  stateLineage : Option String := none
  lastRunId : Option Uuid := none
  applied : Bool := false
  refreshed : Bool := false
  driftState : Option DriftState := none
  driftSummary : Option String := none

abbrev InventoryPart (α : Type) : Type := Reading InventoryDb Empty InventoryQuery StoreError α

abbrev InventoryTransaction : Type := InventoryPart (Commit InventoryDb StoreError Unit)

abbrev InventoryWrite : Type := InventoryDb → Except StoreError InventoryDb

def InventoryDb.lease (db : InventoryDb) (instanceId : Uuid) : Option LeaseRow := find LeaseRow.instanceId instanceId db.leases

/-- Refuses a caller whose lease has moved on. An instance without a lease is
    not fenced. -/
def assertFencingToken (instanceId : Uuid) (fencingToken : String) : InventoryPart Unit := do
  let db ← select .lease
  match db.lease instanceId with
  | none => .done ()
  | some lease =>
    if toString lease.fencingToken ≠ fencingToken then
      .raise (.domain ⟨.instanceBusy, "The instance lease has moved to another worker; this run may not be recorded."⟩)
    else .done ()

section
variable (bigint : String → Option Int)

/-- A text as the value of a `bigint` column, when the database reads it as one. -/
def bigintColumn (text : String) : Except StoreError Int :=
  match bigint text with
  | none => .error (.database "invalid input syntax for type bigint")
  | some value => .ok value

def insertRun (input : BeginRunInput) (now : Instant) : InventoryWrite := fun db => do
  let token ← bigintColumn bigint input.fencingToken
  let runs ← insertRow (fun row : RunRow => row.runId = input.runId)
    { runId := input.runId, instanceId := input.instanceId, operationId := input.operationId,
      workspaceName := input.workspaceName, command := input.command, fencingToken := token,
      executorReference := input.executorReference.filter (· ≠ ""), startedAt := now }
    db.runs
  return { db with runs := runs }

/-- Records a run before its process starts. -/
def beginRun (input : BeginRunInput) (now : Instant) : InventoryTransaction := do
  assertFencingToken input.instanceId input.fencingToken
  return ⟨(), insertRun bigint input now⟩

/-- The columns of a run that its outcome sets. -/
def finishedRun (input : CompleteRunInput) (now : Instant) (row : RunRow) : RunRow :=
  { row with
    status := input.status.status, finishedAt := some now, exitCode := input.exitCode.or row.exitCode,
    gateDecision := input.gateDecision.or row.gateDecision,
    gateRule := (input.gateRule.filter (· ≠ "")).or row.gateRule, planActions := input.planActions.or row.planActions,
    diagnostics := input.diagnostics.or row.diagnostics }

/-- The runs that an outcome is written to: a running one, under its token. -/
def completes (input : CompleteRunInput) (token : Int) (row : RunRow) : Bool :=
  row.runId = input.runId && row.fencingToken = token && row.status = .running

def finishRun (input : CompleteRunInput) (now : Instant) : InventoryWrite := fun db => do
  let token ← bigintColumn bigint input.fencingToken
  if !db.runs.any (completes input token) then
    throw (.domain ⟨.instanceBusy, "The run could not be completed: it is already terminal, or the lease has moved."⟩)
  else if db.runs.any fun row => completes input token row && now < row.startedAt then
    throw (.database "new row violates check constraint runs_finished_after_started")
  else
    return { db with runs := update (fun row => completes input token row) (finishedRun input now) db.runs }

/-- Records how a run finished, in one statement. -/
def completeRun (input : CompleteRunInput) (now : Instant) : InventoryTransaction := return ⟨(), finishRun bigint input now⟩

end

/-- A run as it is read back. -/
def readRun (db : InventoryDb) (runId : Uuid) : Option RunRow := find RunRow.runId runId db.runs

/-- The columns of a workspace that a later record sets. Its name stays. -/
def recordedWorkspace (input : RecordWorkspaceInput) (observedAt : Instant) (row : WorkspaceRow) : WorkspaceRow :=
  { row with
    moduleVersion := (input.moduleVersion.filter (· ≠ "")).or row.moduleVersion,
    providerVersion := (input.providerVersion.filter (· ≠ "")).or row.providerVersion,
    stateSerial := input.stateSerial.or row.stateSerial,
    stateLineage := (input.stateLineage.filter (· ≠ "")).or row.stateLineage,
    lastRunId := (input.lastRunId.filter (· ≠ "")).or row.lastRunId,
    lastAppliedAt := if input.applied then some observedAt else row.lastAppliedAt,
    lastRefreshedAt := if input.refreshed then some observedAt else row.lastRefreshedAt,
    driftState := input.driftState.getD row.driftState, driftSummary := input.driftSummary.or row.driftSummary,
    updatedAt := observedAt }

/-- Inserts a workspace, or updates the one of its instance. `registered` tells
    whether the control plane has the instance. -/
def upsertWorkspace (input : RecordWorkspaceInput) (registered : Bool) (observedAt now : Instant) : InventoryWrite :=
  fun db =>
    if (input.lastRunId.filter (· ≠ "")).any fun runId => (readRun db runId).isNone then
      .error (.database "violates foreign key constraint workspaces_last_run_id_fkey")
    else
      match find WorkspaceRow.instanceId input.instanceId db.workspaces with
      | some _ =>
        .ok { db with
          workspaces := update (fun row : WorkspaceRow => row.instanceId = input.instanceId)
            (recordedWorkspace input observedAt) db.workspaces }
      | none =>
        if !registered then .error (.database "violates foreign key constraint workspaces_instance_id_fkey") else do
          let new : WorkspaceRow :=
            { instanceId := input.instanceId, workspaceName := input.workspaceName, createdAt := now, updatedAt := now }
          let workspaces ← insertRow (fun row : WorkspaceRow => row.workspaceName = input.workspaceName)
            { recordedWorkspace input observedAt new with updatedAt := now } db.workspaces
          return { db with workspaces := workspaces }

/-- Records what is now believed of a workspace, in one statement. -/
def recordWorkspace (input : RecordWorkspaceInput) (registered : Bool) (observedAt now : Instant) : InventoryTransaction :=
  return ⟨(), upsertWorkspace input registered observedAt now⟩

end ControlPlane.TerraformInventory
