import ControlPlane.ProviderPort
import ControlPlane.WorkflowSchema

/-!
The lifecycle workflows of the orchestrator: what a worker does with one claim.
A transition makes at most one provider call and ends with exactly one write to
the store, so the model of a claim is a program that talks to the provider and
returns that write. The eight capabilities share the classification of provider
outcomes, the bounded retry and the ownership identity; each supplies its own
stage table.
-/
namespace ControlPlane.LifecycleWorkflow
open ControlPlane.Programs ControlPlane.Texts ControlPlane.Domain ControlPlane.Commands
open ControlPlane.WorkflowSchema ControlPlane.ProviderPort

/-- What ends a transition without a write: a transport failure that was not
    classified, or a bug of this process. -/
inductive WorkflowError
  | transport (error : ProviderTransportError)
  | defect (message : String)
  deriving DecidableEq, Repr

/-- The one write that a transition ends with. -/
inductive StoreWrite
  | checkpoint (input : CheckpointInput)
  | complete (input : CompleteInput)
  | deadLetterWorkflow (input : DeadLetterWorkflowInput)
  deriving DecidableEq, Repr

namespace StoreWrite

def fence : StoreWrite → Fence
  | .checkpoint input => input.toFence
  | .complete input => input.toFence
  | .deadLetterWorkflow input => input.toFence

/-- The event that a write publishes. -/
def event : StoreWrite → WorkflowEvent
  | .checkpoint input => input.event
  | .complete input => input.event
  | .deadLetterWorkflow input => input.event

end StoreWrite

abbrev Saga (α : Type) := Program ProviderCall ProviderCall.Answer WorkflowError α

/-- Calls the provider; a failed transport raises. -/
def send (call : ProviderCall) : Saga call.Response :=
  .ask call fun
    | .ok response => .done response
    | .error error => .raise (.transport error)

/-- What a transition reads from its process: the worker's identity, its clock
    at the three moments it looks, a random number and random identifiers. -/
structure Surroundings where
  workerId : String
  now : Instant
  occurredAt : Instant
  observedAt : Instant
  random : Rat
  fresh : Nat → Uuid

def taskPollDelayMs : Nat := 500
def maximumRetryAttempts : Nat := 8
def retryBudgetMs : Nat := 15 * 60 * 1000
def retryBackoffBaseMs : Nat := 500
def retryBackoffCeilingMs : Nat := 30000

/-- The stages of a capability whose failure could have applied a provider effect. -/
def mutationStages : WorkflowAction → List WorkflowStage
  | .createInstance => [.submittingCreate, .configuring, .starting]
  | .powerInstance => [.submittingPower]
  | .resizeInstance => [.submittingResize]
  | .createSnapshot | .rollbackSnapshot | .deleteSnapshot => [.submittingSnapshot]
  | .retainInstance => [.submittingRetention]
  | .purgeInstance => [.submittingPurge]
  | .reconcileInstance => []

/-- A provider's failure category in the event contract's vocabulary. -/
def providerFailureCategory : Option FailureCategory → ErrorCategory
  | some .validation | some .quota => .validation
  | some .authentication | some .authorization => .authorization
  | some .conflict => .conflict
  | some .transient => .transient
  | some .unknownOutcome => .unknownOutcome
  | some .compensationFailure => .compensationFailure
  | some .manualReview => .manualReview
  | _ => .permanent

/-- The provider profile that every call of a command is scoped to. -/
def providerProfileId : CommandData → String
  | .create data => data.providerProfileId
  | .power data => data.providerProfileId
  | .resize data => data.providerProfileId
  | .snapshotCreate data => data.providerProfileId
  | .snapshotRollback data => data.providerProfileId
  | .snapshotDelete data => data.providerProfileId
  | .retention data => data.providerProfileId
  | .purge data => data.providerProfileId

/-- The operation whose id is written into the ownership markers: only create
    uses its own. -/
def createOperationId (command : LifecycleCommand) : String :=
  match command.data with
  | .create _ => command.operationId
  | .power data => data.createOperationId
  | .resize data => data.createOperationId
  | .snapshotCreate data => data.createOperationId
  | .snapshotRollback data => data.createOperationId
  | .snapshotDelete data => data.createOperationId
  | .retention data => data.createOperationId
  | .purge data => data.createOperationId

section
variable (host : Host) (around : Surroundings) (workflow : ClaimedWorkflow)

/-! ### What every capability shares -/

/-- The per-call context. The request identity is the same on every replay. -/
def context (step : String) : ProviderCallContext :=
  { requestId := some (workflow.command.operationId ++ ":" ++ step),
    operationId := some workflow.command.operationId, correlationId := some workflow.command.correlationId,
    projectId := some workflow.command.projectId, instanceId := some workflow.command.aggregateId,
    providerProfileId := some (providerProfileId workflow.command.data), attempt := some 1,
    fencingToken := some (toString workflow.fencingToken) }

/-- The labels of this control plane as the owner of the provider resource. -/
def ownership : OwnershipMarkers :=
  { managedBy := some "private-cloud-control-plane", environment := some "lab",
    projectId := some workflow.command.projectId, instanceId := some workflow.command.aggregateId,
    createOperationId := some (createOperationId workflow.command) }

def envelope : Envelope :=
  { eventId := around.fresh 0, schemaVersion := 1, aggregateType := "instance",
    aggregateId := workflow.command.aggregateId, projectId := workflow.command.projectId,
    operationId := workflow.command.operationId, correlationId := workflow.command.correlationId,
    causationId := workflow.command.eventId, occurredAt := around.occurredAt,
    partitionKey := workflow.command.partitionKey }

/-- Who writes, to which workflow, under which token. -/
def fence : Fence := ⟨workflow.command.operationId, around.workerId, workflow.fencingToken⟩

/-- The provider resource id, which must exist by this point. -/
def requiredResource : Saga String :=
  match workflow.providerResourceId with
  | some resource => if resource = "" then missing else .done resource
  | none => missing
where
  missing : Saga String := .raise (.transport (protocolError "Provider resource ID is missing."))

/-- A provider failure in contract form, with safe defaults. -/
def failureValue (failure : Option ProviderFailure) (defaultCode : String) : FailureValue :=
  { category := providerFailureCategory (failure.bind ProviderFailure.category),
    code := (failure.bind ProviderFailure.code).getD defaultCode,
    safeMessage := (failure.bind ProviderFailure.safeMessage).getD "The provider operation failed.",
    retryAfterMilliseconds :=
      ((failure.bind ProviderFailure.retryAfterMilliseconds).filter (· ≠ "")).map host.number }

structure ProgressOptions where
  providerResourceId : Option String := none
  providerTaskReference : Option (Option String) := none
  nextAttemptAt : Option Instant := none
  operationState : OperationState := .running
  retry : Option RetryNote := none

/-- Commits a stage transition with the event that explains it. -/
def progress (stage : WorkflowStage) (options : ProgressOptions) : Saga StoreWrite :=
  .done (.checkpoint
    { toFence := fence around workflow, stage := stage,
      -- The id of the resource is carried forward when a transition does not supply one.
      providerResourceId := (options.providerResourceId.filter (· ≠ "")).or
        (workflow.providerResourceId.filter (· ≠ "")),
      providerTaskReference := options.providerTaskReference, nextAttemptAt := options.nextAttemptAt,
      retry := options.retry,
      event := { envelope around workflow with
        data := .progressed stage workflow.attempt options.operationState options.providerTaskReference.join
          options.nextAttemptAt } })

/-- Writes the terminal failure event. -/
def finishFailure (failure : FailureValue) (status : FinalStatus) : Saga StoreWrite :=
  .done (.complete
    { toFence := fence around workflow, status := status,
      event := { envelope around workflow with
        data := .failed workflow.action failure (if status = .manualReview then .notSafe else .notRequired) } })

/-- Ends the workflow as failed: nothing was built, or nothing can be. -/
def fail (failure : FailureValue) : Saga StoreWrite := finishFailure around workflow failure .failed

/-- Ends the workflow for human attention: something may exist that this process
    can neither prove nor disprove. -/
def manualReview (failure : FailureValue) : Saga StoreWrite := finishFailure around workflow failure .manualReview

/-- Ends the workflow with what was observed. -/
def succeed (lifecycleState : LifecycleState) (observed : Option ObservedState) : Saga StoreWrite := do
  let resource ← requiredResource workflow
  .done (.complete
    { toFence := fence around workflow, status := .succeeded,
      event := { envelope around workflow with
        data := .completed workflow.action lifecycleState (some resource) (around.fresh 1) observed } })

/-- Interprets the outcome of a provider mutation and picks the next stage. -/
def handleMutationResult (result : Option ProviderMutationResult) (acceptedStage synchronousStage : WorkflowStage) :
    Saga StoreWrite :=
  match result with
  | none =>
    fail around workflow
      { category := .permanent, code := "PROVIDER_RESULT_MISSING",
        safeMessage := "The provider response omitted its result." }
  | some result =>
    if result.state = some .unknown then
      manualReview around workflow (failureValue host result.failure "PROVIDER_UNKNOWN")
    else if result.state = some .rejected then
      fail around workflow (failureValue host result.failure "PROVIDER_REJECTED")
    else
      match (result.providerResourceId.or workflow.providerResourceId).filter (· ≠ "") with
      | none =>
        fail around workflow
          { category := .permanent, code := "PROVIDER_RESOURCE_ID_MISSING",
            safeMessage := "The provider response omitted the resource identifier." }
      | some resourceId =>
        if result.state = some .accepted then
          match result.providerTaskReference.filter (· ≠ "") with
          | none =>
            fail around workflow
              { category := .permanent, code := "PROVIDER_TASK_REFERENCE_MISSING",
                safeMessage := "The asynchronous provider response omitted its task reference." }
          | some taskReference =>
            progress around workflow acceptedStage
              { providerResourceId := some resourceId, providerTaskReference := some (some taskReference) }
        else if result.state = some .succeeded then
          progress around workflow synchronousStage { providerResourceId := some resourceId }
        else
          fail around workflow
            { category := .permanent, code := "PROVIDER_RESULT_STATE_INVALID",
              safeMessage := "The provider returned an unsupported result state." }

/-- Interprets a task poll and waits, advances, or ends. -/
def handleTaskResult (response : GetTaskResponse) (successStage : WorkflowStage) (taskReference : String) :
    Saga StoreWrite :=
  if response.state = some .queued ∨ response.state = some .running then
    progress around workflow workflow.stage
      { providerTaskReference := some (some taskReference), nextAttemptAt := some (around.now + taskPollDelayMs) }
  else if response.state = some .succeeded then
    progress around workflow successStage { providerTaskReference := some none }
  else if response.state = some .unknown then
    manualReview around workflow
      { category := .unknownOutcome, code := "PROVIDER_TASK_UNKNOWN",
        safeMessage := "The provider no longer has an authoritative task result." }
  else
    fail around workflow (failureValue host response.failure "PROVIDER_TASK_FAILED")

/-- Checks an asynchronous provider task. -/
def pollTask (successStage : WorkflowStage) : Saga StoreWrite :=
  match workflow.providerTaskReference.filter (· ≠ "") with
  | none =>
    fail around workflow
      { category := .permanent, code := "PROVIDER_TASK_REFERENCE_MISSING",
        safeMessage := "The provider task reference was not persisted." }
  | some taskReference => do
    let response ← send (.getTask
      { context := some (context workflow ("poll-" ++ workflow.stage.text)),
        providerTaskReference := some taskReference })
    handleTaskResult host around workflow response successStage taskReference

/-- Ends a workflow whose retries are exhausted, with its dead letter. -/
def exhaust (stageAttempt : Nat) (error : ProviderTransportError) : Saga StoreWrite :=
  .done (.deadLetterWorkflow
    { toFence := fence around workflow, attempts := stageAttempt, failureCode := "WORKFLOW_RETRY_EXHAUSTED",
      safeMessage := "The provider remained unavailable until the workflow retry policy expired.",
      lastErrorCategory := "provider_transport", lastErrorCode := error.code.text,
      envelope := envelope around workflow, action := workflow.action,
      failure :=
        { category := .transient, code := "WORKFLOW_RETRY_EXHAUSTED",
          safeMessage := "The provider remained unavailable until the workflow retry policy expired." },
      compensationState := .notRequired })

/-- Applies the bounded full-jitter recovery policy. -/
def retryOrDeadLetter (error : ProviderTransportError) : Saga StoreWrite :=
  let retryStartedAt := workflow.retryStartedAt.getD around.now
  let stageAttempt := workflow.stageAttempt + 1
  let remainingBudgetMs : Int := (retryStartedAt + retryBudgetMs : Nat) - (around.now : Int)
  if stageAttempt ≥ maximumRetryAttempts ∨ remainingBudgetMs ≤ 0 then exhaust around workflow stageAttempt error
  else if around.random < 0 ∨ around.random ≥ 1 then
    .raise (.defect "Workflow retry random source must return a value in [0, 1).")
  else
    let exponentialCeiling := min retryBackoffCeilingMs (retryBackoffBaseMs * 2 ^ (stageAttempt - 1))
    let delayMs := min (around.random * exponentialCeiling).floor remainingBudgetMs
    progress around workflow workflow.stage
      { nextAttemptAt := some (around.now + delayMs.toNat), operationState := .retryWait,
        retry := some ⟨stageAttempt, retryStartedAt, "provider_transport", error.code.text⟩ }

/-- Classifies a transport failure by whether the provider may have acted. -/
def handleProviderError (error : ProviderTransportError) : Saga StoreWrite :=
  if (mutationStages workflow.action).contains workflow.stage && error.code ≠ .protocolError then
    manualReview around workflow
      { category := .unknownOutcome, code := "PROVIDER_" ++ toUpperCase error.code.text,
        safeMessage := "The mutation transport failed and its provider outcome is unknown." }
  else if error.retryable then retryOrDeadLetter around workflow error
  else
    fail around workflow
      { category := .permanent, code := "PROVIDER_PROTOCOL_ERROR",
        safeMessage := "The create workflow could not continue safely." }

def stageNotSupported (safeMessage : String) : Saga StoreWrite :=
  fail around workflow { category := .permanent, code := "WORKFLOW_STAGE_INVALID", safeMessage := safeMessage }

/-- The request of a call on the workflow's own resource. -/
def instanceRequest (step : String) : Saga InstanceMutationRequest := do
  let resource ← requiredResource workflow
  return { context := some (context workflow step), providerResourceId := some resource,
           expectedOwnershipMarkers := some (ownership workflow) }

/-- Reads the instance from the provider. -/
def observeInstance (step : String) : Saga (Option InstanceObservation) := do
  let request ← instanceRequest workflow step
  send (.observeInstance request)

/-- The stage table of the capabilities that submit one mutation, poll its task
    and observe its result. -/
def submitPollObserve (submitStage pollStage observeStage : WorkflowStage) (submit observe : Saga StoreWrite) :
    Saga StoreWrite :=
  if workflow.stage = .accepted then progress around workflow submitStage {}
  else if workflow.stage = submitStage then submit
  else if workflow.stage = pollStage then pollTask host around workflow observeStage
  else if workflow.stage = observeStage then observe
  else stageNotSupported around workflow "The persisted workflow stage is not supported by this capability."

end

/-- An observation of an instance that is there and carries exactly its markers. -/
def owned (observation : InstanceObservation) : Bool :=
  observation.existing = some true &&
    observation.ownership.any fun found => found.complete = some true && found.matching = some true

def observedPowerState : Option ObservedPowerState → PowerState
  | some .running => .running
  | some .stopped => .stopped
  | some .suspended => .suspended
  | _ => .unknown

/-- The sizing of an observation, when the provider reported one. -/
def measuredResources (host : Host) (observation : InstanceObservation) : Option MeasuredResources :=
  observation.resources.bind fun resources => resources.cpuCount.map fun cpuCount =>
    { cpuCount := cpuCount, memoryMiB := resources.memoryMib.bind host.number,
      diskGiB := resources.diskGib.bind host.number }

def instanceResources (resources : Resources) : InstanceResources :=
  { cpuCount := some resources.cpuCount, memoryMib := some (toString resources.memoryMiB),
    diskGib := some (toString resources.diskGiB) }

/-! ### Create -/

namespace CreateInstanceWorkflow
variable (host : Host) (around : Surroundings) (workflow : ClaimedWorkflow) (data : CreateData)

def network : NetworkConfiguration :=
  { networkId := some data.networkId, ipv4Address := some data.ipv4.address,
    ipv4PrefixLength := some data.ipv4.prefixLength, ipv4Gateway := some data.ipv4.gateway,
    dnsServers := some data.ipv4.dnsServers }

def submitCreate : Saga StoreWrite := do
  let result ← send (.submitCreateInstance
    { context := some (context workflow "create"), imageId := some data.imageId, flavorId := some data.flavorId,
      hostname := some data.hostname, resources := some (instanceResources data.resources),
      network := some (network data), sshPublicKeys := some (data.sshPublicKeys.getD []),
      ownershipMarkers := some (ownership workflow) })
  handleMutationResult host around workflow result .pollingCreate .configuring

def configure : Saga StoreWrite := do
  let resource ← requiredResource workflow
  let result ← send (.applyInstanceConfiguration
    { context := some (context workflow "configure"), providerResourceId := some resource,
      hostname := some data.hostname, resources := some (instanceResources data.resources),
      network := some (network data), sshPublicKeys := some (data.sshPublicKeys.getD []),
      ownershipMarkers := some (ownership workflow) })
  handleMutationResult host around workflow result .pollingConfiguration .starting

def start : Saga StoreWrite := do
  let request ← instanceRequest workflow "start"
  let result ← send (.startInstance (some request))
  handleMutationResult host around workflow result .pollingStart .observing

/-- Proves that the instance exists, is ours and runs, then completes. -/
def observe : Saga StoreWrite := do
  let observation ← observeInstance workflow "observe"
  match observation.filter fun o => owned o && o.powerState = some .running with
  | none =>
    manualReview around workflow
      { category := .manualReview, code := "CREATE_OBSERVATION_AMBIGUOUS",
        safeMessage := "Provider observation did not prove an owned running instance." }
  | some observation =>
    succeed around workflow .active (some
      { existing := observation.existing = some true, powerState := observedPowerState observation.powerState,
        resources := measuredResources host observation,
        markerMatch := observation.ownership.any fun found => found.matching = some true,
        observedAt := observation.observedAt.getD around.observedAt })

def execute : Saga StoreWrite :=
  match workflow.stage with
  | .accepted => progress around workflow .submittingCreate {}
  | .submittingCreate => submitCreate host around workflow data
  | .pollingCreate => pollTask host around workflow .configuring
  | .configuring => configure host around workflow data
  | .pollingConfiguration => pollTask host around workflow .starting
  | .starting => start host around workflow
  | .pollingStart => pollTask host around workflow .observing
  | .observing => observe host around workflow
  | _ => stageNotSupported around workflow "The persisted workflow stage is not supported."

end CreateInstanceWorkflow

/-! ### Power -/

namespace PowerInstanceWorkflow
variable (host : Host) (around : Surroundings) (workflow : ClaimedWorkflow) (data : PowerData)

/-- The power state that each action is expected to produce. -/
def expectedPowerState : PowerAction → ObservedPowerState
  | .start => .running
  | .reboot => .running
  | .shutdown => .stopped
  | .stop => .stopped

def submitPower : Saga StoreWrite := do
  let request ← instanceRequest workflow ("power-" ++ data.action.text)
  let result ← match data.action with
    | .start => send (.startInstance (some request))
    | .shutdown => send (.shutdownInstance (some request))
    | .stop => send (.stopInstance (some request))
    | .reboot => send (.rebootInstance (some request))
  handleMutationResult host around workflow result .pollingPower .observingPower

def observePower : Saga StoreWrite := do
  let observation ← observeInstance workflow "observe-power"
  match observation.filter owned with
  | none =>
    manualReview around workflow
      { category := .manualReview, code := "POWER_OBSERVATION_AMBIGUOUS",
        safeMessage := "Provider observation did not prove an owned instance after the transition." }
  | some observation =>
    if observation.powerState ≠ some (expectedPowerState data.action) then
      manualReview around workflow
        { category := .manualReview, code := "POWER_STATE_NOT_REACHED",
          safeMessage := "The instance did not reach the requested power state." }
    else
      succeed around workflow .active (some
        { existing := true,
          powerState := if expectedPowerState data.action = .running then .running else .stopped,
          resources := none, markerMatch := true,
          observedAt := observation.observedAt.getD around.observedAt })

def execute : Saga StoreWrite :=
  submitPollObserve host around workflow .submittingPower .pollingPower .observingPower
    (submitPower host around workflow data) (observePower around workflow data)

end PowerInstanceWorkflow

/-! ### Resize -/

namespace ResizeInstanceWorkflow
variable (host : Host) (around : Surroundings) (workflow : ClaimedWorkflow) (data : ResizeData)

def submitResize : Saga StoreWrite := do
  let request ← instanceRequest workflow "resize"
  let result ← send (.resizeInstance
    { request := some request, targetResources := some (instanceResources data.targetResources) })
  handleMutationResult host around workflow result .pollingResize .observingResize

/-- A sizing that was reported and is not the target. A provider that cannot
    measure disagrees with nothing. -/
def disagrees (observation : InstanceObservation) : Bool :=
  (measuredResources host observation).any fun measured =>
    measured.cpuCount ≠ data.targetResources.cpuCount ||
      measured.memoryMiB ≠ some (data.targetResources.memoryMiB : Int) ||
      measured.diskGiB ≠ some (data.targetResources.diskGiB : Int)

def observeResize : Saga StoreWrite := do
  let observation ← observeInstance workflow "observe-resize"
  match observation.filter owned with
  | none =>
    manualReview around workflow
      { category := .manualReview, code := "RESIZE_OBSERVATION_AMBIGUOUS",
        safeMessage := "Provider observation did not prove an owned instance after the resize." }
  | some observation =>
    if disagrees host data observation then
      manualReview around workflow
        { category := .manualReview, code := "RESIZE_NOT_APPLIED",
          safeMessage := "The instance did not reach the requested sizing." }
    else
      succeed around workflow .active (some
        { existing := true, powerState := .unknown, resources := measuredResources host observation,
          markerMatch := true, observedAt := observation.observedAt.getD around.observedAt })

def execute : Saga StoreWrite :=
  submitPollObserve host around workflow .submittingResize .pollingResize .observingResize
    (submitResize host around workflow data) (observeResize host around workflow data)

end ResizeInstanceWorkflow

/-! ### Snapshots -/

namespace SnapshotWorkflow
variable (host : Host) (around : Surroundings) (workflow : ClaimedWorkflow)

def createSnapshot (data : SnapshotCreateData) : Saga StoreWrite := do
  let request ← instanceRequest workflow workflow.action.text
  let result ← send (.createSnapshot
    { request := some request, snapshotId := some data.snapshotId, name := some data.name,
      description := data.description.filter (· ≠ "") })
  handleMutationResult host around workflow result .pollingSnapshot .observingSnapshot

/-- The request of a rollback or a deletion. -/
def snapshotRequest (data : SnapshotActionData) : Saga SnapshotMutationRequest := do
  let request ← instanceRequest workflow workflow.action.text
  return { request := some request, snapshotId := some data.snapshotId,
           providerSnapshotReference := some data.providerSnapshotReference }

def rollbackSnapshot (data : SnapshotActionData) : Saga StoreWrite := do
  let request ← snapshotRequest workflow data
  let result ← send (.rollbackSnapshot (some request))
  handleMutationResult host around workflow result .pollingSnapshot .observingSnapshot

def deleteSnapshot (data : SnapshotActionData) : Saga StoreWrite := do
  let request ← snapshotRequest workflow data
  let result ← send (.deleteSnapshot (some request))
  handleMutationResult host around workflow result .pollingSnapshot .observingSnapshot

/-- Completes when the listing shows what the action was to achieve. `satisfied`
    is told whether the expected name is listed. -/
def observeSnapshot (expectedName : String) (satisfied : Bool → Bool) : Saga StoreWrite := do
  let request ← instanceRequest workflow (workflow.action.text ++ "-observe")
  let snapshots ← send (.listSnapshots request)
  let listing : List ProviderSnapshot := snapshots.getD []
  if satisfied (listing.any fun snapshot => snapshot.name = some expectedName) then
    succeed around workflow .active none
  else
    manualReview around workflow
      { category := .manualReview, code := "SNAPSHOT_STATE_NOT_REACHED",
        safeMessage := "The provider snapshot listing does not reflect the requested change." }

def executeCreate (data : SnapshotCreateData) : Saga StoreWrite :=
  submitPollObserve host around workflow .submittingSnapshot .pollingSnapshot .observingSnapshot
    (createSnapshot host around workflow data) (observeSnapshot around workflow data.name id)

/-- A rollback leaves the listing as it is, so only its task confirms it. -/
def executeRollback (data : SnapshotActionData) : Saga StoreWrite :=
  submitPollObserve host around workflow .submittingSnapshot .pollingSnapshot .observingSnapshot
    (rollbackSnapshot host around workflow data)
    (observeSnapshot around workflow data.providerSnapshotReference fun _ => true)

def executeDelete (data : SnapshotActionData) : Saga StoreWrite :=
  submitPollObserve host around workflow .submittingSnapshot .pollingSnapshot .observingSnapshot
    (deleteSnapshot host around workflow data)
    (observeSnapshot around workflow data.providerSnapshotReference not)

end SnapshotWorkflow

/-! ### Retain -/

namespace RetainInstanceWorkflow
variable (host : Host) (around : Surroundings) (workflow : ClaimedWorkflow) (data : RetentionData)

def submitRetention : Saga StoreWrite := do
  let request ← instanceRequest workflow "retain"
  let result ← send (.markInstanceRetained
    { request := some request, retentionDeadline := some data.retentionDeadline })
  handleMutationResult host around workflow result .pollingRetention .observingRetention

def observeRetention : Saga StoreWrite := do
  let observation ← observeInstance workflow "observe-retention"
  match observation.filter owned with
  | none =>
    manualReview around workflow
      { category := .manualReview, code := "RETENTION_OBSERVATION_AMBIGUOUS",
        safeMessage := "The retained instance could not be observed as present and owned." }
  | some observation =>
    succeed around workflow .retained (some
      { existing := true,
        powerState :=
          if observation.powerState = some .stopped then .stopped
          else if observation.powerState = some .running then .running
          else .unknown,
        resources := none, markerMatch := true,
        observedAt := observation.observedAt.getD around.observedAt })

def execute : Saga StoreWrite :=
  submitPollObserve host around workflow .submittingRetention .pollingRetention .observingRetention
    (submitRetention host around workflow data) (observeRetention around workflow)

end RetainInstanceWorkflow

/-! ### Purge -/

namespace PurgeInstanceWorkflow
variable (host : Host) (around : Surroundings) (workflow : ClaimedWorkflow) (data : PurgeData)

/-- Records the terminal state, with absence as the evidence. -/
def completePurge : Saga StoreWrite :=
  succeed around workflow .purged (some
    { existing := false, powerState := .unknown, resources := none, markerMatch := false,
      observedAt := around.observedAt })

/-- Whether the code reads an answer as an instance that is there. A missing
    observation, or one without the field, reads as an instance that is not. -/
def existsIn (observation : Option InstanceObservation) : Bool :=
  observation.any fun o => o.existing = some true

/-- Proves live provider ownership before destroying anything. -/
def verifyOwnership : Saga StoreWrite := do
  let observation ← observeInstance workflow "verify-purge"
  if !existsIn observation then completePurge around workflow
  else if !observation.any owned then
    manualReview around workflow
      { category := .manualReview, code := "PURGE_OWNERSHIP_NOT_PROVEN",
        safeMessage := "Live provider ownership could not be proven; the purge was not attempted." }
  else progress around workflow .submittingPurge {}

/-- Destroys the provider resource. -/
def submitPurge : Saga StoreWrite := do
  let request ← instanceRequest workflow "purge"
  let result ← send (.purgeInstance
    { request := some request, purgeAuthorizationId := some data.purgeAuthorizationId,
      retentionDeadline := some data.retentionDeadline })
  handleMutationResult host around workflow result .pollingPurge .observingPurge

/-- Asks for the absence of the resource before reporting the purge complete. -/
def observeAbsence : Saga StoreWrite := do
  let observation ← observeInstance workflow "observe-purge"
  if existsIn observation then
    manualReview around workflow
      { category := .manualReview, code := "PURGE_NOT_CONFIRMED",
        safeMessage := "The instance is still present after the purge was submitted." }
  else completePurge around workflow

def execute : Saga StoreWrite :=
  match workflow.stage with
  | .accepted => progress around workflow .verifyingPurge {}
  | .verifyingPurge => verifyOwnership around workflow
  | .submittingPurge => submitPurge host around workflow data
  | .pollingPurge => pollTask host around workflow .observingPurge
  | .observingPurge => observeAbsence around workflow
  | _ => stageNotSupported around workflow "The persisted workflow stage is not supported by this capability."

end PurgeInstanceWorkflow

/-! ### One claim -/

section
variable (host : Host) (around : Surroundings) (workflow : ClaimedWorkflow)

/-- The transition of a claim, by the capability of its command. -/
def execute : Saga StoreWrite :=
  match workflow.command.data with
  | .create data => CreateInstanceWorkflow.execute host around workflow data
  | .power data => PowerInstanceWorkflow.execute host around workflow data
  | .resize data => ResizeInstanceWorkflow.execute host around workflow data
  | .snapshotCreate data => SnapshotWorkflow.executeCreate host around workflow data
  | .snapshotRollback data => SnapshotWorkflow.executeRollback host around workflow data
  | .snapshotDelete data => SnapshotWorkflow.executeDelete host around workflow data
  | .retention data => RetainInstanceWorkflow.execute host around workflow data
  | .purge data => PurgeInstanceWorkflow.execute host around workflow data

/-- Executes a claim, and classifies a transport failure on the way. -/
def runClaimed : Saga StoreWrite :=
  (execute host around workflow).catching fun
    | .transport error => handleProviderError around workflow error
    | .defect message => .raise (.defect message)

end

end ControlPlane.LifecycleWorkflow
