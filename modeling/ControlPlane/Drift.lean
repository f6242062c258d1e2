import ControlPlane.LifecycleWorkflow
import ControlPlane.Reconciliation

/-!
What the reconciler finds about an instance, and what it records. The instance is
observed through the provider port, the observation is classified against the
desired state (identity before absence, absence before power and sizing), and the
finding goes to the row of the instance; only a difference is published.
-/
namespace ControlPlane.Drift
open ControlPlane.Programs ControlPlane.Domain ControlPlane.Commands ControlPlane.WorkflowSchema
open ControlPlane.ProviderPort ControlPlane.LifecycleWorkflow ControlPlane.ControlSchema ControlPlane.Reconciliation

/-! ### Classification -/

inductive DesiredPowerState
  | running
  | stopped
  | unchanged
  deriving DecidableEq, Repr

/-- The power state that is wanted, if one is. -/
def DesiredPowerState.wanted : DesiredPowerState → Option PowerState
  | .running => some .running
  | .stopped => some .stopped
  | .unchanged => none

structure DesiredSnapshot where
  lifecycleState : LifecycleState
  powerState : DesiredPowerState
  cpuCount : Nat
  memoryMiB : Nat
  diskGiB : Nat
  deriving DecidableEq, Repr

/-- A measure that was reported without being a number has no value. -/
structure ObservedSnapshot where
  existing : Bool
  powerState : PowerState
  markerMatch : Bool
  cpuCount : Option Nat := none
  memoryMiB : Option (Option Int) := none
  diskGiB : Option (Option Int) := none
  deriving DecidableEq, Repr

/-- A classified difference, and whether correcting it would destroy anything. -/
structure DriftFinding where
  classification : DriftClassification
  dangerous : Bool
  deriving DecidableEq, Repr

/-- Classifies the difference between desired and observed state. -/
def classifyDrift (desired : DesiredSnapshot) (observed : ObservedSnapshot) : DriftFinding :=
  if observed.existing && !observed.markerMatch then ⟨.identityMismatch, true⟩
  else if !observed.existing then
    if desired.lifecycleState = .purged then ⟨.none, false⟩ else ⟨.missingResource, true⟩
  else if observed.powerState = .unknown then ⟨.ambiguous, true⟩
  else if desired.powerState.wanted.any (observed.powerState ≠ ·) then ⟨.powerDrift, false⟩
  else if observed.cpuCount.any (· ≠ desired.cpuCount) || observed.memoryMiB.any (· ≠ some (desired.memoryMiB : Int)) then
    ⟨.networkDrift, false⟩
  -- A larger disk is no drift, and neither is one without a number.
  else if (observed.diskGiB.bind id).any (· < (desired.diskGiB : Int)) then ⟨.networkDrift, false⟩
  else ⟨.none, false⟩

/-- Only what does not exist is found missing. -/
theorem classifyDrift_missing {desired : DesiredSnapshot} {observed : ObservedSnapshot}
    (missing : (classifyDrift desired observed).classification = .missingResource) : observed.existing = false := by
  revert missing
  unfold classifyDrift
  repeat' split
  all_goals simp_all

/-! ### One candidate -/

def desiredPowerState : DesiredPower → DesiredPowerState
  | .running => .running
  | .stopped => .stopped

section
variable (candidate : ReconciliationCandidate)

/-- What is asked of the provider. The call has no fencing token. -/
def observation : InstanceMutationRequest :=
  { context := some
      { requestId := some (candidate.instanceId ++ ":reconcile"), operationId := some candidate.createOperationId,
        correlationId := some candidate.createOperationId, projectId := some candidate.projectId,
        instanceId := some candidate.instanceId, providerProfileId := some candidate.providerProfileId, attempt := some 1 },
    providerResourceId := some candidate.providerResourceId,
    expectedOwnershipMarkers := some
      { managedBy := some "private-cloud-control-plane", environment := some "lab", projectId := some candidate.projectId,
        instanceId := some candidate.instanceId, createOperationId := some candidate.createOperationId } }

def desired : DesiredSnapshot :=
  { lifecycleState := candidate.lifecycleState, powerState := desiredPowerState candidate.desiredPowerState,
    cpuCount := candidate.desiredCpuCount, memoryMiB := candidate.desiredMemoryMiB, diskGiB := candidate.desiredDiskGiB }

end

/-- What the observation shows. A missing one shows an instance that is not there,
    and a sizing counts when it has a number of cores. -/
def observed (host : Host) (observation : Option InstanceObservation) : ObservedSnapshot :=
  let measured := observation.bind (measuredResources host)
  { existing := PurgeInstanceWorkflow.existsIn observation,
    powerState := observedPowerState (observation.bind InstanceObservation.powerState),
    markerMatch := observation.any fun found => found.ownership.any fun ownership => ownership.matching = some true,
    cpuCount := measured.map MeasuredResources.cpuCount, memoryMiB := measured.map MeasuredResources.memoryMiB,
    diskGiB := measured.map MeasuredResources.diskGiB }

structure ReconciliationOutcome where
  instanceId : Uuid
  projectId : Uuid
  drift : DriftClassification
  dangerous : Bool
  existing : Bool
  powerState : PowerState
  markerMatch : Bool
  observedAt : Instant
  deriving DecidableEq, Repr

/-- What is recorded about a candidate. -/
def outcomeOf (host : Host) (candidate : ReconciliationCandidate) (observation : Option InstanceObservation)
    (now : Instant) : ReconciliationOutcome :=
  let observed := observed host observation
  let finding := classifyDrift (desired candidate) observed
  { instanceId := candidate.instanceId, projectId := candidate.projectId, drift := finding.classification,
    dangerous := finding.dangerous, existing := observed.existing, powerState := observed.powerState,
    markerMatch := observed.markerMatch, observedAt := now }

/-- Observes one instance. A provider failure is logged, and nothing is recorded. -/
def reconcile (host : Host) (candidate : ReconciliationCandidate) (now : Instant) :
    Program ProviderCall ProviderCall.Answer Empty (Option ReconciliationOutcome) :=
  .ask (.observeInstance (observation candidate)) fun
    | .error _ => .done none
    | .ok found => .done (some (outcomeOf host candidate found now))

/-! ### What is recorded -/

/-- The columns of an instance that an observation sets. The sizing stays what it was. -/
def recordedInstance (outcome : ReconciliationOutcome) (row : InstanceRow) : InstanceRow :=
  { row with
    drift := outcome.drift, lastReconciledAt := some outcome.observedAt,
    observed := some
      { existing := outcome.existing, powerState := outcome.powerState,
        resources := row.observed.bind ObservedState.resources, markerMatch := outcome.markerMatch,
        observedAt := outcome.observedAt } }

/-- A finding as it is published, with its classification. -/
structure DriftEvent extends Envelope where
  classification : DriftClassification

/-- The event of a finding. A quiet sweep publishes none. -/
def driftEvent (eventId : Uuid) (outcome : ReconciliationOutcome) : Option DriftEvent :=
  if outcome.drift = .none then none
  else some
    { eventId := eventId, schemaVersion := 1, aggregateType := "instance", aggregateId := outcome.instanceId,
      projectId := outcome.projectId, operationId := eventId, correlationId := eventId, causationId := eventId,
      occurredAt := outcome.observedAt, partitionKey := outcome.instanceId, classification := outcome.drift }

/-- Records what a sweep observed, and publishes the finding in the same transaction. -/
def recordObservation (eventId : Uuid) (outcome : ReconciliationOutcome) (db : ControlDb) : ControlDb × Option DriftEvent :=
  (db.updateInstance outcome.instanceId (recordedInstance outcome), driftEvent eventId outcome)

end ControlPlane.Drift
