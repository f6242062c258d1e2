import ControlPlane.TerraformRunner

/-!
The Terraform adapter of the lifecycle port: the checks of each request, the
applies that go on in the background, and the direct operations that a refresh
follows. A method returns its answer and the work that it leaves to the
background.
-/
namespace ControlPlane.TerraformProvider
open ControlPlane.Texts ControlPlane.Programs ControlPlane.Domain ControlPlane.JsonValues ControlPlane.Diagnostics
open ControlPlane.ProviderPort ControlPlane.ProxmoxOwnership ControlPlane.PlanGate ControlPlane.TerraformVariables
open ControlPlane.TerraformRunner
open ControlPlane.TerraformInventory (BeginRunInput CompleteRunInput RecordWorkspaceInput RunRow DriftState)
open ControlPlane.ProxmoxProvider (required)

/-- Work that is not awaited. -/
inductive Background (Numeric : Type)
  | apply (runId : Uuid) (directory : String) (input : ApplyInput Numeric)
  | refresh (instanceId : Uuid) (driftState : DriftState)

/-! ### What a failed run's diagnostics say -/

/-- A character of a word, for `\b`. -/
def isWordCharacter (c : Char) : Bool := ('a' ≤ c && c ≤ 'z') || ('A' ≤ c && c ≤ 'Z') || isDigit c || c = '_'

/-- Whether a text contains a part. -/
def hasPart (part text : List Char) : Bool := text.tails.any part.isPrefixOf

/-- Whether a text contains a part as a word of its own. -/
def hasWord (part : List Char) : Bool → List Char → Bool
  | _, [] => false
  | inside, c :: rest =>
    !inside && part.isPrefixOf (c :: rest) && !((c :: rest).drop part.length).head?.any isWordCharacter ||
      hasWord part (isWordCharacter c) rest

/-- The patterns of a transient condition. -/
def matchesTransient (text : String) : Bool :=
  let lower := text.toList.map Char.toLower
  hasWord "lock".toList false lower ||
    ["is locked", "all attempts fail", "connection refused", "timeout", "temporarily unavailable"].any
      (fun part => hasPart part.toList lower) ||
    hasPart "TransactionIsDestructive".toList text.toList

/-- The patterns of a permanent condition. -/
def matchesPermanent (text : String) : Bool :=
  ["http 403 response", "permission check failed", "http 401 response", "authentication failure", "invalid ticket",
    "invalid csrf", "invalid token", "http 404 response", "does not exist", "no such vm", "no such volume",
    "no such storage", "no such file", "already exists", "parameter verification failed"].any
    fun part => hasPart part.toList (text.toList.map Char.toLower)

/-- The permanent patterns win. -/
def isTransient (diagnostics : Option (List String)) : Bool :=
  match diagnostics with
  | none | some [] => false
  | some listed =>
    let text := "[" ++ ",".intercalate listed ++ "]"
    !matchesPermanent text && matchesTransient text

def directTaskPrefix : String := "upid:"

section
variable {Numeric : Type} (deployment : Deployment Numeric)

/-! ### Checks -/

/-- The ids of the instance and of the operation. -/
def identified (context : Option ProviderCallContext) : Except ProviderTransportError (Uuid × Uuid) := do
  assertProfile deployment.configuration (context.bind ProviderCallContext.providerProfileId)
  match present (context.bind ProviderCallContext.instanceId), present (context.bind ProviderCallContext.operationId) with
  | some instanceId, some operationId => return (instanceId, operationId)
  | _, _ => throw (protocolError "context.instanceId and context.operationId are required.")

/-- The id of the instance alone. -/
def instanceOf (context : Option ProviderCallContext) : Except ProviderTransportError Uuid := do
  assertProfile deployment.configuration (context.bind ProviderCallContext.providerProfileId)
  match present (context.bind ProviderCallContext.instanceId) with
  | some instanceId => return instanceId
  | none => throw (protocolError "context.instanceId is required.")

/-- The ids, and the markers that retention and purge need. -/
def marked (mutation : Option InstanceMutationRequest) : Except ProviderTransportError (Uuid × Uuid × OwnershipMarkers) := do
  let context := mutation.bind InstanceMutationRequest.context
  assertProfile deployment.configuration (context.bind ProviderCallContext.providerProfileId)
  match present (context.bind ProviderCallContext.instanceId), present (context.bind ProviderCallContext.operationId),
    mutation.bind InstanceMutationRequest.expectedOwnershipMarkers with
  | some instanceId, some operationId, some markers => return (instanceId, operationId, markers)
  | _, _, _ => throw (protocolError "context and ownership markers are required.")

/-- The backend cannot be reached. -/
def backendUnreachable : Thrown := .transport ⟨.unavailable, "The state backend is unreachable.", true⟩

/-- A number inside the reservation. -/
def assertVmid (value : Option String) : Except ProviderTransportError Int :=
  match value.bind deployment.host.library.number with
  | some vmid =>
    if vmid < deployment.configuration.resourceIdMinimum ∨ vmid > deployment.configuration.resourceIdMaximum then
      .error (protocolError "VMID is outside the reserved range.")
    else .ok vmid
  | none => .error (protocolError "VMID is outside the reserved range.")

/-- The direct client, where one is configured. -/
def direct : Method Numeric Unit :=
  if !deployment.direct then
    .raise (.transport (protocolError
      "This deployment has no direct Proxmox client, so snapshots, reboot and hard stop are unavailable."))
  else return ()

def assertLiveOwnership (vmid : Int) (expected : Option OwnershipMarkers) : Method Numeric Unit :=
  match expected with
  | none => .raise (.transport (protocolError "Ownership markers are required."))
  | some expected => do
    direct deployment
    let config ← perform (.config vmid)
    let description := match Json.optional "description" config with
      | some (.str description) => some description
      | _ => none
    if !markersMatch (parseOwnership deployment.host.library description) expected then
      .raise (.transport (protocolError "Provider ownership could not be proven."))
    else return ()

/-! ### State -/

/-- The state document, if it was shown and parses. -/
def readState (directory : String) : Method Numeric (Option Json) := do
  let shown ← startInvocation .showState directory
  if shown.exitCode ≠ 0 then return none else return deployment.host.parse shown.stdout

/-- The variables that the state document declares. -/
def declaredState (directory : String) : Method Numeric (Option (InstanceTfvars Numeric)) := do
  let state ← readState deployment directory
  evaluated (tfvarsFromState deployment.host deployment.configuration state)

/-- Work that is already done. -/
def alreadyDone (declared : InstanceTfvars Numeric) : ProviderMutationResult :=
  { state := some .succeeded, providerResourceId := some (deployment.host.print declared.vmId) }

/-! ### Applies -/

/-- A diagnostic of the adapter itself. -/
def noOutcome (message : String) : TerraformDiagnostic :=
  { severity := .text (units "error"), summary := .text (units "The Terraform run did not report an outcome."),
    detail := some (.text (units message)) }

def messageOf (thrown : Thrown) : String :=
  match thrown with
  | .transport error => error.message
  | .failed message => message
  | .typeError => deployment.typeErrorMessage

/-- The record of an apply that ended. -/
def appliedOutcome (runId : Uuid) (input : ApplyInput Numeric) (gate : GateResult) (apply : InvocationResult) :
    CompleteRunInput :=
  { runId, fencingToken := input.fencingToken, status := if apply.exitCode = 0 then .succeeded else .failed,
    exitCode := some apply.exitCode, gateDecision := some .allowed, planActions := some gate.actionCounts,
    diagnostics := some (apply.diagnostics.map deployment.printDiagnostic) }

/-- The record of a run whose outcome was not reported. -/
def unknownOutcome (runId : Uuid) (input : ApplyInput Numeric) (thrown : Thrown) : CompleteRunInput :=
  { runId, fencingToken := input.fencingToken, status := .unknown,
    diagnostics := some [deployment.printDiagnostic (noOutcome (messageOf deployment thrown))] }

/-- The record of a plan that was refused. -/
def refusedOutcome (runId : Uuid) (input : ApplyInput Numeric) (gate : GateResult) (invocation : InvocationResult) :
    CompleteRunInput :=
  { runId, fencingToken := input.fencingToken, status := .failed, exitCode := some invocation.exitCode,
    gateDecision := some .refusedDestructive, gateRule := (gate.rule.filter Json.truthy).map deployment.columnText,
    planActions := some gate.actionCounts, diagnostics := some (invocation.diagnostics.map deployment.printDiagnostic) }

/-- What is recorded of the workspace once its apply ended. -/
def recordApplied (runId : Uuid) (directory : String) (input : ApplyInput Numeric) (apply : InvocationResult) :
    Method Numeric Unit := do
  if apply.exitCode = 0 then
    let (serial, lineage) ← (if input.purge then pure (none, none) else stateMetadata deployment directory)
    perform (.recordWorkspace
      { instanceId := input.instanceId, workspaceName := input.workspace, lastRunId := some runId, applied := true,
        driftState := some (if input.purge then .absent else .inSync), stateSerial := serial, stateLineage := lineage })
    if input.purge then
      quietly do
        let _ ← deleteWorkspace directory input.workspace
  else
    perform (.recordWorkspace
      { instanceId := input.instanceId, workspaceName := input.workspace, lastRunId := some runId,
        driftState := some .unknown })

/-- Plans again, applies and records. -/
def applyAndRecord (runId : Uuid) (directory : String) (input : ApplyInput Numeric) : Method Numeric Unit := do
  let (gate, _) ← plan deployment directory input.purge
  let result ← apply directory gate
  perform (.completeRun (appliedOutcome deployment runId input gate result))
  recordApplied deployment runId directory input result

/-- An apply after the caller was answered. Only the name of the workspace is discarded. -/
def completeInBackground (runId : Uuid) (directory : String) (input : ApplyInput Numeric) : Method Numeric Unit :=
  Program.ensuring
    (Program.catching (applyAndRecord deployment runId directory input)
      fun thrown => quietly (perform (.completeRun (unknownOutcome deployment runId input thrown))))
    (quietly (discard deployment input.workspace))

/-- Refuses a plan, and records it. -/
def refuseApply (runId : Uuid) (input : ApplyInput Numeric) (gate : GateResult) (invocation : InvocationResult) :
    Method Numeric (ProviderMutationResult × Option (Background Numeric)) := do
  perform (.completeRun (refusedOutcome deployment runId input gate invocation))
  quietly (discard deployment input.workspace)
  return (failure .permanent "TERRAFORM_PLAN_REFUSED"
    "The change was refused because it would destroy a provider resource.", none)

/-- Prepares, gates and records a run, and leaves its apply to the background. -/
def startApply (input : ApplyInput Numeric) : Method Numeric (ProviderMutationResult × Option (Background Numeric)) := do
  let runId ← perform .randomUUID
  let directory ← prepare deployment input.workspace input.tfvars input.purge
  let initialized ← init directory input.workspace
  if initialized.exitCode ≠ 0 then
    quietly (discard deployment input.workspace)
    .raise backendUnreachable
  else do
    let (gate, invocation) ← plan deployment directory input.purge
    let command := if gate.decision = .allowed then .apply else .plan
    perform (.beginRun
      { runId, instanceId := input.instanceId, operationId := input.operationId, workspaceName := input.workspace, command,
        fencingToken := input.fencingToken })
    if gate.decision ≠ .allowed then refuseApply deployment runId input gate invocation
    else
      return ({ state := some .accepted, providerResourceId := some (deployment.host.print input.vmId),
                providerTaskReference := some runId }, some (.apply runId directory input))

def submitCreateInstance (request : SubmitCreateInstanceRequest) :
    Method Numeric (ProviderMutationResult × Option (Background Numeric)) := do
  match ← checked (createInput deployment.host deployment.configuration request) with
  | .error refused => return (refused, none)
  | .ok input => startApply deployment input

/-- The read that the changes of an instance begin with: the state of its workspace in
    a directory of its own, or a refusal that names the change. -/
def readDeclared (workspace : String) (purge : Bool) (change : String) :
    Method Numeric (Except ProviderMutationResult (String × InstanceTfvars Numeric)) := do
  let directory ← prepare deployment workspace (probeTfvars deployment.host deployment.configuration) purge
  let initialized ← init directory workspace
  if initialized.exitCode ≠ 0 then
    quietly (discard deployment directory)
    .raise backendUnreachable
  else
    match ← declaredState deployment directory with
    | none =>
      quietly (discard deployment directory)
      return .error (failure .unknownOutcome "TERRAFORM_STATE_ABSENT"
        ("The instance has no Terraform state to " ++ change ++ "."))
    | some declared => return .ok (directory, declared)

def setPowerState (request : InstanceMutationRequest) (started : Bool) :
    Method Numeric (ProviderMutationResult × Option (Background Numeric)) := do
  let (instanceId, operationId) ← checked (identified deployment request.context)
  let workspace := workspaceNameFor instanceId
  match ← readDeclared deployment workspace false "change" with
  | .error refused => return (refused, none)
  | .ok (directory, declared) =>
    if declared.started = started then
      quietly (discard deployment directory)
      return (alreadyDone deployment declared, none)
    else
      startApply deployment
        { instanceId, operationId, workspace, vmId := declared.vmId, tfvars := { declared with started := started },
          fencingToken := fencingTokenFrom request.context }

def startInstance (request : Option InstanceMutationRequest) :
    Method Numeric (ProviderMutationResult × Option (Background Numeric)) :=
  setPowerState deployment (request.getD {}) true

def shutdownInstance (request : Option InstanceMutationRequest) :
    Method Numeric (ProviderMutationResult × Option (Background Numeric)) :=
  setPowerState deployment (request.getD {}) false

/-- Whether the requested disk is smaller than the declared one. -/
def shrinks (target : Option InstanceResources) (declared : InstanceTfvars Numeric) : Bool :=
  ((target.bind InstanceResources.diskGib).map deployment.host.number).any fun disk =>
    deployment.host.less disk declared.diskGib

def resizeInstance (request : ResizeInstanceRequest) :
    Method Numeric (ProviderMutationResult × Option (Background Numeric)) := do
  let context := request.request.bind InstanceMutationRequest.context
  let (instanceId, operationId) ← checked (identified deployment context)
  let workspace := workspaceNameFor instanceId
  match ← readDeclared deployment workspace false "resize" with
  | .error refused => return (refused, none)
  | .ok (directory, declared) =>
    if shrinks deployment request.targetResources declared then
      quietly (discard deployment directory)
      return (failure .validation "DISK_SHRINK_FORBIDDEN" "Disk size can grow but never shrink.", none)
    else
      startApply deployment
        { instanceId, operationId, workspace, vmId := declared.vmId,
          tfvars := (Change.resize request.targetResources).apply deployment.host declared,
          fencingToken := fencingTokenFrom context }

def markInstanceRetained (request : MarkInstanceRetainedRequest) :
    Method Numeric (ProviderMutationResult × Option (Background Numeric)) := do
  let (instanceId, operationId, markers) ← checked (marked deployment request.request)
  let workspace := workspaceNameFor instanceId
  match ← readDeclared deployment workspace false "retain" with
  | .error refused => return (refused, none)
  | .ok (_, declared) =>
    let deadline := (request.retentionDeadline.map deployment.host.library.isoText).getD ""
    startApply deployment
      { instanceId, operationId, workspace, vmId := declared.vmId,
        tfvars := (Change.retain markers deadline).apply deployment.host declared,
        fencingToken := fencingTokenFrom (request.request.bind InstanceMutationRequest.context) }

def purgeInstance (request : PurgeInstanceRequest) :
    Method Numeric (ProviderMutationResult × Option (Background Numeric)) := do
  let (instanceId, operationId, markers) ← checked (marked deployment request.request)
  if (present request.purgeAuthorizationId).isNone then
    .raise (.transport (protocolError "purgeAuthorizationId is required."))
  else do
    let vmid ← checked (assertVmid deployment (request.request.bind InstanceMutationRequest.providerResourceId))
    assertLiveOwnership deployment vmid (some markers)
    let workspace := workspaceNameFor instanceId
    match ← readDeclared deployment workspace true "purge" with
    | .error refused => return (refused, none)
    | .ok (_, declared) =>
      startApply deployment
        { instanceId, operationId, workspace, vmId := declared.vmId, tfvars := declared,
          fencingToken := fencingTokenFrom (request.request.bind InstanceMutationRequest.context), purge := true }

/-! ### Direct operations -/

/-- A workspace that cannot be trusted. -/
def recordUnknown (instanceId : Uuid) : Method Numeric Unit :=
  quietly (perform (.recordWorkspace
    { instanceId, workspaceName := workspaceNameFor instanceId, driftState := some .unknown }))

/-- Refreshes the state and records it. -/
def refreshAndRecord (directory : String) (instanceId : Uuid) (driftState : DriftState) : Method Numeric Unit := do
  let workspace := workspaceNameFor instanceId
  let initialized ← init directory workspace
  if initialized.exitCode ≠ 0 then return ()
  else do
    let _ ← startInvocation .refresh directory
    let (serial, lineage) ← stateMetadata deployment directory
    perform (.recordWorkspace
      { instanceId, workspaceName := workspace, refreshed := true, driftState := some driftState, stateSerial := serial,
        stateLineage := lineage })

/-- The refresh after a change that Terraform did not make. -/
def refreshAfterDirectMutation (instanceId : Uuid) (driftState : DriftState) : Method Numeric Unit := do
  match ← (prepare deployment (workspaceNameFor instanceId) (probeTfvars deployment.host deployment.configuration)
      false).attempt with
  | .error _ => recordUnknown instanceId
  | .ok directory =>
    Program.ensuring
      (Program.catching (refreshAndRecord deployment directory instanceId driftState) fun _ => recordUnknown instanceId)
      (quietly (discard deployment directory))

/-- Work that is left to the background. -/
def background : Background Numeric → Method Numeric Unit
  | .apply runId directory input => completeInBackground deployment runId directory input
  | .refresh instanceId driftState => refreshAfterDirectMutation deployment instanceId driftState

/-- A direct operation, and the refresh that it makes necessary. -/
def directMutation (request : InstanceMutationRequest) (act : Int → Method Numeric String) (driftState : DriftState) :
    Method Numeric (ProviderMutationResult × Option (Background Numeric)) := do
  let instanceId ← checked (instanceOf deployment request.context)
  let vmid ← checked (assertVmid deployment request.providerResourceId)
  assertLiveOwnership deployment vmid request.expectedOwnershipMarkers
  direct deployment
  let upid ← act vmid
  return ({ state := some .accepted, providerResourceId := some (toString vmid),
            providerTaskReference := some (directTaskPrefix ++ upid) }, some (.refresh instanceId driftState))

def stopInstance (request : Option InstanceMutationRequest) :
    Method Numeric (ProviderMutationResult × Option (Background Numeric)) :=
  directMutation deployment (request.getD {}) (fun vmid => perform (.stopHard vmid)) .inSync

def rebootInstance (request : Option InstanceMutationRequest) :
    Method Numeric (ProviderMutationResult × Option (Background Numeric)) :=
  directMutation deployment (request.getD {}) (fun vmid => perform (.reboot vmid)) .inSync

def snapshotMutation (mutation : Option InstanceMutationRequest) (act : Int → Method Numeric String)
    (driftState : DriftState) : Method Numeric (ProviderMutationResult × Option (Background Numeric)) :=
  match mutation with
  | none => .raise (.transport (protocolError "request is required."))
  | some mutation => directMutation deployment mutation act driftState

def createSnapshot (request : CreateSnapshotRequest) :
    Method Numeric (ProviderMutationResult × Option (Background Numeric)) :=
  snapshotMutation deployment request.request
    (fun vmid => do
      let name ← checked (required request.name "name")
      perform (.createSnapshot vmid name request.description))
    .inSync

/-- The workspace counts as drifted after a rollback. -/
def rollbackSnapshot (request : Option SnapshotMutationRequest) :
    Method Numeric (ProviderMutationResult × Option (Background Numeric)) :=
  snapshotMutation deployment (request.bind SnapshotMutationRequest.request)
    (fun vmid => do
      let name ← checked
        (required (request.bind SnapshotMutationRequest.providerSnapshotReference) "providerSnapshotReference")
      perform (.rollbackSnapshot vmid name))
    .drifted

def deleteSnapshot (request : Option SnapshotMutationRequest) :
    Method Numeric (ProviderMutationResult × Option (Background Numeric)) :=
  snapshotMutation deployment (request.bind SnapshotMutationRequest.request)
    (fun vmid => do
      let name ← checked
        (required (request.bind SnapshotMutationRequest.providerSnapshotReference) "providerSnapshotReference")
      perform (.deleteSnapshot vmid name))
    .inSync

def listSnapshots (request : InstanceMutationRequest) : Method Numeric (List ProviderSnapshot) := do
  checked (assertProfile deployment.configuration (request.context.bind ProviderCallContext.providerProfileId))
  let vmid ← checked (assertVmid deployment request.providerResourceId)
  assertLiveOwnership deployment vmid request.expectedOwnershipMarkers
  direct deployment
  let snapshots ← perform (.listSnapshots vmid)
  return snapshots.map fun snapshot =>
    { providerSnapshotReference := none, name := some snapshot.name, description := present snapshot.description,
      createdAt := some ((snapshot.snaptime.getD 0) * 1000) }

/-! ### Reads -/

/-- The failure that a finished run is reported with. -/
def taskFailure (category : FailureCategory) (code safeMessage : String) : ProviderFailure :=
  { category := some category, code := some code, safeMessage := some safeMessage }

/-- What is answered of a run. -/
def taskOf (run : RunRow) : GetTaskResponse :=
  match run.status with
  | .running => { state := some .running }
  | .succeeded => { state := some .succeeded }
  | status =>
    if run.gateDecision = some .refusedDestructive then
      { state := some .failed,
        failure := some (taskFailure .permanent "TERRAFORM_PLAN_REFUSED"
          "The change was refused because it would destroy a provider resource.") }
    else if status = .unknown then
      { state := some .unknown,
        failure := some (taskFailure .unknownOutcome "TERRAFORM_RUN_UNKNOWN"
          "The Terraform run outcome could not be determined.") }
    else if isTransient run.diagnostics then
      { state := some .failed,
        failure := some (taskFailure .transient "TERRAFORM_RUN_RETRYABLE"
          "The provider was busy; the change can be retried.") }
    else
      { state := some .failed,
        failure := some (taskFailure .permanent "TERRAFORM_RUN_FAILED" "The Terraform run failed.") }

/-- A task of the direct client. -/
def directTaskState (upid : String) : Method Numeric GetTaskResponse := do
  direct deployment
  match ← perform (.taskState upid) with
  | .running => return { state := some .running }
  | .succeeded => return { state := some .succeeded }
  | .failed =>
    return { state := some .failed,
             failure := some (taskFailure .permanent "PROXMOX_TASK_FAILED" "The provider task failed.") }

def getTask (request : GetTaskRequest) : Method Numeric GetTaskResponse :=
  match present request.providerTaskReference with
  | none => .raise (.transport (protocolError "Task reference is required."))
  | some reference =>
    match afterPrefix directTaskPrefix reference with
    | some upid => directTaskState deployment upid
    | none => do
      match ← perform (.readRun reference) with
      | none => return { state := some .unknown }
      | some run => return taskOf run

/-- The observation of a workspace without its resource. -/
def absent (observedAt : Instant) : InstanceObservation :=
  { existing := some false, powerState := some .unknown,
    ownership := some { complete := some false, matching := some false }, observedAt := some observedAt }

/-- The sizing that the values of an instance show, if they show any of it. -/
def observedResources (values : Json) : Evaluated (Option InstanceResources) := do
  let cpu := block (values.own "cpu")
  let memory := block (values.own "memory")
  let disk := block (values.own "disk")
  if cpu.isNone && memory.isNone && disk.isNone then return none
  else do
    let cores ← numberOf deployment.host (Json.coalesce (.num "0") (Json.optional "cores" cpu))
    let memoryMib ← (Json.coalesce (.num "0") (Json.optional "dedicated" memory)).text
    let diskGib ← (Json.coalesce (.num "0") (Json.optional "size" disk)).text
    return some { cpuCount := some (deployment.natural cores), memoryMib := some memoryMib, diskGib := some diskGib }

/-- The network that the values of an instance show. -/
def observedNetwork (values : Json) : Evaluated (Option NetworkConfiguration) := do
  let ipv4 := block (Json.optional "ipv4" (block (Json.optional "ip_config" (block (values.own "initialization")))))
  let address := split '/' (← (Json.coalesce (.str "") (Json.optional "address" ipv4)).text)
  if address.headD "" = "" then return none
  else do
    let gateway ← (Json.coalesce (.str "") (Json.optional "gateway" ipv4)).text
    return some { networkId := some deployment.configuration.networkId, ipv4Address := address.head?,
                  ipv4PrefixLength := some (deployment.integral
                    ((address[1]?.map deployment.host.number).getD (deployment.host.ofInt 0))),
                  ipv4Gateway := some gateway, dnsServers := some [] }

/-- The observation of an instance from the values of its resource. -/
def observationOf (values : Json) (expected : Option OwnershipMarkers) (observedAt : Instant) :
    Evaluated InstanceObservation := do
  let description := match values.own "description" with
    | some (.str description) => some description
    | _ => none
  let actual := parseOwnership deployment.host.library description
  let resources ← observedResources deployment values
  let network ← observedNetwork deployment values
  let vmId ← (values.own "vm_id").mapM Json.text
  return { existing := some true, providerResourceId := vmId,
           powerState := some (match values.own "started" with
             | some (.bool true) => .running
             | some (.bool false) => .stopped
             | _ => .unknown),
           resources, network,
           ownership := some { complete := some actual.isSome, matching := some (expected.any (markersMatch actual)),
                               values := actual },
           observedAt := some observedAt }

/-- What a refreshed state shows of an instance. The outcome of the refresh is not read. -/
def observeState (directory workspace : String) (expected : Option OwnershipMarkers) (observedAt : Instant) :
    Method Numeric InstanceObservation := do
  let initialized ← init directory workspace
  if initialized.exitCode ≠ 0 then .raise backendUnreachable
  else do
    let _ ← startInvocation .refresh directory
    let state ← readState deployment directory
    match ← evaluated (stateResource state) with
    | none => return absent observedAt
    | some resource => do
      let values ← evaluated (resource.member "values")
      evaluated (observationOf deployment (Json.coalesce (.obj []) values) expected observedAt)

def observeInstance (request : InstanceMutationRequest) (observedAt : Instant) : Method Numeric InstanceObservation := do
  let instanceId ← checked (instanceOf deployment request.context)
  let workspace := workspaceNameFor instanceId
  let directory ← prepare deployment workspace (probeTfvars deployment.host deployment.configuration) false
  Program.ensuring (observeState deployment directory workspace request.expectedOwnershipMarkers observedAt)
    (quietly (discard deployment directory))

/-- The number of planned actions of a kind, as zero or not. -/
def plansNone (gate : GateResult) (action : String) : Bool :=
  match gate.actionCounts.find? (·.1 = action) with
  | some (_, count) => count = .number 0
  | none => true

/-- An empty plan. -/
def converged (gate : GateResult) : Bool :=
  gate.decision = .allowed && plansNone gate "create" && plansNone gate "update" && plansNone gate "delete"

/-- Asserts that a plan with the variables of the state is empty. -/
def assertConverged (directory workspace : String) : Method Numeric ProviderMutationResult := do
  let initialized ← init directory workspace
  if initialized.exitCode ≠ 0 then .raise backendUnreachable
  else do
    match ← declaredState deployment directory with
    | none =>
      return failure .unknownOutcome "TERRAFORM_STATE_ABSENT" "The instance has no Terraform state to verify against."
    | some declared => do
      writeVariables directory declared
      let (gate, _) ← plan deployment directory false
      if converged gate then return alreadyDone deployment declared
      else return failure .permanent "TERRAFORM_NOT_CONVERGED" "The instance does not match its declared configuration."

def applyInstanceConfiguration (request : ApplyInstanceConfigurationRequest) : Method Numeric ProviderMutationResult := do
  let instanceId ← checked (instanceOf deployment request.context)
  let workspace := workspaceNameFor instanceId
  let directory ← prepare deployment workspace (probeTfvars deployment.host deployment.configuration) false
  Program.ensuring (assertConverged deployment directory workspace) (quietly (discard deployment directory))

/-- One check of a profile. -/
structure ValidationCheck where
  name : String
  passed : Bool
  safeSummary : String

/-- The first diagnostic of an invocation, or its exit code. -/
def summaryOf (summarize : Field → String) (command : String) (invocation : InvocationResult) : String :=
  (invocation.diagnostics.head?.map fun diagnostic => summarize diagnostic.summary).getD
    ("Terraform " ++ command ++ " exited " ++ toString invocation.exitCode ++ ".")

/-- A check that could not be made. -/
def unavailable (thrown : Thrown) : ValidationCheck := ⟨"terraform_available", false, messageOf deployment thrown⟩

/-- Initializes without a backend, and validates. -/
def checkModule (summarize : Field → String) (directory : String) : Method Numeric (List ValidationCheck) := do
  match ← (startInvocation .initWithoutBackend directory).attempt with
  | .error thrown => return [unavailable deployment thrown]
  | .ok initialized =>
    if initialized.exitCode ≠ 0 then return [⟨"terraform_module", false, summaryOf summarize "init" initialized⟩]
    else do
      let ready : ValidationCheck := ⟨"terraform_module", true, "The module and the pinned provider initialised."⟩
      match ← (startInvocation .validate directory).attempt with
      | .error thrown => return [ready, unavailable deployment thrown]
      | .ok validated =>
        if validated.exitCode = 0 then
          return [ready, ⟨"module_variables", true, "The module and the configured variables are valid."⟩]
        else return [ready, ⟨"module_variables", false, summaryOf summarize "validate" validated⟩]

/-- Checks that Terraform and the module are usable. -/
def validateProfile (summarize : Field → String) (profileId : Option String) : Method Numeric (List ValidationCheck) := do
  checked (assertProfile deployment.configuration profileId)
  let uuid ← perform .randomUUID
  let prepared ←
    (prepare deployment ("probe-" ++ uuid) (probeTfvars deployment.host deployment.configuration) false).attempt
  match prepared with
  | .error thrown => return [unavailable deployment thrown]
  | .ok directory => Program.ensuring (checkModule deployment summarize directory) (quietly (discard deployment directory))

/-! ### The port -/

/-- An answer without work in the background. -/
def inForeground {α : Type} (method : Method Numeric α) : Method Numeric (α × Option (Background Numeric)) := do
  return (← method, none)

/-- The answer of a mutation. -/
def mutation (method : Method Numeric (ProviderMutationResult × Option (Background Numeric))) :
    Method Numeric (Option ProviderMutationResult × Option (Background Numeric)) := do
  let (result, work) ← method
  return (some result, work)

/-- The adapter's answer to any call of the port, and the work that it leaves. -/
def handle (observedAt : Instant) : (call : ProviderCall) → Method Numeric (call.Response × Option (Background Numeric))
  | .submitCreateInstance call => mutation (submitCreateInstance deployment call)
  | .applyInstanceConfiguration call => inForeground (some <$> applyInstanceConfiguration deployment call)
  | .getTask call => inForeground (getTask deployment call)
  | .observeInstance call => inForeground (some <$> observeInstance deployment call observedAt)
  | .startInstance request => mutation (startInstance deployment request)
  | .shutdownInstance request => mutation (shutdownInstance deployment request)
  | .stopInstance request => mutation (stopInstance deployment request)
  | .rebootInstance request => mutation (rebootInstance deployment request)
  | .resizeInstance call => mutation (resizeInstance deployment call)
  | .listSnapshots call => inForeground (some <$> listSnapshots deployment call)
  | .createSnapshot call => mutation (createSnapshot deployment call)
  | .rollbackSnapshot call => mutation (rollbackSnapshot deployment call)
  | .deleteSnapshot call => mutation (deleteSnapshot deployment call)
  | .markInstanceRetained call => mutation (markInstanceRetained deployment call)
  | .purgeInstance call => mutation (purgeInstance deployment call)

end

/-! ### A sample deployment -/

/-- The sample host, with a document for the text `state` and an empty plan for `plan`. -/
def sampleDeployment (state : Option Json) : Deployment Nat where
  host := { sampleHost with
    parse := fun text => if text = "plan" then some (.obj [("resource_changes", .arr [])]) else if text = "state" then state else none }
  configuration := sampleTerraform
  runner := { workingRoot := "/work", backendConnectionString := "postgres://state", providerEnvironment := [] }
  join := fun root name => root ++ "/" ++ name
  inherited := fun _ => none
  printDiagnostic := fun _ => "\x7b\x7d"
  columnText := fun _ => ""
  typeErrorMessage := "type error"
  natural := id
  integral := fun value => value
  direct := true

/-- Answers under which every question succeeds, given what the processes end with. -/
def sampleAnswers (results : Invocation → InvocationResult) : (call : Call Nat) → Call.Answer call
  | .randomUUID | .stopHard _ | .reboot _ | .createSnapshot .. | .rollbackSnapshot .. | .deleteSnapshot .. => .ok "u1"
  | .invoke invocation _ => .ok (results invocation)
  | .readRun _ => .ok none
  | .config _ => .ok none
  | .listSnapshots _ => .ok []
  | .taskState _ => .ok .running
  | .mkdir _ | .copyModule .. | .writeVariables .. | .chmod _ | .rm _ | .beginRun _ | .completeRun _
  | .recordWorkspace _ => .ok ()

/-- Processes that end well, with an empty plan and the document of the state. -/
def sampleResults : Invocation → InvocationResult
  | .showPlan => ⟨0, [], "plan"⟩
  | .showState => ⟨0, [], "state"⟩
  | _ => ⟨0, [], ""⟩

/-- A state document with the values of an instance. -/
def sampleState (values : List (String × Json)) : Json :=
  .obj [("values", .obj [("root_module", .obj [("resources", .arr
    [.obj [("address", .str instanceAddress), ("values", .obj values)]])])])]

end ControlPlane.TerraformProvider
