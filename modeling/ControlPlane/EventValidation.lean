import ControlPlane.Commands

/-!
The validators of the command contracts. A command carries the schema of its
data and timestamps are instants, so the checks of the schema's keys and of the
timestamp syntax have nothing to refuse; every other check is here.
-/
namespace ControlPlane.EventValidation
open ControlPlane.Texts ControlPlane.Domain ControlPlane.Commands

def stringInRange (value : String) (minimum maximum : Nat) : Bool :=
  minimum ≤ utf16Length value && utf16Length value ≤ maximum

theorem stringInRange_ofList {characters : List Char} {minimum maximum : Nat}
    (counted : minimum ≤ (characters.map fun c => if c.val > 0xFFFF then 2 else 1).sum ∧
      (characters.map fun c => if c.val > 0xFFFF then 2 else 1).sum ≤ maximum) :
    stringInRange (String.ofList characters) minimum maximum = true := by
  simpa [stringInRange, utf16Length_ofList] using counted

def integerInRange (value : Int) (minimum maximum : Int) : Bool := minimum ≤ value && value ≤ maximum

/-- `Number.MAX_SAFE_INTEGER`. -/
def maximumSafeInteger : Nat := 2 ^ 53 - 1

def positiveInteger (value : Nat) : Bool := 0 < value && value ≤ maximumSafeInteger

/-- The envelope checks of the messaging boundary. -/
def isEventEnvelope (schemaName : String) (envelope : Envelope) : Bool :=
  isUuidText envelope.eventId && stringInRange schemaName 1 120 && positiveInteger envelope.schemaVersion &&
    stringInRange envelope.aggregateType 1 64 && isUuidText envelope.aggregateId && isUuidText envelope.projectId &&
    isUuidText envelope.operationId && isUuidText envelope.correlationId && isUuidText envelope.causationId &&
    stringInRange envelope.partitionKey 1 128

/-- Checks dotted-decimal IPv4 without out-of-range octets. -/
def ipv4Address (value : String) : Bool :=
  let octets := split '.' value
  octets.length = 4 && octets.all fun octet => isOctetText octet && digitsValue octet.toList ≤ 255

def distinct (values : List String) : Bool := values.dedup.length = values.length

/-- The envelope checks that the instance schemas share. -/
def instanceEnvelope (command : LifecycleCommand) : Bool :=
  command.schemaVersion = 1 && command.aggregateType = "instance"

/-- The routing identity that every later command carries. -/
def snapshotRouting (providerProfileId createOperationId : String) : Bool :=
  stringInRange providerProfileId 1 64 && isUuidText createOperationId

def resourcesInRange (resources : Resources) : Bool :=
  integerInRange resources.cpuCount 1 64 && integerInRange resources.memoryMiB 512 262144 &&
    integerInRange resources.diskGiB 8 2048

def isInstanceCreateRequested (command : LifecycleCommand) : Bool :=
  match command.data with
  | .create data =>
    instanceEnvelope command &&
    stringInRange data.imageId 1 63 && stringInRange data.flavorId 1 63 && stringInRange data.networkId 1 63 &&
    stringInRange data.providerProfileId 1 63 && stringInRange data.hostname 1 63 &&
    resourcesInRange data.resources &&
    ipv4Address data.ipv4.address && integerInRange data.ipv4.prefixLength 1 32 && ipv4Address data.ipv4.gateway &&
    1 ≤ data.ipv4.dnsServers.length && data.ipv4.dnsServers.length ≤ 4 && data.ipv4.dnsServers.all ipv4Address &&
    distinct data.ipv4.dnsServers &&
    match data.sshPublicKeys with
    | none => true
    | some keys => keys.length ≤ 5 && (keys.all fun key => stringInRange key 32 8192) && distinct keys
  | _ => false

def isInstancePowerRequested (command : LifecycleCommand) : Bool :=
  match command.data with
  | .power data => instanceEnvelope command && snapshotRouting data.providerProfileId data.createOperationId
  | _ => false

def isInstanceResizeRequested (command : LifecycleCommand) : Bool :=
  match command.data with
  | .resize data =>
    instanceEnvelope command && stringInRange data.flavorId 1 63 && stringInRange data.providerProfileId 1 64 &&
      isUuidText data.createOperationId && resourcesInRange data.targetResources
  | _ => false

-- The snapshot validators do not look at the aggregate type.
def isSnapshotCreateRequested (command : LifecycleCommand) : Bool :=
  match command.data with
  | .snapshotCreate data =>
    command.schemaVersion = 1 && isUuidText data.snapshotId && stringInRange data.name 1 63 &&
      (data.description.all fun description => stringInRange description 0 256) &&
      snapshotRouting data.providerProfileId data.createOperationId
  | _ => false

def snapshotAction (command : LifecycleCommand) (data : SnapshotActionData) : Bool :=
  command.schemaVersion = 1 && isUuidText data.snapshotId && stringInRange data.providerSnapshotReference 1 128 &&
    snapshotRouting data.providerProfileId data.createOperationId

def isSnapshotRollbackRequested (command : LifecycleCommand) : Bool :=
  match command.data with
  | .snapshotRollback data => snapshotAction command data
  | _ => false

def isSnapshotDeleteRequested (command : LifecycleCommand) : Bool :=
  match command.data with
  | .snapshotDelete data => snapshotAction command data
  | _ => false

def isInstanceRetentionRequested (command : LifecycleCommand) : Bool :=
  match command.data with
  | .retention data => instanceEnvelope command && snapshotRouting data.providerProfileId data.createOperationId
  | _ => false

def isInstancePurgeRequested (command : LifecycleCommand) : Bool :=
  match command.data with
  | .purge data =>
    instanceEnvelope command && isUuidText data.purgeAuthorizationId && isUuidText data.reasonReference &&
      snapshotRouting data.providerProfileId data.createOperationId
  | _ => false

def isProvisioningReplayRequested (request : ProvisioningReplayRequested) : Bool :=
  request.schemaVersion = 1 && request.aggregateType = "instance" && isUuidText request.replayRequestId &&
    isUuidText request.originalEventId

/-- The tenant-safe failure shape. -/
def failureValue (failure : FailureValue) : Bool :=
  stringInRange failure.code 1 80 && stringInRange failure.safeMessage 0 512 &&
    failure.retryAfterMilliseconds.all fun delay => delay.any fun delay => integerInRange delay 1 86400000

def isWorkflowProgressed (event : WorkflowEvent) : Bool :=
  match event.data with
  | .progressed _ attempt operationState providerTaskReference _ =>
    event.schemaVersion = 1 && event.aggregateType = "instance" && positiveInteger attempt &&
      (operationState = .running || operationState = .retryWait || operationState = .compensating ||
        operationState = .unknownOutcome) &&
      providerTaskReference.all fun reference => stringInRange reference 0 256
  | _ => false

/-- The sizes of an observed block, each of which has to be there. -/
def isMeasured (resources : MeasuredResources) : Bool :=
  integerInRange resources.cpuCount 1 64 && (resources.memoryMiB.any fun memory => integerInRange memory 512 262144) &&
    resources.diskGiB.any fun disk => integerInRange disk 8 2048

/-- The lifecycle states that a terminal event may set. -/
def isInstanceLifecycleState (state : LifecycleState) : Bool := state ≠ .deleting

def isInstanceMutationCompleted (event : WorkflowEvent) : Bool :=
  match event.data with
  | .completed _ lifecycleState providerResourceId evidenceId observed =>
    event.schemaVersion = 1 && event.aggregateType = "instance" && isInstanceLifecycleState lifecycleState &&
      (providerResourceId.all fun resource => stringInRange resource 1 128) && isUuidText evidenceId &&
      observed.all fun observed => observed.resources.all isMeasured
  | _ => false

def isInstanceMutationFailed (event : WorkflowEvent) : Bool :=
  match event.data with
  | .failed _ failure _ => event.schemaVersion = 1 && event.aggregateType = "instance" && failureValue failure
  | _ => false

def isProvisioningReplayResolved (event : WorkflowEvent) : Bool :=
  match event.data with
  | .replayResolved replayRequestId originalEventId _ replayGeneration _ =>
    event.schemaVersion = 1 && event.aggregateType = "instance" && isUuidText replayRequestId &&
      isUuidText originalEventId && replayGeneration ≤ maximumSafeInteger
  | _ => false

def isProvisioningDeadLettered (event : ProvisioningDeadLettered) : Bool :=
  event.schemaVersion = 1 && event.aggregateType = "instance" && isUuidText event.originalEventId &&
    stringInRange event.originalSchemaName 1 120 && positiveInteger event.originalSchemaVersion &&
    failureValue event.failure && positiveInteger event.attempts

/-- The validator that owns each capability's command. -/
def commandValidator : WorkflowAction → LifecycleCommand → Bool
  | .createInstance => isInstanceCreateRequested
  | .powerInstance => isInstancePowerRequested
  | .resizeInstance => isInstanceResizeRequested
  | .createSnapshot => isSnapshotCreateRequested
  | .rollbackSnapshot => isSnapshotRollbackRequested
  | .deleteSnapshot => isSnapshotDeleteRequested
  | .retainInstance => isInstanceRetentionRequested
  | .purgeInstance => isInstancePurgeRequested
  | .reconcileInstance => fun _ => false

/-- A stored payload as the command of an action, when its validator accepts it. -/
def lifecycleCommand (payload : CommandMessage) (action : WorkflowAction) : Option LifecycleCommand :=
  match payload with
  | .lifecycle command => if commandValidator action command then some command else none
  | _ => none

theorem lifecycleCommand_some {payload : CommandMessage} {action : WorkflowAction} {command : LifecycleCommand}
    (read : lifecycleCommand payload action = some command) :
    payload = .lifecycle command ∧ commandValidator action command = true := by
  cases payload with
  | lifecycle stored =>
    simp only [lifecycleCommand] at read
    split at read
    next valid => cases read; exact ⟨rfl, valid⟩
    next => cases read
  | replayRequest _ => cases read
  | unsupported _ _ => cases read

/-- A command that a validator accepts has the data of that capability. -/
theorem commandValidator_action {action : WorkflowAction} {command : LifecycleCommand}
    (valid : commandValidator action command = true) : command.data.action = action := by
  obtain ⟨envelope, data⟩ := command
  cases action <;> cases data <;> first | rfl | exact absurd valid (by
    simp [commandValidator, isInstanceCreateRequested, isInstancePowerRequested, isInstanceResizeRequested,
      isSnapshotCreateRequested, isSnapshotRollbackRequested, isSnapshotDeleteRequested,
      isInstanceRetentionRequested, isInstancePurgeRequested])

/-- A host that reads the prefix length 24 and hashes a message to its event. -/
def sampleHost : Host :=
  { number := fun text => if text = "24" then some 24 else none,
    canonicalSha256 := fun message => message.envelope.eventId ++ message.envelope.causationId }

/-- A create command that its validator accepts. -/
def sampleCreate : LifecycleCommand :=
  { eventId := "00000000-0000-4000-8000-0000000000e1", schemaVersion := 1, aggregateType := "instance",
    aggregateId := "00000000-0000-4000-8000-0000000000a1", projectId := "00000000-0000-4000-8000-0000000000b1",
    operationId := "00000000-0000-4000-8000-0000000000c1", correlationId := "00000000-0000-4000-8000-0000000000d1",
    causationId := "00000000-0000-4000-8000-0000000000c1", occurredAt := 0,
    partitionKey := "00000000-0000-4000-8000-0000000000a1",
    data := .create
      { imageId := "debian-12", flavorId := "small", networkId := "lab", providerProfileId := "proxmox",
        hostname := "vm", resources := ⟨1, 1024, 10⟩,
        ipv4 := ⟨"10.0.0.2", 24, "10.0.0.1", ["10.0.0.1"]⟩, sshPublicKeys := none } }

example : commandValidator .createInstance sampleCreate = true := by decide

/-- A command to stop the instance that `sampleCreate` created. -/
def samplePower : LifecycleCommand :=
  { sampleCreate with
    eventId := "00000000-0000-4000-8000-0000000000e2", operationId := "00000000-0000-4000-8000-0000000000c2",
    correlationId := "00000000-0000-4000-8000-0000000000d2", causationId := "00000000-0000-4000-8000-0000000000c2",
    data := .power ⟨.stop, "proxmox", sampleCreate.operationId⟩ }

/-- A command to retain it. -/
def sampleRetention : LifecycleCommand :=
  { sampleCreate with
    eventId := "00000000-0000-4000-8000-0000000000e3", operationId := "00000000-0000-4000-8000-0000000000c3",
    correlationId := "00000000-0000-4000-8000-0000000000d3", causationId := "00000000-0000-4000-8000-0000000000c3",
    data := .retention ⟨1000, .quarantineUntilPurge, "proxmox", sampleCreate.operationId⟩ }

/-- A command to purge it. -/
def samplePurge : LifecycleCommand :=
  { sampleCreate with
    eventId := "00000000-0000-4000-8000-0000000000e4", operationId := "00000000-0000-4000-8000-0000000000c4",
    correlationId := "00000000-0000-4000-8000-0000000000d4", causationId := "00000000-0000-4000-8000-0000000000c4",
    data := .purge ⟨"00000000-0000-4000-8000-0000000000f1", 1000, "00000000-0000-4000-8000-0000000000f2", "proxmox",
      sampleCreate.operationId⟩ }

end ControlPlane.EventValidation
