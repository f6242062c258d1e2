import ControlPlane.ProxmoxOwnership

/-!
The direct Proxmox adapter: every method of the port as a program over requests
to the Proxmox API. The profile checks and the capability listing, which touch
no VM, are left out.
-/
namespace ControlPlane.ProxmoxProvider
open ControlPlane.Programs ControlPlane.Texts ControlPlane.Domain ControlPlane.ProviderPort
open ControlPlane.ProxmoxOwnership

/-! ### The Proxmox API -/

inductive Method
  | get
  | post
  | put
  | delete
  deriving DecidableEq, Repr

/-- A request to the node's API, by endpoint. Form fields are given as they are sent. -/
inductive ProxmoxRequest
  | listVms
  | vmConfig (vmid : Int)
  | currentStatus (vmid : Int)
  | taskStatus (upid : String)
  | listSnapshots (vmid : Int)
  | clone (form : List (String × String))
  | writeConfig (vmid : Int) (form : List (String × String))
  | power (vmid : Int) (action : String) (form : List (String × String))
  | resizeDisk (vmid : Int) (form : List (String × String))
  | createSnapshot (vmid : Int) (form : List (String × String))
  | rollbackSnapshot (vmid : Int) (name : String) (form : List (String × String))
  | deleteSnapshot (vmid : Int) (name : String)
  | destroy (vmid : Int)
  deriving DecidableEq, Repr

structure ProxmoxTaskStatus where
  status : Option String := none
  exitstatus : Option String := none
  deriving DecidableEq, Repr

structure ProxmoxSnapshot where
  name : Option String := none
  description : Option String := none
  snaptime : Option Nat := none
  deriving DecidableEq, Repr

structure ProxmoxCurrentStatus where
  status : Option String := none
  lock : Option String := none
  deriving DecidableEq, Repr

namespace ProxmoxRequest

def method : ProxmoxRequest → Method
  | .listVms | .vmConfig _ | .currentStatus _ | .taskStatus _ | .listSnapshots _ => .get
  | .clone _ | .writeConfig .. | .power .. | .createSnapshot .. | .rollbackSnapshot .. => .post
  | .resizeDisk .. => .put
  | .deleteSnapshot .. | .destroy _ => .delete

/-- The existing VM that a request is about. -/
def target : ProxmoxRequest → Option Int
  | .vmConfig vmid | .currentStatus vmid | .listSnapshots vmid | .writeConfig vmid _ | .power vmid _ _
  | .resizeDisk vmid _ | .createSnapshot vmid _ | .rollbackSnapshot vmid _ _ | .deleteSnapshot vmid _
  | .destroy vmid => some vmid
  | .listVms | .taskStatus _ | .clone _ => none

/-- The `data` of an answer. A `null` is `none`. -/
@[reducible] def Response : ProxmoxRequest → Type
  | .listVms => List (Option Int)
  | .vmConfig _ => Option ProxmoxVmConfig
  | .currentStatus _ => ProxmoxCurrentStatus
  | .taskStatus _ => ProxmoxTaskStatus
  | .listSnapshots _ => Option (List ProxmoxSnapshot)
  | _ => Option String

/-- What becomes of a request: the transport fails, the status is no success,
    the body is no JSON, has no `data` or is nothing the adapter can look into,
    or there is data. -/
inductive Outcome (request : ProxmoxRequest) : Type
  | failed (code : ProviderTransportErrorCode)
  | status (status : Nat)
  | invalidJson
  | noData
  | malformed
  | data (data : request.Response)

end ProxmoxRequest

/-- An error of the adapter, with its HTTP status if it has one. An exception
    that is no transport failure (a `TypeError`) has no `error`. -/
structure ProxmoxError where
  error : Option ProviderTransportError
  status : Option Nat := none
  deriving DecidableEq, Repr

def refusal (message : String) : ProxmoxError := { error := protocolError message }

def httpError (status : Nat) : ProxmoxError :=
  let retryable := status = 408 ∨ status = 429 ∨ status ≥ 500
  { error := some ⟨if retryable then .unavailable else .protocolError, "Proxmox rejected the request.", retryable⟩,
    status := some status }

abbrev Api (α : Type) := Program ProxmoxRequest ProxmoxRequest.Outcome ProxmoxError α

/-- Sends a request and reads the data of its answer. -/
def request (call : ProxmoxRequest) : Api call.Response :=
  .ask call fun
    | .failed code => .raise { error := some ⟨code, "Proxmox transport failed.", code ≠ .protocolError⟩ }
    | .status status => .raise (httpError status)
    | .invalidJson => .raise (refusal "Proxmox returned invalid JSON.")
    | .noData => .raise (refusal "Proxmox response omitted data.")
    | .malformed => .raise { error := none }
    | .data data => .done data

/-- A check that refuses a request before anything is sent. -/
def check {α : Type} : Except ProviderTransportError α → Api α
  | .ok value => .done value
  | .error error => .raise { error := error }

/-! ### Checks of a request -/

section
variable (library : Library) (configuration : ProxmoxProviderConfiguration)

def required (value : Option String) (name : String) : Except ProviderTransportError String :=
  match present value with
  | some value => .ok value
  | none => .error (protocolError (name ++ " is required."))

def assertDirectProfile (profileId : Option String) : Except ProviderTransportError Unit :=
  if profileId ≠ some configuration.providerProfileId then
    .error (protocolError "Provider profile is not allowlisted.")
  else .ok ()

def assertContext (context : Option ProviderCallContext) : Except ProviderTransportError ProviderCallContext :=
  match context with
  | none => .error (protocolError "Context is required.")
  | some context => do
    assertDirectProfile configuration context.providerProfileId
    if context.projectId ≠ some configuration.projectId then
      throw (protocolError "Project is outside the lab boundary.")
    let _ ← required context.requestId "context.requestId"
    let _ ← required context.operationId "context.operationId"
    let _ ← required context.correlationId "context.correlationId"
    let _ ← required context.instanceId "context.instanceId"
    return context

def assertOwnership (markers : Option OwnershipMarkers) (context : ProviderCallContext) :
    Except ProviderTransportError OwnershipMarkers :=
  match markers with
  | none => .error (protocolError "Ownership markers violate the lab boundary.")
  | some markers =>
    if markers.managedBy ≠ some configuration.managedBy ∨ markers.environment ≠ some configuration.environment ∨
        markers.projectId ≠ context.projectId ∨ markers.instanceId ≠ context.instanceId ∨
        markers.createOperationId ≠ context.operationId then
      .error (protocolError "Ownership markers violate the lab boundary.")
    else .ok markers

def assertVmid (value : Option String) : Except ProviderTransportError Int :=
  match value.bind library.number with
  | some vmid =>
    if vmid < configuration.resourceIdMinimum ∨ vmid > configuration.resourceIdMaximum then
      .error (protocolError "VMID is outside the reserved range.")
    else .ok vmid
  | none => .error (protocolError "VMID is outside the reserved range.")

/-- The number that `Number(value ?? 0)` reads. -/
def numberOrZero (value : Option String) : Option Int :=
  match value with
  | some value => library.number value
  | none => some 0

/-- Whether a sizing lies inside the allowlist. -/
def sizingAllowed (cpu memory disk : Int) : Bool :=
  1 ≤ cpu && cpu ≤ maximumCpuCount && minimumMemoryMib ≤ memory && memory ≤ maximumMemoryMib &&
    minimumDiskGib ≤ disk && disk ≤ maximumDiskGib

def assertResources (resources : InstanceResources) (current : ProxmoxVmConfig) : Except ProviderTransportError Unit :=
  match numberOrZero library resources.memoryMib, numberOrZero library resources.diskGib with
  | some memory, some disk =>
    if sizingAllowed (resources.cpuCount.getD 0) memory disk && diskGiB current = some disk then .ok ()
    else .error (protocolError "Resources violate the Phase 3 allowlist or template disk baseline.")
  | _, _ => .error (protocolError "Resources violate the Phase 3 allowlist or template disk baseline.")

def assertNetwork (network : NetworkConfiguration) : Except ProviderTransportError Unit := do
  let address ← required network.ipv4Address "network.ipv4Address"
  match library.parseInRange configuration.ipv4Cidr address with
  | none => .error (protocolError "IPv4 address is invalid.")
  | some (prefixLength, inRange) =>
    if network.networkId ≠ some configuration.networkId ∨ network.ipv4Gateway ≠ some configuration.ipv4Gateway ∨
        network.ipv4PrefixLength ≠ some (prefixLength : Int) ∨ !inRange ∨ (network.dnsServers.getD []).length < 1 then
      .error (protocolError "Network configuration violates the lab allowlist.")
    else .ok ()

def isNameCharacter (c : Char) : Bool := isDigit c || ('a' ≤ c && c ≤ 'z') || ('A' ≤ c && c ≤ 'Z')

/-- `/^[A-Za-z0-9][A-Za-z0-9_.-]{0,62}$/`, and not the name of the live state. -/
def snapshotNameAllowed (name : String) : Bool :=
  match name.toList with
  | [] => false
  | first :: rest =>
    isNameCharacter first && rest.length ≤ 62 &&
      (rest.all fun c => isNameCharacter c || c = '_' || c = '.' || c = '-') && name ≠ "current"

def assertSnapshotName (value : Option String) : Except ProviderTransportError String := do
  let name ← required value "provider snapshot reference"
  if snapshotNameAllowed name then return name
  else throw (protocolError "The snapshot reference is not valid.")

/-- `/^[a-zA-Z0-9](?:[a-zA-Z0-9-]{0,61}[a-zA-Z0-9])?$/`. -/
def hostnameAllowed (hostname : String) : Bool :=
  let characters := hostname.toList
  1 ≤ characters.length && characters.length ≤ 63 && (characters.head?.all isNameCharacter) &&
    (characters.getLast?.all isNameCharacter) && characters.all fun c => isNameCharacter c || c = '-'

/-! ### Reads -/

/-- The configuration of a VM; a missing one is `none` where that is allowed. -/
def vmConfig (vmid : Int) (allowMissing : Bool) : Api (Option ProxmoxVmConfig) :=
  (request (.vmConfig vmid)).catching fun error =>
    if allowMissing ∧ error.status = some 404 then .done none else .raise error

/-- The configuration of a VM that carries exactly the expected markers. -/
def requireOwnedConfig (vmid : Int) (expected : OwnershipMarkers) : Api ProxmoxVmConfig := do
  match ← vmConfig vmid true with
  | none => .raise (refusal "Provider ownership could not be proven.")
  | some config =>
    if markersMatch (parseOwnership library config.description) expected then return config
    else .raise (refusal "Provider ownership could not be proven.")

/-- Whether the configuration of a VM carries exactly the markers. -/
def ownsVm (vmid : Int) (markers : OwnershipMarkers) : Api Bool := do
  let config ← vmConfig vmid false
  return markersMatch (parseOwnership library (config.bind ProxmoxVmConfig.description)) markers

/-- The first free VM id of the range, or one that carries the markers, among
    the `remaining` candidates from an offset on. -/
def searchVmid (markers : OwnershipMarkers) (occupied : List Int) (seed size : Nat) : Nat → Nat → Api Int
  | _, 0 => .raise (refusal "The reserved VMID range is exhausted.")
  | offset, remaining + 1 =>
    let vmid : Int := configuration.resourceIdMinimum + ((seed + offset) % size : Nat)
    if occupied.contains vmid then do
      if ← ownsVm library vmid markers then return vmid
      else searchVmid markers occupied seed size (offset + 1) remaining
    else .done vmid

def findOwnedOrFreeVmid (markers : OwnershipMarkers) : Api Int := do
  let summaries ← request .listVms
  let instanceId ← check (required markers.instanceId "ownership.instanceId")
  let size := configuration.resourceIdMaximum - configuration.resourceIdMinimum + 1
  searchVmid library configuration markers ((summaries.filterMap id).filter (· ≠ 0)) (library.sha256Seed instanceId) size 0 size

/-- The first VM of the range that carries the markers. -/
def searchOwned (markers : OwnershipMarkers) : List (Option Int) → Api (Option Int)
  | [] => .done none
  | none :: rest => searchOwned markers rest
  | some vmid :: rest =>
    if vmid < configuration.resourceIdMinimum ∨ vmid > configuration.resourceIdMaximum then searchOwned markers rest
    else do
      if ← ownsVm library vmid markers then return some vmid else searchOwned markers rest

def findOwnedVmid (markers : OwnershipMarkers) : Api (Option Int) := do
  let summaries ← request .listVms
  searchOwned library configuration markers summaries

/-- Whether a text contains another. -/
def includes (text part : String) : Bool := text.toList.tails.any fun rest => part.toList.isPrefixOf rest

/-- Refuses an address that another VM is configured with. -/
def searchAddress (address : String) (currentVmid : Int) : List (Option Int) → Api Unit
  | [] => .done ()
  | none :: rest => searchAddress address currentVmid rest
  | some vmid :: rest =>
    if vmid = 0 ∨ vmid = currentVmid then searchAddress address currentVmid rest
    else do
      let config ← vmConfig vmid false
      if (config.bind ProxmoxVmConfig.ipconfig0).any fun text => includes text ("ip=" ++ address ++ "/") then
        .raise (refusal "The reserved IPv4 address is already configured.")
      else searchAddress address currentVmid rest

def assertIpv4Available (address : String) (currentVmid : Int) : Api Unit := do
  let _ ← check (required (some address) "network.ipv4Address")
  let summaries ← request .listVms
  searchAddress address currentVmid summaries

/-! ### Tasks -/

def accepted (vmid : Int) (upid : String) : ProviderMutationResult :=
  { state := some .accepted, providerResourceId := some (toString vmid),
    providerTaskReference := some (configuration.node ++ ":" ++ library.encodeBase64url upid) }

/-- The node and the task of a reference. -/
def decodeTask (reference : String) : Except ProviderTransportError (String × String) :=
  let node := reference.toList.takeWhile (· ≠ ':')
  let rest := (reference.toList.dropWhile (· ≠ ':')).drop 1
  if node = [] ∨ node.length = reference.toList.length then .error (protocolError "Task reference is invalid.")
  else
    let upid := library.decodeBase64url (String.ofList rest)
    if (afterPrefix "UPID:" upid).isSome then .ok (String.ofList node, upid)
    else .error (protocolError "Task reference is invalid.")

/-- The result of a write that answers with a task while the VM runs and with
    nothing when it was applied at once. -/
def taskOrDone (vmid : Int) (upid : Option String) : ProviderMutationResult :=
  match present upid with
  | some upid => accepted library configuration vmid upid
  | none => succeeded vmid

def acceptedTask (vmid : Int) (upid : Option String) : Api (Option ProviderMutationResult) := do
  let upid ← check (required upid "provider task reference")
  return some (accepted library configuration vmid upid)

/-! ### Methods -/

/-- The checks that every method on an existing VM starts with. -/
def boundaries (mutation : Option InstanceMutationRequest) : Except ProviderTransportError (OwnershipMarkers × Int) := do
  let context ← assertContext configuration (mutation.bind InstanceMutationRequest.context)
  let ownership ← assertOwnership configuration (mutation.bind InstanceMutationRequest.expectedOwnershipMarkers) context
  let vmid ← assertVmid library configuration (mutation.bind InstanceMutationRequest.providerResourceId)
  return (ownership, vmid)

def submitCreateInstance (call : SubmitCreateInstanceRequest) : Api (Option ProviderMutationResult) := do
  let context ← check (assertContext configuration call.context)
  let ownership ← check (assertOwnership configuration call.ownershipMarkers context)
  if call.imageId ≠ some configuration.imageId then .raise (refusal "Image is outside the allowlist.")
  else if !hostnameAllowed (call.hostname.getD "") then .raise (refusal "Hostname is invalid.")
  else do
    let vmid ← findOwnedOrFreeVmid library configuration ownership
    match ← vmConfig vmid true with
    | some _ => return some (succeeded vmid)
    | none => do
      let hostname ← check (required call.hostname "hostname")
      let upid ← request (.clone [("newid", toString vmid), ("name", hostname), ("full", "1"),
        ("storage", configuration.storage), ("description", ownershipDescription library ownership)])
      acceptedTask library configuration vmid upid

/-- The network card of a template, moved to the configured bridge. -/
def bridged (net0 : String) : String :=
  ",".intercalate ((split ',' net0).filter (fun part => (afterPrefix "bridge=" part).isNone) ++
    ["bridge=" ++ configuration.bridge])

def applyInstanceConfiguration (call : ApplyInstanceConfigurationRequest) : Api (Option ProviderMutationResult) := do
  let (ownership, vmid) ← check (boundaries library configuration
    (some ⟨call.context, call.providerResourceId, call.ownershipMarkers⟩))
  let current ← requireOwnedConfig library vmid ownership
  match call.network, call.resources with
  | some network, some resources => do
    let _ ← check (assertResources library resources current)
    let _ ← check (assertNetwork library configuration network)
    let _ ← assertIpv4Available (network.ipv4Address.getD "") vmid
    match present current.net0 with
    | none => return some (failure .permanent "NET0_MISSING" "The allowlisted template did not provide net0.")
    | some net0 => do
      let hostname ← check (required call.hostname "hostname")
      let address ← check (required network.ipv4Address "network.ipv4Address")
      let gateway ← check (required network.ipv4Gateway "network.ipv4Gateway")
      let cores := toString (resources.cpuCount.getD 1)
      let keys := call.sshPublicKeys.getD []
      let upid ← request (.writeConfig vmid ([("name", hostname), ("cores", cores), ("sockets", "1"),
        ("vcpus", cores), ("memory", resources.memoryMib.getD "512"), ("net0", bridged configuration net0),
        ("ipconfig0", "ip=" ++ address ++ "/" ++ toString (network.ipv4PrefixLength.getD 0) ++ ",gw=" ++ gateway),
        ("nameserver", " ".intercalate (network.dnsServers.getD [])),
        ("description", ownershipDescription library ownership)] ++
        (if keys = [] then [] else [("sshkeys", "\n".intercalate keys)])))
      return some (taskOrDone library configuration vmid upid)
  | _, _ =>
    return some (failure .validation "CONFIGURATION_REQUIRED" "Resources and network configuration are required.")

def getTask (call : GetTaskRequest) : Api GetTaskResponse := do
  let _ ← check (assertContext configuration call.context)
  let reference ← check (required call.providerTaskReference "task")
  let (node, upid) ← check (decodeTask library reference)
  if node ≠ configuration.node then .raise (refusal "Task node is outside the allowlist.")
  else do
    let task ← request (.taskStatus upid)
    if task.status ≠ some "stopped" then return { state := some .running }
    else if task.exitstatus = some "OK" then return { state := some .succeeded }
    else
      return { state := some .failed,
               failure := some { category := some .permanent, code := some "PROXMOX_TASK_FAILED",
                                 safeMessage := some "The provider task failed." } }

def startInstance (mutation : Option InstanceMutationRequest) : Api (Option ProviderMutationResult) := do
  let (ownership, vmid) ← check (boundaries library configuration mutation)
  let _ ← requireOwnedConfig library vmid ownership
  let current ← request (.currentStatus vmid)
  if current.status = some "running" then return some (succeeded vmid)
  else do
    let upid ← request (.power vmid "start" [])
    acceptedTask library configuration vmid upid

/-- The three power transitions other than a start. -/
def powerTransition (mutation : Option InstanceMutationRequest) (action : String) (alreadyInState : Option String)
    (extraFields : List (String × String)) : Api (Option ProviderMutationResult) := do
  let (ownership, vmid) ← check (boundaries library configuration mutation)
  let _ ← requireOwnedConfig library vmid ownership
  let current ← request (.currentStatus vmid)
  if (present current.lock).isSome then return some resourceLocked
  else if alreadyInState.isSome ∧ current.status = alreadyInState then return some (succeeded vmid)
  else do
    let upid ← request (.power vmid action extraFields)
    acceptedTask library configuration vmid upid

def shutdownInstance (mutation : Option InstanceMutationRequest) : Api (Option ProviderMutationResult) :=
  powerTransition library configuration mutation "shutdown" (some "stopped") []

def stopInstance (mutation : Option InstanceMutationRequest) : Api (Option ProviderMutationResult) :=
  powerTransition library configuration mutation "stop" (some "stopped") [("overrule-shutdown", "1")]

def rebootInstance (mutation : Option InstanceMutationRequest) : Api (Option ProviderMutationResult) :=
  powerTransition library configuration mutation "reboot" none []

/-- The disk that a resize grows. A CD-ROM is skipped. -/
def primaryDiskKey (config : ProxmoxVmConfig) : Except ProviderTransportError String :=
  let disks := [("scsi0", config.scsi0), ("virtio0", config.virtio0), ("sata0", config.sata0)]
  match disks.find? fun disk => (present disk.2).any fun value => !includes value "media=cdrom" with
  | some disk => .ok disk.1
  | none => .error (protocolError "The instance has no resizable disk.")

def resizeInstance (call : ResizeInstanceRequest) : Api (Option ProviderMutationResult) := do
  let (ownership, vmid) ← check (boundaries library configuration call.request)
  let config ← requireOwnedConfig library vmid ownership
  let cpu := ((call.targetResources.bind InstanceResources.cpuCount).getD 0 : Nat)
  match numberOrZero library (call.targetResources.bind InstanceResources.memoryMib),
      numberOrZero library (call.targetResources.bind InstanceResources.diskGib) with
  | some memory, some disk =>
    let currentDisk := (diskGiB config).getD 0
    if !sizingAllowed cpu memory disk then .raise (refusal "Resize target violates the allowlist.")
    else if disk < currentDisk then .raise (refusal "Disk size can grow but never shrink.")
    else do
      let current ← request (.currentStatus vmid)
      if (present current.lock).isSome then return some resourceLocked
      else do
        let configTask ← request (.writeConfig vmid
          [("cores", toString cpu), ("sockets", "1"), ("vcpus", toString cpu), ("memory", toString memory)])
        if disk > currentDisk then do
          let key ← check (primaryDiskKey config)
          let growTask ← request (.resizeDisk vmid [("disk", key), ("size", toString disk ++ "G")])
          match present growTask with
          | some upid => return some (accepted library configuration vmid upid)
          | none => return some (taskOrDone library configuration vmid configTask)
        else return some (taskOrDone library configuration vmid configTask)
  | _, _ => .raise (refusal "Resize target violates the allowlist.")

def listSnapshots (call : InstanceMutationRequest) : Api (Option (List ProviderSnapshot)) := do
  let (ownership, vmid) ← check (boundaries library configuration (some call))
  let _ ← requireOwnedConfig library vmid ownership
  let entries ← request (.listSnapshots vmid)
  let snapshots : List ProxmoxSnapshot := entries.getD []
  return some ((snapshots.filter fun entry => (present entry.name).isSome && entry.name ≠ some "current").map
    fun entry => { providerSnapshotReference := entry.name, name := entry.name,
                   description := present entry.description,
                   createdAt := some (entry.snaptime.getD 0 * 1000) })

/-- The ownership and lock checks of every snapshot mutation. -/
def prepareSnapshotMutation (mutation : Option InstanceMutationRequest) : Api Int := do
  let (ownership, vmid) ← check (boundaries library configuration mutation)
  let _ ← requireOwnedConfig library vmid ownership
  let current ← request (.currentStatus vmid)
  if (present current.lock).isSome then
    .raise { error := some ⟨.unavailable, "Another provider operation currently holds this instance.", true⟩ }
  else return vmid

def createSnapshot (call : CreateSnapshotRequest) : Api (Option ProviderMutationResult) := do
  let vmid ← prepareSnapshotMutation library configuration call.request
  let name ← check (required call.name "snapshot name")
  let description := (present call.description).toList.map fun text => ("description", text)
  let upid ← request (.createSnapshot vmid ([("snapname", name), ("vmstate", "0")] ++ description))
  acceptedTask library configuration vmid upid

def rollbackSnapshot (call : Option SnapshotMutationRequest) : Api (Option ProviderMutationResult) := do
  let vmid ← prepareSnapshotMutation library configuration (call.bind SnapshotMutationRequest.request)
  let name ← check (assertSnapshotName (call.bind SnapshotMutationRequest.providerSnapshotReference))
  let upid ← request (.rollbackSnapshot vmid name [("start", "1")])
  acceptedTask library configuration vmid upid

def deleteSnapshot (call : Option SnapshotMutationRequest) : Api (Option ProviderMutationResult) := do
  let vmid ← prepareSnapshotMutation library configuration (call.bind SnapshotMutationRequest.request)
  let name ← check (assertSnapshotName (call.bind SnapshotMutationRequest.providerSnapshotReference))
  let upid ← request (.deleteSnapshot vmid name)
  acceptedTask library configuration vmid upid

def markInstanceRetained (call : MarkInstanceRetainedRequest) : Api (Option ProviderMutationResult) := do
  let (ownership, vmid) ← check (boundaries library configuration call.request)
  let _ ← requireOwnedConfig library vmid ownership
  let current ← request (.currentStatus vmid)
  if (present current.lock).isSome then return some resourceLocked
  else do
    let deadline := (call.retentionDeadline.map library.isoText).getD ""
    let upid ← request (.writeConfig vmid
      [("description", describedWithTrailer library ownership retentionTrailerKey deadline), ("onboot", "0"),
       ("delete", "ipconfig0")])
    return some (taskOrDone library configuration vmid upid)

/-- Destroys the VM, which is stopped first when it runs. -/
def purgeInstance (call : PurgeInstanceRequest) : Api (Option ProviderMutationResult) := do
  let (ownership, vmid) ← check (boundaries library configuration call.request)
  let _ ← requireOwnedConfig library vmid ownership
  let current ← request (.currentStatus vmid)
  if (present current.lock).isSome then return some resourceLocked
  else do
    if current.status = some "running" then
      let _ ← request (.power vmid "stop" [("overrule-shutdown", "1")])
    let upid ← request (.destroy vmid)
    return some (taskOrDone library configuration vmid upid)

def absentObservation (observedAt : Instant) : InstanceObservation :=
  { existing := some false, powerState := some .unknown,
    ownership := some { complete := some false, matching := some false }, observedAt := some observedAt }

def observeInstance (call : InstanceMutationRequest) (observedAt : Instant) : Api (Option InstanceObservation) := do
  let context ← check (assertContext configuration call.context)
  let expected ← check (assertOwnership configuration call.expectedOwnershipMarkers context)
  let found : Option Int ← match present call.providerResourceId with
    | some value => some <$> check (assertVmid library configuration (some value))
    | none => findOwnedVmid library configuration expected
  match found with
  | none => return some (absentObservation observedAt)
  | some vmid => do
    match ← vmConfig vmid true with
    | none => return some (absentObservation observedAt)
    | some config => do
      let status ← request (.currentStatus vmid)
      let actual := parseOwnership library config.description
      return some
        { existing := some true, providerResourceId := some (toString vmid),
          powerState := some (if status.status = some "running" then .running
            else if status.status = some "stopped" then .stopped else .unknown),
          resources := some { cpuCount := some (config.cores.getD 0), memoryMib := some (toString (config.memory.getD 0)),
                              diskGib := (diskGiB config).map toString },
          ownership := some { complete := some actual.isSome, matching := some (markersMatch actual expected),
                              values := actual },
          observedAt := some observedAt }

/-- The adapter's answer to any call of the port. -/
def handle (observedAt : Instant) : (call : ProviderCall) → Api call.Response
  | .submitCreateInstance call => submitCreateInstance library configuration call
  | .applyInstanceConfiguration call => applyInstanceConfiguration library configuration call
  | .getTask call => getTask library configuration call
  | .observeInstance call => observeInstance library configuration call observedAt
  | .startInstance mutation => startInstance library configuration mutation
  | .shutdownInstance mutation => shutdownInstance library configuration mutation
  | .stopInstance mutation => stopInstance library configuration mutation
  | .rebootInstance mutation => rebootInstance library configuration mutation
  | .resizeInstance call => resizeInstance library configuration call
  | .listSnapshots call => listSnapshots library configuration call
  | .createSnapshot call => createSnapshot library configuration call
  | .rollbackSnapshot call => rollbackSnapshot library configuration call
  | .deleteSnapshot call => deleteSnapshot library configuration call
  | .markInstanceRetained call => markInstanceRetained library configuration call
  | .purgeInstance call => purgeInstance library configuration call

end

end ControlPlane.ProxmoxProvider
