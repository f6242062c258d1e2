import ControlPlane.JsonValues
import ControlPlane.ProxmoxProvider

/-!
The variables of one instance's Terraform workspace: how a creation renders them
from its request, how every later change rebuilds them from the state document,
and which fields each change sets.
-/
namespace ControlPlane.TerraformVariables
open ControlPlane.Texts ControlPlane.ProviderPort ControlPlane.ProxmoxOwnership ControlPlane.JsonValues
open ControlPlane.ProxmoxProvider (required)

/-- What the Terraform adapter uses of its host's and third parties' libraries.
    The numbers of the host are a type of their own. -/
structure Host (Numeric : Type) where
  library : Library
  /-- `Number` of a text. -/
  number : String → Numeric
  ofInt : Int → Numeric
  /-- `String` of a number. -/
  print : Numeric → String
  isFinite : Numeric → Bool
  less : Numeric → Numeric → Bool
  /-- `JSON.parse`, if the text parses. -/
  parse : String → Option Json
  /-- What Terraform puts in the place of a number in a template. -/
  template : Numeric → String

inductive DiskFormat
  | qcow2
  | raw
  deriving DecidableEq, Repr

/-- The allowlist that the Terraform adapter is confined to. -/
structure TerraformProxmoxConfiguration where
  providerProfileId : String
  projectId : String
  node : String
  templateVmid : Nat
  templateDiskFormat : DiskFormat
  poolId : String
  imageId : String
  storage : String
  diskInterface : String
  bridge : String
  networkMtu : Nat
  networkId : String
  ipv4Cidr : String
  ipv4Gateway : String
  dnsDomain : String
  cloudInitUsername : String
  cloudInitPassword : String
  resourceIdMinimum : Nat
  resourceIdMaximum : Nat

namespace TerraformProxmoxConfiguration

/-- The two fields whose types allow one value only. -/
def environment (_ : TerraformProxmoxConfiguration) : String := "lab"
def managedBy (_ : TerraformProxmoxConfiguration) : String := "private-cloud-control-plane"

/-- What the constructor of the adapter insists on. -/
structure Accepted (configuration : TerraformProxmoxConfiguration) : Prop where
  minimum : 910000 ≤ configuration.resourceIdMinimum
  maximum : configuration.resourceIdMaximum ≤ 910099
  ordered : configuration.resourceIdMinimum ≤ configuration.resourceIdMaximum
  password : configuration.cloudInitPassword ≠ ""

def rangeSize (configuration : TerraformProxmoxConfiguration) : Nat :=
  configuration.resourceIdMaximum - configuration.resourceIdMinimum + 1

end TerraformProxmoxConfiguration

/-- Every variable that the instance module declares. -/
structure InstanceTfvars (Numeric : Type) where
  nodeName : String
  templateVmId : Numeric
  vmId : Numeric
  hostname : String
  ownershipMarker : String
  tags : List String
  datastoreId : String
  diskInterface : String
  diskFormat : DiskFormat
  poolId : String
  diskGib : Numeric
  cpuCores : Numeric
  memoryMib : Numeric
  bridge : String
  networkMtu : Numeric
  ipv4Address : String
  ipv4PrefixLength : Numeric
  ipv4Gateway : String
  dnsServers : List String
  dnsDomain : String
  cloudInitUsername : String
  cloudInitPassword : String
  sshPublicKeys : List String
  started : Bool
  onBoot : Bool
  deriving DecidableEq, Repr

/-- What an apply is started with. -/
structure ApplyInput (Numeric : Type) where
  instanceId : String
  operationId : String
  workspace : String
  vmId : Numeric
  tfvars : InstanceTfvars Numeric
  fencingToken : String
  purge : Bool := false

def instanceAddress : String := "proxmox_virtual_environment_vm.instance"

/-- One workspace per instance. -/
def workspaceNameFor (instanceId : String) : String := "instance-" ++ instanceId

/-- The lease token of the caller, or `0` when it holds no lease. -/
def fencingTokenFrom (context : Option ProviderCallContext) : String :=
  (((context.bind ProviderCallContext.fencingToken).map trim).filter (· ≠ "")).getD "0"

section
variable {Numeric : Type} (host : Host Numeric) (configuration : TerraformProxmoxConfiguration)

def assertProfile (profileId : Option String) : Except ProviderTransportError Unit :=
  if profileId ≠ some configuration.providerProfileId then
    .error (protocolError "Provider profile is not allowlisted.")
  else .ok ()

/-! ### Creation -/

/-- The VM id of an instance, from the first 32 bits of the SHA-256 of its id. -/
def vmIdFor (instanceId : String) : Nat :=
  configuration.resourceIdMinimum + host.library.sha256Seed instanceId % configuration.rangeSize

/-- What a creation applies, or how it is refused. -/
def createInput (request : SubmitCreateInstanceRequest) :
    Except ProviderTransportError (Except ProviderMutationResult (ApplyInput Numeric)) := do
  assertProfile configuration (request.context.bind ProviderCallContext.providerProfileId)
  match present (request.context.bind ProviderCallContext.instanceId),
    present (request.context.bind ProviderCallContext.operationId) with
  | some instanceId, some operationId =>
    if request.imageId ≠ some configuration.imageId then throw (protocolError "Image is outside the allowlist.")
    else
      match request.ownershipMarkers, request.resources, request.network with
      | none, _, _ => throw (protocolError "Ownership markers are required.")
      | some markers, some resources, some network =>
        let vmId := host.ofInt (vmIdFor host configuration instanceId)
        let hostname ← required request.hostname "hostname"
        let ipv4Address ← required network.ipv4Address "network.ipv4Address"
        let ipv4Gateway ← required network.ipv4Gateway "network.ipv4Gateway"
        return .ok
          { instanceId, operationId, workspace := workspaceNameFor instanceId, vmId,
            tfvars :=
              { nodeName := configuration.node, templateVmId := host.ofInt configuration.templateVmid, vmId, hostname,
                ownershipMarker := ownershipDescription host.library markers,
                tags := [configuration.managedBy, configuration.environment], datastoreId := configuration.storage,
                diskInterface := configuration.diskInterface, diskFormat := configuration.templateDiskFormat,
                poolId := configuration.poolId,
                diskGib := (resources.diskGib.map host.number).getD (host.ofInt 0),
                cpuCores := host.ofInt (resources.cpuCount.getD 1),
                memoryMib := (resources.memoryMib.map host.number).getD (host.ofInt 512), bridge := configuration.bridge,
                networkMtu := host.ofInt configuration.networkMtu, ipv4Address,
                ipv4PrefixLength := host.ofInt (network.ipv4PrefixLength.getD 0), ipv4Gateway,
                dnsServers := network.dnsServers.getD [], dnsDomain := configuration.dnsDomain,
                cloudInitUsername := configuration.cloudInitUsername,
                cloudInitPassword := configuration.cloudInitPassword,
                sshPublicKeys := request.sshPublicKeys.getD [], started := true, onBoot := false },
            fencingToken := fencingTokenFrom request.context }
      | _, _, _ =>
        return .error (failure .validation "CONFIGURATION_REQUIRED" "Resources and network configuration are required.")
  | _, _ => throw (protocolError "context.instanceId and context.operationId are required.")

/-- Variables that are sufficient to read the state of a workspace. -/
def probeTfvars : InstanceTfvars Numeric :=
  { nodeName := configuration.node, templateVmId := host.ofInt configuration.templateVmid,
    vmId := host.ofInt configuration.resourceIdMinimum, hostname := "probe",
    ownershipMarker := "private-cloud-control:\x7b\x7d", tags := [configuration.managedBy],
    datastoreId := configuration.storage, diskInterface := configuration.diskInterface,
    diskFormat := configuration.templateDiskFormat, poolId := configuration.poolId, diskGib := host.ofInt 32, cpuCores := host.ofInt 1,
    memoryMib := host.ofInt 512, bridge := configuration.bridge, networkMtu := host.ofInt configuration.networkMtu,
    ipv4Address := configuration.ipv4Gateway,
    ipv4PrefixLength := ((split '/' configuration.ipv4Cidr)[1]?.map host.number).getD (host.ofInt 24),
    ipv4Gateway := configuration.ipv4Gateway, dnsServers := ["1.1.1.1"], dnsDomain := configuration.dnsDomain,
    cloudInitUsername := configuration.cloudInitUsername, cloudInitPassword := configuration.cloudInitPassword,
    sshPublicKeys := [], started := false, onBoot := false }

/-! ### The state document -/

/-- `Number(value)`. -/
def numberOf : Json → Evaluated Numeric
  | .null => return host.ofInt 0
  | .bool value => return host.ofInt (if value then 1 else 0)
  | .num printed => return host.number printed
  | .str text => return host.number text
  | value => return host.number (← value.text)

/-- A block of the document: lists of one entry. -/
def block : Option Json → Option Json
  | some (.arr items) => items.head?
  | _ => none

/-- `value.map(String)`, of a list. -/
def listed : Option Json → Option (Evaluated (List String))
  | some (.arr items) => some (items.mapM Json.text)
  | _ => none

/-- The resolvers of an `initialization` block. -/
def dnsServers (initialization : Option Json) : Evaluated (Option (List String)) :=
  match Json.optional "dns" initialization with
  | some (.arr (first :: _)) => do
    match listed (← first.member "servers") with
    | some servers => return some (← servers)
    | none => return none
  | _ => return none

/-- The first entry with the address of the instance. -/
def findInstance : List Json → Evaluated (Option Json)
  | [] => return none
  | entry :: rest => do
    match ← entry.member "address" with
    | some (.str address) => if address = instanceAddress then return some entry else findInstance rest
    | _ => findInstance rest

/-- The instance in a state document. -/
def stateResource (state : Option Json) : Evaluated (Option Json) :=
  match Json.optional "resources" (Json.optional "root_module" (Json.optional "values" state)) with
  | none | some .null => return none
  | some resources => do findInstance (← resources.array)

/-- `value === true`. -/
def isTrue : Option Json → Bool
  | some (.bool true) => true
  | _ => false

/-- The variables that the values of an instance declare. The allowlisted ones come
    from the configuration. -/
def declaredTfvars (values : Json) : Evaluated (InstanceTfvars Numeric) := do
  let initialization := block (values.own "initialization")
  let ipv4 := block (Json.optional "ipv4" (block (Json.optional "ip_config" initialization)))
  let account := block (Json.optional "user_account" initialization)
  let cpu := block (values.own "cpu")
  let memory := block (values.own "memory")
  let disk := block (values.own "disk")
  let address := split '/' (← (Json.coalesce (.str "") (Json.optional "address" ipv4)).text)
  let vmId ← numberOf host (Json.coalesce (.num (toString configuration.resourceIdMinimum)) (values.own "vm_id"))
  let hostname ← (Json.coalesce (.str "instance") (values.own "name")).text
  let ownershipMarker ← (Json.coalesce (.str "") (values.own "description")).text
  let tags ← (listed (values.own "tags")).getD (return [])
  let diskGib ← numberOf host (Json.coalesce (.num "0") (Json.optional "size" disk))
  let cpuCores ← numberOf host (Json.coalesce (.num "1") (Json.optional "cores" cpu))
  let memoryMib ← numberOf host (Json.coalesce (.num "512") (Json.optional "dedicated" memory))
  let ipv4Gateway ← (Json.coalesce (.str configuration.ipv4Gateway) (Json.optional "gateway" ipv4)).text
  let servers ← dnsServers initialization
  let sshPublicKeys ← (listed (Json.optional "keys" account)).getD (return [])
  return {
    nodeName := configuration.node, templateVmId := host.ofInt configuration.templateVmid, vmId, hostname, ownershipMarker,
    tags, datastoreId := configuration.storage, diskInterface := configuration.diskInterface,
    diskFormat := configuration.templateDiskFormat, poolId := configuration.poolId, diskGib, cpuCores, memoryMib,
    bridge := configuration.bridge, networkMtu := host.ofInt configuration.networkMtu,
    ipv4Address := address.headD "", ipv4PrefixLength := (address[1]?.map host.number).getD (host.ofInt 0), ipv4Gateway,
    dnsServers := servers.getD ["1.1.1.1"], dnsDomain := configuration.dnsDomain,
    cloudInitUsername := configuration.cloudInitUsername, cloudInitPassword := configuration.cloudInitPassword,
    sshPublicKeys, started := isTrue (values.own "started"), onBoot := isTrue (values.own "on_boot") }

def tfvarsFromState (state : Option Json) : Evaluated (Option (InstanceTfvars Numeric)) := do
  match (Json.optional "values" (← stateResource state)).filter Json.truthy with
  | none => return none
  | some values => return some (← declaredTfvars host configuration values)

/-! ### The module -/

def DiskFormat.text : DiskFormat → String
  | .qcow2 => "qcow2"
  | .raw => "raw"

/-- A number of the variable file. JSON has no other numbers. -/
def render (value : Numeric) : Json := if host.isFinite value then .num (host.print value) else .null

/-- What `main.tf` assigns to the attributes of the instance. A block is a list of
    one entry, and a template takes no null. -/
def moduleAttributes (var : InstanceTfvars Numeric) : Option Json :=
  let block (fields : List (String × Json)) : Json := .arr [.obj fields]
  let list (items : List String) : Json := .arr (items.map .str)
  if !host.isFinite var.ipv4PrefixLength then none
  else
    some (.obj
      [("node_name", .str var.nodeName), ("vm_id", render host var.vmId), ("name", .str var.hostname),
        ("description", .str var.ownershipMarker), ("tags", list var.tags), ("pool_id", .str var.poolId),
        ("clone", block
          [("vm_id", render host var.templateVmId), ("datastore_id", .str var.datastoreId), ("full", .bool true)]),
        ("cpu", block
          [("cores", render host var.cpuCores), ("sockets", .num "1"), ("type", .str "host"),
            ("hotplugged", render host var.cpuCores)]),
        ("memory", block [("dedicated", render host var.memoryMib)]),
        ("disk", block
          [("datastore_id", .str var.datastoreId), ("interface", .str var.diskInterface), ("size", render host var.diskGib),
            ("discard", .str "on"), ("iothread", .bool true), ("ssd", .bool true),
            ("file_format", .str var.diskFormat.text)]),
        ("network_device", block
          [("bridge", .str var.bridge), ("model", .str "virtio"), ("mtu", render host var.networkMtu),
            ("firewall", .bool true)]),
        ("agent", block [("enabled", .bool true)]),
        ("initialization", block
          [("datastore_id", .str var.datastoreId),
            ("ip_config", block
              [("ipv4", block
                [("address", .str (var.ipv4Address ++ "/" ++ host.template var.ipv4PrefixLength)),
                  ("gateway", .str var.ipv4Gateway)])]),
            ("dns", block [("domain", .str var.dnsDomain), ("servers", list var.dnsServers)]),
            ("user_account", block
              [("username", .str var.cloudInitUsername), ("password", .str var.cloudInitPassword),
                ("keys", list var.sshPublicKeys)])]),
        ("machine", .str "q35"), ("scsi_hardware", .str "virtio-scsi-single"),
        ("operating_system", block [("type", .str "l26")]), ("started", .bool var.started), ("on_boot", .bool var.onBoot)])

/-! ### Changes -/

/-- A change of an instance that exists. -/
inductive Change
  | power (started : Bool)
  | resize (target : Option InstanceResources)
  | retain (markers : OwnershipMarkers) (retentionDeadline : String)

/-- The variables that a change applies. -/
def Change.apply (declared : InstanceTfvars Numeric) : Change → InstanceTfvars Numeric
  | .power started => { declared with started }
  | .resize target =>
    { declared with
      cpuCores := ((target.bind InstanceResources.cpuCount).map fun count => host.ofInt count).getD declared.cpuCores
      memoryMib := ((target.bind InstanceResources.memoryMib).map host.number).getD declared.memoryMib
      diskGib := ((target.bind InstanceResources.diskGib).map host.number).getD declared.diskGib }
  | .retain markers retentionDeadline =>
    { declared with
      onBoot := false, started := false
      ownershipMarker := describedWithTrailer host.library markers retentionTrailerKey retentionDeadline }

end

/-! ### A sample deployment -/

/-- A host whose numbers are the natural ones. -/
def sampleHost : Host Nat :=
  { library := sampleLibrary {}, number := fun text => Nat.ofDigitChars 10 text.toList 0, ofInt := Int.toNat, print := toString,
    isFinite := fun _ => true, less := fun left right => left < right, parse := fun _ => none, template := toString }

def sampleTerraform : TerraformProxmoxConfiguration :=
  { providerProfileId := "proxmox", projectId := "00000000-0000-4000-8000-0000000000b1", node := "pve", templateVmid := 9000,
    templateDiskFormat := .qcow2, poolId := "lab", imageId := "debian-12", storage := "local-lvm", diskInterface := "scsi0",
    bridge := "vmbr0", networkMtu := 1450, networkId := "lab", ipv4Cidr := "10.0.0.0/24", ipv4Gateway := "10.0.0.1",
    dnsDomain := "lab.internal", cloudInitUsername := "debian", cloudInitPassword := "correct-horse",
    resourceIdMinimum := 910000, resourceIdMaximum := 910099 }

def sampleTerraformCreation : SubmitCreateInstanceRequest :=
  { context := some { operationId := some "c1", instanceId := some "a1", providerProfileId := some "proxmox" },
    imageId := some "debian-12", hostname := some "vm-1",
    resources := some { cpuCount := some 2, memoryMib := some "1024", diskGib := some "32" },
    network := some
      { ipv4Address := some "10.0.0.5", ipv4PrefixLength := some 24, ipv4Gateway := some "10.0.0.1",
        dnsServers := some ["10.0.0.2"] },
    sshPublicKeys := some ["ssh-ed25519 AAAA"], ownershipMarkers := some {} }

end ControlPlane.TerraformVariables
