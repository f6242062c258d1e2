import ControlPlane.ProviderPort
import ControlPlane.Texts

/-!
The ownership and allowlist vocabulary that the Proxmox adapters share: how
markers are written into the description of a VM and read back, and when two
sets of markers are the same.
-/
namespace ControlPlane.ProxmoxOwnership
open ControlPlane.Texts ControlPlane.Domain ControlPlane.ProviderPort

/-- What the adapters use of their host's and third parties' libraries. -/
structure Library where
  /-- The integer that `Number` reads from a text. -/
  number : String → Option Int
  /-- `JSON.stringify` of the five marker fields. -/
  stringifyMarkers : OwnershipMarkers → String
  /-- The marker fields that `JSON.parse` reads from a text, if it parses. -/
  parseMarkers : String → Option OwnershipMarkers
  encodeBase64url : String → String
  decodeBase64url : String → String
  /-- The first 32 bits of the SHA-256 of a text. -/
  sha256Seed : String → Nat
  /-- The prefix length of a CIDR range, and whether range and address are IPv4
      and match, when both parse. -/
  parseInRange : String → String → Option (Nat × Bool)
  isoText : Instant → String

/-- What the Proxmox adapters are configured with. -/
structure ProxmoxProviderConfiguration where
  providerProfileId : String
  node : String
  templateVmid : Int
  imageId : String
  storage : String
  bridge : String
  networkId : String
  ipv4Cidr : String
  ipv4Gateway : String
  resourceIdMinimum : Nat
  resourceIdMaximum : Nat
  projectId : String

namespace ProxmoxProviderConfiguration

/-- The two fields whose types allow one value only. -/
def environment (_ : ProxmoxProviderConfiguration) : String := "lab"
def managedBy (_ : ProxmoxProviderConfiguration) : String := "private-cloud-control-plane"

end ProxmoxProviderConfiguration

/-- The configuration of a VM, with the description that carries its markers. -/
structure ProxmoxVmConfig where
  description : Option String := none
  name : Option String := none
  cores : Option Nat := none
  memory : Option Nat := none
  net0 : Option String := none
  ipconfig0 : Option String := none
  scsi0 : Option String := none
  virtio0 : Option String := none
  sata0 : Option String := none
  deriving DecidableEq, Repr

def markerPrefix : String := "private-cloud-control:"

def maximumCpuCount : Int := 8
def minimumMemoryMib : Int := 512
def maximumMemoryMib : Int := 16384
def minimumDiskGib : Int := 1
def maximumDiskGib : Int := 128

def retentionTrailerKey : String := "retained-until"

/-- A value that is present and not empty. -/
def present (value : Option String) : Option String := value.filter (· ≠ "")

/-- A sanitised refusal. -/
def failure (category : FailureCategory) (code safeMessage : String) : ProviderMutationResult :=
  { state := some .rejected,
    failure := some { category := some category, code := some code, safeMessage := some safeMessage } }

/-- Work that is already done. -/
def succeeded (vmid : Int) : ProviderMutationResult :=
  { state := some .succeeded, providerResourceId := some (toString vmid) }

/-- The refusal of a VM that another provider operation holds. -/
def resourceLocked : ProviderMutationResult :=
  failure .transient "PROVIDER_RESOURCE_LOCKED" "Another provider operation currently holds this instance."

section
variable (library : Library)

def ownershipDescription (markers : OwnershipMarkers) : String := markerPrefix ++ library.stringifyMarkers markers

def describedWithTrailer (markers : OwnershipMarkers) (key value : String) : String :=
  ownershipDescription library markers ++ "\n" ++ key ++ "=" ++ value

/-- The markers in the first line of a description, when all five are there. -/
def parseOwnership (description : Option String) : Option OwnershipMarkers :=
  (description.bind (afterPrefix markerPrefix)).bind fun rest =>
    (library.parseMarkers ((split '\n' rest).headD "")).filter fun value =>
      (present value.managedBy).isSome && (present value.environment).isSome && (present value.projectId).isSome &&
        (present value.instanceId).isSome && (present value.createOperationId).isSome

/-- Exact comparison of all five fields. -/
def markersMatch (actual : Option OwnershipMarkers) (expected : OwnershipMarkers) : Bool :=
  actual.any fun actual =>
    actual.managedBy = expected.managedBy && actual.environment = expected.environment &&
      actual.projectId = expected.projectId && actual.instanceId = expected.instanceId &&
      actual.createOperationId = expected.createOperationId

theorem markersMatch_iff {actual : Option OwnershipMarkers} {expected : OwnershipMarkers} :
    markersMatch actual expected = true ↔ actual = some expected := by
  cases actual with
  | none => simp [markersMatch]
  | some actual =>
    obtain ⟨_, _, _, _, _⟩ := actual
    obtain ⟨_, _, _, _, _⟩ := expected
    simp [markersMatch, and_assoc]

end

/-- Markers that are all there and that the library writes on one line and reads
    back. -/
structure Legible (library : Library) (markers : OwnershipMarkers) : Prop where
  restored : library.parseMarkers (library.stringifyMarkers markers) = some markers
  oneLine : '\n' ∉ (library.stringifyMarkers markers).toList
  managedBy : (present markers.managedBy).isSome
  environment : (present markers.environment).isSome
  projectId : (present markers.projectId).isSome
  instanceId : (present markers.instanceId).isSome
  createOperationId : (present markers.createOperationId).isSome

theorem parseOwnership_description {library : Library} {markers : OwnershipMarkers} (legible : Legible library markers) :
    parseOwnership library (some (ownershipDescription library markers)) = some markers := by
  simp [parseOwnership, ownershipDescription, afterPrefix_append, split, splitChars_of_not_mem legible.oneLine,
    legible.restored, legible.managedBy, legible.environment, legible.projectId, legible.instanceId,
    legible.createOperationId]

/-- A trailer does not hide the markers. -/
theorem parseOwnership_trailer {library : Library} {markers : OwnershipMarkers} {key value : String}
    (legible : Legible library markers) :
    parseOwnership library (some (describedWithTrailer library markers key value)) = some markers := by
  have described : describedWithTrailer library markers key value =
      markerPrefix ++ (library.stringifyMarkers markers ++ ("\n" ++ (key ++ ("=" ++ value)))) := by
    simp [describedWithTrailer, ownershipDescription, String.append_assoc]
  simp [described, parseOwnership, afterPrefix_append, split, splitChars_append legible.oneLine, legible.restored,
    legible.managedBy, legible.environment, legible.projectId, legible.instanceId, legible.createOperationId]

/-- `JSON.stringify` of five marker fields whose texts need no escape. -/
def markersJson (markers : OwnershipMarkers) : String :=
  let field (name : String) (value : Option String) : List String :=
    value.toList.map fun text => "\"" ++ name ++ "\":\"" ++ text ++ "\""
  "\x7b" ++ ",".intercalate (field "managedBy" markers.managedBy ++ field "environment" markers.environment ++
    field "projectId" markers.projectId ++ field "instanceId" markers.instanceId ++
    field "createOperationId" markers.createOperationId) ++ "\x7d"

theorem markersJson_oneLine {managedBy environment projectId instanceId createOperationId : String}
    (first : '\n' ∉ managedBy.toList) (second : '\n' ∉ environment.toList) (third : '\n' ∉ projectId.toList)
    (fourth : '\n' ∉ instanceId.toList) (fifth : '\n' ∉ createOperationId.toList) :
    '\n' ∉ (markersJson ⟨some managedBy, some environment, some projectId, some instanceId,
      some createOperationId⟩).toList := by
  simp only [markersJson, Option.toList, List.map, List.cons_append, List.nil_append, String.intercalate_cons_cons,
    String.intercalate_singleton, String.toList_append, List.mem_append, not_or]
  and_intros <;> first | assumption | decide

/-- A library that knows the texts of one set of markers and of one VM id. -/
def sampleLibrary (markers : OwnershipMarkers) : Library :=
  { number := fun text =>
      if text = "910000" then some 910000 else if text = "1024" then some 1024 else if text = "10" then some 10 else none,
    stringifyMarkers := markersJson,
    parseMarkers := fun text => if text = markersJson markers then some markers else none,
    encodeBase64url := fun text => if text = "UPID:1" then "VVBJRDox" else "",
    decodeBase64url := fun text => if text = "VVBJRDox" then "UPID:1" else "",
    sha256Seed := fun _ => 0, parseInRange := fun _ _ => none, isoText := fun _ => "1970-01-01T00:00:00.000Z" }

def sampleConfiguration : ProxmoxProviderConfiguration :=
  { providerProfileId := "proxmox", node := "pve", templateVmid := 9000, imageId := "debian-12", storage := "local-lvm",
    bridge := "vmbr0", networkId := "lab", ipv4Cidr := "10.0.0.0/24", ipv4Gateway := "10.0.0.1",
    resourceIdMinimum := 910000, resourceIdMaximum := 910099, projectId := "00000000-0000-4000-8000-0000000000b1" }

/-! ### Disk sizes -/

/-- The GiB that a size suffix stands for. -/
def sizeFactor : Char → Option Rat
  | 'K' | 'k' => some (1 / 1024 / 1024)
  | 'M' | 'm' => some (1 / 1024)
  | 'G' | 'g' => some 1
  | 'T' | 't' => some 1024
  | _ => none

/-- The number that `\d+(\.\d+)?` reads. -/
def decimalValue (text : List Char) : Option Rat :=
  match splitChars '.' text with
  | [whole] => if whole ≠ [] ∧ whole.all isDigit then some (digitsValue whole) else none
  | [whole, fraction] =>
    if whole ≠ [] ∧ whole.all isDigit ∧ fraction ≠ [] ∧ fraction.all isDigit then
      some (digitsValue whole + (digitsValue fraction : Rat) / 10 ^ fraction.length)
    else none
  | _ => none

/-- The size in GiB, rounded up, of a part `size=<number><suffix>`, in letters of
    either case. -/
def sizeOfPart (part : String) : Option Int :=
  if (part.toList.take 5).map Char.toLower ≠ "size=".toList then none
  else
    let size := part.toList.drop 5
    (size.getLast?.bind sizeFactor).bind fun factor =>
      (decimalValue size.dropLast).map fun value => (value * factor).ceil

/-- The disk size in GiB of a VM, from its disk specification. -/
def diskGiB (config : ProxmoxVmConfig) : Option Int :=
  ((config.scsi0.or config.virtio0).or config.sata0).bind fun disk => (split ',' disk).findSome? sizeOfPart

example : diskGiB { scsi0 := some "local-lvm:vm-910000-disk-0,SIZE=10240M" } = some 10 := by decide +kernel

end ControlPlane.ProxmoxOwnership
