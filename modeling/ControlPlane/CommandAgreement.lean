import ControlPlane.CommandRouting
import ControlPlane.ControlPlaneApplication
import ControlPlane.Lifecycle

/-!
What the control plane writes to the command topic, against what the orchestrator
narrows from it. The producers and the validators were written apart: the bounds
of a command's fields are the validators' alone, and a request is checked against
some of them only.
-/
namespace ControlPlane.CommandAgreement
open ControlPlane.Tables ControlPlane.Texts ControlPlane.Domain ControlPlane.Commands ControlPlane.EventValidation
open ControlPlane.RequestValidation ControlPlane.ControlSchema ControlPlane.Transactions ControlPlane.Acceptance
open ControlPlane.AcceptanceRules ControlPlane.ControlPlaneApplication ControlPlane.KafkaConsumer ControlPlane.CommandRouting

/-! ### Addresses -/

theorem octet_text : ∀ n < 256,
    isOctetText (toString n) = true ∧ digitsValue (toString n).toList = n ∧ '.' ∉ (toString n).toList := by
  intro n
  simp only [isOctetText, toString, Nat.toList_repr]
  revert n
  decide +kernel

theorem shiftOctets_octets {octets : List String} {result address : BitVec 32}
    (read : shiftOctets result octets = some address) :
    ∀ octet ∈ octets, isOctetText octet = true ∧ digitsValue octet.toList ≤ 255 := by
  induction octets generalizing result with
  | nil => exact fun octet member => absurd member List.not_mem_nil
  | cons first rest ih =>
    simp only [shiftOctets] at read
    split at read
    next => cases read
    next octet =>
      split at read
      next => cases read
      next small =>
        intro other member
        rcases List.mem_cons.mp member with rfl | later
        · exact ⟨by simpa using octet, Nat.le_of_not_lt small⟩
        · exact ih read other later

theorem strictIpv4_address {value : String} {address : BitVec 32} (read : strictIpv4 value = some address) :
    ipv4Address value = true := by
  simp only [strictIpv4] at read
  split at read
  next => cases read
  next four =>
    have octets := shiftOctets_octets read
    simp only [ipv4Address, Bool.and_eq_true, decide_eq_true_eq, List.all_eq_true]
    exact ⟨not_not.mp four, fun octet member => octets octet member⟩

theorem split_intercalate {a b c d : String} (free : ∀ part ∈ [a, b, c, d], '.' ∉ part.toList) :
    split '.' (".".intercalate [a, b, c, d]) = [a, b, c, d] := by
  have spelled : (".".intercalate [a, b, c, d]).toList =
      a.toList ++ '.' :: (b.toList ++ '.' :: (c.toList ++ '.' :: d.toList)) := by
    simp [String.intercalate_cons_cons, String.intercalate_singleton, String.toList_append]
  rw [split, spelled, splitChars_append (free a (by simp)), splitChars_append (free b (by simp)),
    splitChars_append (free c (by simp)), splitChars_of_not_mem (free d (by simp))]
  simp

theorem dottedDecimal_address (address : BitVec 32) : ipv4Address (dottedDecimal address) = true := by
  have small (shift : Nat) : ((address >>> shift) &&& 255#32).toNat < 256 := by
    rw [BitVec.toNat_and]
    exact Nat.lt_succ_of_le Nat.and_le_right
  rw [ipv4Address, dottedDecimal]
  simp only [List.map_cons, List.map_nil]
  rw [split_intercalate]
  · simp only [List.length_cons, List.length_nil, List.all_cons, List.all_nil, Bool.and_true, Bool.and_eq_true,
      decide_eq_true_eq, true_and]
    have octet (shift : Nat) : isOctetText (toString ((address >>> shift) &&& 255#32).toNat) = true ∧
        digitsValue (toString ((address >>> shift) &&& 255#32).toNat).toList ≤ 255 := by
      obtain ⟨spelled, value, -⟩ := octet_text _ (small shift)
      exact ⟨spelled, by rw [value]; exact Nat.le_of_lt_succ (small shift)⟩
    exact ⟨octet 24, octet 16, octet 8, octet 0⟩
  · simp only [List.mem_cons, List.not_mem_nil, or_false]
    rintro part (rfl | rfl | rfl | rfl) <;> exact (octet_text _ (small _)).2.2

theorem firstFree_address {network : BitVec 32} {taken : String → Bool} {offset remaining : Nat} {address : String}
    (found : firstFree network taken offset remaining = some address) : ipv4Address address = true := by
  induction remaining generalizing offset with
  | zero => cases found
  | succ remaining ih =>
    simp only [firstFree] at found
    split at found
    next => exact ih found
    next => cases found; exact dottedDecimal_address _

/-- An allocation reads the gateway and the prefix length of its pool, and gives an
    address of the same kind. -/
theorem allocateIpv4_addresses {number : String → Option Int} {pool : Ipv4Pool} {leased : List String} {address : String}
    (allocated : allocateIpv4 number pool leased = .ok address) :
    ipv4Address address = true ∧ ipv4Address pool.gateway = true ∧
      ∃ length, ((split '/' pool.cidr)[1]?).bind number = some length ∧ 1 ≤ length ∧ length ≤ 30 := by
  simp only [allocateIpv4] at allocated
  split at allocated
  next => cases allocated
  next length read =>
    split at allocated
    next => cases allocated
    next bounded =>
      simp only [not_or, Int.not_lt] at bounded
      split at allocated
      next network gateway _ readGateway =>
        split at allocated
        next => cases allocated
        next =>
          split at allocated
          next found =>
            cases allocated
            exact ⟨firstFree_address found, strictIpv4_address readGateway, length, read, bounded.2⟩
          next => cases allocated
      next => cases allocated

/-! ### Identifiers -/

theorem splitChars_length (separator : Char) (text : List Char) :
    text.length + 1 = ((splitChars separator text).map List.length).sum + (splitChars separator text).length := by
  induction text with
  | nil => rfl
  | cons c rest ih =>
    simp only [splitChars]
    split
    next => simp only [List.map_cons, List.sum_cons, List.length_nil, List.length_cons]; omega
    next =>
      split
      next none => rw [none] at ih; simp at ih
      next part parts some =>
        rw [some] at ih
        simp only [List.map_cons, List.sum_cons, List.length_cons] at ih ⊢
        omega

theorem utf16Length_bounds (text : String) :
    text.toList.length ≤ utf16Length text ∧ utf16Length text ≤ 2 * text.toList.length := by
  rw [utf16Length, characters_eq]
  induction text.toList with
  | nil => exact ⟨Nat.le_refl _, Nat.le_refl _⟩
  | cons c rest ih =>
    simp only [List.map_cons, List.sum_cons, List.length_cons]
    split <;> omega

/-- An identifier can be the key of a partition. -/
theorem isUuidText_inRange {text : String} (uuid : isUuidText text = true) : stringInRange text 1 128 = true := by
  have counted := splitChars_length '-' text.toList
  simp only [isUuidText, characters_eq, Bool.and_eq_true, decide_eq_true_eq] at uuid
  have groups := congrArg List.length uuid.1
  rw [List.length_map] at groups
  rw [uuid.1, groups] at counted
  have bounds := utf16Length_bounds text
  simp only [List.sum_cons, List.sum_nil, List.length_cons, List.length_nil] at counted
  simp only [stringInRange, Bool.and_eq_true, decide_eq_true_eq]
  omega

theorem correlationId_uuid {drawn correlation : Uuid} {header : Option String} (unique : isUuidText drawn = true)
    (carried : correlationId drawn header = some correlation) : isUuidText correlation = true := by
  unfold correlationId at carried
  split at carried
  next => cases carried; exact unique
  next =>
    split at carried
    next versioned =>
      cases carried
      simp only [isVersionedUuidText, Bool.and_eq_true] at versioned
      exact versioned.1
    next => cases carried

/-! ### What the service lets through -/

/-- The instance request that a request carries its identifiers in. -/
def requestCorrelation : Request → Uuid
  | .create command => command.correlationId
  | .power command => command.correlationId
  | .resize command => command.correlationId
  | .snapshotCreate command => command.correlationId
  | .snapshotAction _ command => command.correlationId
  | .retention command => command.correlationId
  | .purge command => command.correlationId
  | .replay command => command.correlationId

/-- What the service has checked of the fields that end in a command. -/
def Checked : Request → Prop
  | .create command =>
    Supplied ⟨command.imageId, command.flavorId, command.networkId, command.hostname, command.sshPublicKeys⟩
  | .snapshotCreate command => stringInRange command.name 1 63 = true
  | _ => True

theorem submit_ok {input : Input} {request : Request} (admitted : submit input = .ok request) :
    Checked request ∧ requestCorrelation request = input.correlationId := by
  have mapped {α : Type} {result : Except DomainError α} {wrap : α → Request}
      (ended : result.map wrap = .ok request) : ∃ command, result = .ok command ∧ request = wrap command := by
    cases result with
    | error _ => cases ended
    | ok command => cases ended; exact ⟨command, rfl, rfl⟩
  cases input with
  | createInstance input =>
    obtain ⟨command, built, rfl⟩ := mapped admitted
    obtain ⟨_, -, rest⟩ := bind_ok built
    obtain ⟨_, -, rest⟩ := bind_ok rest
    obtain ⟨_, valid, rest⟩ := bind_ok rest
    cases rest
    exact ⟨validateCreateInstance_ok valid, rfl⟩
  | mutateInstancePower input =>
    obtain ⟨command, built, rfl⟩ := mapped admitted
    obtain ⟨_, -, rest⟩ := bind_ok built
    obtain ⟨_, -, rest⟩ := bind_ok rest
    obtain ⟨_, -, rest⟩ := bind_ok rest
    cases rest
    exact ⟨trivial, rfl⟩
  | resizeInstance input =>
    obtain ⟨command, built, rfl⟩ := mapped admitted
    obtain ⟨_, -, rest⟩ := bind_ok built
    obtain ⟨_, -, rest⟩ := bind_ok rest
    cases rest
    exact ⟨trivial, rfl⟩
  | createSnapshot input =>
    obtain ⟨command, built, rfl⟩ := mapped admitted
    obtain ⟨_, -, rest⟩ := bind_ok built
    obtain ⟨_, -, rest⟩ := bind_ok rest
    obtain ⟨_, valid, rest⟩ := bind_ok rest
    cases rest
    exact ⟨validateSnapshotName_ok valid, rfl⟩
  | snapshotAction action input =>
    obtain ⟨command, built, rfl⟩ := mapped admitted
    obtain ⟨_, -, rest⟩ := bind_ok built
    obtain ⟨_, -, rest⟩ := bind_ok rest
    cases rest
    exact ⟨trivial, rfl⟩
  | retainInstance input =>
    obtain ⟨command, built, rfl⟩ := mapped admitted
    obtain ⟨_, -, rest⟩ := bind_ok built
    obtain ⟨_, -, rest⟩ := bind_ok rest
    cases rest
    exact ⟨trivial, rfl⟩
  | purgeInstance input =>
    obtain ⟨command, built, rfl⟩ := mapped admitted
    obtain ⟨_, -, rest⟩ := bind_ok built
    obtain ⟨_, -, rest⟩ := bind_ok rest
    split at rest
    next => cases rest
    next => cases rest; exact ⟨trivial, rfl⟩
  | requestDeadLetterReplay input =>
    obtain ⟨command, built, rfl⟩ := mapped admitted
    obtain ⟨_, -, rest⟩ := bind_ok built
    obtain ⟨_, -, rest⟩ := bind_ok rest
    simp only at rest
    split at rest
    next => cases rest
    next => cases rest; exact ⟨trivial, rfl⟩

/-! ### What the contracts ask beyond that -/

/-- The columns hold what their types and their checks allow. -/
structure Typed (db : ControlDb) : Prop where
  projects : ∀ project ∈ db.projects, isUuidText project.id = true
  flavors : ∀ flavor ∈ db.flavors, 0 < flavor.cpuCount ∧ 512 ≤ flavor.memoryMib ∧ 8 ≤ flavor.minimumDiskGib
  instances : ∀ row ∈ db.instances, isUuidText row.id = true ∧ isUuidText row.projectId = true ∧
    ∀ operationId, row.createOperationId = some operationId → isUuidText operationId = true
  snapshots : ∀ snapshot ∈ db.snapshots, isUuidText snapshot.id = true

/-- An instance whose provider profile a command can name, and which knows the
    operation that created it. -/
structure Routed (row : InstanceRow) : Prop where
  profile : stringInRange row.providerProfileId 1 64 = true
  created : row.createOperationId ≠ none

/-- The catalog and the rows that a request meets fit into its command. -/
def Contracted (db : ControlDb) : Request → Prop
  | .create command => ∀ image profile flavor network, imageProfile db command.imageId = some (image, profile) →
      enabledFlavor db command.flavorId = some flavor → find NetworkRow.id command.networkId db.networks = some network →
      stringInRange profile.id 1 63 = true ∧ flavor.cpuCount ≤ 64 ∧ flavor.memoryMib ≤ 262144 ∧
        flavor.minimumDiskGib ≤ 2048 ∧ network.dnsServers.all ipv4Address = true ∧ distinct network.dnsServers = true
  | .power command => ∀ row, db.instance_ command.instanceId = some row → Routed row
  | .resize command => ∀ row flavor, db.instance_ command.instanceId = some row →
      enabledFlavor db command.flavorId = some flavor → Routed row ∧ stringInRange command.flavorId 1 63 = true ∧
        flavor.cpuCount ≤ 64 ∧ flavor.memoryMib ≤ 262144 ∧
        max (max row.desiredDiskGib flavor.minimumDiskGib) (command.diskGiB.getD 0) ≤ 2048
  | .snapshotCreate command => ∀ row, db.instance_ command.instanceId = some row →
      Routed row ∧ ∀ description, command.description = some description → utf16Length description ≤ 256
  | .snapshotAction _ command => ∀ row snapshot, db.instance_ command.instanceId = some row →
      find SnapshotRow.id command.snapshotId db.snapshots = some snapshot →
      Routed row ∧ stringInRange (snapshot.providerSnapshotName.getD snapshot.name) 1 128 = true
  | .retention command => ∀ row, db.instance_ command.instanceId = some row → Routed row
  | .purge command => ∀ row, db.instance_ command.instanceId = some row → Routed row
  | .replay _ => True

/-- A command is narrowed exactly when its request meets the contracts, and is
    rejected for its payload otherwise. -/
def Agrees (db : ControlDb) (request : Request) (event : LifecycleCommand) : Prop :=
  (narrowCommand (.message (.lifecycle event)) = .ok event ↔ Contracted db request) ∧
    (¬ Contracted db request →
      narrowCommand (.message (.lifecycle event)) = .error (.permanent "COMMAND_PAYLOAD_INVALID"))

section
variable {db after : ControlDb} {draws : Draws} {request : Request} {row : InstanceRow}

theorem schemaName_inRange (data : CommandData) : stringInRange data.schemaName 1 120 = true := by
  cases data <;> (simp only [CommandData.schemaName]; decide)

theorem commandEnvelope_valid {eventId instanceId projectId operationId correlationId : Uuid} {now : Instant}
    (data : CommandData) (event : isUuidText eventId = true) (about : isUuidText instanceId = true)
    (project : isUuidText projectId = true) (operation : isUuidText operationId = true)
    (correlation : isUuidText correlationId = true) :
    isEventEnvelope data.schemaName
      (commandEnvelope eventId instanceId projectId operationId correlationId now) = true := by
  have kind : stringInRange "instance" 1 64 = true := by decide
  have version : positiveInteger 1 = true := by decide
  simp only [isEventEnvelope, commandEnvelope, schemaName_inRange data, event, about, project, operation, correlation,
    kind, version, isUuidText_inRange about, Bool.and_self]

theorem agrees_of {event : LifecycleCommand} (enveloped : isEventEnvelope event.data.schemaName event.toEnvelope = true)
    (first : event.schemaVersion = 1)
    (valid : commandValidator event.data.action event = true ↔ Contracted db request) : Agrees db request event := by
  rw [Agrees, narrowCommand_lifecycle enveloped first, ← valid]
  by_cases passed : commandValidator event.data.action event = true
  · rw [if_pos passed]
    exact ⟨⟨fun _ => passed, fun _ => rfl⟩, fun refused => absurd passed refused⟩
  · rw [if_neg passed]
    exact ⟨⟨fun impossible => (by cases impossible), fun impossible => absurd impossible passed⟩, fun _ => rfl⟩

/-- The routing of a command is that of the row it was made from. -/
theorem snapshotRouting_iff (typed : Typed db) (member : row ∈ db.instances) :
    snapshotRouting row.providerProfileId (row.createOperationId.getD "") = true ↔ Routed row := by
  rw [snapshotRouting, Bool.and_eq_true]
  constructor
  · rintro ⟨profile, created⟩
    refine ⟨profile, fun none => ?_⟩
    rw [none] at created
    exact absurd created (by decide)
  · rintro ⟨profile, created⟩
    obtain ⟨operationId, found⟩ := Option.ne_none_iff_exists'.mp created
    rw [found]
    exact ⟨profile, (typed.instances row member).2.2 operationId found⟩

/-- A condition on the row of an instance is one on the row that was read. -/
theorem forall_row {instanceId : Uuid} {P : InstanceRow → Prop} (found : db.instance_ row.id = some row)
    (about : row.id = instanceId) : (∀ other, db.instance_ instanceId = some other → P other) ↔ P row := by
  subst about
  constructor
  · exact fun every => every row found
  · intro holds other same
    cases found.symm.trans same
    exact holds

/-- Sizes are in range when they are not too large. -/
theorem resourcesInRange_iff {resources : Resources} (cpuCount : 0 < resources.cpuCount)
    (memoryMiB : 512 ≤ resources.memoryMiB) (diskGiB : 8 ≤ resources.diskGiB) :
    resourcesInRange resources = true ↔
      resources.cpuCount ≤ 64 ∧ resources.memoryMiB ≤ 262144 ∧ resources.diskGiB ≤ 2048 := by
  simp only [resourcesInRange, integerInRange, Bool.and_eq_true, decide_eq_true_eq]
  omega

end

/-! ### Each producer -/

section
variable {host : Host} {db after : ControlDb} {draws : Draws} {answer : AcceptedMutation} {requestHash : String}
  {request : Request} {row : InstanceRow}

/-- The command of a mutation has the identifiers of its row, and others that were drawn. -/
theorem mutation_agrees (typed : Typed db) (unique : ∀ i, isUuidText (draws.fresh i) = true) {projectId correlation : Uuid}
    (found : db.instance_ row.id = some row) (project : row.projectId = projectId)
    (correlated : isUuidText correlation = true) {data : CommandData} {m : Mutation} (mutates : Mutates db after draws.now m)
    (same : m.event = { commandEnvelope (draws.fresh 1) row.id projectId (draws.fresh 0) correlation draws.now with
      data := data })
    (valid : commandValidator data.action m.event = true ↔ Contracted db request) :
    ∃ outboxId event, after.outbox = db.outbox ++ [⟨outboxId, .lifecycle event, 0, draws.now⟩] ∧ Agrees db request event := by
  obtain ⟨outboxId, written⟩ := mutates.outbox
  have columns := typed.instances row (find_mem found)
  refine ⟨outboxId, m.event, written, agrees_of ?_ ?_ ?_⟩
  · rw [same]
    exact commandEnvelope_valid data (unique 1) columns.1 (project ▸ columns.2.1) (unique 0) correlated
  · rw [same]; rfl
  · rw [← valid, same]

theorem power_agrees (typed : Typed db) (unique : ∀ i, isUuidText (draws.fresh i) = true) {command : PowerInstanceCommand}
    (correlated : isUuidText command.correlationId = true) (idle : Idle db command.projectId command.instanceId row)
    (mutates : Mutates db after draws.now (powerMutation draws command row)) :
    ∃ outboxId event, after.outbox = db.outbox ++ [⟨outboxId, .lifecycle event, 0, draws.now⟩] ∧
      Agrees db (.power command) event := by
  refine mutation_agrees typed unique idle.found idle.project correlated mutates rfl ?_
  rw [Contracted, forall_row idle.found idle.id, ← snapshotRouting_iff typed (find_mem idle.found)]
  show isInstancePowerRequested (powerMutation draws command row).event = true ↔ _
  simp [isInstancePowerRequested, powerMutation, instanceEnvelope, commandEnvelope]

theorem resize_agrees (typed : Typed db) (unique : ∀ i, isUuidText (draws.fresh i) = true)
    {command : ResizeInstanceCommand} (correlated : isUuidText command.correlationId = true) {flavor : FlavorRow}
    (idle : Idle db command.projectId command.instanceId row) (offered : enabledFlavor db command.flavorId = some flavor)
    (mutates : Mutates db after draws.now (resizeMutation draws command row flavor)) :
    ∃ outboxId event, after.outbox = db.outbox ++ [⟨outboxId, .lifecycle event, 0, draws.now⟩] ∧
      Agrees db (.resize command) event := by
  refine mutation_agrees typed unique idle.found idle.project correlated mutates rfl ?_
  have columns := typed.flavors flavor (find_mem (Option.filter_eq_some_iff.mp offered).1)
  have sized : resourcesInRange (resizeTarget flavor row.sizing command.diskGiB) = true ↔ _ :=
    resourcesInRange_iff columns.1 columns.2.1
      (Nat.le_trans columns.2.2 (Nat.le_trans (Nat.le_max_right _ _) (Nat.le_max_left _ _)))
  have contracted : Contracted db (.resize command) ↔ Routed row ∧ stringInRange command.flavorId 1 63 = true ∧
      flavor.cpuCount ≤ 64 ∧ flavor.memoryMib ≤ 262144 ∧
      max (max row.desiredDiskGib flavor.minimumDiskGib) (command.diskGiB.getD 0) ≤ 2048 := by
    constructor
    · exact fun every => every row flavor (idle.id ▸ idle.found) offered
    · intro holds other flavor' found offered'
      cases (idle.id ▸ idle.found).symm.trans found
      cases offered.symm.trans offered'
      exact holds
  rw [contracted, ← snapshotRouting_iff typed (find_mem idle.found)]
  show isInstanceResizeRequested (resizeMutation draws command row flavor).event = true ↔ _
  simp only [isInstanceResizeRequested, resizeMutation, instanceEnvelope, commandEnvelope, Bool.and_eq_true, sized,
    snapshotRouting]
  simp only [resizeTarget, InstanceRow.sizing, decide_true, true_and]
  tauto

theorem snapshotCreate_agrees (typed : Typed db) (unique : ∀ i, isUuidText (draws.fresh i) = true)
    {command : CreateSnapshotCommand} (correlated : isUuidText command.correlationId = true)
    (named : stringInRange command.name 1 63 = true) (idle : Idle db command.projectId command.instanceId row)
    (mutates : Mutates db after draws.now (snapshotCreateMutation draws command row)) :
    ∃ outboxId event, after.outbox = db.outbox ++ [⟨outboxId, .lifecycle event, 0, draws.now⟩] ∧
      Agrees db (.snapshotCreate command) event := by
  refine mutation_agrees typed unique idle.found idle.project correlated mutates rfl ?_
  rw [Contracted, forall_row idle.found idle.id, ← snapshotRouting_iff typed (find_mem idle.found)]
  have described : (command.description.filter (· ≠ "")).all (fun d => stringInRange d 0 256) = true ↔
      ∀ description, command.description = some description → utf16Length description ≤ 256 := by
    cases command.description with
    | none => simp
    | some description =>
      by_cases blank : description = ""
      · simp [blank, utf16Length]
      · simp [blank, stringInRange]
  show isSnapshotCreateRequested (snapshotCreateMutation draws command row).event = true ↔ _
  simp only [isSnapshotCreateRequested, snapshotCreateMutation, commandEnvelope, Bool.and_eq_true, described, unique 3,
    named, decide_true, true_and]
  tauto

theorem snapshotAction_agrees (typed : Typed db) (unique : ∀ i, isUuidText (draws.fresh i) = true)
    {action : SnapshotAction} {command : SnapshotActionCommand} (correlated : isUuidText command.correlationId = true)
    {snapshot : SnapshotRow} (idle : Idle db command.projectId command.instanceId row)
    (found : find SnapshotRow.id command.snapshotId db.snapshots = some snapshot)
    (mutates : Mutates db after draws.now (snapshotActionMutation draws action command row snapshot)) :
    ∃ outboxId event, after.outbox = db.outbox ++ [⟨outboxId, .lifecycle event, 0, draws.now⟩] ∧
      Agrees db (.snapshotAction action command) event := by
  refine mutation_agrees typed unique idle.found idle.project correlated mutates rfl ?_
  have contracted : Contracted db (.snapshotAction action command) ↔
      Routed row ∧ stringInRange (snapshot.providerSnapshotName.getD snapshot.name) 1 128 = true := by
    constructor
    · exact fun every => every row snapshot (idle.id ▸ idle.found) found
    · intro holds other snapshot' located found'
      cases (idle.id ▸ idle.found).symm.trans located
      cases found.symm.trans found'
      exact holds
  rw [contracted, ← snapshotRouting_iff typed (find_mem idle.found)]
  have validated : commandValidator (action.data
      ⟨snapshot.id, snapshot.providerSnapshotName.getD snapshot.name, row.providerProfileId,
        row.createOperationId.getD ""⟩).action (snapshotActionMutation draws action command row snapshot).event =
      EventValidation.snapshotAction (snapshotActionMutation draws action command row snapshot).event
        ⟨snapshot.id, snapshot.providerSnapshotName.getD snapshot.name, row.providerProfileId,
          row.createOperationId.getD ""⟩ := by
    cases action <;> rfl
  rw [validated]
  simp only [EventValidation.snapshotAction, snapshotActionMutation, commandEnvelope, Bool.and_eq_true,
    typed.snapshots snapshot (find_mem found), decide_true, true_and]
  exact and_comm

theorem retention_agrees (typed : Typed db) (unique : ∀ i, isUuidText (draws.fresh i) = true)
    {command : RetainInstanceCommand} (correlated : isUuidText command.correlationId = true) {policy : RetentionPolicy}
    (idle : Idle db command.projectId command.instanceId row)
    (mutates : Mutates db after draws.now (retentionMutation draws command row policy)) :
    ∃ outboxId event, after.outbox = db.outbox ++ [⟨outboxId, .lifecycle event, 0, draws.now⟩] ∧
      Agrees db (.retention command) event := by
  refine mutation_agrees typed unique idle.found idle.project correlated mutates rfl ?_
  rw [Contracted, forall_row idle.found idle.id, ← snapshotRouting_iff typed (find_mem idle.found)]
  show isInstanceRetentionRequested (retentionMutation draws command row policy).event = true ↔ _
  simp [isInstanceRetentionRequested, retentionMutation, instanceEnvelope, commandEnvelope]

theorem purge_agrees (typed : Typed db) (unique : ∀ i, isUuidText (draws.fresh i) = true) {command : PurgeInstanceCommand}
    (correlated : isUuidText command.correlationId = true) {deadline : Instant} (found : db.instance_ row.id = some row)
    (about : row.id = command.instanceId) (mutates : Mutates db after draws.now (purgeMutation draws command row deadline)) :
    ∃ outboxId event, after.outbox = db.outbox ++ [⟨outboxId, .lifecycle event, 0, draws.now⟩] ∧
      Agrees db (.purge command) event := by
  refine mutation_agrees typed unique found rfl correlated mutates rfl ?_
  rw [Contracted, forall_row found about, ← snapshotRouting_iff typed (find_mem found)]
  show isInstancePurgeRequested (purgeMutation draws command row deadline).event = true ↔ _
  simp [isInstancePurgeRequested, purgeMutation, instanceEnvelope, commandEnvelope, unique 3]

/-! ### The creation -/

theorem loadAcceptanceContext_ok {command : CreateInstanceCommand} {context : AcceptanceContext}
    (loaded : Reading.on (loadAcceptanceContext command) db = .ok context) :
    ∃ project image profile, find ProjectRow.id command.projectId db.projects = some project ∧
      imageProfile db command.imageId = some (image, profile) ∧ context.providerProfileId = profile.id ∧
      enabledFlavor db command.flavorId = some context.flavor ∧
      find NetworkRow.id command.networkId db.networks = some context.network := by
  obtain ⟨_, read, loaded⟩ := Programs.Program.answered_bind_ok loaded
  cases read
  split at loaded
  next => cases loaded
  next project found =>
    split at loaded
    next => cases loaded
    next =>
      obtain ⟨_, read, loaded⟩ := Programs.Program.answered_bind_ok loaded
      cases read
      obtain ⟨_, read, loaded⟩ := Programs.Program.answered_bind_ok loaded
      cases read
      obtain ⟨_, read, loaded⟩ := Programs.Program.answered_bind_ok loaded
      cases read
      obtain ⟨_, read, loaded⟩ := Programs.Program.answered_bind_ok loaded
      cases read
      split at loaded
      next image profile flavor network quota listed offered attached _ =>
        split at loaded
        next => cases loaded
        next =>
          split at loaded
          next => cases loaded
          next =>
            cases loaded
            exact ⟨project, image, profile, found, (Option.filter_eq_some_iff.mp listed).1, rfl, offered,
              (Option.filter_eq_some_iff.mp attached).1⟩
      next => cases loaded

theorem reserveIpv4Address_ok {context : AcceptanceContext} {address : String}
    (reserved : Reading.on (reserveIpv4Address host context) db = .ok address) :
    ∃ leased, allocateIpv4 host.number
      ⟨context.network.ipv4Cidr, context.network.gateway, context.network.exclusions⟩ leased = .ok address := by
  change Programs.Program.answered _ (if (occupied db context.network.id).length + 1 > context.quota.ipv4Addresses then _
    else checked (allocateIpv4 host.number
      ⟨context.network.ipv4Cidr, context.network.gateway, context.network.exclusions⟩
      ((occupied db context.network.id).map Ipv4LeaseRow.address))) = _ at reserved
  split at reserved
  next => cases reserved
  next => exact ⟨_, checked_ok reserved⟩

theorem dnsTuple_ok {values servers : List String} (narrowed : dnsTuple values = .ok servers) :
    servers = values ∧ 1 ≤ values.length ∧ values.length ≤ 4 := by
  unfold dnsTuple at narrowed
  split at narrowed
  next => cases narrowed
  next bounded => cases narrowed; exact ⟨rfl, by omega, by omega⟩

/-- The keys of a command are those that the service has checked. -/
theorem sshField_ok {values keys : List String} (narrowed : sshField values = .ok (some keys)) : keys = values := by
  unfold sshField sshTuple at narrowed
  split at narrowed
  next =>
    split at narrowed
    next => cases narrowed
    next => cases narrowed; rfl
  next => cases narrowed

/-- The checks of a creation, one by one. -/
theorem isInstanceCreateRequested_iff {envelope : Envelope} {data : CreateData} :
    isInstanceCreateRequested ⟨envelope, .create data⟩ = true ↔
      instanceEnvelope ⟨envelope, .create data⟩ = true ∧ stringInRange data.imageId 1 63 = true ∧
        stringInRange data.flavorId 1 63 = true ∧ stringInRange data.networkId 1 63 = true ∧
        stringInRange data.providerProfileId 1 63 = true ∧ stringInRange data.hostname 1 63 = true ∧
        resourcesInRange data.resources = true ∧ ipv4Address data.ipv4.address = true ∧
        integerInRange data.ipv4.prefixLength 1 32 = true ∧ ipv4Address data.ipv4.gateway = true ∧
        1 ≤ data.ipv4.dnsServers.length ∧ data.ipv4.dnsServers.length ≤ 4 ∧
        data.ipv4.dnsServers.all ipv4Address = true ∧ distinct data.ipv4.dnsServers = true ∧
        ∀ keys, data.sshPublicKeys = some keys → keys.length ≤ 5 ∧
          (keys.all fun key => stringInRange key 32 8192) = true ∧ distinct keys = true := by
  cases present : data.sshPublicKeys <;>
    simp only [isInstanceCreateRequested, present, Bool.and_eq_true, decide_eq_true_eq, and_assoc, reduceCtorEq,
      false_imp_iff, implies_true, and_true, Option.some.injEq, forall_eq']

theorem create_agrees (typed : Typed db) (unique : ∀ i, isUuidText (draws.fresh i) = true)
    {command : CreateInstanceCommand} (correlated : isUuidText command.correlationId = true)
    (supplied : Supplied ⟨command.imageId, command.flavorId, command.networkId, command.hostname, command.sshPublicKeys⟩)
    {context : AcceptanceContext} {address : String} {records : AcceptanceRecords}
    (loaded : Reading.on (loadAcceptanceContext command) db = .ok context)
    (reserved : Reading.on (reserveIpv4Address host context) db = .ok address)
    (built : buildAcceptanceRecords host draws command context address = .ok records)
    (creates : Creates db after draws.now records) :
    ∃ outboxId event, after.outbox = db.outbox ++ [⟨outboxId, .lifecycle event, 0, draws.now⟩] ∧
      Agrees db (.create command) event := by
  obtain ⟨project, image, profile, enabled, listed, routed, offered, attached⟩ := loadAcceptanceContext_ok loaded
  obtain ⟨leased, allocated⟩ := reserveIpv4Address_ok reserved
  obtain ⟨free, gateway, length, read, least, most⟩ := allocateIpv4_addresses allocated
  have projectId : isUuidText command.projectId = true := find_key enabled ▸ typed.projects project (find_mem enabled)
  have columns := typed.flavors context.flavor (find_mem (Option.filter_eq_some_iff.mp offered).1)
  obtain ⟨outboxId, written⟩ := creates.outbox
  obtain ⟨servers, dns, rest⟩ := bind_ok built
  obtain ⟨keys, ssh, rest⟩ := bind_ok rest
  cases rest
  obtain ⟨rfl, some_, few⟩ := dnsTuple_ok dns
  refine ⟨outboxId, _, written, agrees_of (commandEnvelope_valid _ (unique 1) (unique 3) projectId (unique 0) correlated)
    rfl ?_⟩
  have contracted : Contracted db (.create command) ↔ stringInRange context.providerProfileId 1 63 = true ∧
      (context.flavor.cpuCount ≤ 64 ∧ context.flavor.memoryMib ≤ 262144 ∧ context.flavor.minimumDiskGib ≤ 2048) ∧
      context.network.dnsServers.all ipv4Address = true ∧ distinct context.network.dnsServers = true := by
    rw [routed]
    constructor
    · intro every
      obtain ⟨named, cpuCount, memoryMib, diskGib, servers⟩ := every image profile _ _ listed offered attached
      exact ⟨named, ⟨cpuCount, memoryMib, diskGib⟩, servers⟩
    · intro holds image' profile' flavor network listed' offered' attached'
      cases listed.symm.trans listed'
      cases offered.symm.trans offered'
      cases attached.symm.trans attached'
      exact ⟨holds.1, holds.2.1.1, holds.2.1.2.1, holds.2.1.2.2, holds.2.2⟩
  have sized : resourcesInRange ⟨context.flavor.cpuCount, context.flavor.memoryMib, context.flavor.minimumDiskGib⟩ = true ↔
      context.flavor.cpuCount ≤ 64 ∧ context.flavor.memoryMib ≤ 262144 ∧ context.flavor.minimumDiskGib ≤ 2048 :=
    resourcesInRange_iff columns.1 columns.2.1 columns.2.2
  have prefixed : integerInRange length 1 32 = true := by
    simp only [integerInRange, Bool.and_eq_true, decide_eq_true_eq]
    omega
  have keyed : ∀ values, keys = some values → values.length ≤ 5 ∧
      (values.all fun key => stringInRange key 32 8192) = true ∧ distinct values = true := by
    rintro values rfl
    rw [sshField_ok ssh]
    exact ⟨supplied.few, List.all_eq_true.mpr supplied.keys, supplied.unique⟩
  rw [contracted, ← sized]
  refine isInstanceCreateRequested_iff.trans ⟨?_, ?_⟩
  · rintro ⟨-, -, -, -, named, -, fits, -, -, -, -, -, servers, apart, -⟩
    exact ⟨named, fits, servers, apart⟩
  · rintro ⟨named, fits, servers, apart⟩
    refine ⟨rfl, supplied.imageId, supplied.flavorId, supplied.networkId, named, supplied.hostname, fits, free, ?_, gateway,
      some_, few, servers, apart, keyed⟩
    show integerInRange ((((split '/' context.network.ipv4Cidr)[1]?).bind host.number).getD 0) 1 32 = true
    rw [read]
    exact prefixed

/-! ### The agreement -/

/-- The command of every request that the service admits is narrowed by the
    orchestrator exactly when the catalog and the rows that the request meets fit
    into it; it is rejected for its payload otherwise. -/
theorem narrows_iff {input : Input} {drawn : Uuid} {header : Option String} (typed : Typed db)
    (unique : ∀ i, isUuidText (draws.fresh i) = true) (random : isUuidText drawn = true)
    (carried : correlationId drawn header = some input.correlationId) (admitted : submit input = .ok request)
    (ended : atomically (accept host draws requestHash request) db = .ok (answer, after))
    (first : answer.replayed = false) (commands : ∀ command, request ≠ .replay command) :
    ∃ outboxId event, after.outbox = db.outbox ++ [⟨outboxId, .lifecycle event, 0, draws.now⟩] ∧
      (narrowCommand (.message (.lifecycle event)) = .ok event ↔ Contracted db request) ∧
      (¬ Contracted db request →
        narrowCommand (.message (.lifecycle event)) = .error (.permanent "COMMAND_PAYLOAD_INVALID")) := by
  obtain ⟨passed, same⟩ := submit_ok admitted
  have correlated : isUuidText (requestCorrelation request) = true := same ▸ correlationId_uuid random carried
  cases accept_effects ended with
  | replayed _ _ again => exact absurd (first.symm.trans again) Bool.false_ne_true
  | create _ _ _ _ loaded reserved built creates =>
    exact create_agrees typed unique correlated passed loaded reserved built creates
  | power _ _ idle mutates => exact power_agrees typed unique correlated idle mutates
  | resize _ _ _ idle offered _ mutates => exact resize_agrees typed unique correlated idle offered mutates
  | snapshotCreate _ _ idle _ mutates => exact snapshotCreate_agrees typed unique correlated passed idle mutates
  | snapshotAction _ _ _ _ idle found _ _ mutates => exact snapshotAction_agrees typed unique correlated idle found mutates
  | retention _ _ _ idle _ mutates => exact retention_agrees typed unique correlated idle mutates
  | purge _ _ _ found about _ _ _ _ mutates => exact purge_agrees typed unique correlated found about mutates
  | replay command => exact absurd rfl (commands command)

end

/-! ### A power action, and a disk that is too large -/

/-- A control plane with an active instance, and a quota of ten tebibytes. -/
def sampleActive : ControlDb :=
  (Runs.execute (Lifecycle.next sampleHost)
    (Lifecycle.initial { Lifecycle.sampleCatalog with quotas := [⟨sampleCreate.projectId, 4, 8, 8192, 10240, 4, 4⟩] })
    [Lifecycle.acceptSample,
     Lifecycle.projectSample 0 sampleCreate "00000000-0000-4000-8000-0000000000f2"
      (Lifecycle.sampleCompletion .createInstance .active)]).elim {} (·.db)

def sampleFresh : Draws := ⟨1, fun _ => "00000000-0000-4000-8000-0000000000c9"⟩

def sampleInput : InstanceInput where
  actor := ⟨"alice", ["tenant_developer"], [sampleCreate.projectId]⟩
  projectId := sampleCreate.projectId
  idempotencyKey := "idempotency-1"
  correlationId := sampleCreate.correlationId
  instanceId := sampleCreate.aggregateId

theorem typed_sampleActive : Typed sampleActive where
  projects := by decide
  flavors := by decide
  instances := by decide
  snapshots := by decide

theorem fresh_sampleFresh : ∀ i, isUuidText (sampleFresh.fresh i) = true := by
  intro i
  show isUuidText "00000000-0000-4000-8000-0000000000c9" = true
  decide

def samplePower : PowerInstanceInput := { sampleInput with action := "stop" }

theorem narrows_iff_samplePower : ∃ answer after outboxId event,
    atomically (accept sampleHost sampleFresh "hash" (.power { sampleInput.request with action := .stop })) sampleActive =
      .ok (answer, after) ∧
      after.outbox = sampleActive.outbox ++ [⟨outboxId, .lifecycle event, 0, 1⟩] ∧
      narrowCommand (.message (.lifecycle event)) = .ok event := by
  have carried : correlationId sampleCreate.correlationId (some sampleCreate.correlationId) =
      some (Input.mutateInstancePower samplePower).correlationId := by decide
  have admitted : submit (.mutateInstancePower samplePower) = .ok (.power { sampleInput.request with action := .stop }) := rfl
  have ended : atomically (accept sampleHost sampleFresh "hash" (.power { sampleInput.request with action := .stop }))
      sampleActive = .ok (_, _) := rfl
  obtain ⟨outboxId, event, written, agrees, -⟩ := narrows_iff typed_sampleActive fresh_sampleFresh
    (show isUuidText sampleCreate.correlationId = true by decide) carried admitted ended rfl nofun
  refine ⟨_, _, outboxId, event, ended, written, agrees.mpr fun row found => ?_⟩
  have routed : ∀ row ∈ sampleActive.instances,
      stringInRange row.providerProfileId 1 64 = true ∧ row.createOperationId ≠ none := by decide
  exact ⟨(routed row (find_mem found)).1, (routed row (find_mem found)).2⟩

/-- A resize over the transport that does not bound the disk. -/
def sampleResize : ResizeInstanceInput := { sampleInput with flavorId := "small", diskGiB := some 4096 }

/-- The quota admits the disk, and no workflow can be admitted for the command. -/
theorem resize_rejected : Typed sampleActive ∧ (∀ i, isUuidText (sampleFresh.fresh i) = true) ∧
    ∃ request answer after outboxId event,
      correlationId sampleCreate.correlationId (some sampleCreate.correlationId) = some sampleResize.correlationId ∧
      submit (.resizeInstance sampleResize) = .ok request ∧
      atomically (accept sampleHost sampleFresh "hash" request) sampleActive = .ok (answer, after) ∧
      answer.replayed = false ∧ after.outbox = sampleActive.outbox ++ [⟨outboxId, .lifecycle event, 0, 1⟩] ∧
      narrowCommand (.message (.lifecycle event)) = .error (.permanent "COMMAND_PAYLOAD_INVALID") := by
  have ended : atomically (accept sampleHost sampleFresh "hash"
      (.resize { sampleInput.request with flavorId := "small", diskGiB := some 4096 })) sampleActive = .ok (_, _) := rfl
  exact ⟨typed_sampleActive, fresh_sampleFresh, _, _, _, _, _, by decide, rfl, ended, rfl, rfl, rfl⟩

end ControlPlane.CommandAgreement
