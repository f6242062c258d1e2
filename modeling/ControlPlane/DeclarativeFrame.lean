import ControlPlane.Tables
import ControlPlane.TerraformVariables

/-!
The frame of a declarative change. Whatever a change does not name has to be
rebuilt from the state document, so every variable has to survive the way into
the document and back.
-/
namespace ControlPlane.DeclarativeFrame
open ControlPlane.Texts ControlPlane.JsonValues ControlPlane.ProviderPort ControlPlane.TerraformVariables

/-! ### Documented behaviour -/

/-- What is documented of the numbers of the host: a number is read back from what
    it prints as, and from what Terraform makes of it, which has no slash. -/
structure Documented {Numeric : Type} (host : Host Numeric) : Prop where
  printed : ∀ value, host.isFinite value = true → host.number (host.print value) = value
  template : ∀ value, host.isFinite value = true → host.number (host.template value) = value
  plain : ∀ value, host.isFinite value = true → '/' ∉ (host.template value).toList

/-- The address attribute of the values of an instance. -/
def addressAttribute (values : Json) : Option Json :=
  Json.optional "address" (block (Json.optional "ipv4" (block (Json.optional "ip_config" (block (values.own "initialization"))))))

/-- The schema of the provider for the values that it records: these attributes are
    numbers, and the address is in CIDR notation. -/
structure Conforms (values : Json) : Prop where
  vmId : ∃ printed, values.own "vm_id" = some (.num printed)
  cores : ∃ printed, Json.optional "cores" (block (values.own "cpu")) = some (.num printed)
  dedicated : ∃ printed, Json.optional "dedicated" (block (values.own "memory")) = some (.num printed)
  size : ∃ printed, Json.optional "size" (block (values.own "disk")) = some (.num printed)
  address : ∃ network length, addressAttribute values = some (.str (network ++ "/" ++ length)) ∧
    '/' ∉ network.toList ∧ '/' ∉ length.toList

section
variable {Numeric : Type}

/-- The fields that do not come from the state document. -/
structure Allowlisted (host : Host Numeric) (configuration : TerraformProxmoxConfiguration)
    (var : InstanceTfvars Numeric) : Prop where
  nodeName : var.nodeName = configuration.node
  templateVmId : var.templateVmId = host.ofInt configuration.templateVmid
  datastoreId : var.datastoreId = configuration.storage
  diskInterface : var.diskInterface = configuration.diskInterface
  diskFormat : var.diskFormat = configuration.templateDiskFormat
  poolId : var.poolId = configuration.poolId
  bridge : var.bridge = configuration.bridge
  networkMtu : var.networkMtu = host.ofInt configuration.networkMtu
  dnsDomain : var.dnsDomain = configuration.dnsDomain
  cloudInitUsername : var.cloudInitUsername = configuration.cloudInitUsername
  cloudInitPassword : var.cloudInitPassword = configuration.cloudInitPassword

/-- A state document holds what the module assigned from variables. The provider
    may have recorded more. -/
def Holds (host : Host Numeric) (var : InstanceTfvars Numeric) (state : Option Json) : Prop :=
  ∃ resource values attributes, stateResource state = .ok (some resource) ∧ resource.own "values" = some values ∧
    moduleAttributes host var = some attributes ∧ Json.Covers values attributes ∧ Conforms values

/-- What a call of a sequence applies, after the variables that were applied before. -/
inductive Call
  | create (request : SubmitCreateInstanceRequest)
  | change (change : Change)

/-- A call that succeeds: a creation applies what it was asked for, a change what
    it makes of the state that the variables before it left. -/
inductive Applies (host : Host Numeric) (configuration : TerraformProxmoxConfiguration) :
    Option (InstanceTfvars Numeric) → Call → InstanceTfvars Numeric → Prop
  | create {previous : Option (InstanceTfvars Numeric)} {request : SubmitCreateInstanceRequest} {input : ApplyInput Numeric}
      (asked : createInput host configuration request = .ok (.ok input)) :
      Applies host configuration previous (.create request) input.tfvars
  | change {previous declared : InstanceTfvars Numeric} {change : Change} {state : Option Json}
      (holds : Holds host previous state) (rebuilt : tfvarsFromState host configuration state = .ok (some declared)) :
      Applies host configuration (some previous) (.change change) (change.apply host declared)

/-- The calls of a sequence, each with the variables that it applied. -/
inductive Sequence (host : Host Numeric) (configuration : TerraformProxmoxConfiguration) :
    Option (InstanceTfvars Numeric) → List (Call × InstanceTfvars Numeric) → Prop
  | nil {previous : Option (InstanceTfvars Numeric)} : Sequence host configuration previous []
  | cons {previous : Option (InstanceTfvars Numeric)} {call : Call} {next : InstanceTfvars Numeric}
      {more : List (Call × InstanceTfvars Numeric)} (applies : Applies host configuration previous call next)
      (rest : Sequence host configuration (some next) more) : Sequence host configuration previous ((call, next) :: more)

/-- The variables differ only in the fields that the change names. -/
def DiffersOnly (before next : InstanceTfvars Numeric) : Change → Prop
  | .power started => next = { before with started }
  | .resize _ => next = { before with cpuCores := next.cpuCores, memoryMib := next.memoryMib, diskGib := next.diskGib }
  | .retain _ _ => next = { before with onBoot := false, started := false, ownershipMarker := next.ownershipMarker }

/-- The attributes that the named fields go into. -/
def namedAttributes : Change → List String
  | .power _ => ["started"]
  | .resize _ => ["cpu", "memory", "disk"]
  | .retain _ _ => ["on_boot", "started", "description"]

/-- What a call does not name stays: no other variable changes, and no other
    attribute is planned to be cleared or reset. A creation names everything. -/
def Frame (host : Host Numeric) (before next : InstanceTfvars Numeric) : Call → Prop
  | .create _ => True
  | .change change =>
    DiffersOnly before next change ∧
      ∀ old new, moduleAttributes host before = some old → moduleAttributes host next = some new →
        ∀ key ∉ namedAttributes change, new.own key = old.own key

/-- Every call keeps what it does not name. -/
def Framed (host : Host Numeric) : Option (InstanceTfvars Numeric) → List (Call × InstanceTfvars Numeric) → Prop
  | _, [] => True
  | previous, (call, next) :: more =>
    (∀ before, previous = some before → Frame host before next call) ∧ Framed host (some next) more

variable {host : Host Numeric} {configuration : TerraformProxmoxConfiguration} {var : InstanceTfvars Numeric}
  {values attributes : Json}

/-! ### The round trip -/

/-- A number that the state holds is the one that was rendered. -/
theorem numberOf_rendered (documented : Documented host) {value : Numeric} {found fallback : Json} {printed : String}
    (covers : Json.Covers found (render host value)) (number : found = .num printed) :
    numberOf host (Json.coalesce fallback (some found)) = .ok value := by
  subst number
  unfold render at covers
  split at covers
  next finite =>
    obtain rfl := Json.num.inj covers.of_num
    exact congrArg Except.ok (documented.printed value finite)
  next => cases covers.of_null

theorem isTrue_bool (value : Bool) : isTrue (some (.bool value)) = value := by cases value <;> rfl

/-- A list of texts is read back. -/
theorem listed_texts (items : List String) : listed (some (.arr (items.map .str))) = some (.ok items) := by
  have each : (items.map Json.str).mapM Json.text = (.ok items : Evaluated (List String)) := by
    induction items with
    | nil => rfl
    | cons item rest ih =>
      rw [List.map_cons, List.mapM_cons, ih]
      rfl
  rw [listed, each]

/-- A block that the module assigns is found in the state. -/
theorem block_covered {inner : Json} (covers : Json.Covers values attributes) (key : String)
    (has : attributes.own key = some (.arr [inner])) : ∃ found, block (values.own key) = some found ∧ Json.Covers found inner := by
  obtain ⟨held, there, covered⟩ := covers.own has
  obtain ⟨item, rfl, inside⟩ := covered.of_list
  exact ⟨item, by rw [there]; rfl, inside⟩

/-- The address that was joined is split again. -/
theorem address_split (documented : Documented host) {address network length : String} {prefixLength : Numeric}
    (finite : host.isFinite prefixLength = true) (noSlash : '/' ∉ network.toList) (plain : '/' ∉ length.toList)
    (same : address ++ "/" ++ host.template prefixLength = network ++ "/" ++ length) :
    split '/' (address ++ "/" ++ host.template prefixLength) = [address, host.template prefixLength] := by
  have free := documented.plain prefixLength finite
  have characters : address.toList ++ '/' :: (host.template prefixLength).toList = network.toList ++ '/' :: length.toList := by
    simpa [String.toList_append] using congrArg String.toList same
  have inside : '/' ∉ address.toList := by
    intro member
    have counted := congrArg (List.count '/') characters
    have one := List.count_pos_iff.mpr member
    simp only [List.count_append, List.count_cons_self, List.count_eq_zero.mpr noSlash, List.count_eq_zero.mpr plain,
      List.count_eq_zero.mpr free] at counted
    omega
  have parts : (address ++ "/" ++ host.template prefixLength).toList =
      address.toList ++ '/' :: (host.template prefixLength).toList := by
    simp [String.toList_append]
  rw [split, parts, splitChars_append inside, splitChars_of_not_mem free]
  simp

/-- The variables survive the state. -/
theorem tfvarsFromState_holds (documented : Documented host) (allowlisted : Allowlisted host configuration var)
    {state : Option Json} (holds : Holds host var state) : tfvarsFromState host configuration state = .ok (some var) := by
  obtain ⟨resource, values, attributes, found, valued, assigned, covers, conforms⟩ := holds
  unfold moduleAttributes at assigned
  dsimp only at assigned
  split at assigned
  next => cases assigned
  next finite =>
    have finite : host.isFinite var.ipv4PrefixLength = true := by simpa using finite
    have same := Option.some.inj assigned
    have field (key : String) {value : Json} (has : attributes.own key = some value) := covers.own has
    have blockOf (key : String) {inner : Json} (has : attributes.own key = some (.arr [inner])) := block_covered covers key has
    rw [← same] at field blockOf
    obtain ⟨vmId, hasVmId, coversVmId⟩ := field "vm_id" rfl
    obtain ⟨name, hasName, coversName⟩ := field "name" rfl
    obtain ⟨description, hasDescription, coversDescription⟩ := field "description" rfl
    obtain ⟨tags, hasTags, coversTags⟩ := field "tags" rfl
    obtain ⟨started, hasStarted, coversStarted⟩ := field "started" rfl
    obtain ⟨onBoot, hasOnBoot, coversOnBoot⟩ := field "on_boot" rfl
    obtain ⟨cpu, hasCpu, coversCpu⟩ := blockOf "cpu" rfl
    obtain ⟨memory, hasMemory, coversMemory⟩ := blockOf "memory" rfl
    obtain ⟨disk, hasDisk, coversDisk⟩ := blockOf "disk" rfl
    obtain ⟨initialization, hasInitialization, coversInitialization⟩ := blockOf "initialization" rfl
    obtain ⟨ipConfig, hasIpConfig, coversIpConfig⟩ := block_covered coversInitialization "ip_config" rfl
    obtain ⟨ipv4, hasIpv4, coversIpv4⟩ := block_covered coversIpConfig "ipv4" rfl
    obtain ⟨dns, hasDns, coversDns⟩ := block_covered coversInitialization "dns" rfl
    obtain ⟨account, hasAccount, coversAccount⟩ := block_covered coversInitialization "user_account" rfl
    obtain ⟨cores, hasCores, coversCores⟩ := @Json.Covers.own _ _ _ coversCpu "cores" rfl
    obtain ⟨dedicated, hasDedicated, coversDedicated⟩ := @Json.Covers.own _ _ _ coversMemory "dedicated" rfl
    obtain ⟨size, hasSize, coversSize⟩ := @Json.Covers.own _ _ _ coversDisk "size" rfl
    obtain ⟨address, hasAddress, coversAddress⟩ := @Json.Covers.own _ _ _ coversIpv4 "address" rfl
    obtain ⟨gateway, hasGateway, coversGateway⟩ := @Json.Covers.own _ _ _ coversIpv4 "gateway" rfl
    obtain ⟨servers, hasServers, coversServers⟩ := @Json.Covers.own _ _ _ coversDns "servers" rfl
    obtain ⟨keys, hasKeys, coversKeys⟩ := @Json.Covers.own _ _ _ coversAccount "keys" rfl
    obtain rfl := coversName.of_str
    obtain rfl := coversDescription.of_str
    obtain rfl := coversTags.of_strs
    obtain rfl := coversStarted.of_bool
    obtain rfl := coversOnBoot.of_bool
    obtain rfl := coversAddress.of_str
    obtain rfl := coversGateway.of_str
    obtain rfl := coversServers.of_strs
    obtain rfl := coversKeys.of_strs
    -- The schema has no null where the module assigns a number.
    have vmIdNumber : ∃ printed, vmId = .num printed := by
      obtain ⟨printed, number⟩ := conforms.vmId
      exact ⟨printed, Option.some.inj (hasVmId.symm.trans number)⟩
    have coresNumber : ∃ printed, cores = .num printed := by
      obtain ⟨printed, number⟩ := conforms.cores
      rw [hasCpu] at number
      exact ⟨printed, Option.some.inj (hasCores.symm.trans number)⟩
    have dedicatedNumber : ∃ printed, dedicated = .num printed := by
      obtain ⟨printed, number⟩ := conforms.dedicated
      rw [hasMemory] at number
      exact ⟨printed, Option.some.inj (hasDedicated.symm.trans number)⟩
    have sizeNumber : ∃ printed, size = .num printed := by
      obtain ⟨printed, number⟩ := conforms.size
      rw [hasDisk] at number
      exact ⟨printed, Option.some.inj (hasSize.symm.trans number)⟩
    obtain ⟨_, vmIdIs⟩ := vmIdNumber
    obtain ⟨_, coresIs⟩ := coresNumber
    obtain ⟨_, dedicatedIs⟩ := dedicatedNumber
    obtain ⟨_, sizeIs⟩ := sizeNumber
    have addressIs : split '/' (var.ipv4Address ++ "/" ++ host.template var.ipv4PrefixLength) =
        [var.ipv4Address, host.template var.ipv4PrefixLength] := by
      obtain ⟨network, length, cidr, noSlash, plain⟩ := conforms.address
      unfold addressAttribute at cidr
      rw [hasInitialization, show Json.optional "ip_config" (some initialization) = initialization.own "ip_config" from rfl,
        hasIpConfig, show Json.optional "ipv4" (some ipConfig) = ipConfig.own "ipv4" from rfl, hasIpv4] at cidr
      have joined := Json.str.inj (Option.some.inj (hasAddress.symm.trans cidr))
      exact address_split documented finite noSlash plain joined
    have truthy : values.truthy = true := by
      cases values with
      | obj => rfl
      | _ => cases hasName
    have present : (Json.optional "values" (some resource)).filter Json.truthy = some values := by
      rw [show Json.optional "values" (some resource) = resource.own "values" from rfl, valued]
      simp [Option.filter, truthy]
    have servers : dnsServers (some initialization) = .ok (some var.dnsServers) := by
      obtain ⟨held, there, covered⟩ := @Json.Covers.own _ _ _ coversInitialization "dns" rfl
      obtain ⟨item, rfl, -⟩ := covered.of_list
      rw [there] at hasDns
      obtain rfl := Option.some.inj hasDns
      unfold dnsServers
      rw [show Json.optional "dns" (some initialization) = initialization.own "dns" from rfl, there]
      simp only [Json.member_of_ne (Json.own_ne_null hasServers), hasServers, bind, Except.bind, listed_texts]
      rfl
    have given (fallback : Json) (text : String) : (Json.coalesce fallback (some (.str text))).text = .ok text := rfl
    have declared : declaredTfvars host configuration values = .ok var := by
      unfold declaredTfvars
      simp only [hasVmId, hasName, hasDescription, hasTags, hasStarted, hasOnBoot, hasCpu, hasMemory, hasDisk, hasInitialization,
        Json.optional, Option.bind_some, hasIpConfig, hasIpv4, hasAccount, hasCores, hasDedicated, hasSize, hasAddress,
        hasGateway, hasKeys, servers, listed_texts, numberOf_rendered documented coversVmId vmIdIs,
        numberOf_rendered documented coversCores coresIs, numberOf_rendered documented coversDedicated dedicatedIs,
        numberOf_rendered documented coversSize sizeIs, given, addressIs, Option.getD_some, bind, Except.bind]
      rw [← allowlisted.nodeName, ← allowlisted.templateVmId, ← allowlisted.datastoreId, ← allowlisted.diskInterface,
        ← allowlisted.diskFormat, ← allowlisted.poolId, ← allowlisted.bridge, ← allowlisted.networkMtu,
        ← allowlisted.dnsDomain, ← allowlisted.cloudInitUsername, ← allowlisted.cloudInitPassword]
      simp [documented.template _ finite, isTrue_bool, pure, Except.pure]
    unfold tfvarsFromState
    simp only [found, bind, Except.bind, present, declared]
    rfl

/-! ### Sequences -/

/-- A creation takes the allowlisted fields from the configuration. -/
theorem createInput_allowlisted {request : SubmitCreateInstanceRequest} {input : ApplyInput Numeric}
    (asked : createInput host configuration request = .ok (.ok input)) : Allowlisted host configuration input.tfvars := by
  unfold createInput at asked
  obtain ⟨_, _, asked⟩ := Tables.bind_ok asked
  split at asked
  next =>
    split at asked
    next => cases asked
    next =>
      split at asked
      next => cases asked
      next =>
        obtain ⟨_, _, asked⟩ := Tables.bind_ok asked
        obtain ⟨_, _, asked⟩ := Tables.bind_ok asked
        obtain ⟨_, _, asked⟩ := Tables.bind_ok asked
        cases asked
        constructor <;> rfl
      next => cases asked
  next => cases asked

/-- A change keeps them. -/
theorem apply_allowlisted (allowlisted : Allowlisted host configuration var) (change : Change) :
    Allowlisted host configuration (change.apply host var) := by
  obtain ⟨_, _, _, _, _, _, _, _, _, _, _⟩ := allowlisted
  cases change <;> constructor <;> assumption

theorem apply_differsOnly (change : Change) : DiffersOnly var (change.apply host var) change := by
  cases change <;> rfl

theorem apply_attributes (change : Change) {old new : Json} (before : moduleAttributes host var = some old)
    (after : moduleAttributes host (change.apply host var) = some new) {key : String} (other : key ∉ namedAttributes change) :
    new.own key = old.own key := by
  unfold moduleAttributes at before after
  dsimp only at before after
  split at before
  next => cases before
  next =>
    split at after
    next => cases after
    next =>
      obtain rfl := Option.some.inj before
      obtain rfl := Option.some.inj after
      -- Past the entries that differ, both lists are the same.
      cases change with
      | power started =>
        have apart : "started" ≠ key := by simpa [namedAttributes, eq_comm] using other
        simp [Json.own, List.find?_cons, apart, Change.apply]
      | resize target =>
        obtain ⟨cpu, memory, disk⟩ : "cpu" ≠ key ∧ "memory" ≠ key ∧ "disk" ≠ key := by
          simpa [namedAttributes, eq_comm] using other
        simp [Json.own, List.find?_cons, cpu, memory, disk, Change.apply]
      | retain markers deadline =>
        obtain ⟨onBoot, started, description⟩ : "on_boot" ≠ key ∧ "started" ≠ key ∧ "description" ≠ key := by
          simpa [namedAttributes, eq_comm] using other
        simp [Json.own, List.find?_cons, onBoot, started, description, Change.apply]

/-- What a call applies after variables that come from the configuration. -/
theorem applies_frame (documented : Documented host) {previous : Option (InstanceTfvars Numeric)} {call : Call}
    {next : InstanceTfvars Numeric} (applies : Applies host configuration previous call next)
    (allowlisted : ∀ before, previous = some before → Allowlisted host configuration before) :
    Allowlisted host configuration next ∧ ∀ before, previous = some before → Frame host before next call := by
  cases applies with
  | create asked => exact ⟨createInput_allowlisted asked, fun _ _ => trivial⟩
  | @change before declared change state holds rebuilt =>
    have kept := allowlisted before rfl
    obtain rfl : declared = before := by
      rw [tfvarsFromState_holds documented kept holds] at rebuilt
      exact (Option.some.inj (Except.ok.inj rebuilt)).symm
    refine ⟨apply_allowlisted kept change, fun other same => ?_⟩
    obtain rfl := Option.some.inj same
    exact ⟨apply_differsOnly change, fun old new was is key other => apply_attributes change was is other⟩

theorem sequence_framed (documented : Documented host) {previous : Option (InstanceTfvars Numeric)}
    {calls : List (Call × InstanceTfvars Numeric)} (sequence : Sequence host configuration previous calls)
    (allowlisted : ∀ before, previous = some before → Allowlisted host configuration before) : Framed host previous calls := by
  induction sequence with
  | nil => trivial
  | cons applies rest ih =>
    obtain ⟨kept, frame⟩ := applies_frame documented applies allowlisted
    refine ⟨frame, ih fun before same => ?_⟩
    rw [← Option.some.inj same]
    exact kept

end

/-! ### The theorem -/

/-- The variables survive the state document, and every call of every sequence
    keeps what it does not name. -/
theorem declarative_frame {Numeric : Type} (host : Host Numeric) (configuration : TerraformProxmoxConfiguration)
    (documented : Documented host) :
    (∀ var state, Allowlisted host configuration var → Holds host var state →
      tfvarsFromState host configuration state = .ok (some var)) ∧
    ∀ calls, Sequence host configuration none calls → Framed host none calls :=
  ⟨fun _ _ allowlisted holds => tfvarsFromState_holds documented allowlisted holds,
    fun _ sequence => sequence_framed documented sequence fun _ impossible => (nomatch impossible)⟩

/-! ### A creation and a shutdown -/

theorem sample_documented : Documented sampleHost where
  printed value _ := by
    show Nat.ofDigitChars 10 (toString value).toList 0 = value
    rw [show (toString value).toList = Nat.toDigits 10 value from Nat.toList_repr, Nat.ofDigitChars_toDigits (by decide) (by decide)]
  template value _ := by
    show Nat.ofDigitChars 10 (toString value).toList 0 = value
    rw [show (toString value).toList = Nat.toDigits 10 value from Nat.toList_repr, Nat.ofDigitChars_toDigits (by decide) (by decide)]
  plain value _ member := by
    have digit := Nat.isDigit_of_mem_toDigits (by decide) (by decide) (Nat.toList_repr ▸ member : '/' ∈ Nat.toDigits 10 value)
    exact absurd digit (by decide)

/-- What the sample creation applies. -/
def sampleTfvars : InstanceTfvars Nat :=
  { nodeName := "pve", templateVmId := 9000, vmId := 910000, hostname := "vm-1", ownershipMarker := "private-cloud-control:\x7b\x7d",
    tags := ["private-cloud-control-plane", "lab"], datastoreId := "local-lvm", diskInterface := "scsi0", diskFormat := .qcow2,
    poolId := "lab", diskGib := 32, cpuCores := 2, memoryMib := 1024, bridge := "vmbr0", networkMtu := 1450,
    ipv4Address := "10.0.0.5", ipv4PrefixLength := 24, ipv4Gateway := "10.0.0.1", dnsServers := ["10.0.0.2"],
    dnsDomain := "lab.internal", cloudInitUsername := "debian", cloudInitPassword := "correct-horse",
    sshPublicKeys := ["ssh-ed25519 AAAA"], started := true, onBoot := false }

/-- A state document with one instance. -/
def sampleDocument (values : Json) : Json :=
  .obj [("values", .obj [("root_module", .obj [("resources", .arr
    [.obj [("address", .str instanceAddress), ("values", values)]])])])]

theorem sample_created : createInput sampleHost sampleTerraform sampleTerraformCreation = .ok (.ok
    { instanceId := "a1", operationId := "c1", workspace := "instance-a1", vmId := 910000, tfvars := sampleTfvars,
      fencingToken := "0" }) := by
  rfl

theorem sample_holds : ∃ state, Holds sampleHost sampleTfvars (some state) :=
  ⟨sampleDocument _, _, _, _, rfl, rfl, rfl, .same _,
    { vmId := ⟨_, rfl⟩, cores := ⟨_, rfl⟩, dedicated := ⟨_, rfl⟩, size := ⟨_, rfl⟩,
      address := ⟨"10.0.0.5", "24", rfl, by decide, by decide⟩ }⟩

/-- The variables of the sample survive, and shutting it down changes nothing else. -/
theorem declarative_frame_sample :
    (∃ state, tfvarsFromState sampleHost sampleTerraform (some state) = .ok (some sampleTfvars)) ∧
    Framed sampleHost none [(.create sampleTerraformCreation, sampleTfvars),
      (.change (.power false), { sampleTfvars with started := false })] := by
  have allowlisted : Allowlisted sampleHost sampleTerraform sampleTfvars := createInput_allowlisted sample_created
  obtain ⟨state, holds⟩ := sample_holds
  have rebuilt := (declarative_frame sampleHost sampleTerraform sample_documented).1 _ _ allowlisted holds
  refine ⟨⟨state, rebuilt⟩, (declarative_frame sampleHost sampleTerraform sample_documented).2 _ ?_⟩
  exact .cons (.create sample_created) (.cons (.change holds rebuilt) .nil)

end ControlPlane.DeclarativeFrame
