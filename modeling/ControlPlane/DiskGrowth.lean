import ControlPlane.ProxmoxNode

/-!
Which disk a resize measures, and which one it grows. `diskGiB` reads the first
disk that is configured, a CD-ROM or an empty entry included; `primaryDiskKey`
skips both. The adapter grows the right disk by the right amount exactly if the
two agree on what there is to grow.
-/
namespace ControlPlane.DiskGrowth
open ControlPlane.Programs ControlPlane.Programs.Program ControlPlane.ProviderPort
open ControlPlane.ProxmoxOwnership ControlPlane.ProxmoxProvider ControlPlane.ProxmoxRules
open ControlPlane.ProxmoxNode (specifiedSize)

/-- The size of the disk with a key. -/
def diskSize (config : ProxmoxVmConfig) (key : String) : Option Int :=
  specifiedSize (([("scsi0", config.scsi0), ("virtio0", config.virtio0), ("sata0", config.sata0)].lookup key).join)

section
variable (library : Library) (configuration : ProxmoxProviderConfiguration)

/-- The disk size that a call asks for. -/
def requestedDisk (call : ResizeInstanceRequest) : Option Int :=
  numberOrZero library (call.targetResources.bind InstanceResources.diskGib)

def requestedMemory (call : ResizeInstanceRequest) : Option Int :=
  numberOrZero library (call.targetResources.bind InstanceResources.memoryMib)

def requestedCpu (call : ResizeInstanceRequest) : Int := ((call.targetResources.bind InstanceResources.cpuCount).getD 0 : Nat)

/-- The boot disk is grown, to the size that was asked for and that it does not
    have yet. -/
def Grows (call : ResizeInstanceRequest) (config : ProxmoxVmConfig) (form : List (String × String)) : Prop :=
  ∃ key size disk, primaryDiskKey config = .ok key ∧ diskSize config key = some size ∧
    requestedDisk library call = some disk ∧ size < disk ∧ form = [("disk", key), ("size", toString disk ++ "G")]

/-- What was asked for is no smaller than the boot disk. -/
def Keeps (call : ResizeInstanceRequest) (config : ProxmoxVmConfig) : Prop :=
  ∃ disk, requestedDisk library call = some disk ∧
    ∀ key size, primaryDiskKey config = .ok key → diskSize config key = some size → size ≤ disk

/-- Every read of a configuration is answered with the one given. -/
def Configured (config : ProxmoxVmConfig) (proxmox : Oracle ProxmoxRequest.Outcome) : Prop :=
  ∀ past vmid, proxmox past (.vmConfig vmid) = .data (some config)

/-- A resize of the VM grows its boot disk only, and only beyond its size; what
    it accepts is no smaller than that. -/
structure NeverShrinks (call : ResizeInstanceRequest) (config : ProxmoxVmConfig) : Prop where
  grows : ∀ proxmox, Configured config proxmox → ∀ vmid form outcome,
    ⟨.resizeDisk vmid form, outcome⟩ ∈ ((resizeInstance library configuration call).run proxmox []).1 →
    Grows library call config form
  keeps : ∀ proxmox, Configured config proxmox → ∀ result,
    ((resizeInstance library configuration call).run proxmox []).2 = .ok (some result) →
    result.state = some .accepted ∨ result.state = some .succeeded → Keeps library call config

/-- If the call is not refused and there is a boot disk, it is readably smaller
    than a target above the measured size, and not larger than one equal to it. -/
def Measured (call : ResizeInstanceRequest) (config : ProxmoxVmConfig) : Prop :=
  ∀ ownership vmid memory disk key, boundaries library configuration call.request = .ok (ownership, vmid) →
    parseOwnership library config.description = some ownership → requestedMemory library call = some memory →
    requestedDisk library call = some disk → sizingAllowed (requestedCpu call) memory disk = true →
    (diskGiB config).getD 0 ≤ disk → primaryDiskKey config = .ok key →
    if (diskGiB config).getD 0 < disk then ∃ size, diskSize config key = some size ∧ size < disk
    else ∀ size, diskSize config key = some size → size ≤ disk

end

section
variable {library : Library} {configuration : ProxmoxProviderConfiguration} {call : ResizeInstanceRequest}
  {config : ProxmoxVmConfig}

/-! ### Measured is safe -/

/-- The configuration that ownership is proven on is the one that was read. -/
theorem requireOwnedConfig_read_then {α : Type} {allowed : Conversation → ProxmoxRequest → Prop}
    {post : Conversation → Except ProxmoxError α → Prop} {past : Conversation} {vmid : Int} {expected : OwnershipMarkers}
    {f : ProxmoxVmConfig → Api α} (sends : allowed past (.vmConfig vmid)) (raised : ∀ later error, post later (.error error))
    (answered : ∀ found : ProxmoxVmConfig, parseOwnership library found.description = some expected →
      (f found).Satisfies allowed post (past ++ [⟨.vmConfig vmid, .data (some found)⟩])) :
    (requireOwnedConfig library vmid expected >>= f).Satisfies allowed post past := by
  unfold requireOwnedConfig
  rw [bind_assoc]
  refine vmConfig_then sends raised fun found later known => ?_
  cases found with
  | none => exact raised _ _
  | some found =>
    dsimp only
    split
    next matching =>
      have same := known found rfl
      subst same
      exact answered found (markersMatch_iff.mp matching)
    next => exact raised _ _

/-- An exchange in which a configuration that is read is the one given. -/
def Shown (config : ProxmoxVmConfig) (exchange : Exchange ProxmoxRequest.Outcome) : Prop :=
  ∀ vmid found, exchange = ⟨.vmConfig vmid, .data found⟩ → found = some config

/-- While the VM is configured as given, a disk is only grown as it should be. -/
abbrev GrowsRight (library : Library) (call : ResizeInstanceRequest) (config : ProxmoxVmConfig) (said : Conversation)
    (request : ProxmoxRequest) : Prop :=
  (∀ exchange ∈ said, Shown config exchange) → ∀ vmid form, request = .resizeDisk vmid form → Grows library call config form

/-- And what ends well kept the size of the boot disk. -/
abbrev KeepsSize (library : Library) (call : ResizeInstanceRequest) (config : ProxmoxVmConfig) (said : Conversation)
    (ended : Except ProxmoxError (Option ProviderMutationResult)) : Prop :=
  (∀ exchange ∈ said, Shown config exchange) → ∀ result, ended = .ok (some result) →
    result.state = some .accepted ∨ result.state = some .succeeded → Keeps library call config

/-- A program that makes no call any more, or that judges another VM. -/
theorem other_keeps {said : Conversation} {ended : Except ProxmoxError (Option ProviderMutationResult)}
    (keeps : (∀ exchange ∈ said, Shown config exchange) → Keeps library call config) :
    KeepsSize library call config said ended := fun shown _ _ _ => keeps shown

theorem resizeInstance_grows (measured : Measured library configuration call config) :
    (resizeInstance library configuration call).Satisfies (GrowsRight library call config) (KeepsSize library call config)
      [] := by
  have raised : ∀ (later : Conversation) error, KeepsSize library call config later (.error error) :=
    fun _ _ _ _ impossible => by cases impossible
  have harmless {said : Conversation} {request : ProxmoxRequest} (other : ∀ vmid form, request ≠ .resizeDisk vmid form) :
      GrowsRight library call config said request := fun _ vmid form same => absurd same (other vmid form)
  refine check_then raised fun ⟨ownership, vmid⟩ checked => ?_
  refine requireOwnedConfig_read_then (harmless (by simp)) raised fun found owned => ?_
  dsimp only
  split
  next memory disk wantedMemory wantedDisk =>
    split
    next => exact raised _ _
    next allowedSize =>
      split
      next => exact raised _ _
      next fits =>
        refine request_then (harmless (by simp)) raised fun current => ?_
        split
        next =>
          -- A locked VM is refused.
          intro _ result same state
          cases same
          rcases state with impossible | impossible <;> cases impossible
        next =>
          refine request_then (harmless (by simp)) raised fun configTask => ?_
          have sized : sizingAllowed (requestedCpu call) memory disk = true := by simpa [requestedCpu] using allowedSize
          -- The first thing that was said is the configuration.
          have known {more : Conversation}
              (shown : ∀ exchange ∈ ⟨.vmConfig vmid, .data (some found)⟩ :: more, Shown config exchange) : found = config :=
            Option.some.inj (shown _ List.mem_cons_self vmid _ rfl)
          have kept (same : found = config) : Keeps library call config := by
            subst same
            refine ⟨disk, wantedDisk, fun key size named has => ?_⟩
            have settled := measured ownership vmid memory disk key checked owned wantedMemory wantedDisk sized
              (Int.not_lt.mp fits) named
            split at settled
            next =>
              obtain ⟨same, has', less⟩ := settled
              cases has.symm.trans has'
              exact Int.le_of_lt less
            next => exact settled size has
          split
          next grows =>
            refine check_then raised fun key named => ?_
            have right (same : found = config) :
                Grows library call config [("disk", key), ("size", toString disk ++ "G")] := by
              subst same
              have settled := measured ownership vmid memory disk key checked owned wantedMemory wantedDisk sized
                (Int.not_lt.mp fits) named
              rw [if_pos grows] at settled
              obtain ⟨size, has, less⟩ := settled
              exact ⟨key, size, disk, named, has, wantedDisk, less, rfl⟩
            refine request_then (fun shown other form same => ?_) raised fun growTask => ?_
            · cases same
              exact right (known shown)
            · split
              next => exact other_keeps fun shown => kept (known shown)
              next => exact other_keeps fun shown => kept (known shown)
          next => exact other_keeps fun shown => kept (known shown)
  next => exact raised _ _

theorem shown_run {proxmox : Oracle ProxmoxRequest.Outcome} (configured : Configured config proxmox)
    (p : Api (Option ProviderMutationResult)) : ∀ exchange ∈ (p.run proxmox []).1, Shown config exchange := by
  refine run_answers ?_ p [] fun _ impossible => absurd impossible List.not_mem_nil
  rintro past request vmid found same
  obtain ⟨rfl, same⟩ := Sigma.mk.inj same
  exact ProxmoxRequest.Outcome.data.inj ((eq_of_heq same).symm.trans (configured past vmid))

theorem never_shrinks_of_measured (measured : Measured library configuration call config) :
    NeverShrinks library configuration call config := by
  have satisfied := resizeInstance_grows measured
  constructor
  · intro proxmox configured vmid form outcome member
    obtain ⟨before, after, same⟩ := List.append_of_mem member
    have allowed := satisfied.run_allowed proxmox same (Nat.zero_le _)
    refine allowed (fun exchange there => ?_) vmid form rfl
    exact shown_run configured _ exchange (same ▸ List.mem_append_left _ there)
  · intro proxmox configured result ended state
    exact satisfied.run_post proxmox (shown_run configured _) result ended state

/-! ### Safe is measured -/

/-- A node that does everything at once. -/
def obliging (config : ProxmoxVmConfig) : Oracle ProxmoxRequest.Outcome
  | _, .vmConfig _ => .data (some config)
  | _, .currentStatus _ => .data {}
  | _, .writeConfig .. => .data none
  | _, .resizeDisk .. => .data none
  | _, _ => .noData

theorem measured_of_never_shrinks (safe : NeverShrinks library configuration call config) :
    Measured library configuration call config := by
  intro ownership vmid memory disk key checked owned wantedMemory wantedDisk sized fits named
  have configured : Configured config (obliging config) := fun _ _ => rfl
  have resources : numberOrZero library (call.targetResources.bind InstanceResources.memoryMib) = some memory := wantedMemory
  have disks : numberOrZero library (call.targetResources.bind InstanceResources.diskGib) = some disk := wantedDisk
  have cpu : sizingAllowed ((call.targetResources.bind InstanceResources.cpuCount).getD 0 : Nat) memory disk = true := sized
  split
  next grows =>
    have said : ⟨.resizeDisk vmid [("disk", key), ("size", toString disk ++ "G")], .data none⟩ ∈
        ((resizeInstance library configuration call).run (obliging config) []).1 := by
      unfold resizeInstance
      rw [checked]
      simp only [check, done_bind]
      rw [run_requireOwnedConfig (configured _ _) owned]
      simp only [resources, disks, cpu, Bool.not_true, Bool.false_eq_true, if_false, if_neg (Int.not_lt.mpr fits)]
      rw [run_request rfl, if_neg (by simp [present]), run_request rfl]
      simp only [gt_iff_lt, grows, if_true, named, done_bind]
      rw [run_request rfl]
      simp [present, Program.run]
    obtain ⟨_, size, _, named', has, wanted, less, -⟩ := safe.grows _ configured vmid _ _ said
    cases named.symm.trans named'
    cases wantedDisk.symm.trans wanted
    exact ⟨size, has, less⟩
  next keeps =>
    have ended : ((resizeInstance library configuration call).run (obliging config) []).2 =
        .ok (some (succeeded vmid)) := by
      unfold resizeInstance
      rw [checked]
      simp only [check, done_bind]
      rw [run_requireOwnedConfig (configured _ _) owned]
      simp only [resources, disks, cpu, Bool.not_true, Bool.false_eq_true, if_false, if_neg (Int.not_lt.mpr fits)]
      rw [run_request rfl, if_neg (by simp [present]), run_request rfl, if_neg keeps]
      rfl
    obtain ⟨other, wanted, least⟩ := safe.keeps _ configured _ ended (.inr rfl)
    cases wantedDisk.symm.trans wanted
    exact fun size has => least key size named has

end

/-! ### The theorem -/

/-- For every VM and every target: the adapter grows the boot disk only, and never
    makes it smaller, exactly if the disk that it measures says enough about it. -/
theorem resizeInstance_never_shrinks (library : Library) (configuration : ProxmoxProviderConfiguration)
    (call : ResizeInstanceRequest) (config : ProxmoxVmConfig) :
    NeverShrinks library configuration call config ↔ Measured library configuration call config :=
  ⟨measured_of_never_shrinks, never_shrinks_of_measured⟩

/-! ### A CD-ROM before the disk -/

/-- A VM with a CD-ROM on the first bus and a disk of 32 GiB on the second. -/
def sampleVm : ProxmoxVmConfig :=
  { AdapterRefusals.sampleConfig with
    scsi0 := some "local:iso/debian-12.iso,media=cdrom,size=600M",
    virtio0 := some "local-lvm:vm-910000-disk-0,size=32G" }

/-- The request for 10 GiB. -/
def sampleGrowth : ResizeInstanceRequest :=
  { request := some AdapterRefusals.sampleMutation,
    targetResources := some { cpuCount := some 1, memoryMib := some "1024", diskGib := some "10" } }

/-- The CD-ROM is measured and the disk is asked to shrink. -/
theorem resizeInstance_shrinks : ¬ ∀ library configuration call config, NeverShrinks library configuration call config := by
  intro every
  have measured := measured_of_never_shrinks
    (every (sampleLibrary AdapterRefusals.sampleMarkers) sampleConfiguration sampleGrowth sampleVm)
  have named : primaryDiskKey sampleVm = .ok "virtio0" := by decide +kernel
  have settled := measured _ _ 1024 10 "virtio0" AdapterRefusals.sample_boundaries
    (parseOwnership_description AdapterRefusals.sample_legible) (by decide +kernel) (by decide +kernel) (by decide +kernel)
    (by decide +kernel) named
  rw [if_pos (by decide +kernel)] at settled
  obtain ⟨size, has, less⟩ := settled
  have known : diskSize sampleVm "virtio0" = some 32 := by decide +kernel
  cases known.symm.trans has
  exact absurd less (by decide)

end ControlPlane.DiskGrowth
