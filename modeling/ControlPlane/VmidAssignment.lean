import ControlPlane.Tables
import ControlPlane.TerraformVariables

/-!
The VM ids that creations through Terraform assign. An id is computed from the
instance alone, so a repeated creation gets the same one; nothing keeps two
instances from getting the same one as well.
-/
namespace ControlPlane.VmidAssignment
open ControlPlane.ProviderPort ControlPlane.ProxmoxOwnership ControlPlane.TerraformVariables

section
variable {Numeric : Type} (host : Host Numeric) (configuration : TerraformProxmoxConfiguration)

/-- Numbers of the range are not mixed up. -/
def Exact : Prop := ∀ left right : Nat, left < 2 ^ 53 → right < 2 ^ 53 → host.ofInt left = host.ofInt right → left = right

/-- Some creation of the instance applies the VM id. -/
def Assigns (instanceId : String) (vmId : Numeric) : Prop :=
  ∃ request input, request.context.bind ProviderCallContext.instanceId = some instanceId ∧
    createInput host configuration request = .ok (.ok input) ∧ input.tfvars.vmId = vmId

/-- The VM ids of a set of live instances do not collide, lie inside the range and
    are the same when a creation is repeated. -/
structure Unique (live : List String) : Prop where
  inside : ∀ instanceId ∈ live, ∀ vmId, Assigns host configuration instanceId vmId →
    ∃ number : Nat, vmId = host.ofInt number ∧ configuration.resourceIdMinimum ≤ number ∧
      number ≤ configuration.resourceIdMaximum
  repeats : ∀ instanceId ∈ live, ∀ vmId again, Assigns host configuration instanceId vmId →
    Assigns host configuration instanceId again → again = vmId
  apart : ∀ instanceId ∈ live, ∀ other ∈ live, instanceId ≠ other → ∀ vmId otherVmId,
    Assigns host configuration instanceId vmId → Assigns host configuration other otherVmId → vmId ≠ otherVmId

/-- The hashes of different instances leave different remainders. -/
def Spread (live : List String) : Prop :=
  ∀ instanceId ∈ live, ∀ other ∈ live, instanceId ≠ other →
    host.library.sha256Seed instanceId % configuration.rangeSize ≠ host.library.sha256Seed other % configuration.rangeSize

/-- A creation that every deployment accepts. -/
def plainCreation (instanceId : String) : SubmitCreateInstanceRequest :=
  { context := some
      { instanceId := some instanceId, operationId := some "create", providerProfileId := some configuration.providerProfileId },
    imageId := some configuration.imageId, hostname := some "instance", resources := some {},
    network := some { ipv4Address := some "10.0.0.2", ipv4Gateway := some "10.0.0.1" }, ownershipMarkers := some {} }

end

section
variable {Numeric : Type} {host : Host Numeric} {configuration : TerraformProxmoxConfiguration}

/-- What a creation applies is the VM id of its instance. -/
theorem assigns_eq {instanceId : String} {vmId : Numeric} (assigns : Assigns host configuration instanceId vmId) :
    vmId = host.ofInt (vmIdFor host configuration instanceId) := by
  obtain ⟨request, input, named, asked, rfl⟩ := assigns
  unfold createInput at asked
  obtain ⟨_, _, asked⟩ := Tables.bind_ok asked
  rw [named] at asked
  split at asked
  next own _ instanceIs _ =>
    have same : own = instanceId := by
      unfold present at instanceIs
      rw [Option.filter_eq_some_iff] at instanceIs
      exact (Option.some.inj instanceIs.1).symm
    subst same
    split at asked
    next => cases asked
    next =>
      split at asked
      next => cases asked
      next =>
        obtain ⟨_, _, asked⟩ := Tables.bind_ok asked
        obtain ⟨_, _, asked⟩ := Tables.bind_ok asked
        obtain ⟨_, _, asked⟩ := Tables.bind_ok asked
        cases asked
        rfl
      next => cases asked
  next => cases asked

/-- Every instance can be created. -/
theorem assigns_vmIdFor {instanceId : String} (named : instanceId ≠ "") :
    Assigns host configuration instanceId (host.ofInt (vmIdFor host configuration instanceId)) := by
  have known : present (some instanceId) = some instanceId := by simp [present, Option.filter, named]
  have accepted : ∃ input, createInput host configuration (plainCreation configuration instanceId) = .ok (.ok input) := by
    have texts : present (some "create") = some "create" ∧ present (some "instance") = some "instance" ∧
        present (some "10.0.0.2") = some "10.0.0.2" ∧ present (some "10.0.0.1") = some "10.0.0.1" := by decide
    simp [createInput, plainCreation, assertProfile, known, texts, ProxmoxProvider.required, bind, Except.bind, pure,
      Except.pure]
  obtain ⟨input, asked⟩ := accepted
  have assigned : Assigns host configuration instanceId input.tfvars.vmId := ⟨_, input, rfl, asked, rfl⟩
  exact assigns_eq assigned ▸ assigned

theorem vmIdFor_inside (accepted : configuration.Accepted) (instanceId : String) :
    configuration.resourceIdMinimum ≤ vmIdFor host configuration instanceId ∧
      vmIdFor host configuration instanceId ≤ configuration.resourceIdMaximum := by
  have ordered := accepted.ordered
  have positive : 0 < configuration.rangeSize := Nat.succ_pos _
  have below := Nat.mod_lt (host.library.sha256Seed instanceId) positive
  unfold vmIdFor
  unfold TerraformProxmoxConfiguration.rangeSize at below ⊢
  omega

/-- Two ids are the same if the remainders are. -/
theorem vmIdFor_eq_iff (accepted : configuration.Accepted) (exact_ : Exact host) (instanceId other : String) :
    host.ofInt (vmIdFor host configuration instanceId) = host.ofInt (vmIdFor host configuration other) ↔
      host.library.sha256Seed instanceId % configuration.rangeSize =
        host.library.sha256Seed other % configuration.rangeSize := by
  have small (id : String) : vmIdFor host configuration id < 2 ^ 53 := by
    have inside := (@vmIdFor_inside _ host _ accepted id).2
    have maximum := accepted.maximum
    omega
  constructor
  · intro same
    have numbers := exact_ _ _ (small _) (small _) same
    unfold vmIdFor at numbers
    omega
  · intro same
    unfold vmIdFor
    rw [same]

theorem unique_iff (accepted : configuration.Accepted) (exact_ : Exact host) {live : List String}
    (named : ∀ instanceId ∈ live, instanceId ≠ "") : Unique host configuration live ↔ Spread host configuration live := by
  constructor
  · intro unique instanceId member other also different same
    refine unique.apart instanceId member other also different _ _ (assigns_vmIdFor (named _ member))
      (assigns_vmIdFor (named _ also)) ?_
    exact (vmIdFor_eq_iff accepted exact_ _ _).mpr same
  · intro spread
    constructor
    · intro instanceId _ vmId assigns
      exact ⟨_, assigns_eq assigns, vmIdFor_inside accepted instanceId⟩
    · intro instanceId _ vmId again assigns assignsAgain
      rw [assigns_eq assigns, assigns_eq assignsAgain]
    · intro instanceId member other also different vmId otherVmId assigns assignsOther same
      rw [assigns_eq assigns, assigns_eq assignsOther] at same
      exact spread instanceId member other also different ((vmIdFor_eq_iff accepted exact_ _ _).mp same)

end

/-! ### The theorem -/

/-- For every range and every set of instances: the VM ids are inside the range and
    stable, and they are different exactly if the remainders of the hashes are. -/
theorem vmIds_unique_iff {Numeric : Type} (host : Host Numeric) (configuration : TerraformProxmoxConfiguration)
    (accepted : configuration.Accepted) (exact_ : Exact host) (live : List String)
    (named : ∀ instanceId ∈ live, instanceId ≠ "") : Unique host configuration live ↔ Spread host configuration live :=
  unique_iff accepted exact_ named

/-! ### Two instances, one id -/

/-- The hashes of three instances. -/
def sampleSeeds : String → Nat
  | "00000000-0000-4000-8000-0000000000a1" => 2347809371
  | "00000000-0000-4000-8000-0000000000a4" => 932957985
  | "00000000-0000-4000-8000-0000000000a7" => 2311118171
  | _ => 0

def hashingHost : Host Nat := { sampleHost with library := { sampleHost.library with sha256Seed := sampleSeeds } }

theorem sample_accepted : sampleTerraform.Accepted := by constructor <;> decide

theorem hashing_exact : Exact hashingHost := fun _ _ _ _ same => same

/-- Two of them get different VM ids. -/
theorem vmIds_unique_iff_sample :
    Unique hashingHost sampleTerraform ["00000000-0000-4000-8000-0000000000a1", "00000000-0000-4000-8000-0000000000a4"] := by
  refine (vmIds_unique_iff hashingHost sampleTerraform sample_accepted hashing_exact _ (by decide)).mpr ?_
  unfold Spread
  decide

/-- Two of them get the same. -/
theorem vmIds_collide : ¬ ∀ (host : Host Nat) configuration, configuration.Accepted → Exact host → ∀ live : List String,
    live.Nodup → live.length < configuration.rangeSize → (∀ instanceId ∈ live, instanceId ≠ "") →
    Unique host configuration live := by
  intro every
  have unique := every hashingHost sampleTerraform sample_accepted hashing_exact
    ["00000000-0000-4000-8000-0000000000a1", "00000000-0000-4000-8000-0000000000a7"] (by decide) (by decide) (by decide)
  have spread := (unique_iff sample_accepted hashing_exact (by decide)).mp unique
  exact absurd rfl (spread "00000000-0000-4000-8000-0000000000a1" (by decide) "00000000-0000-4000-8000-0000000000a7"
    (by decide) (by decide))

end ControlPlane.VmidAssignment
