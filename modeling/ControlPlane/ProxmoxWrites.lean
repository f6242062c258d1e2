import ControlPlane.AdapterReadiness
import ControlPlane.AdapterRefusals

/-!
The writes of the direct adapter. Every method on an existing VM reads the description
of that VM first, and goes on only where it carries exactly the markers of the request.
-/
namespace ControlPlane.ProxmoxWrites
open ControlPlane.Programs ControlPlane.Programs.Program ControlPlane.Domain ControlPlane.ProviderPort
open ControlPlane.ProxmoxOwnership ControlPlane.ProxmoxProvider ControlPlane.ProxmoxRules ControlPlane.AdapterReadiness

/-! ### The claim -/

section
variable (library : Library) (call : ProviderCall)

/-- A read of the VM showed the markers that the call presents. -/
def Shown (vmid : Int) (past : Conversation) : Prop := ∃ markers, call.markers = some markers ∧ Proven library vmid markers past

/-- A write is about a VM that the conversation showed to be owned. -/
def Owned (past : Conversation) (request : ProxmoxRequest) : Prop :=
  request.method ≠ .get → ∃ vmid, request.target = some vmid ∧ Shown library call vmid past

/-- Every write follows such a read, and without one there is no answer but an error. -/
structure OwnedWrites {α : Type} (said : Conversation) (ended : Except ProxmoxError α) : Prop where
  issued : ∀ before request outcome after, said = before ++ ⟨request, outcome⟩ :: after → Owned library call before request
  refused : ∀ response, ended = .ok response → ∃ vmid, Shown library call vmid said

end

/-! ### Once a VM is shown to be owned -/

section
variable {α β : Type} {library : Library} {configuration : ProxmoxProviderConfiguration} {call : ProviderCall}
  {past : Conversation} {vmid : Int}

/-- A read, or a request about one VM. -/
def Within (vmid : Int) (request : ProxmoxRequest) : Prop := request.method = .get ∨ request.target = some vmid

/-- A part whose requests are such, wherever it begins. -/
def Keeps (vmid : Int) (p : Api α) : Prop := ∀ past, p.Satisfies (fun _ request => Within vmid request) (fun _ _ => True) past

theorem Keeps.bind {p : Api α} {f : α → Api β} (first : Keeps vmid p) (rest : ∀ value, Keeps vmid (f value)) : Keeps vmid (p >>= f) :=
  fun past => satisfies_bind_any (first past) fun later value => rest value later

theorem keeps_done (value : α) : Keeps vmid (.done value : Api α) := fun _ => trivial

theorem keeps_raise (error : ProxmoxError) : Keeps vmid (.raise error : Api α) := fun _ => trivial

theorem keeps_check {checked : Except ProviderTransportError α} : Keeps vmid (check checked) := by
  cases checked <;> exact fun _ => trivial

theorem keeps_request {request : ProxmoxRequest} (within : Within vmid request) : Keeps vmid (ProxmoxProvider.request request) := by
  refine fun past => ⟨within, fun outcome => ?_⟩
  cases outcome <;> trivial

theorem keeps_acceptedTask {upid : Option String} : Keeps vmid (acceptedTask library configuration vmid upid) :=
  keeps_check.bind fun _ => keeps_done _

theorem keeps_assertIpv4Available {address : String} {current : Int} : Keeps vmid (assertIpv4Available address current) :=
  keeps_check.bind fun _ => (keeps_request (.inl rfl)).bind fun summaries past =>
    searchAddress_reads (fun _ _ => .inl rfl) summaries past

/-- What was shown stays shown, and whatever is asked of the VM then is allowed. -/
theorem Shown.allows {p : Api α} (shown : Shown library call vmid past)
    (asks : p.Satisfies (fun _ request => Within vmid request) (fun _ _ => True) past) :
    p.Satisfies (Owned library call)
      (fun said ended => ∀ response, ended = .ok response → ∃ vmid, Shown library call vmid said) past := by
  have stable : ∀ said exchange, Shown library call vmid said → Shown library call vmid (said ++ [exchange]) := by
    rintro said exchange ⟨markers, presented, proven⟩
    exact ⟨markers, presented, proven.later⟩
  refine (asks.under stable shown).weaken ?_ ?_
  · rintro said request ⟨within, shown⟩ writes
    exact ⟨vmid, within.resolve_left writes, shown⟩
  · rintro said ended ⟨-, shown⟩ _ _
    exact ⟨vmid, shown⟩

/-- The checks and the read that every method on an existing VM starts with. -/
theorem boundaries_then {mutation : Option InstanceMutationRequest} {f : OwnershipMarkers × Int → ProxmoxVmConfig → Api α}
    (presents : mutation.bind InstanceMutationRequest.expectedOwnershipMarkers = call.markers)
    (rest : ∀ found config, Keeps found.2 (f found config)) :
    (do let found ← check (boundaries library configuration mutation)
        let config ← requireOwnedConfig library found.2 found.1
        f found config : Api α).Satisfies (Owned library call)
      (fun said ended => ∀ response, ended = .ok response → ∃ vmid, Shown library call vmid said) past := by
  refine check_then (fun _ _ _ impossible => nomatch impossible) ?_
  rintro ⟨markers, vmid⟩ passed
  refine requireOwnedConfig_then (fun writes => absurd rfl writes) (fun _ _ _ impossible => nomatch impossible) ?_
  intro config later proven
  exact Shown.allows ⟨markers, presents ▸ boundaries_markers passed, proven⟩ (rest (markers, vmid) config later)

end

/-! ### The methods -/

section
variable {library : Library} {configuration : ProxmoxProviderConfiguration} {past : Conversation}

/-- What a method does and how it ends, for the call that it carries out. -/
abbrev Owns {α : Type} (library : Library) (call : ProviderCall) (method : Api α) (past : Conversation) : Prop :=
  method.Satisfies (Owned library call) (fun said ended => ∀ response, ended = .ok response → ∃ vmid, Shown library call vmid said)
    past

theorem applyInstanceConfiguration_owns (call : ApplyInstanceConfigurationRequest) :
    Owns library (.applyInstanceConfiguration call) (applyInstanceConfiguration library configuration call) past := by
  refine boundaries_then rfl fun found config => ?_
  split
  next network resources _ _ =>
    refine keeps_check.bind fun _ => keeps_check.bind fun _ => keeps_assertIpv4Available.bind fun _ => ?_
    split
    · exact keeps_done _
    · refine keeps_check.bind fun _ => keeps_check.bind fun _ => keeps_check.bind fun _ => ?_
      exact (keeps_request (.inr rfl)).bind fun _ => keeps_done _
  next => exact keeps_done _

theorem startInstance_owns (mutation : Option InstanceMutationRequest) :
    Owns library (.startInstance mutation) (startInstance library configuration mutation) past := by
  refine boundaries_then rfl fun found config => (keeps_request (.inl rfl)).bind fun current => ?_
  split
  · exact keeps_done _
  · exact (keeps_request (.inr rfl)).bind fun _ => keeps_acceptedTask

theorem powerTransition_owns {call : ProviderCall} {mutation : Option InstanceMutationRequest}
    (presents : mutation.bind InstanceMutationRequest.expectedOwnershipMarkers = call.markers) (action : String)
    (alreadyInState : Option String) (extraFields : List (String × String)) :
    Owns library call (powerTransition library configuration mutation action alreadyInState extraFields) past := by
  refine boundaries_then presents fun found config => (keeps_request (.inl rfl)).bind fun current => ?_
  split
  · exact keeps_done _
  · split
    · exact keeps_done _
    · exact (keeps_request (.inr rfl)).bind fun _ => keeps_acceptedTask

theorem resizeInstance_owns (call : ResizeInstanceRequest) :
    Owns library (.resizeInstance call) (resizeInstance library configuration call) past := by
  refine boundaries_then rfl fun found config => ?_
  split
  next =>
    dsimp only
    split
    · exact keeps_raise _
    · split
      · exact keeps_raise _
      · refine (keeps_request (.inl rfl)).bind fun current => ?_
        split
        · exact keeps_done _
        · refine (keeps_request (.inr rfl)).bind fun configTask => ?_
          split
          · refine keeps_check.bind fun key => (keeps_request (.inr rfl)).bind fun growTask => ?_
            split <;> exact keeps_done _
          · exact keeps_done _
  next => exact keeps_raise _

/-- The checks of a snapshot mutation, and what it asks for. -/
theorem snapshot_owns {call : ProviderCall} {mutation : Option InstanceMutationRequest} {f : Int → Api (Option ProviderMutationResult)}
    (presents : mutation.bind InstanceMutationRequest.expectedOwnershipMarkers = call.markers)
    (rest : ∀ vmid, Keeps vmid (f vmid)) :
    Owns library call (prepareSnapshotMutation library configuration mutation >>= f) past := by
  unfold prepareSnapshotMutation
  simp only [bind_assoc]
  refine boundaries_then presents fun found config => (keeps_request (.inl rfl)).bind fun current => ?_
  split
  · exact keeps_raise _
  · exact rest found.2

theorem createSnapshot_owns (call : CreateSnapshotRequest) :
    Owns library (.createSnapshot call) (createSnapshot library configuration call) past := by
  refine snapshot_owns rfl fun vmid => keeps_check.bind fun name => (keeps_request ?_).bind fun _ => keeps_acceptedTask
  exact .inr rfl

theorem rollbackSnapshot_owns (call : Option SnapshotMutationRequest) :
    Owns library (.rollbackSnapshot call) (rollbackSnapshot library configuration call) past := by
  refine snapshot_owns rfl fun vmid => keeps_check.bind fun name => (keeps_request ?_).bind fun _ => keeps_acceptedTask
  exact .inr rfl

theorem deleteSnapshot_owns (call : Option SnapshotMutationRequest) :
    Owns library (.deleteSnapshot call) (deleteSnapshot library configuration call) past := by
  refine snapshot_owns rfl fun vmid => keeps_check.bind fun name => (keeps_request ?_).bind fun _ => keeps_acceptedTask
  exact .inr rfl

theorem markInstanceRetained_owns (call : MarkInstanceRetainedRequest) :
    Owns library (.markInstanceRetained call) (markInstanceRetained library configuration call) past := by
  refine boundaries_then rfl fun found config => (keeps_request (.inl rfl)).bind fun current => ?_
  split
  · exact keeps_done _
  · exact (keeps_request (.inr rfl)).bind fun _ => keeps_done _

theorem purgeInstance_owns (call : PurgeInstanceRequest) :
    Owns library (.purgeInstance call) (purgeInstance library configuration call) past := by
  refine boundaries_then rfl fun found config => (keeps_request (.inl rfl)).bind fun current => ?_
  split
  · exact keeps_done _
  · have destroys : Keeps found.2 (ProxmoxProvider.request (.destroy found.2)) := keeps_request (.inr rfl)
    have stops : Keeps found.2 (ProxmoxProvider.request (.power found.2 "stop" [("overrule-shutdown", "1")])) :=
      keeps_request (.inr rfl)
    dsimp only
    split
    · exact stops.bind fun _ => destroys.bind fun _ => keeps_done _
    · exact destroys.bind fun _ => keeps_done _

/-- Whatever the API answers, a method other than the creating clone changes an existing VM
    only after its description was seen to carry the markers. -/
theorem owned_writes (library : Library) (configuration : ProxmoxProviderConfiguration) (observedAt : Nat) (call : ProviderCall)
    (mutates : call.mutates = true) (existing : ∀ request, call ≠ .submitCreateInstance request)
    (proxmox : Oracle ProxmoxRequest.Outcome) :
    OwnedWrites library call ((handle library configuration observedAt call).run proxmox []).1
      ((handle library configuration observedAt call).run proxmox []).2 := by
  have owns : Owns library call (handle library configuration observedAt call) [] := by
    cases call with
    | submitCreateInstance request => exact absurd rfl (existing request)
    | getTask | observeInstance | listSnapshots => cases mutates
    | applyInstanceConfiguration call => exact applyInstanceConfiguration_owns call
    | startInstance mutation => exact startInstance_owns mutation
    | shutdownInstance mutation => exact powerTransition_owns rfl _ _ _
    | stopInstance mutation => exact powerTransition_owns rfl _ _ _
    | rebootInstance mutation => exact powerTransition_owns rfl _ _ _
    | resizeInstance call => exact resizeInstance_owns call
    | createSnapshot call => exact createSnapshot_owns call
    | rollbackSnapshot call => exact rollbackSnapshot_owns call
    | deleteSnapshot call => exact deleteSnapshot_owns call
    | markInstanceRetained call => exact markInstanceRetained_owns call
    | purgeInstance call => exact purgeInstance_owns call
  exact ⟨fun before request outcome after split => owns.run_allowed proxmox split (Nat.zero_le _), owns.run_post proxmox⟩

end

/-! ### A start -/

open ControlPlane.AdapterRefusals in
/-- The start of a VM whose description carries the markers reaches its write. -/
theorem owned_writes_sampleStart :
    let proxmox := sampleProxmox { status := some "stopped" } fun _ => .invalidJson
    let ran := (handle (sampleLibrary sampleMarkers) sampleConfiguration 0 (.startInstance (some sampleMutation))).run proxmox []
    ⟨.power 910000 "start" [], .invalidJson⟩ ∈ ran.1 ∧
      OwnedWrites (sampleLibrary sampleMarkers) (.startInstance (some sampleMutation)) ran.1 ran.2 := by
  have writes := owned_writes (sampleLibrary sampleMarkers) sampleConfiguration 0 (.startInstance (some sampleMutation)) rfl
    (fun request same => by cases same) (sampleProxmox { status := some "stopped" } fun _ => .invalidJson)
  refine ⟨?_, writes⟩
  simp [handle, sample_unread]

end ControlPlane.ProxmoxWrites
