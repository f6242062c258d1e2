import ControlPlane.AdapterReadiness

/-!
A call that is repeated after its first run took effect, against the direct
adapter. A worker that crashed before its checkpoint asks again, on the node
that the lost run left behind. The checks of every call pass there once more,
but for one: a purge does not find the VM that it destroyed. What else lets the
repeated call fail is said by Proxmox itself.
-/
namespace ControlPlane.CrashResume
open ControlPlane.Programs ControlPlane.Programs.Program ControlPlane.Domain ControlPlane.ProviderPort
open ControlPlane.ProxmoxOwnership ControlPlane.ProxmoxProvider ControlPlane.ProxmoxRules ControlPlane.ProxmoxNode
open ControlPlane.AdapterRefusals (ProxmoxExchange)
open ControlPlane.AdapterReadiness ControlPlane.Commands ControlPlane.WorkflowSchema ControlPlane.LifecycleWorkflow
open ControlPlane.Transitions hiding handle
open ControlPlane.FailureClassification

/-! ### The call of an earlier claim -/

section
variable (attempt : Option Nat) (fencingToken : Option String)

def earlierContext (context : ProviderCallContext) : ProviderCallContext :=
  { context with attempt := attempt, fencingToken := fencingToken }

def earlierRequest (request : InstanceMutationRequest) : InstanceMutationRequest :=
  { request with context := request.context.map (earlierContext attempt fencingToken) }

def earlierSnapshotRequest (request : SnapshotMutationRequest) : SnapshotMutationRequest :=
  { request with request := request.request.map (earlierRequest attempt fencingToken) }

/-- The call as an earlier claim of its stage made it: all but the attempt and
    the fencing token is the same. -/
def earlier : ProviderCall → ProviderCall
  | .submitCreateInstance call =>
    .submitCreateInstance { call with context := call.context.map (earlierContext attempt fencingToken) }
  | .applyInstanceConfiguration call =>
    .applyInstanceConfiguration { call with context := call.context.map (earlierContext attempt fencingToken) }
  | .getTask call => .getTask { call with context := call.context.map (earlierContext attempt fencingToken) }
  | .observeInstance call => .observeInstance (earlierRequest attempt fencingToken call)
  | .startInstance mutation => .startInstance (mutation.map (earlierRequest attempt fencingToken))
  | .shutdownInstance mutation => .shutdownInstance (mutation.map (earlierRequest attempt fencingToken))
  | .stopInstance mutation => .stopInstance (mutation.map (earlierRequest attempt fencingToken))
  | .rebootInstance mutation => .rebootInstance (mutation.map (earlierRequest attempt fencingToken))
  | .resizeInstance call => .resizeInstance { call with request := call.request.map (earlierRequest attempt fencingToken) }
  | .listSnapshots call => .listSnapshots (earlierRequest attempt fencingToken call)
  | .createSnapshot call => .createSnapshot { call with request := call.request.map (earlierRequest attempt fencingToken) }
  | .rollbackSnapshot call => .rollbackSnapshot (call.map (earlierSnapshotRequest attempt fencingToken))
  | .deleteSnapshot call => .deleteSnapshot (call.map (earlierSnapshotRequest attempt fencingToken))
  | .markInstanceRetained call =>
    .markInstanceRetained { call with request := call.request.map (earlierRequest attempt fencingToken) }
  | .purgeInstance call => .purgeInstance { call with request := call.request.map (earlierRequest attempt fencingToken) }

end

section
variable {library : Library} {configuration : ProxmoxProviderConfiguration} {attempt : Option Nat}
  {fencingToken : Option String} {node : Node}

theorem earlier_mutates (call : ProviderCall) : (earlier attempt fencingToken call).mutates = call.mutates := by
  cases call <;> rfl

theorem earlier_markers (call : ProviderCall) : (earlier attempt fencingToken call).markers = call.markers := by
  have kept (request : Option InstanceMutationRequest) : (request.map (earlierRequest attempt fencingToken)).bind
      InstanceMutationRequest.expectedOwnershipMarkers = request.bind InstanceMutationRequest.expectedOwnershipMarkers := by
    cases request <;> rfl
  have nested (request : Option SnapshotMutationRequest) :
      ((request.map (earlierSnapshotRequest attempt fencingToken)).bind SnapshotMutationRequest.request) =
        (request.bind SnapshotMutationRequest.request).map (earlierRequest attempt fencingToken) := by
    cases request <;> rfl
  cases call <;> first
    | rfl
    | exact kept _
    | exact (congrArg (Option.bind · _) (nested _)).trans (kept _)

/-- No check looks at the attempt or the fencing token. -/
theorem assertContext_earlier (context : Option ProviderCallContext) :
    assertContext configuration (context.map (earlierContext attempt fencingToken)) =
      (assertContext configuration context).map (earlierContext attempt fencingToken) := by
  cases context with
  | none => rfl
  | some context =>
    simp only [assertContext, Option.map_some, earlierContext]
    cases assertDirectProfile configuration context.providerProfileId with
    | error _ => rfl
    | ok _ =>
      by_cases outside : context.projectId ≠ some configuration.projectId
      · simp only [bind, Except.bind, if_pos outside]
        rfl
      · simp only [bind, Except.bind, if_neg outside]
        cases required context.requestId "context.requestId" with
        | error _ => rfl
        | ok _ =>
          cases required context.operationId "context.operationId" with
          | error _ => rfl
          | ok _ =>
            cases required context.correlationId "context.correlationId" with
            | error _ => rfl
            | ok _ => cases required context.instanceId "context.instanceId" <;> rfl

theorem boundaries_earlier (request : Option InstanceMutationRequest) :
    boundaries library configuration (request.map (earlierRequest attempt fencingToken)) =
      boundaries library configuration request := by
  cases request with
  | none => rfl
  | some request =>
    simp only [boundaries, Option.map_some, Option.bind_some, earlierRequest, assertContext_earlier]
    cases assertContext configuration request.context <;> rfl

theorem addressed_earlier {request : Option InstanceMutationRequest} {fit : Int → ProxmoxVmConfig → Prop} :
    Addressed library configuration (request.map (earlierRequest attempt fencingToken)) node fit ↔
      Addressed library configuration request node fit := by
  rw [Addressed, boundaries_earlier, Addressed]

theorem ready_earlier (call : ProviderCall) :
    Ready library configuration (earlier attempt fencingToken call) node ↔ Ready library configuration call node := by
  have nested (request : Option SnapshotMutationRequest) :
      ((request.map (earlierSnapshotRequest attempt fencingToken)).bind SnapshotMutationRequest.request) =
        (request.bind SnapshotMutationRequest.request).map (earlierRequest attempt fencingToken) := by
    cases request <;> rfl
  have referenced (request : Option SnapshotMutationRequest) :
      ((request.map (earlierSnapshotRequest attempt fencingToken)).bind SnapshotMutationRequest.providerSnapshotReference) =
        request.bind SnapshotMutationRequest.providerSnapshotReference := by
    cases request <;> rfl
  cases call with
  | getTask call => exact .rfl
  | observeInstance call => exact .rfl
  | listSnapshots call => exact .rfl
  | submitCreateInstance call =>
    constructor
    · rintro ⟨context, markers, hostname, instanceId, presented, marked, rest⟩
      rw [assertContext_earlier] at presented
      cases first : assertContext configuration call.context with
      | error _ =>
        rw [first] at presented
        cases presented
      | ok known =>
        rw [first] at presented
        cases presented
        exact ⟨known, markers, hostname, instanceId, first, marked, rest⟩
    · rintro ⟨context, markers, hostname, instanceId, presented, marked, rest⟩
      refine ⟨earlierContext attempt fencingToken context, markers, hostname, instanceId, ?_, marked, rest⟩
      rw [assertContext_earlier, presented]
      rfl
  | applyInstanceConfiguration call =>
    constructor
    · rintro ⟨network, resources, hasNetwork, hasResources, allowed, named, numbered, routed, addressed⟩
      exact ⟨network, resources, hasNetwork, hasResources, allowed, named, numbered, routed, addressed_earlier.mp addressed⟩
    · rintro ⟨network, resources, hasNetwork, hasResources, allowed, named, numbered, routed, addressed⟩
      exact ⟨network, resources, hasNetwork, hasResources, allowed, named, numbered, routed, addressed_earlier.mpr addressed⟩
  | startInstance mutation => exact addressed_earlier
  | shutdownInstance mutation => exact addressed_earlier
  | stopInstance mutation => exact addressed_earlier
  | rebootInstance mutation => exact addressed_earlier
  | resizeInstance call =>
    constructor
    · rintro ⟨memory, disk, sized, target, allowed, addressed⟩
      exact ⟨memory, disk, sized, target, allowed, addressed_earlier.mp addressed⟩
    · rintro ⟨memory, disk, sized, target, allowed, addressed⟩
      exact ⟨memory, disk, sized, target, allowed, addressed_earlier.mpr addressed⟩
  | createSnapshot call => exact and_congr_right fun _ => addressed_earlier
  | rollbackSnapshot call =>
    show (assertSnapshotName _).isOk = true ∧ Addressed _ _ _ _ _ ↔ _
    rw [referenced, nested, addressed_earlier]
    rfl
  | deleteSnapshot call =>
    show (assertSnapshotName _).isOk = true ∧ Addressed _ _ _ _ _ ↔ _
    rw [referenced, nested, addressed_earlier]
    rfl
  | markInstanceRetained call => exact addressed_earlier
  | purgeInstance call =>
    show (∃ markers vmid, boundaries _ _ _ = _ ∧ _) ↔ _
    rw [boundaries_earlier]
    rfl

/-! ### What the lost run left behind -/

theorem effect_read {request : ProxmoxRequest} {before after : Node} (read : request.method = .get)
    (effect : Effect request before after) : after = before := by
  cases request <;> first | exact effect | cases read

variable {call : ProviderCall} {said : Conversation} {observedAt : Nat}

/-- Every request of a run on a truthful node is one that it was allowed. -/
theorem asked_allowed (mutates : call.mutates = true)
    (legible : ∀ markers, call.markers = some markers → Legible library markers) {proxmox : Oracle ProxmoxRequest.Outcome}
    (truthful : Truthful node ((handle library configuration observedAt call).run proxmox []).1) :
    ∀ exchange ∈ ((handle library configuration observedAt call).run proxmox []).1,
      Allowed library configuration call node [] exchange.1 := by
  intro exchange member
  obtain ⟨before, after, whole⟩ := List.append_of_mem member
  have asked := (@handle_resumes library configuration call node observedAt mutates legible).run_allowed proxmox whole
    (Nat.zero_le _)
  exact asked (Truthful.before (whole ▸ truthful))

/-- A node that was ready for a call still is after what the call did to it. -/
theorem evolves_ready {before after : Node}
    (allowed : ∀ exchange ∈ said, Allowed library configuration call node [] exchange.1)
    (ready : Ready library configuration call before) (evolves : Evolves said before after) :
    Ready library configuration call after := by
  induction evolves with
  | refl => exact ready
  | tail _ step ih =>
    obtain ⟨exchange, member, effect⟩ := step
    rcases allowed exchange member with read | ⟨-, preserves⟩
    · rw [effect_read read effect]
      exact ih
    · exact preserves _ _ ih effect

/-- A call that an earlier claim made as well, on the node that this left. -/
theorem resumed_judged {after : Node} (mutates : call.mutates = true)
    (legible : ∀ markers, call.markers = some markers → Legible library markers)
    {lost proxmox : Oracle ProxmoxRequest.Outcome}
    (honest : Truthful node ((handle library configuration observedAt (earlier attempt fencingToken call)).run lost []).1)
    (acted : ∃ exchange ∈ ((handle library configuration observedAt (earlier attempt fencingToken call)).run lost []).1,
      exchange.1.method ≠ .get)
    (evolves : Evolves ((handle library configuration observedAt (earlier attempt fencingToken call)).run lost []).1 node after)
    (truthful : Truthful after ((handle library configuration observedAt call).run proxmox []).1) :
    Judges library call ((handle library configuration observedAt call).run proxmox []).1
      (reply ⟨call, answer ((handle library configuration observedAt call).run proxmox []).2⟩) := by
  have allowed := asked_allowed ((earlier_mutates call).trans mutates)
    (fun markers presented => legible markers ((earlier_markers call).symm.trans presented)) honest
  obtain ⟨exchange, member, write⟩ := acted
  have ready : Ready library configuration (earlier attempt fencingToken call) node :=
    ((allowed exchange member).resolve_left write).1
  exact (handle_resumes mutates legible).run_post proxmox truthful
    ((ready_earlier call).mp (evolves_ready allowed ready evolves))

/-! ### The theorem -/

/-- However an earlier claim's call went and whatever of it took effect, the
    repeated call is not recorded as failed exactly when nothing that Proxmox
    says to it excuses a failure. -/
theorem resumed_iff {after : Node} {host : Host} {around : Surroundings} {workflow : ClaimedWorkflow}
    {ended : Except WorkflowError StoreWrite} (mutates : call.mutates = true)
    (legible : ∀ markers, call.markers = some markers → Legible library markers)
    {lost proxmox : Oracle ProxmoxRequest.Outcome}
    (honest : Truthful node ((handle library configuration observedAt (earlier attempt fencingToken call)).run lost []).1)
    (acted : ∃ exchange ∈ ((handle library configuration observedAt (earlier attempt fencingToken call)).run lost []).1,
      exchange.1.method ≠ .get)
    (evolves : Evolves ((handle library configuration observedAt (earlier attempt fencingToken call)).run lost []).1 node after)
    (truthful : Truthful after ((handle library configuration observedAt call).run proxmox []).1)
    (agrees : workflow.action = workflow.command.data.action)
    (way : Ended host around workflow
      (reply ⟨call, answer ((handle library configuration observedAt call).run proxmox []).2⟩) ended) :
    ¬ EndsAs .failed ended ↔
      ¬ Excused library call ((handle library configuration observedAt call).run proxmox []).1 := by
  rcases resumed_judged mutates legible honest acted evolves truthful with ⟨fails, excused⟩ | ⟨passes, blameless⟩
  · exact iff_of_false (fun unrecorded => unrecorded (way.failed fails)) fun blameless => blameless excused
  · exact iff_of_true (way.not_failed agrees passes) blameless

end

/-! ### A start and a purge that are repeated -/

/-- A node with one VM. -/
def sampleNode (status : ProxmoxCurrentStatus) : Node := fun vmid =>
  if vmid = 910000 then some ⟨AdapterRefusals.sampleConfig, status⟩ else none

section
open ControlPlane.AdapterRefusals

theorem sample_presented {call : ProviderCall} (presents : call.markers = some sampleMarkers) :
    ∀ markers, call.markers = some markers → ProxmoxOwnership.Legible (sampleLibrary sampleMarkers) markers := by
  intro markers same
  rw [presents] at same
  cases same
  exact sample_legible

theorem sample_owned : parseOwnership (sampleLibrary sampleMarkers) sampleConfig.description = some sampleMarkers :=
  parseOwnership_description sample_legible

/-- Its VM is what Proxmox reads. -/
theorem sampleNode_truthful {status : ProxmoxCurrentStatus} {said : Conversation}
    (read : ∀ exchange ∈ said, exchange = ⟨.vmConfig 910000, .data (some sampleConfig)⟩ ∨
      exchange = ⟨.currentStatus 910000, .data status⟩ ∨ exchange.1.method ≠ .get) :
    Truthful (sampleNode status) said := by
  intro exchange member got
  rcases read exchange member with rfl | rfl | write
  · exact .inr ⟨_, rfl, rfl⟩
  · exact .inr ⟨_, rfl, rfl⟩
  · exact absurd got write

/-- The start of a VM that runs already. -/
theorem sample_started : (startInstance (sampleLibrary sampleMarkers) sampleConfiguration (some sampleMutation)).run
      (sampleProxmox { status := some "running" } fun _ => .invalidJson) [] =
    ([⟨.vmConfig 910000, .data (some sampleConfig)⟩, ⟨.currentStatus 910000, .data { status := some "running" }⟩],
      .ok (some (succeeded 910000))) := by
  unfold startInstance
  rw [sample_boundaries]
  show (requireOwnedConfig _ _ _ >>= _).run _ _ = _
  rw [run_requireOwnedConfig rfl sample_owned, run_request rfl, if_pos (by simp)]
  rfl

theorem sample_seen : reply ⟨.startInstance (some sampleMutation),
      answer ((handle (sampleLibrary sampleMarkers) sampleConfiguration 0 (.startInstance (some sampleMutation))).run
        (sampleProxmox { status := some "running" } fun _ => .invalidJson) []).2⟩ =
    .result (some (succeeded 910000)) := by
  simp only [handle, sample_started]
  rfl

/-- A start whose answer was lost, repeated on the VM that it started. -/
theorem resumed_iff_sampleStart : ∃ write,
    Ended EventValidation.sampleHost sampleAround (claimedAt EventValidation.samplePower .submittingPower)
        (.result (some (succeeded 910000))) (.ok write) ∧
      (¬ EndsAs .failed (.ok write) ↔ ¬ Excused (sampleLibrary sampleMarkers) (.startInstance (some sampleMutation))
        ((handle (sampleLibrary sampleMarkers) sampleConfiguration 0 (.startInstance (some sampleMutation))).run
          (sampleProxmox { status := some "running" } fun _ => .invalidJson) []).1) := by
  obtain ⟨write, ends⟩ := @handleMutationResult_done EventValidation.sampleHost sampleAround
    (claimedAt EventValidation.samplePower .submittingPower) (some (succeeded 910000)) .pollingPower .observingPower
  have asked : ((handle (sampleLibrary sampleMarkers) sampleConfiguration 0
      (earlier (some 1) (some "1") (.startInstance (some sampleMutation)))).run
        (sampleProxmox { status := some "stopped" } fun _ => .invalidJson) []).1 = _ := congrArg Prod.fst sample_unread
  refine ⟨write, .mutated ends, @resumed_iff _ _ (some 1) (some "1") (sampleNode { status := some "stopped" }) _ 0
    (sampleNode { status := some "running" }) EventValidation.sampleHost sampleAround
    (claimedAt EventValidation.samplePower .submittingPower) _ rfl (sample_presented rfl)
    (sampleProxmox { status := some "stopped" } fun _ => .invalidJson) _ ?_ ?_ ?_ ?_ rfl ?_⟩
  · rw [asked]
    refine sampleNode_truthful ?_
    simp [ProxmoxRequest.method]
  · rw [asked]
    exact ⟨_, List.mem_cons_of_mem _ (List.mem_cons_of_mem _ List.mem_cons_self), fun read => by cases read⟩
  · rw [asked]
    refine .single ⟨_, List.mem_cons_of_mem _ (List.mem_cons_of_mem _ List.mem_cons_self), ?_⟩
    exact ⟨⟨_, _, rfl, rfl, rfl⟩, fun other apart => by simp [sampleNode, apart]⟩
  · simp only [handle, sample_started]
    refine sampleNode_truthful ?_
    simp
  · rw [sample_seen]
    exact .mutated ends

/-- Proxmox without any VM. -/
def sampleEmpty : Oracle ProxmoxRequest.Outcome := fun _ request =>
  match request with
  | .vmConfig _ => .status 404
  | _ => .noData

theorem sample_destroyed : (purgeInstance (sampleLibrary sampleMarkers) sampleConfiguration
      { request := some sampleMutation }).run (sampleProxmox { status := some "stopped" } fun _ => .invalidJson) [] =
    ([⟨.vmConfig 910000, .data (some sampleConfig)⟩, ⟨.currentStatus 910000, .data { status := some "stopped" }⟩,
      ⟨.destroy 910000, .invalidJson⟩], .error (refusal "Proxmox returned invalid JSON.")) := by
  unfold purgeInstance
  rw [sample_boundaries]
  show (requireOwnedConfig _ _ _ >>= _).run _ _ = _
  rw [run_requireOwnedConfig rfl sample_owned, run_request rfl, if_neg (by simp [present])]
  rfl

theorem sample_unproven : (purgeInstance (sampleLibrary sampleMarkers) sampleConfiguration
      { request := some sampleMutation }).run sampleEmpty [] =
    ([⟨.vmConfig 910000, .status 404⟩], .error (refusal "Provider ownership could not be proven.")) := by
  unfold purgeInstance
  rw [sample_boundaries]
  rfl

/-- A purge that is repeated after it destroyed its VM ends as failed. -/
theorem repurge_fails : ¬ ∀ (library : Library) (configuration : ProxmoxProviderConfiguration) (call : ProviderCall)
    (attempt : Option Nat) (fencingToken : Option String) (lost proxmox : Oracle ProxmoxRequest.Outcome)
    (before after : Node) (host : Host) (around : Surroundings) (workflow : ClaimedWorkflow)
    (ended : Except WorkflowError StoreWrite), call.mutates = true →
    (∀ markers, call.markers = some markers → ProxmoxOwnership.Legible library markers) →
    Truthful before ((handle library configuration 0 (earlier attempt fencingToken call)).run lost []).1 →
    (∃ exchange ∈ ((handle library configuration 0 (earlier attempt fencingToken call)).run lost []).1,
      exchange.1.method ≠ .get) →
    Evolves ((handle library configuration 0 (earlier attempt fencingToken call)).run lost []).1 before after →
    Truthful after ((handle library configuration 0 call).run proxmox []).1 →
    workflow.action = workflow.command.data.action →
    Ended host around workflow (reply ⟨call, answer ((handle library configuration 0 call).run proxmox []).2⟩) ended →
    ¬ EndsAs .failed ended := by
  intro all
  let call : ProviderCall := .purgeInstance { request := some sampleMutation }
  let workflow := claimedAt EventValidation.samplePurge .submittingPurge
  have asked : ((handle (sampleLibrary sampleMarkers) sampleConfiguration 0 (earlier (some 1) (some "1") call)).run
        (sampleProxmox { status := some "stopped" } fun _ => .invalidJson) []).1 = _ := congrArg Prod.fst sample_destroyed
  have again : (handle (sampleLibrary sampleMarkers) sampleConfiguration 0 call).run sampleEmpty [] = _ := sample_unproven
  obtain ⟨ended, ends⟩ := @handleProviderError_finished sampleAround workflow
    (protocolError "Provider ownership could not be proven.")
  have way : Ended EventValidation.sampleHost sampleAround workflow
      (.failed (protocolError "Provider ownership could not be proven.")) ended := .interrupted (by decide) ends
  refine all (sampleLibrary sampleMarkers) sampleConfiguration call (some 1) (some "1")
    (sampleProxmox { status := some "stopped" } fun _ => .invalidJson) sampleEmpty (sampleNode { status := some "stopped" })
    (fun _ => none) EventValidation.sampleHost sampleAround workflow ended rfl (sample_presented rfl) ?_ ?_ ?_ ?_ rfl ?_
    (way.failed (.refused rfl rfl))
  · rw [asked]
    refine sampleNode_truthful ?_
    simp [ProxmoxRequest.method]
  · rw [asked]
    exact ⟨_, List.mem_cons_of_mem _ (List.mem_cons_of_mem _ List.mem_cons_self), fun read => by cases read⟩
  · rw [asked]
    refine .single ⟨_, List.mem_cons_of_mem _ (List.mem_cons_of_mem _ List.mem_cons_self), rfl, fun other apart => ?_⟩
    simp [sampleNode, apart]
  · rw [again]
    intro exchange member _
    rw [List.mem_singleton.mp member]
    exact .inr ⟨rfl, rfl⟩
  · rw [again]
    exact way

end

end ControlPlane.CrashResume
