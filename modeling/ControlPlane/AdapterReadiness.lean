import ControlPlane.ProviderBoundary
import ControlPlane.ProxmoxNode

/-!
When a node is ready for a call of the direct adapter, method by method: the
checks of the call pass on it (`Ready`). Every change that a call sends leaves
its node ready for the same call, and on a node that is ready a call ends as a
failure only when what Proxmox says excuses it (`handle_resumes`).
-/
namespace ControlPlane.AdapterReadiness
open ControlPlane.Programs ControlPlane.Programs.Program ControlPlane.Domain ControlPlane.ProviderPort
open ControlPlane.ProxmoxOwnership ControlPlane.ProxmoxProvider ControlPlane.ProxmoxRules ControlPlane.ProxmoxNode
open ControlPlane.AdapterRefusals (ProxmoxExchange reads refused unreadable written needsTask GrowsNothing)
open ControlPlane.Commands ControlPlane.WorkflowSchema ControlPlane.LifecycleWorkflow ControlPlane.Transitions
open ControlPlane.FailureClassification
open ControlPlane.ProviderBoundary (Thrown Channel invoke)

/-! ### How a call ends -/

/-- What the adapter throws, as its service handles it. -/
def thrown (error : ProxmoxError) : Thrown :=
  match error.error with
  | some error => .transport error
  | none => .unclassified "The adapter raised no transport failure."

/-- A channel that delivers whatever the service ends a call with. -/
def intact (Response : Type) : Channel Response := ⟨fun _ => true, "", none⟩

/-- The answer that the orchestrator gets when the adapter ends a call so. -/
def answer {α : Type} (ended : Except ProxmoxError α) : Except ProviderTransportError α :=
  invoke (intact α) (ended.mapError thrown)

/-- What a workflow gets to see of an ending. -/
def seen (ended : Except ProxmoxError (Option ProviderMutationResult)) : Reply :=
  match answer ended with
  | .ok result => .result result
  | .error error => .failed error

/-- A reply that a mutation stage records as a failure. -/
inductive Fails : Reply → Prop
  | rejected {result : ProviderMutationResult} (state : result.state = some .rejected) : Fails (.result (some result))
  | refused {error : ProviderTransportError} (code : error.code = .protocolError) (final : error.retryable = false) :
      Fails (.failed error)

/-- A reply that a mutation stage goes on from, or has reviewed. -/
inductive Passes : Reply → Prop
  | succeeded {result : ProviderMutationResult} {resource : String} (state : result.state = some .succeeded)
      (known : result.providerResourceId = some resource) (filled : resource ≠ "") : Passes (.result (some result))
  | accepted {result : ProviderMutationResult} {resource reference : String} (state : result.state = some .accepted)
      (known : result.providerResourceId = some resource) (filled : resource ≠ "")
      (tracked : result.providerTaskReference = some reference) (named : reference ≠ "") : Passes (.result (some result))
  | unclear {error : ProviderTransportError} (code : error.code ≠ .protocolError) : Passes (.failed error)

section
variable {host : Host} {around : Surroundings} {workflow : ClaimedWorkflow} {exchange : ProviderExchange}
  {ended : Except WorkflowError StoreWrite}

/-- How a claim ends that was answered by a mutation. -/
inductive Ended (host : Host) (around : Surroundings) (workflow : ClaimedWorkflow) :
    Reply → Except WorkflowError StoreWrite → Prop
  | mutated {result : Option ProviderMutationResult} {write : StoreWrite} {acceptedStage synchronousStage : WorkflowStage}
      (ends : handleMutationResult host around workflow result acceptedStage synchronousStage = .done write) :
      Ended host around workflow (.result result) (.ok write)
  | interrupted {error : ProviderTransportError} {ended : Except WorkflowError StoreWrite}
      (mutation : workflow.stage ∈ mutationStages workflow.command.data.action)
      (ends : handleProviderError around workflow error = finished ended) : Ended host around workflow (.failed error) ended

theorem ended_of_transition (mutates : exchange.1.mutates = true)
    (transition : Transition host around workflow [exchange] ended) : Ended host around workflow (reply exchange) ended := by
  have result_or_failed : (∃ result, reply exchange = .result result) ∨ ∃ error, reply exchange = .failed error := by
    obtain ⟨call, answer⟩ := exchange
    cases call <;> cases answer <;> first | exact .inl ⟨_, rfl⟩ | exact .inr ⟨_, rfl⟩ | cases mutates
  have silent : (reply exchange).describes = false := by
    rcases result_or_failed with ⟨_, said⟩ | ⟨_, said⟩ <;> rw [said] <;> rfl
  have shown {value : Bool} (describes : (reply exchange).describes = true) : value = true := by
    rw [silent] at describes
    cases describes
  cases transition with
  | through executed =>
    cases executed with
    | mutated _ _ said _ ends =>
      rw [said]
      exact .mutated ends
    | polled _ _ _ said =>
      rcases result_or_failed with ⟨_, other⟩ | ⟨_, other⟩ <;> rw [said] at other <;> cases other
    | reviewed _ describes => exact absurd (shown describes) Bool.false_ne_true
    | confirmed _ describes => exact absurd (shown describes) Bool.false_ne_true
    | verified _ describes => exact absurd (shown describes) Bool.false_ne_true
  | caught executed ends =>
    cases executed with
    | interrupted asks said =>
      rw [said]
      exact .interrupted (asks.stage mutates) ends

variable {shown : Reply}

theorem Ended.failed (way : Ended host around workflow shown ended) (fails : Fails shown) : EndsAs .failed ended := by
  cases fails with
  | rejected state =>
    cases way with
    | mutated ends =>
      cases handleMutationResult_verdict ends with
      | unknown other => rw [state] at other; cases other
      | rejected _ status => exact ⟨_, rfl, congrArg some status⟩
      | accepted other => rw [state] at other; cases other
      | succeeded other => rw [state] at other; cases other
      | malformed _ other => exact absurd state other
  | refused code final =>
    cases way with
    | interrupted mutation ends =>
      cases handleProviderError_verdict ends with
      | unknown _ other => exact absurd code other
      | waits _ retryable => rw [final] at retryable; cases retryable
      | defect _ retryable => rw [final] at retryable; cases retryable
      | exhausted _ retryable => rw [final] at retryable; cases retryable
      | failed _ _ status => exact ⟨_, rfl, congrArg some status⟩

theorem Ended.not_failed (way : Ended host around workflow shown ended)
    (agrees : workflow.action = workflow.command.data.action) (passes : Passes shown) : ¬ EndsAs .failed ended := by
  have found {result : ProviderMutationResult} {resource : String} (known : result.providerResourceId = some resource)
      (filled : resource ≠ "") : (addressed workflow result).isSome = true := by
    simp [addressed, known, filled]
  cases passes with
  | succeeded state known filled =>
    cases way with
    | mutated ends =>
      cases handleMutationResult_verdict ends with
      | unknown other => rw [state] at other; cases other
      | rejected other => rw [state] at other; cases other
      | accepted other => rw [state] at other; cases other
      | succeeded => exact goesOn_not_failed goesOn_checkpoint
      | malformed _ _ loose => simp [wellFormed, found known filled, state] at loose
  | accepted state known filled tracked named =>
    cases way with
    | mutated ends =>
      cases handleMutationResult_verdict ends with
      | unknown other => rw [state] at other; cases other
      | rejected other => rw [state] at other; cases other
      | accepted => exact goesOn_not_failed goesOn_checkpoint
      | succeeded other => rw [state] at other; cases other
      | malformed _ _ loose => simp [wellFormed, found known filled, state, tracked, named] at loose
  | unclear code =>
    cases way with
    | interrupted mutation ends =>
      cases handleProviderError_verdict ends with
      | unknown _ _ status => exact not_endsAs (congrArg some status) (by decide)
      | waits => exact goesOn_not_failed goesOn_checkpoint
      | defect => exact goesOn_not_failed goesOn_error
      | exhausted safe => exact absurd (safe (agrees ▸ mutation)) code
      | failed safe => exact absurd (safe (agrees ▸ mutation)) code

end

/-! ### What the repeated call is told -/

theorem toString_ne_empty (vmid : Int) : toString vmid ≠ "" := by
  cases vmid with
  | ofNat value => exact Nat.repr_ne_empty
  | negSucc value => simp [toString, Int.repr]

/-- A call that Proxmox is asked by while another operation holds the VM. -/
def waitsForLock : ProviderCall → Bool
  | .shutdownInstance _ | .stopInstance _ | .rebootInstance _ | .resizeInstance _ | .markInstanceRetained _
  | .purgeInstance _ => true
  | _ => false

/-- A read that turns a call away: a purge does not find the VM, or another
    operation holds it. -/
def turnsAway (call : ProviderCall) : ProxmoxExchange → Bool
  | ⟨.vmConfig _, .status status⟩ => call.purges && status = 404
  | ⟨.currentStatus _, .data status⟩ => waitsForLock call && (present status.lock).isSome
  | _ => false

/-- A success that the adapter cannot look into. -/
def malformed (exchange : ProxmoxExchange) : Bool :=
  exchange.1.method ≠ .get &&
    match exchange.2 with
    | .malformed => true
    | _ => false

/-- An answer that lets a call fail whatever else it is told: it is turned away,
    or a change is refused, or its success cannot be read or names no task. -/
def harmful (call : ProviderCall) (exchange : ProxmoxExchange) : Bool :=
  turnsAway call exchange || refused exchange || unreadable exchange || malformed exchange ||
    (needsTask call exchange.1 && (written exchange).any fun upid => (present upid).isNone)

/-- What excuses a failure: a harmful answer, or a disk that cannot grow. -/
def Excused (library : Library) (call : ProviderCall) (said : Conversation) : Prop :=
  (∃ exchange ∈ said, harmful call exchange = true) ∨
    (GrowsNothing library call said ∧ ∃ exchange ∈ said, (written exchange).isSome = true)

/-! ### A node that is ready for a call -/

section
variable (library : Library) (configuration : ProxmoxProviderConfiguration)

/-- A VM carries the markers, and its configuration is as a call needs it. -/
def Owned (node : Node) (vmid : Int) (markers : OwnershipMarkers) (fit : ProxmoxVmConfig → Prop) : Prop :=
  ∃ vm, node vmid = some vm ∧ parseOwnership library vm.config.description = some markers ∧ fit vm.config

/-- A call on an existing VM passes its checks, and the VM is as the call needs it. -/
def Addressed (request : Option InstanceMutationRequest) (node : Node) (fit : Int → ProxmoxVmConfig → Prop) : Prop :=
  ∃ markers vmid, boundaries library configuration request = .ok (markers, vmid) ∧
    Owned library node vmid markers (fit vmid)

def ReadyCreate (call : SubmitCreateInstanceRequest) (node : Node) : Prop :=
  ∃ context markers hostname instanceId, assertContext configuration call.context = .ok context ∧
    assertOwnership configuration call.ownershipMarkers context = .ok markers ∧
    call.imageId = some configuration.imageId ∧ hostnameAllowed (call.hostname.getD "") = true ∧
    required call.hostname "hostname" = .ok hostname ∧ required markers.instanceId "ownership.instanceId" = .ok instanceId ∧
    ∃ k < configuration.resourceIdMaximum - configuration.resourceIdMinimum + 1, Available library node markers
      (configuration.resourceIdMinimum +
        ((library.sha256Seed instanceId + (0 + k)) % (configuration.resourceIdMaximum - configuration.resourceIdMinimum + 1) : Nat))

def ReadyConfiguration (call : ApplyInstanceConfigurationRequest) (node : Node) : Prop :=
  ∃ network resources, call.network = some network ∧ call.resources = some resources ∧
    assertNetwork library configuration network = .ok () ∧ (required call.hostname "hostname").isOk = true ∧
    (required network.ipv4Address "network.ipv4Address").isOk = true ∧
    (required network.ipv4Gateway "network.ipv4Gateway").isOk = true ∧
    Addressed library configuration (some ⟨call.context, call.providerResourceId, call.ownershipMarkers⟩) node
      fun vmid config => assertResources library resources config = .ok () ∧ (present config.net0).isSome = true ∧
        Unused node (network.ipv4Address.getD "") vmid

def ReadyResize (call : ResizeInstanceRequest) (node : Node) : Prop :=
  ∃ memory disk, numberOrZero library (call.targetResources.bind InstanceResources.memoryMib) = some memory ∧
    numberOrZero library (call.targetResources.bind InstanceResources.diskGib) = some disk ∧
    sizingAllowed ((call.targetResources.bind InstanceResources.cpuCount).getD 0 : Nat) memory disk = true ∧
    Addressed library configuration call.request node fun _ config => ¬ disk < (diskGiB config).getD 0

/-- A purge is ready as well where there is nothing left to purge. -/
def ReadyPurge (call : PurgeInstanceRequest) (node : Node) : Prop :=
  ∃ markers vmid, boundaries library configuration call.request = .ok (markers, vmid) ∧
    (node vmid = none ∨ Owned library node vmid markers fun _ => True)

/-- The checks of a call pass on a node. -/
def Ready : ProviderCall → Node → Prop
  | .submitCreateInstance call, node => ReadyCreate library configuration call node
  | .applyInstanceConfiguration call, node => ReadyConfiguration library configuration call node
  | .resizeInstance call, node => ReadyResize library configuration call node
  | .createSnapshot call, node =>
    (required call.name "snapshot name").isOk = true ∧ Addressed library configuration call.request node fun _ _ => True
  | .rollbackSnapshot call, node | .deleteSnapshot call, node =>
    (assertSnapshotName (call.bind SnapshotMutationRequest.providerSnapshotReference)).isOk = true ∧
      Addressed library configuration (call.bind SnapshotMutationRequest.request) node fun _ _ => True
  | .startInstance mutation, node | .shutdownInstance mutation, node | .stopInstance mutation, node
  | .rebootInstance mutation, node => Addressed library configuration mutation node fun _ _ => True
  | .markInstanceRetained call, node => Addressed library configuration call.request node fun _ _ => True
  | .purgeInstance call, node => ReadyPurge library configuration call node
  | _, _ => False

/-- A request that leaves a node ready for its call. -/
def Preserves (call : ProviderCall) (request : ProxmoxRequest) : Prop :=
  ∀ before after, Ready library configuration call before → Effect request before after →
    Ready library configuration call after

/-- What a call may ask: a read, or a change that its node is ready for, now and
    again. -/
def Allowed (call : ProviderCall) (node : Node) (_ : Conversation) (request : ProxmoxRequest) : Prop :=
  request.method = .get ∨ (Ready library configuration call node ∧ Preserves library configuration call request)

/-- A call ends as a failure exactly when that is excused. -/
def Judges (call : ProviderCall) (said : Conversation) (shown : Reply) : Prop :=
  (Fails shown ∧ Excused library call said) ∨ (Passes shown ∧ ¬ Excused library call said)

/-- On a node that is ready for a call, its end is judged. -/
def Ends (call : ProviderCall) (node : Node) (said : Conversation)
    (ended : Except ProxmoxError (Option ProviderMutationResult)) : Prop :=
  Ready library configuration call node → Judges library call said (seen ended)

end

/-! ### Replies -/

section
variable {library : Library} {configuration : ProxmoxProviderConfiguration} {call : ProviderCall} {past : Conversation}

theorem seen_refusal (message : String) : Fails (seen (.error (refusal message))) := .refused rfl rfl

theorem seen_checked {error : ProxmoxError} {refusal : ProviderTransportError} (raised : error.error = some refusal)
    (code : refusal.code = .protocolError) : Fails (seen (.error error)) := by
  have thrown_ : thrown error = .transport refusal := by simp [thrown, raised]
  refine .refused ?_ ?_ <;> simp [thrown_, ProviderBoundary.rpcError, ProviderBoundary.transportError, code]

theorem seen_unclear {error : ProxmoxError} (unclear : Unclear error) : Passes (seen (.error error)) := by
  obtain ⟨failure, raised, code⟩ := unclear
  have thrown_ : thrown error = .transport failure := by simp [thrown, raised]
  refine .unclear ?_
  rw [thrown_]
  cases other : failure.code <;> simp_all [ProviderBoundary.rpcError, ProviderBoundary.transportError]

theorem seen_unclassified {error : ProxmoxError} (raised : error.error = none) : Fails (seen (.error error)) := by
  have thrown_ : thrown error = .unclassified "The adapter raised no transport failure." := by simp [thrown, raised]
  refine .refused ?_ ?_ <;> rw [thrown_] <;> rfl

theorem seen_succeeded (vmid : Int) : Passes (seen (.ok (some (succeeded vmid)))) :=
  .succeeded rfl rfl (toString_ne_empty vmid)

theorem seen_accepted (vmid : Int) (upid : String) :
    Passes (seen (.ok (some (accepted library configuration vmid upid)))) := by
  refine .accepted rfl rfl (toString_ne_empty vmid) rfl fun blank => ?_
  have colon : ':' ∈ (configuration.node ++ ":" ++ library.encodeBase64url upid).toList := by simp
  rw [blank] at colon
  cases colon

theorem seen_taskOrDone (vmid : Int) (upid : Option String) :
    Passes (seen (.ok (some (taskOrDone library configuration vmid upid)))) := by
  unfold taskOrDone
  split
  next => exact seen_accepted _ _
  next => exact seen_succeeded _

/-! ### Reading -/

/-- Only reads so far, and nothing that harms. -/
def Calm (call : ProviderCall) (past : Conversation) : Prop :=
  ∀ exchange ∈ past, reads exchange.1 ∧ harmful call exchange = false

theorem calm_nil : Calm call [] := fun _ impossible => absurd impossible List.not_mem_nil

theorem Calm.append {exchange : ProxmoxExchange} (calm : Calm call past) (read : reads exchange.1)
    (harmless : harmful call exchange = false) : Calm call (past ++ [exchange]) := by
  intro other member
  rcases List.mem_append.mp member with old | new
  · exact calm other old
  · rw [List.mem_singleton.mp new]
    exact ⟨read, harmless⟩

theorem Calm.not_excused (calm : Calm call past) : ¬ Excused library call past := by
  rintro (⟨exchange, member, harm⟩ | ⟨-, exchange, member, answered⟩)
  · rw [(calm exchange member).2] at harm
    cases harm
  · rw [AdapterRefusals.written_of_read (calm exchange member).1] at answered
    cases answered

theorem excused_last {exchange : ProxmoxExchange} (harm : harmful call exchange = true) :
    Excused library call (past ++ [exchange]) :=
  .inl ⟨exchange, List.mem_append_right _ List.mem_cons_self, harm⟩

/-- A read harms only when it turns a call away. -/
theorem harmful_read {exchange : ProxmoxExchange} (read : reads exchange.1) :
    harmful call exchange = turnsAway call exchange := by
  have got : exchange.1.method = .get := read
  simp [harmful, AdapterRefusals.refused_of_read read, AdapterRefusals.written_of_read read, unreadable, malformed, got]

theorem turnsAway_inconclusive {exchange : ProxmoxExchange} (vague : inconclusive exchange.2 = true) :
    turnsAway call exchange = false := by
  unfold turnsAway
  split
  next vmid status =>
    have other : status ≠ 404 := by
      rintro rfl
      cases vague
    simp [other]
  next => cases vague
  next => rfl

theorem reading (call : ProviderCall) (node : Node) :
    Reading (Allowed library configuration call node) (Ends library configuration call node) (Calm call) where
  reads _ _ read := .inl read
  lost _ _ calm unclear _ := .inr ⟨seen_unclear unclear, calm.not_excused⟩
  unanswered _ _ calm read vague := calm.append read (by rw [harmful_read read, turnsAway_inconclusive vague])
  listed _ _ calm := calm.append rfl (harmful_read rfl)
  configured _ _ _ calm := calm.append rfl (harmful_read rfl)

/-! ### Changing -/

section
variable {node : Node}

/-- A program whose ending on the node is judged. -/
abbrev Resumes (library : Library) (configuration : ProxmoxProviderConfiguration) (call : ProviderCall) (node : Node)
    (p : Api (Option ProviderMutationResult)) (past : Conversation) : Prop :=
  On node (Allowed library configuration call node) (Ends library configuration call node) p past

/-- An answer after which there is still no excuse. -/
theorem not_excused_append {exchange : ProxmoxExchange} (blameless : ¬ Excused library call past)
    (write : ¬ reads exchange.1) (harmless : harmful call exchange = false)
    (able : written exchange = none ∨ ¬ GrowsNothing library call past) : ¬ Excused library call (past ++ [exchange]) := by
  rintro (⟨other, member, harm⟩ | ⟨grows, other, member, answered⟩)
  · rcases List.mem_append.mp member with old | new
    · exact blameless (.inl ⟨other, old, harm⟩)
    · rw [List.mem_singleton.mp new, harmless] at harm
      cases harm
  · have before := grows.before write
    rcases List.mem_append.mp member with old | new
    · exact blameless (.inr ⟨before, other, old, answered⟩)
    · rw [List.mem_singleton.mp new] at answered
      rcases able with silent | able
      · rw [silent] at answered
        cases answered
      · exact able before

theorem turnsAway_write {exchange : ProxmoxExchange} (write : ¬ reads exchange.1) : turnsAway call exchange = false := by
  unfold turnsAway
  split
  next => exact absurd rfl write
  next => exact absurd rfl write
  next => rfl

theorem unwritten {request : ProxmoxRequest} {outcome : request.Outcome} (unknown : ∀ data, outcome ≠ .data data) :
    written ⟨request, outcome⟩ = none := by
  cases outcome with
  | data data => exact absurd rfl (unknown data)
  | _ => cases request <;> rfl

/-- A change is sent. What is no data ends the call. -/
theorem change_then {request : ProxmoxRequest} {f : request.Response → Api (Option ProviderMutationResult)}
    (blameless : ¬ Excused library call past) (write : request.method ≠ .get)
    (sends : Truthful node past → Ready library configuration call node ∧ Preserves library configuration call request)
    (answered : ∀ data, Resumes library configuration call node (f data) (past ++ [⟨request, .data data⟩])) :
    Resumes library configuration call node (ProxmoxProvider.request request >>= f) past := by
  have failing {outcome : request.Outcome} {error : ProxmoxError} (fails : Fails (seen (.error error)))
      (harm : harmful call ⟨request, outcome⟩ = true) :
      Resumes library configuration call node (.raise error) (past ++ [⟨request, outcome⟩]) :=
    fun _ _ => .inl ⟨fails, excused_last harm⟩
  have passing {outcome : request.Outcome} {error : ProxmoxError} (unclear : Unclear error)
      (harmless : harmful call ⟨request, outcome⟩ = false) (silent : written ⟨request, outcome⟩ = none) :
      Resumes library configuration call node (.raise error) (past ++ [⟨request, outcome⟩]) :=
    fun _ _ => .inr ⟨seen_unclear unclear, not_excused_append blameless write harmless (.inl silent)⟩
  have quiet {outcome : request.Outcome} := @turnsAway_write call ⟨request, outcome⟩ write
  refine ⟨fun truthful => .inr (sends truthful), fun outcome => ?_⟩
  cases outcome with
  | data data => exact answered data
  | failed code =>
    by_cases final : code = .protocolError
    · exact failing (seen_checked rfl final) (by simp [harmful, refused, write, final])
    · have silent : written ⟨request, .failed code⟩ = none := unwritten fun _ same => by cases same
      exact passing (unclear_failed final) (by simp [harmful, refused, unreadable, malformed, quiet, silent, final]) silent
  | status status =>
    have silent : written ⟨request, .status status⟩ = none := unwritten fun _ same => by cases same
    cases retryable : (status = 408 || status = 429 || status ≥ 500 : Bool) with
    | true =>
      exact passing (unclear_status retryable) (by simp [harmful, refused, unreadable, malformed, quiet, silent, retryable])
        silent
    | false =>
      have final : ¬ (status = 408 ∨ status = 429 ∨ status ≥ 500) := by simpa [and_assoc] using retryable
      exact failing (seen_checked rfl (if_neg final)) (by simp [harmful, refused, write, retryable])
  | invalidJson => exact failing (seen_refusal _) (by simp [harmful, unreadable, write])
  | noData => exact failing (seen_refusal _) (by simp [harmful, unreadable, write])
  | malformed => exact failing (seen_unclassified rfl) (by simp [harmful, malformed, write])

/-- A change that was answered, and names its task where that is needed. -/
theorem harmful_data {request : ProxmoxRequest} {data : request.Response} (write : request.method ≠ .get)
    (tasked : needsTask call request = true → (written ⟨request, .data data⟩).any (fun upid => (present upid).isNone) = false) :
    harmful call ⟨request, .data data⟩ = false := by
  have quiet := @turnsAway_write call ⟨request, .data data⟩ write
  cases needs : needsTask call request with
  | false => simp [harmful, refused, unreadable, malformed, quiet, needs]
  | true => simp only [harmful, refused, unreadable, malformed, quiet, needs, tasked needs]; simp

/-- A call that is done with its last change. -/
theorem done_resumes {request : ProxmoxRequest} {data : request.Response} {result : ProviderMutationResult}
    (blameless : ¬ Excused library call past) (write : request.method ≠ .get) (taskless : needsTask call request = false)
    (able : ¬ GrowsNothing library call past) (passes : Passes (seen (.ok (some result)))) :
    Resumes library configuration call node (.done (some result)) (past ++ [⟨request, .data data⟩]) := by
  refine fun _ _ => .inr ⟨passes, not_excused_append blameless write (harmful_data write fun needs => ?_) (.inr able)⟩
  rw [taskless] at needs
  cases needs

/-- A call that needs the task of its last change. -/
theorem acceptedTask_resumes {request : ProxmoxRequest} {data : request.Response} {vmid : Int} {upid : Option String}
    (blameless : ¬ Excused library call past) (write : request.method ≠ .get) (needs : needsTask call request = true)
    (answered : written ⟨request, .data data⟩ = some upid) (able : ¬ GrowsNothing library call past) :
    Resumes library configuration call node (acceptedTask library configuration vmid upid)
      (past ++ [⟨request, .data data⟩]) := by
  unfold acceptedTask required
  cases named : present upid with
  | none =>
    refine fun _ _ => .inl ⟨seen_checked rfl rfl, excused_last ?_⟩
    simp [harmful, needs, answered, named]
  | some task =>
    refine fun _ _ => .inr ⟨seen_accepted _ _, not_excused_append blameless write (harmful_data write fun _ => ?_) (.inr able)⟩
    simp [answered, named]

/-! ### Calls on an existing VM -/

section
variable {request : Option InstanceMutationRequest} {fit : Int → ProxmoxVmConfig → Prop} {markers : OwnershipMarkers}
  {vmid : Int}

/-- A check that a ready node lets pass. -/
theorem checked_then {β : Type} {checked : Except ProviderTransportError β} {f : β → Api (Option ProviderMutationResult)}
    (ready : Ready library configuration call node → checked.isOk = true)
    (passed : ∀ value, checked = .ok value → Resumes library configuration call node (f value) past) :
    Resumes library configuration call node (check checked >>= f) past := by
  refine check_on (fun error refused able => ?_) passed
  have passes := ready able
  rw [refused] at passes
  cases passes

theorem Addressed.passes (addressed : Addressed library configuration request node fit) :
    (boundaries library configuration request).isOk = true := by
  obtain ⟨_, _, checked, -⟩ := addressed
  rw [checked]
  rfl

/-- The ownership of the VM that a call is ready for is proven. -/
theorem owned_then {f : ProxmoxVmConfig → Api (Option ProviderMutationResult)}
    (checked : boundaries library configuration request = .ok (markers, vmid))
    (ready : Ready library configuration call node → Addressed library configuration request node fit)
    (answered : ∀ vm, node vmid = some vm → parseOwnership library vm.config.description = some markers →
      Calm call [⟨.vmConfig vmid, .data (some vm.config)⟩] →
      Resumes library configuration call node (f vm.config) [⟨.vmConfig vmid, .data (some vm.config)⟩]) :
    Resumes library configuration call node (requireOwnedConfig library vmid markers >>= f) [] := by
  have held (able : Ready library configuration call node) : Owned library node vmid markers (fit vmid) := by
    obtain ⟨_, _, again, owned⟩ := ready able
    rw [checked] at again
    cases again
    exact owned
  refine (reading call node).requireOwnedConfig calm_nil answered (fun vm there foreign able => ?_) fun gone able => ?_
  · obtain ⟨_, same, owned, -⟩ := held able
    rw [there] at same
    cases same
    exact absurd owned foreign
  · obtain ⟨_, same, -⟩ := held able
    rw [gone] at same
    cases same

theorem Addressed.weaken {fit' : Int → ProxmoxVmConfig → Prop}
    (addressed : Addressed library configuration request node fit) (fits : ∀ vmid config, fit vmid config → fit' vmid config) :
    Addressed library configuration request node fit' := by
  obtain ⟨markers, vmid, checked, vm, there, owned, fitting⟩ := addressed
  exact ⟨markers, vmid, checked, vm, there, owned, fits _ _ fitting⟩

theorem Addressed.kept {fit' : Int → ProxmoxVmConfig → Prop} {changed : ProxmoxVmConfig → ProxmoxVmConfig → Prop}
    {before after : Node} (addressed : Addressed library configuration request before fit)
    (checked : boundaries library configuration request = .ok (markers, vmid)) (changes : Changes vmid changed before after)
    (described : ∀ old new, changed old new → parseOwnership library old.description = some markers →
      parseOwnership library new.description = some markers)
    (fits : ∀ old new, changed old new → fit vmid old → fit' vmid new) :
    Addressed library configuration request after fit' := by
  obtain ⟨_, _, again, vm, there, owned, fitting⟩ := addressed
  rw [checked] at again
  cases again
  obtain ⟨old, new, was, becomes, change⟩ := changes.vm
  rw [there] at was
  cases was
  exact ⟨markers, vmid, checked, new, becomes, described _ _ change owned, fits _ _ change fitting⟩

/-- A change of the VM alone, that leaves its description and what the call needs. -/
theorem Addressed.still {changed : ProxmoxVmConfig → ProxmoxVmConfig → Prop} {before after : Node}
    (addressed : Addressed library configuration request before fit)
    (checked : boundaries library configuration request = .ok (markers, vmid)) (changes : Changes vmid changed before after)
    (described : ∀ old new, changed old new → new.description = old.description)
    (fits : ∀ old new, changed old new → fit vmid old → fit vmid new) :
    Addressed library configuration request after fit :=
  addressed.kept checked changes (fun old new change owned => described old new change ▸ owned) fits

end

theorem able_unless_resize {said : Conversation} (other : ∀ resize, call ≠ .resizeInstance resize) :
    ¬ GrowsNothing library call said := AdapterRefusals.grows_only_resize other

/-- The status of a VM that is no reason to turn the call away. -/
theorem Calm.status {vmid : Int} {status : ProxmoxCurrentStatus} (calm : Calm call past)
    (free : (waitsForLock call && (present status.lock).isSome) = false) :
    Calm call (past ++ [⟨.currentStatus vmid, .data status⟩]) := by
  refine calm.append rfl ?_
  rw [@harmful_read call ⟨.currentStatus vmid, .data status⟩ rfl]
  exact free

theorem Calm.missing {vmid : Int} (calm : Calm call past) (keeps : call.purges = false) :
    Calm call (past ++ [⟨.vmConfig vmid, .status 404⟩]) := by
  refine calm.append rfl ?_
  rw [@harmful_read call ⟨.vmConfig vmid, .status 404⟩ rfl]
  simp [turnsAway, keeps]

theorem startInstance_resumes {mutation : Option InstanceMutationRequest} :
    Resumes library configuration (.startInstance mutation) node (startInstance library configuration mutation) [] := by
  refine checked_then Addressed.passes fun ⟨markers, vmid⟩ checked => ?_
  refine owned_then checked id fun vm there owned calm => ?_
  refine (reading _ _).status calm fun vm' _ => ?_
  have calm := @Calm.status _ _ vmid vm'.status calm rfl
  split
  next => exact fun _ _ => .inr ⟨seen_succeeded _, calm.not_excused⟩
  next =>
    refine change_then calm.not_excused (fun write => by cases write) (fun _ => ⟨⟨markers, vmid, checked, vm, there, owned, trivial⟩, ?_⟩)
      fun upid => acceptedTask_resumes calm.not_excused (fun write => by cases write) rfl rfl (able_unless_resize fun _ same => by cases same)
    exact fun before after ready changes => ready.still checked changes (fun _ _ => by rintro rfl; rfl) fun _ _ _ => id

/-- A call that is turned away by a lock. -/
theorem locked_resumes {vmid : Int} {status : ProxmoxCurrentStatus} (waits : waitsForLock call = true)
    (locked : (present status.lock).isSome = true) :
    Resumes library configuration call node (.done (some resourceLocked)) (past ++ [⟨.currentStatus vmid, .data status⟩]) :=
  by
  refine fun _ _ => .inl ⟨.rejected rfl, excused_last ?_⟩
  rw [@harmful_read call ⟨.currentStatus vmid, .data status⟩ rfl]
  simp [turnsAway, waits, locked]

theorem powerTransition_resumes {mutation : Option InstanceMutationRequest} {action : String}
    {alreadyInState : Option String} {extraFields : List (String × String)}
    (ready : ∀ node, Ready library configuration call node ↔
      Addressed library configuration mutation node fun _ _ => True)
    (waits : waitsForLock call = true) (needs : ∀ vmid, needsTask call (.power vmid action extraFields) = true)
    (other : ∀ resize, call ≠ .resizeInstance resize) :
    Resumes library configuration call node
      (powerTransition library configuration mutation action alreadyInState extraFields) [] := by
  refine checked_then (fun able => ((ready node).mp able).passes) fun ⟨markers, vmid⟩ checked => ?_
  refine owned_then checked (ready node).mp fun vm there owned calm => ?_
  refine (reading _ _).status calm fun vm' _ => ?_
  split
  next locked => exact locked_resumes waits locked
  next free =>
    have calm := @Calm.status _ _ vmid vm'.status calm (by simp [free])
    split
    next => exact fun _ _ => .inr ⟨seen_succeeded _, calm.not_excused⟩
    next =>
      refine change_then calm.not_excused (fun write => by cases write) (fun _ =>
        ⟨(ready node).mpr ⟨markers, vmid, checked, vm, there, owned, trivial⟩, fun before after able changes => ?_⟩)
        fun upid => acceptedTask_resumes calm.not_excused (fun write => by cases write) (needs vmid) rfl (able_unless_resize other)
      refine (ready after).mpr (((ready before).mp able).still checked changes (fun _ _ => ?_) fun _ _ _ => id)
      rintro rfl
      rfl

/-- A snapshot call up to its change. -/
theorem prepareSnapshotMutation_then {request : Option InstanceMutationRequest} {fit : Int → ProxmoxVmConfig → Prop}
    {f : Int → Api (Option ProviderMutationResult)} (patient : waitsForLock call = false)
    (ready : Ready library configuration call node → Addressed library configuration request node fit)
    (prepared : ∀ markers vmid vm later, boundaries library configuration request = .ok (markers, vmid) →
      node vmid = some vm → parseOwnership library vm.config.description = some markers → Calm call later →
      Resumes library configuration call node (f vmid) later) :
    Resumes library configuration call node (prepareSnapshotMutation library configuration request >>= f) [] := by
  unfold prepareSnapshotMutation
  rw [Resumes, On, bind_assoc]
  refine checked_then (fun able => (ready able).passes) fun found checked => ?_
  obtain ⟨markers, vmid⟩ := found
  dsimp only
  rw [bind_assoc]
  refine owned_then checked ready fun vm there owned calm => ?_
  rw [bind_assoc]
  refine (reading _ _).status calm fun vm' _ => ?_
  have calm := @Calm.status _ _ vmid vm'.status calm (by simp [patient])
  split
  next => exact fun _ _ => .inr ⟨seen_unclear ⟨_, rfl, by decide⟩, calm.not_excused⟩
  next => exact prepared markers vmid vm _ checked there owned calm

/-- The one change of a snapshot call. -/
theorem snapshot_resumes {request : Option InstanceMutationRequest} {change : ProxmoxRequest} {markers : OwnershipMarkers}
    {vmid : Int} {f : change.Response → Api (Option ProviderMutationResult)} {passes : Prop} (calm : Calm call past)
    (ready : ∀ node, Ready library configuration call node ↔
      passes ∧ Addressed library configuration request node fun _ _ => True)
    (checked : boundaries library configuration request = .ok (markers, vmid))
    (able : passes ∧ Addressed library configuration request node fun _ _ => True) (write : change.method ≠ .get)
    (effect : ∀ before after, Effect change before after →
      Changes vmid (fun old new => new.description = old.description) before after)
    (answered : ∀ data, Resumes library configuration call node (f data) (past ++ [⟨change, .data data⟩])) :
    Resumes library configuration call node (ProxmoxProvider.request change >>= f) past := by
  refine change_then calm.not_excused write (fun _ => ⟨(ready node).mpr able, fun before after able changes => ?_⟩) answered
  obtain ⟨passed, addressed⟩ := (ready before).mp able
  exact (ready after).mpr ⟨passed, addressed.still checked (effect _ _ changes) (fun _ _ => id) fun _ _ _ => id⟩

theorem createSnapshot_resumes {call : CreateSnapshotRequest} :
    Resumes library configuration (.createSnapshot call) node (createSnapshot library configuration call) [] := by
  refine prepareSnapshotMutation_then rfl And.right fun markers vmid vm later checked there owned calm => ?_
  refine checked_then And.left fun name named => ?_
  have able : Addressed library configuration call.request node fun _ _ => True :=
    ⟨markers, vmid, checked, vm, there, owned, trivial⟩
  refine snapshot_resumes calm (fun _ => .rfl) checked ⟨by rw [named]; rfl, able⟩ (fun write => by cases write)
    (fun _ _ => id) fun upid => ?_
  exact acceptedTask_resumes calm.not_excused (fun write => by cases write) rfl rfl
    (able_unless_resize fun _ same => by cases same)

theorem rollbackSnapshot_resumes {call : Option SnapshotMutationRequest} :
    Resumes library configuration (.rollbackSnapshot call) node (rollbackSnapshot library configuration call) [] := by
  refine prepareSnapshotMutation_then rfl And.right fun markers vmid vm later checked there owned calm => ?_
  refine checked_then And.left fun name named => ?_
  have able : Addressed library configuration (call.bind SnapshotMutationRequest.request) node fun _ _ => True :=
    ⟨markers, vmid, checked, vm, there, owned, trivial⟩
  refine snapshot_resumes calm (fun _ => .rfl) checked ⟨by rw [named]; rfl, able⟩ (fun write => by cases write)
    (fun _ _ => id) fun upid => ?_
  exact acceptedTask_resumes calm.not_excused (fun write => by cases write) rfl rfl
    (able_unless_resize fun _ same => by cases same)

theorem deleteSnapshot_resumes {call : Option SnapshotMutationRequest} :
    Resumes library configuration (.deleteSnapshot call) node (deleteSnapshot library configuration call) [] := by
  refine prepareSnapshotMutation_then rfl And.right fun markers vmid vm later checked there owned calm => ?_
  refine checked_then And.left fun name named => ?_
  have able : Addressed library configuration (call.bind SnapshotMutationRequest.request) node fun _ _ => True :=
    ⟨markers, vmid, checked, vm, there, owned, trivial⟩
  refine snapshot_resumes calm (fun _ => .rfl) checked ⟨by rw [named]; rfl, able⟩ (fun write => by cases write)
    (fun _ _ => id) fun upid => ?_
  exact acceptedTask_resumes calm.not_excused (fun write => by cases write) rfl rfl
    (able_unless_resize fun _ same => by cases same)

/-! ### Calls that describe the VM again -/

/-- The markers that a call presents are the ones that it looks for. -/
theorem boundaries_markers {request : Option InstanceMutationRequest} {markers : OwnershipMarkers} {vmid : Int}
    (checked : boundaries library configuration request = .ok (markers, vmid)) :
    request.bind InstanceMutationRequest.expectedOwnershipMarkers = some markers := by
  unfold boundaries at checked
  cases first : assertContext configuration (request.bind InstanceMutationRequest.context) with
  | error _ => simp [first, bind, Except.bind] at checked
  | ok context =>
    cases presented : request.bind InstanceMutationRequest.expectedOwnershipMarkers with
    | none => simp [first, presented, assertOwnership, bind, Except.bind] at checked
    | some offered =>
      cases second : assertOwnership configuration (some offered) context with
      | error _ => simp [first, presented, second, bind, Except.bind] at checked
      | ok owner =>
        have same : owner = offered := by
          unfold assertOwnership at second
          dsimp only at second
          split at second
          · cases second
          · exact (Except.ok.inj second).symm
        cases third : assertVmid library configuration (request.bind InstanceMutationRequest.providerResourceId) with
        | error _ => simp [first, presented, second, third, bind, Except.bind] at checked
        | ok number =>
          simp [first, presented, second, third, bind, Except.bind, pure, Except.pure] at checked
          rw [← checked.1, same]

theorem markInstanceRetained_resumes {call : MarkInstanceRetainedRequest}
    (legible : ∀ markers, (ProviderCall.markInstanceRetained call).markers = some markers → Legible library markers) :
    Resumes library configuration (.markInstanceRetained call) node (markInstanceRetained library configuration call) [] := by
  refine checked_then Addressed.passes fun ⟨markers, vmid⟩ checked => ?_
  refine owned_then checked id fun vm there owned calm => ?_
  refine (reading _ _).status calm fun vm' _ => ?_
  split
  next locked => exact locked_resumes rfl locked
  next free =>
    have calm := @Calm.status _ _ vmid vm'.status calm (by simp [free])
    have restored := legible markers (boundaries_markers checked)
    refine change_then calm.not_excused (fun write => by cases write)
      (fun _ => ⟨⟨markers, vmid, checked, vm, there, owned, trivial⟩, fun before after able changes => ?_⟩) fun upid => ?_
    · refine Addressed.kept able checked changes (fun old new written _ => ?_) fun _ _ _ => id
      rw [written.description]
      exact parseOwnership_trailer restored
    · exact done_resumes calm.not_excused (fun write => by cases write) rfl
        (able_unless_resize fun _ same => by cases same) (seen_taskOrDone _ _)

/-! ### Purge -/

theorem purgeInstance_resumes {call : PurgeInstanceRequest} :
    Resumes library configuration (.purgeInstance call) node (purgeInstance library configuration call) [] := by
  have able {said : Conversation} : ¬ GrowsNothing library (.purgeInstance call) said :=
    able_unless_resize fun _ same => by cases same
  have passes : Ready library configuration (.purgeInstance call) node →
      (boundaries library configuration call.request).isOk = true := by
    rintro ⟨_, _, checked, -⟩
    rw [checked]
    rfl
  refine checked_then passes fun ⟨markers, vmid⟩ checked => ?_
  have held {node : Node} (ready : Ready library configuration (.purgeInstance call) node) :
      node vmid = none ∨ Owned library node vmid markers fun _ => True := by
    obtain ⟨_, _, again, held⟩ := ready
    rw [checked] at again
    cases again
    exact held
  refine (reading _ _).requireOwnedConfig calm_nil (fun vm there owned calm => ?_) (fun vm there foreign ready => ?_)
    fun gone _ => .inl ⟨seen_refusal _, excused_last rfl⟩
  · refine (reading _ _).status calm fun vm' _ => ?_
    dsimp only
    split
    next locked => exact locked_resumes rfl locked
    next free =>
      have calm := @Calm.status _ _ vmid vm'.status calm (by simp [free])
      have ready : Ready library configuration (.purgeInstance call) node :=
        ⟨markers, vmid, checked, .inr ⟨vm, there, owned, trivial⟩⟩
      have destroys : Preserves library configuration (.purgeInstance call) (.destroy vmid) :=
        fun _ _ _ changes => ⟨markers, vmid, checked, .inl changes.1⟩
      split
      next running =>
        refine change_then calm.not_excused (fun write => by cases write) (fun _ => ⟨ready, fun before after able changes => ?_⟩)
          fun stopped => ?_
        · obtain ⟨old, new, was, becomes, same⟩ := changes.vm
          rcases held able with gone | ⟨_, was', owned, -⟩
          · rw [was] at gone
            cases gone
          · rw [was] at was'
            cases was'
            exact ⟨markers, vmid, checked, .inr ⟨new, becomes, same ▸ owned, trivial⟩⟩
        · have harmless := @harmful_data (.purgeInstance call) (.power vmid "stop" [("overrule-shutdown", "1")]) stopped
            (fun write => by cases write) fun needs => by cases needs
          have blameless := not_excused_append calm.not_excused (fun read => by cases read) harmless (.inr able)
          refine change_then blameless (fun write => by cases write) (fun _ => ⟨ready, destroys⟩) fun upid => ?_
          exact done_resumes blameless (fun write => by cases write) rfl able (seen_taskOrDone _ _)
      next =>
        refine change_then calm.not_excused (fun write => by cases write) (fun _ => ⟨ready, destroys⟩) fun upid => ?_
        exact done_resumes calm.not_excused (fun write => by cases write) rfl able (seen_taskOrDone _ _)
  · rcases held ready with gone | ⟨_, same, owned, -⟩
    · rw [there] at gone
      cases gone
    · rw [there] at same
      cases same
      exact absurd owned foreign

/-! ### Resize -/

/-- The disk that a growth ends with is no smaller than what was asked for. -/
theorem resized_fits {disk : Int} {form : List (String × String)} {old new : ProxmoxVmConfig}
    (size : form.lookup "size" = some (toString disk ++ "G")) (fits : ¬ disk < (diskGiB old).getD 0)
    (resized : Resized form old new) : ¬ disk < (diskGiB new).getD 0 := by
  have known {text : String} (grown : Grown (form.lookup "size") (some text)) : specifiedSize (some text) = some disk :=
    grown disk size
  have whole (config : ProxmoxVmConfig) : diskGiB config = specifiedSize ((config.scsi0.or config.virtio0).or config.sata0) := rfl
  rw [whole] at fits ⊢
  cases resized with
  | scsi0 named grown => simp [known grown]
  | virtio0 named grown =>
    cases first : old.scsi0 with
    | some other => simpa [first] using fits
    | none => simp [known grown]
  | sata0 named grown =>
    cases first : old.scsi0.or old.virtio0 with
    | some other => simpa [first] using fits
    | none => simp [known grown]

theorem rewritten_disk {form : List (String × String)} {old new : ProxmoxVmConfig} (written : Rewritten form old new) :
    diskGiB new = diskGiB old := by
  simp [diskGiB, written.scsi0, written.virtio0, written.sata0]

theorem resizeInstance_resumes {call : ResizeInstanceRequest} :
    Resumes library configuration (.resizeInstance call) node (resizeInstance library configuration call) [] := by
  have reaches {node : Node} (ready : Ready library configuration (.resizeInstance call) node) :
      Addressed library configuration call.request node fun _ _ => True := by
    obtain ⟨_, _, _, _, _, addressed⟩ := ready
    exact addressed.weaken fun _ _ _ => trivial
  refine checked_then (fun ready => (reaches ready).passes) fun ⟨markers, vmid⟩ checked => ?_
  refine owned_then checked reaches fun vm there owned calm => ?_
  dsimp only
  split
  next memory disk sized target =>
    have knows {node : Node} (ready : Ready library configuration (.resizeInstance call) node) :
        sizingAllowed ((call.targetResources.bind InstanceResources.cpuCount).getD 0 : Nat) memory disk = true ∧
          Addressed library configuration call.request node fun _ config => ¬ disk < (diskGiB config).getD 0 := by
      obtain ⟨_, _, same, also, allowed, addressed⟩ := ready
      rw [sized] at same
      rw [target] at also
      cases same
      cases also
      exact ⟨allowed, addressed⟩
    split
    next outside =>
      refine fun _ ready => ?_
      rw [(knows ready).1] at outside
      cases outside
    next inside =>
      have allowed : sizingAllowed ((call.targetResources.bind InstanceResources.cpuCount).getD 0 : Nat) memory disk = true := by
        simpa using inside
      split
      next shrinks =>
        refine fun _ ready => ?_
        obtain ⟨_, _, again, _, same, _, fits⟩ := (knows ready).2
        rw [checked] at again
        cases again
        rw [there] at same
        cases same
        exact absurd shrinks fits
      next fits =>
        have ready : Ready library configuration (.resizeInstance call) node :=
          ⟨memory, disk, sized, target, allowed, markers, vmid, checked, vm, there, owned, fits⟩
        refine (reading _ _).status calm fun vm' _ => ?_
        split
        next locked => exact locked_resumes rfl locked
        next free =>
          have calm := @Calm.status _ _ vmid vm'.status calm (by simp [free])
          refine change_then calm.not_excused (fun write => by cases write) (fun _ => ⟨ready, fun before after able changes => ?_⟩)
            fun configTask => ?_
          · obtain ⟨_, addressed⟩ := knows able
            refine ⟨memory, disk, sized, target, allowed, addressed.still checked changes (fun old new written => ?_)
              fun old new written fits => ?_⟩
            · rw [written.description]
              simp [List.lookup_cons]
            · rwa [rewritten_disk written]
          · have others : ∀ exchange ∈ ([⟨.currentStatus vmid, .data vm'.status⟩] : Conversation), ∀ other,
                exchange.1 ≠ .vmConfig other := by simp
            split
            next grows =>
              cases found : primaryDiskKey vm.config with
              | error error =>
                rw [AdapterRefusals.primaryDiskKey_error found]
                refine fun _ _ => .inl ⟨seen_checked rfl rfl, .inr ⟨⟨call, rfl, vmid, vm.config, disk, List.mem_cons_self,
                  target, grows, fun key => ?_⟩, _, List.mem_append_right _ List.mem_cons_self, rfl⟩⟩
                rw [found]
                rintro ⟨⟩
              | ok key =>
                have able := @AdapterRefusals.not_growsNothing library call vmid vm.config disk _ others target
                  fun _ => ⟨key, found⟩
                have blameless := not_excused_append calm.not_excused (fun read => by cases read)
                  (@harmful_data (.resizeInstance call) (.writeConfig vmid _) configTask (fun write => by cases write)
                    fun needs => by cases needs) (.inr able)
                refine change_then blameless (fun write => by cases write) (fun _ => ⟨ready, fun before after able changes => ?_⟩)
                  fun growTask => ?_
                · obtain ⟨_, addressed⟩ := knows able
                  refine ⟨memory, disk, sized, target, allowed, addressed.still checked changes (fun old new resized => ?_)
                    fun old new resized fits => resized_fits (by simp [List.lookup_cons]) fits resized⟩
                  cases resized <;> rfl
                · split
                  next =>
                    exact done_resumes blameless (fun write => by cases write) rfl
                      (fun grown => able (grown.before fun read => by cases read)) (seen_accepted _ _)
                  next =>
                    exact done_resumes blameless (fun write => by cases write) rfl
                      (fun grown => able (grown.before fun read => by cases read)) (seen_taskOrDone _ _)
            next keeps =>
              refine done_resumes calm.not_excused (fun write => by cases write) rfl ?_ (seen_taskOrDone _ _)
              exact AdapterRefusals.not_growsNothing others target fun grows => absurd grows keeps
  next unsized =>
    refine fun _ ready => ?_
    obtain ⟨memory, disk, sized, target, -⟩ := ready
    exact absurd target (unsized memory disk sized)

/-! ### Configuration -/

theorem intercalate_ne_empty {separator last : String} (filled : last ≠ "") :
    ∀ parts : List String, separator.intercalate (parts ++ [last]) ≠ ""
  | [] => by simpa [String.intercalate_singleton] using filled
  | [first] => by simp [String.intercalate_cons_cons, String.intercalate_singleton, filled]
  | first :: second :: rest => by
    have later := @intercalate_ne_empty separator last filled (second :: rest)
    rw [List.cons_append] at later
    rw [List.cons_append, List.cons_append, String.intercalate_cons_cons]
    simp [later]

/-- The network card that a configuration writes is a network card. -/
theorem bridged_present (net0 : String) : (present (some (bridged configuration net0))).isSome = true := by
  have filled : bridged configuration net0 ≠ "" := intercalate_ne_empty (by simp) _
  simp [present, filled]

theorem required_isOk {value : Option String} {name : String} (checked : (required value name).isOk = true) :
    ∃ text, value = some text ∧ text ≠ "" := by
  unfold required at checked
  split at checked
  next text filled =>
    obtain ⟨known, nonempty⟩ := Option.filter_eq_some_iff.mp filled
    exact ⟨text, known, by simpa using nonempty⟩
  next => cases checked

theorem applyInstanceConfiguration_resumes {call : ApplyInstanceConfigurationRequest}
    (legible : ∀ markers, call.ownershipMarkers = some markers → Legible library markers) :
    Resumes library configuration (.applyInstanceConfiguration call) node
      (applyInstanceConfiguration library configuration call) [] := by
  have reaches {node : Node} (ready : Ready library configuration (.applyInstanceConfiguration call) node) :
      Addressed library configuration (some ⟨call.context, call.providerResourceId, call.ownershipMarkers⟩) node
        fun _ _ => True := by
    obtain ⟨_, _, _, _, _, _, _, _, addressed⟩ := ready
    exact addressed.weaken fun _ _ _ => trivial
  refine checked_then (fun ready => (reaches ready).passes) fun ⟨markers, vmid⟩ checked => ?_
  refine owned_then checked reaches fun vm there owned calm => ?_
  have restored := legible markers (boundaries_markers checked)
  split
  next network resources hasNetwork hasResources =>
    have knows {node : Node} (ready : Ready library configuration (.applyInstanceConfiguration call) node) :
        assertNetwork library configuration network = .ok () ∧ (required call.hostname "hostname").isOk = true ∧
        (required network.ipv4Address "network.ipv4Address").isOk = true ∧
        (required network.ipv4Gateway "network.ipv4Gateway").isOk = true ∧
        Addressed library configuration (some ⟨call.context, call.providerResourceId, call.ownershipMarkers⟩) node
          fun vmid config => assertResources library resources config = .ok () ∧ (present config.net0).isSome = true ∧
            Unused node (network.ipv4Address.getD "") vmid := by
      obtain ⟨_, _, same, also, rest⟩ := ready
      rw [hasNetwork] at same
      rw [hasResources] at also
      cases same
      cases also
      exact rest
    have fitting (ready : Ready library configuration (.applyInstanceConfiguration call) node) :
        assertResources library resources vm.config = .ok () ∧ (present vm.config.net0).isSome = true ∧
          Unused node (network.ipv4Address.getD "") vmid := by
      obtain ⟨_, _, _, _, _, _, again, _, same, _, fits⟩ := knows ready
      rw [checked] at again
      cases again
      rw [there] at same
      cases same
      exact fits
    refine checked_then (fun ready => by rw [(fitting ready).1]; rfl) fun _ sized => ?_
    refine checked_then (fun ready => by rw [(knows ready).1]; rfl) fun _ allowlisted => ?_
    have addressed (ready : Ready library configuration (.applyInstanceConfiguration call) node) :
        (required (some (network.ipv4Address.getD "")) "network.ipv4Address").isOk = true := by
      obtain ⟨text, known, filled⟩ := required_isOk (knows ready).2.2.1
      rw [known, Option.getD_some, required_some filled]
      rfl
    unfold assertIpv4Available
    rw [Resumes, On, bind_assoc]
    refine checked_then addressed fun _ _ => ?_
    rw [bind_assoc]
    refine (reading _ _).list calm fun summaries listed calm => ?_
    refine (reading _ _).searchAddress summaries _ calm (fun vmid some_ member => (listed vmid some_).mp member)
      (fun taken _ _ ready => absurd (fitting ready).2.2 taken) fun free later calm => ?_
    have unused : Unused node (network.ipv4Address.getD "") vmid := fun other vm' some_ apart held =>
      free other vm' some_ apart ((listed other some_).mpr (by rw [held]; rfl)) held
    split
    next bare =>
      refine fun _ ready => ?_
      have card := (fitting ready).2.1
      rw [bare] at card
      cases card
    next net0 card =>
      refine checked_then (fun ready => (knows ready).2.1) fun hostname named => ?_
      refine checked_then (fun ready => (knows ready).2.2.1) fun address numbered => ?_
      refine checked_then (fun ready => (knows ready).2.2.2.1) fun gateway routed => ?_
      have ready : Ready library configuration (.applyInstanceConfiguration call) node := by
        refine ⟨network, resources, hasNetwork, hasResources, allowlisted, by rw [named]; rfl, by rw [numbered]; rfl,
          by rw [routed]; rfl, markers, vmid, checked, vm, there, owned, sized, by rw [card]; rfl, unused⟩
      refine change_then calm.not_excused (fun write => by cases write) (fun _ => ⟨ready, fun before after able changes => ?_⟩)
        fun upid => ?_
      · obtain ⟨_, _, _, _, kept⟩ := knows able
        refine ⟨network, resources, hasNetwork, hasResources, allowlisted, by rw [named]; rfl, by rw [numbered]; rfl,
          by rw [routed]; rfl, kept.kept checked changes (fun old new written _ => ?_) fun old new written fits => ?_⟩
        · rw [written.description]
          simp [List.lookup_cons, parseOwnership_description restored]
        · obtain ⟨allowed, _, unused⟩ := fits
          refine ⟨?_, ?_, fun other vm' some_ apart held => ?_⟩
          · rw [← allowed, assertResources, assertResources, rewritten_disk written]
          · rw [written.net0]
            simp only [List.cons_append, List.lookup_cons, String.reduceBEq, Option.some_or]
            exact bridged_present net0
          · rw [changes.others other apart] at held
            exact unused other vm' some_ apart held
      · exact done_resumes calm.not_excused (fun write => by cases write) rfl
          (able_unless_resize fun _ same => by cases same) (seen_taskOrDone _ _)
  next unnamed =>
    refine fun _ ready => ?_
    obtain ⟨network, resources, hasNetwork, hasResources, -⟩ := ready
    exact absurd hasResources (unnamed network resources hasNetwork)

/-! ### Creation -/

/-- An id that a creation may use is still one after the creation. -/
theorem available_cloned {markers : OwnershipMarkers} {vmid : Int} {form : List (String × String)} {before after : Node}
    (described : parseOwnership library (form.lookup "description") = some markers)
    (effect : Effect (.clone form) before after) (available : Available library before markers vmid) :
    Available library after markers vmid := by
  obtain ⟨vm, carries, becomes⟩ := effect
  have here := becomes vmid
  split at here
  · exact .inr (.inr ⟨vm, here, carries ▸ described⟩)
  · rwa [Available, here]

theorem submitCreateInstance_resumes {call : SubmitCreateInstanceRequest}
    (legible : ∀ markers, call.ownershipMarkers = some markers → Legible library markers) :
    Resumes library configuration (.submitCreateInstance call) node (submitCreateInstance library configuration call) [] := by
  have offered : ∀ context markers, assertOwnership configuration call.ownershipMarkers context = .ok markers →
      call.ownershipMarkers = some markers := by
    intro context markers checked
    unfold assertOwnership at checked
    split at checked
    · cases checked
    · next presented =>
      split at checked
      · cases checked
      · rw [presented, Except.ok.inj checked]
  refine checked_then (fun ⟨_, _, _, _, checked, _⟩ => by rw [checked]; rfl) fun context presented => ?_
  have knows {node : Node} (ready : Ready library configuration (.submitCreateInstance call) node) :
      ∃ markers hostname instanceId, assertOwnership configuration call.ownershipMarkers context = .ok markers ∧
        call.imageId = some configuration.imageId ∧ hostnameAllowed (call.hostname.getD "") = true ∧
        required call.hostname "hostname" = .ok hostname ∧
        required markers.instanceId "ownership.instanceId" = .ok instanceId ∧
        ∃ k < configuration.resourceIdMaximum - configuration.resourceIdMinimum + 1, Available library node markers
          (configuration.resourceIdMinimum + ((library.sha256Seed instanceId + (0 + k)) %
            (configuration.resourceIdMaximum - configuration.resourceIdMinimum + 1) : Nat)) := by
    obtain ⟨_, markers, hostname, instanceId, again, rest⟩ := ready
    rw [presented] at again
    cases again
    exact ⟨markers, hostname, instanceId, rest⟩
  refine checked_then (fun ready => ?_) fun markers marked => ?_
  · obtain ⟨_, _, _, marked, -⟩ := knows ready
    rw [marked]
    rfl
  split
  next other =>
    refine fun _ ready => ?_
    obtain ⟨_, _, _, _, image, -⟩ := knows ready
    exact absurd image other
  next image =>
    split
    next other =>
      refine fun _ ready => ?_
      obtain ⟨_, _, _, _, _, named, -⟩ := knows ready
      rw [named] at other
      cases other
    next allowed =>
      unfold findOwnedOrFreeVmid
      rw [Resumes, On, bind_assoc]
      refine (reading _ _).list calm_nil fun summaries listed calm => ?_
      rw [bind_assoc]
      refine checked_then (fun ready => ?_) fun instanceId identified => ?_
      · obtain ⟨_, _, _, again, _, _, _, identified, -⟩ := knows ready
        rw [marked] at again
        cases again
        rw [identified]
        rfl
      dsimp only
      have occupied : ∀ vmid, vmid ∈ (summaries.filterMap id).filter (· ≠ 0) ↔ vmid ≠ 0 ∧ (node vmid).isSome = true := by
        intro vmid
        rw [List.mem_filter, List.mem_filterMap]
        constructor
        · rintro ⟨⟨_, member, rfl⟩, nonzero⟩
          have some_ : vmid ≠ 0 := by simpa using nonzero
          exact ⟨some_, (listed vmid some_).mp member⟩
        · rintro ⟨some_, there⟩
          exact ⟨⟨some vmid, (listed vmid some_).mpr there, rfl⟩, by simpa using some_⟩
      refine (reading _ _).searchVmid occupied _ 0 _ calm (fun none later calm ready => ?_) fun k below later calm => ?_
      · obtain ⟨_, _, _, again, _, _, _, also, k, below, available⟩ := knows ready
        rw [marked] at again
        cases again
        rw [identified] at also
        cases also
        exact absurd available (none k below)
      · refine (reading _ _).vmConfig calm (fun vm there calm => ?_) fun gone => ?_
        · exact fun _ _ => .inr ⟨seen_succeeded _, calm.not_excused⟩
        · have blameless {vmid : Int} : ¬ Excused library (.submitCreateInstance call)
              (later ++ [⟨.vmConfig vmid, .status 404⟩]) := (calm.missing rfl).not_excused
          refine checked_then (fun ready => ?_) fun hostname hosted => ?_
          · obtain ⟨_, _, _, _, _, _, hosted, -⟩ := knows ready
            rw [hosted]
            rfl
          have ready : Ready library configuration (.submitCreateInstance call) node :=
            ⟨context, markers, hostname, instanceId, presented, marked, by simpa using image, by simpa using allowed, hosted,
              identified, k, below, .inr (.inl gone)⟩
          refine change_then blameless (fun write => by cases write)
            (fun _ => ⟨ready, fun before after able effect => ?_⟩)
            fun upid => acceptedTask_resumes blameless (fun write => by cases write) rfl rfl
              (able_unless_resize fun _ same => by cases same)
          obtain ⟨_, _, _, again, _, _, _, also, k, below, available⟩ := knows able
          rw [marked] at again
          cases again
          rw [identified] at also
          cases also
          refine ⟨context, markers, hostname, instanceId, presented, marked, by simpa using image, by simpa using allowed,
            hosted, identified, k, below, ?_⟩
          refine available_cloned ?_ effect available
          simp [List.lookup_cons, parseOwnership_description (legible markers (offered _ _ marked))]

/-! ### Every method -/

/-- Whatever a truthful Proxmox answers, every change that a call sends is one
    that its node was ready for, and its end is judged. -/
theorem handle_resumes {observedAt : Nat} (mutates : call.mutates = true)
    (legible : ∀ markers, call.markers = some markers → Legible library markers) :
    (handle library configuration observedAt call).Satisfies
      (fun past request => Truthful node past → Allowed library configuration call node past request)
      (fun said ended => Truthful node said → Ready library configuration call node →
        Judges library call said (reply ⟨call, answer ended⟩)) [] := by
  cases call with
  | getTask call => cases mutates
  | observeInstance call => cases mutates
  | listSnapshots call => cases mutates
  | submitCreateInstance call =>
    exact (submitCreateInstance_resumes legible).weaken (fun _ _ => id) fun _ ended judged => by cases ended <;> exact judged
  | applyInstanceConfiguration call =>
    exact (applyInstanceConfiguration_resumes legible).weaken (fun _ _ => id) fun _ ended judged => by
      cases ended <;> exact judged
  | startInstance mutation =>
    exact startInstance_resumes.weaken (fun _ _ => id) fun _ ended judged => by cases ended <;> exact judged
  | shutdownInstance mutation =>
    exact (powerTransition_resumes (fun _ => .rfl) rfl (fun _ => rfl) fun _ same => by cases same).weaken (fun _ _ => id)
      fun _ ended judged => by cases ended <;> exact judged
  | stopInstance mutation =>
    exact (powerTransition_resumes (fun _ => .rfl) rfl (fun _ => rfl) fun _ same => by cases same).weaken (fun _ _ => id)
      fun _ ended judged => by cases ended <;> exact judged
  | rebootInstance mutation =>
    exact (powerTransition_resumes (fun _ => .rfl) rfl (fun _ => rfl) fun _ same => by cases same).weaken (fun _ _ => id)
      fun _ ended judged => by cases ended <;> exact judged
  | resizeInstance call =>
    exact resizeInstance_resumes.weaken (fun _ _ => id) fun _ ended judged => by cases ended <;> exact judged
  | createSnapshot call =>
    exact createSnapshot_resumes.weaken (fun _ _ => id) fun _ ended judged => by cases ended <;> exact judged
  | rollbackSnapshot call =>
    exact rollbackSnapshot_resumes.weaken (fun _ _ => id) fun _ ended judged => by cases ended <;> exact judged
  | deleteSnapshot call =>
    exact deleteSnapshot_resumes.weaken (fun _ _ => id) fun _ ended judged => by cases ended <;> exact judged
  | markInstanceRetained call =>
    exact (markInstanceRetained_resumes legible).weaken (fun _ _ => id) fun _ ended judged => by cases ended <;> exact judged
  | purgeInstance call =>
    exact purgeInstance_resumes.weaken (fun _ _ => id) fun _ ended judged => by cases ended <;> exact judged

end

end

end ControlPlane.AdapterReadiness
