import ControlPlane.Transitions
import ControlPlane.EventValidation
import ControlPlane.ProxmoxRules

/-!
The agreement of orchestrator and adapter on ownership. A workflow presents the
operation of its own command in every call context, and in its markers the
operation that created the instance; the adapter accepts a pair only when the
two are one. So a command is accepted throughout exactly when it is the
operation that created its instance.
-/
namespace ControlPlane.OwnershipAgreement
open ControlPlane.Programs ControlPlane.Programs.Program ControlPlane.Texts ControlPlane.Tables
open ControlPlane.Domain ControlPlane.Commands ControlPlane.EventValidation ControlPlane.WorkflowSchema
open ControlPlane.ProviderPort ControlPlane.LifecycleWorkflow ControlPlane.SagaRules ControlPlane.Transitions
open ControlPlane.ProxmoxOwnership ControlPlane.ProxmoxProvider ControlPlane.ProxmoxRules

/-- A command that was admitted and whose project and profile are the
    configured ones. -/
structure Configured (configuration : ProxmoxProviderConfiguration) (command : LifecycleCommand) : Prop where
  decoded : isEventEnvelope command.data.schemaName command.toEnvelope = true
  project : command.projectId = configuration.projectId
  profile : providerProfileId command.data = configuration.providerProfileId

/-- A call whose context and markers pass the adapter's checks. -/
def Accepted (configuration : ProxmoxProviderConfiguration) (call : ProviderCall) : Prop :=
  ∃ context, assertContext configuration call.context = .ok context ∧
    (call.presentsMarkers = true → ∃ markers, assertOwnership configuration call.markers context = .ok markers)

/-- A claim of the operation that created a command's instance. -/
structure Creates (creator : ClaimedWorkflow) (command : LifecycleCommand) : Prop where
  create : creator.command.data.action = .createInstance
  operation : creator.command.operationId = createOperationId command
  project : creator.command.projectId = command.projectId
  inst : creator.command.aggregateId = command.aggregateId

/-- The markers that `submitCreateInstance` writes on the VM when the creating
    claim calls it. -/
def Written (library : Library) (configuration : ProxmoxProviderConfiguration) (creator : ClaimedWorkflow)
    (markers : OwnershipMarkers) : Prop :=
  ∀ call, call.ownershipMarkers = some (ownership creator) →
    (submitCreateInstance library configuration call).Satisfies
      (fun _ sent => ∀ form, sent = .clone form → ("description", ownershipDescription library markers) ∈ form)
      (fun _ _ => True) []

/-- Every call that a claim of the command sends, at any stage and whatever it
    is answered, is accepted, and presents the markers that were written on the
    VM at its creation. -/
def Agrees (library : Library) (configuration : ProxmoxProviderConfiguration) (command : LifecycleCommand) : Prop :=
  ∀ (host : Host) (around : Surroundings) (workflow : ClaimedWorkflow), workflow.command = command →
    (runClaimed host around workflow).Satisfies
      (fun _ call => Accepted configuration call ∧
        (call.presentsMarkers = true → ∀ creator, Creates creator command →
          ∃ markers, call.markers = some markers ∧ Written library configuration creator markers))
      (fun _ _ => True) []

/-! ### What the creation writes -/

section
variable {library : Library} {configuration : ProxmoxProviderConfiguration}

theorem assertOwnership_ok {markers : Option OwnershipMarkers} {context : ProviderCallContext}
    {accepted : OwnershipMarkers} (passed : assertOwnership configuration markers context = .ok accepted) :
    markers = some accepted ∧ accepted.createOperationId = context.operationId := by
  unfold assertOwnership at passed
  split at passed
  next => cases passed
  next markers =>
    split at passed
    next => cases passed
    next same =>
      cases passed
      simp only [not_or, not_not] at same
      exact ⟨rfl, same.2.2.2.2⟩

theorem assertContext_ok {context accepted : ProviderCallContext}
    (passed : assertContext configuration (some context) = .ok accepted) : context = accepted := by
  obtain ⟨_, -, inside⟩ := bind_ok passed
  dsimp only at inside
  split at inside
  next => cases inside
  next =>
    obtain ⟨_, -, inside⟩ := bind_ok inside
    obtain ⟨_, -, inside⟩ := bind_ok inside
    obtain ⟨_, -, inside⟩ := bind_ok inside
    obtain ⟨_, -, inside⟩ := bind_ok inside
    exact Except.ok.inj inside

/-- The creating call labels the VM with the markers it presents. -/
theorem submitCreateInstance_written (creator : ClaimedWorkflow) :
    Written library configuration creator (ownership creator) := by
  intro call marked
  have reads : ∀ (past : Conversation) vmid, (fun (_ : Conversation) sent => ∀ form, sent = ProxmoxRequest.clone form →
      ("description", ownershipDescription library (ownership creator)) ∈ form) past (.vmConfig vmid) :=
    fun _ _ _ impossible => nomatch impossible
  refine check_then (fun _ _ => trivial) fun context _ => check_then (fun _ _ => trivial) fun markers passed => ?_
  obtain rfl : ownership creator = markers := Option.some.inj (marked.symm.trans (assertOwnership_ok passed).1)
  split
  next => trivial
  next =>
    split
    next => trivial
    next =>
      refine reads_bind ?_ fun later vmid => ?_
      · refine request_then (fun _ impossible => nomatch impossible) (fun _ _ => trivial) fun summaries => ?_
        exact check_then (fun _ _ => trivial) fun _ _ => searchVmid_reads reads _ _ _
      · refine vmConfig_then (reads later _) (fun _ _ => trivial) fun config later _ => ?_
        split
        next => trivial
        next =>
          refine check_then (fun _ _ => trivial) fun hostname _ => ?_
          refine request_then ?_ (fun _ _ => trivial) fun upid => check_then (fun _ _ => trivial) fun _ _ => trivial
          rintro form ⟨⟩
          simp

/-! ### The two checks on a workflow's own pair -/

theorem assertContext_context {workflow : ClaimedWorkflow} (configured : Configured configuration workflow.command)
    (step : String) :
    assertContext configuration (some (context workflow step)) = .ok (context workflow step) := by
  have decoded := configured.decoded
  simp only [isEventEnvelope, Bool.and_eq_true] at decoded
  obtain ⟨⟨⟨⟨⟨⟨-, inst⟩, -⟩, operation⟩, correlation⟩, -⟩, -⟩ := decoded
  have request : workflow.command.operationId ++ ":" ++ step ≠ "" := by simp
  simp only [assertContext, context, assertDirectProfile, configured.profile, configured.project, required_some request,
    required_some (isUuidText_ne_empty inst), required_some (isUuidText_ne_empty operation),
    required_some (isUuidText_ne_empty correlation), ne_eq, not_true_eq_false, if_false]
  rfl

theorem assertOwnership_ownership {workflow : ClaimedWorkflow} {step : String}
    (creates : workflow.command.operationId = createOperationId workflow.command) :
    assertOwnership configuration (some (ownership workflow)) (context workflow step) = .ok (ownership workflow) := by
  simp [assertOwnership, ownership, context, creates, ProxmoxProviderConfiguration.managedBy,
    ProxmoxProviderConfiguration.environment]

theorem ownership_creator {creator workflow : ClaimedWorkflow} (creates : Creates creator workflow.command) :
    ownership creator = ownership workflow := by
  have own : createOperationId creator.command = creator.command.operationId := by
    have create := creates.create
    unfold createOperationId
    cases data : creator.command.data <;> first | rfl | (rw [data] at create; cases create)
  simp only [ownership, own, creates.operation, creates.project, creates.inst]

/-! ### The agreement -/

theorem agrees_of_creates {command : LifecycleCommand} (configured : Configured configuration command)
    (creates : command.operationId = createOperationId command) : Agrees library configuration command := by
  rintro host around workflow rfl
  refine runClaimed_fits.weaken (fun _ call sends => ?_) fun _ _ _ => trivial
  obtain ⟨step, presented⟩ := sends.context
  refine ⟨⟨context workflow step, presented ▸ assertContext_context configured step, fun marked => ?_⟩,
    fun marked creator created => ⟨ownership workflow, sends.markers marked, ?_⟩⟩
  · exact ⟨ownership workflow, sends.markers marked ▸ assertOwnership_ownership creates⟩
  · exact ownership_creator created ▸ submitCreateInstance_written creator

/-- A claim that reads its instance from the provider. -/
def observer (command : LifecycleCommand) : ClaimedWorkflow :=
  { action := command.data.action, command := command,
    stage := match command.data with
      | .create _ => .observing
      | .power _ => .observingPower
      | .resize _ => .observingResize
      | .snapshotCreate _ | .snapshotRollback _ | .snapshotDelete _ => .observingSnapshot
      | .retention _ => .observingRetention
      | .purge _ => .observingPurge,
    attempt := 1, stageAttempt := 0, retryStartedAt := none, fencingToken := 1, providerResourceId := some "910000",
    providerTaskReference := none }

theorem observer_asks (host : Host) (around : Surroundings) (command : LifecycleCommand) :
    ∃ step call resume, runClaimed host around (observer command) = .ask call resume ∧
      call.context = some (context (observer command) step) ∧ call.presentsMarkers = true ∧
      call.markers = some (ownership (observer command)) := by
  obtain ⟨envelope, data⟩ := command
  cases data <;> exact ⟨_, _, _, rfl, rfl, rfl, rfl⟩

theorem creates_of_agrees {command : LifecycleCommand} (agrees : Agrees library configuration command) :
    command.operationId = createOperationId command := by
  let host : Host := ⟨fun _ => none, fun _ => ""⟩
  let around : Surroundings := ⟨"worker", 0, 0, 0, 0, fun _ => ""⟩
  obtain ⟨step, call, resume, asks, presented, marks, marked⟩ := observer_asks host around command
  have satisfied := agrees host around (observer command) rfl
  rw [asks] at satisfied
  obtain ⟨⟨⟨accepted, passed, owned⟩, -⟩, -⟩ := satisfied
  obtain ⟨markers, same⟩ := owned marks
  obtain ⟨presents, creates⟩ := assertOwnership_ok same
  obtain rfl : ownership (observer command) = markers := Option.some.inj (marked.symm.trans presents)
  obtain rfl : context (observer command) step = accepted := assertContext_ok (presented ▸ passed)
  exact Option.some.inj creates.symm

/-- The adapter accepts every call of a command, with the markers of the
    creation, exactly when the command is the operation that created its
    instance. -/
theorem agrees_iff {command : LifecycleCommand} (configured : Configured configuration command) :
    Agrees library configuration command ↔ command.operationId = createOperationId command :=
  ⟨creates_of_agrees, agrees_of_creates configured⟩

end

theorem configured_sampleCreate : Configured sampleConfiguration sampleCreate := ⟨by decide, rfl, rfl⟩

theorem agrees_iff_sampleCreate :
    Configured sampleConfiguration sampleCreate ∧
      (Agrees (sampleLibrary {}) sampleConfiguration sampleCreate ↔
        sampleCreate.operationId = createOperationId sampleCreate) :=
  ⟨configured_sampleCreate, agrees_iff configured_sampleCreate⟩

/-- A power command carries the operation that created its instance, and is
    refused as foreign all the same. -/
theorem samplePower_refused :
    Configured sampleConfiguration samplePower ∧ Creates (observer sampleCreate) samplePower ∧
      ¬ Agrees (sampleLibrary {}) sampleConfiguration samplePower := by
  refine ⟨⟨by decide, rfl, rfl⟩, ⟨rfl, rfl, rfl, rfl⟩, fun agrees => ?_⟩
  exact absurd (creates_of_agrees agrees) (by decide)

end ControlPlane.OwnershipAgreement
