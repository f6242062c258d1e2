import ControlPlane.SagaRules

/-!
Everything that one claim can do (`Transition`). A claim asks its provider at
most once, and what it was answered decides which of the shared
classifications ends it. What is proved of a claim later follows from the cases
of this relation, so that no other module goes through the eight capabilities.
-/
namespace ControlPlane.Transitions
open ControlPlane.Programs ControlPlane.Programs.Program ControlPlane.Domain ControlPlane.Commands
open ControlPlane.WorkflowSchema ControlPlane.ProviderPort ControlPlane.LifecycleWorkflow ControlPlane.SagaRules

/-! ### What an answer says -/

/-- What a workflow gets to see of an exchange. -/
inductive Reply
  | result (result : Option ProviderMutationResult)
  | task (response : GetTaskResponse)
  | observation (observation : Option InstanceObservation)
  | listing (snapshots : Option (List ProviderSnapshot))
  | failed (error : ProviderTransportError)
  deriving DecidableEq, Repr

/-- What a provider says of a resource that is there or not. -/
def Reply.describes : Reply → Bool
  | .observation _ | .listing _ => true
  | _ => false

def reply : ProviderExchange → Reply
  | ⟨_, .error error⟩ => .failed error
  | ⟨.getTask _, .ok response⟩ => .task response
  | ⟨.observeInstance _, .ok observation⟩ => .observation observation
  | ⟨.listSnapshots _, .ok snapshots⟩ => .listing snapshots
  | ⟨.submitCreateInstance _, .ok result⟩ => .result result
  | ⟨.applyInstanceConfiguration _, .ok result⟩ => .result result
  | ⟨.startInstance _, .ok result⟩ => .result result
  | ⟨.shutdownInstance _, .ok result⟩ => .result result
  | ⟨.stopInstance _, .ok result⟩ => .result result
  | ⟨.rebootInstance _, .ok result⟩ => .result result
  | ⟨.resizeInstance _, .ok result⟩ => .result result
  | ⟨.createSnapshot _, .ok result⟩ => .result result
  | ⟨.rollbackSnapshot _, .ok result⟩ => .result result
  | ⟨.deleteSnapshot _, .ok result⟩ => .result result
  | ⟨.markInstanceRetained _, .ok result⟩ => .result result
  | ⟨.purgeInstance _, .ok result⟩ => .result result

/-! ### The stages of a capability -/

/-- The stages that wait for a task of the provider. -/
def pollingStages : WorkflowAction → List WorkflowStage
  | .createInstance => [.pollingCreate, .pollingConfiguration, .pollingStart]
  | .powerInstance => [.pollingPower]
  | .resizeInstance => [.pollingResize]
  | .createSnapshot | .rollbackSnapshot | .deleteSnapshot => [.pollingSnapshot]
  | .retainInstance => [.pollingRetention]
  | .purgeInstance => [.pollingPurge]
  | .reconcileInstance => []

/-- The stages that read what is there. -/
def observingStages : WorkflowAction → List WorkflowStage
  | .createInstance => [.observing]
  | .powerInstance => [.observingPower]
  | .resizeInstance => [.observingResize]
  | .createSnapshot | .rollbackSnapshot | .deleteSnapshot => [.observingSnapshot]
  | .retainInstance => [.observingRetention]
  | .purgeInstance => [.verifyingPurge, .observingPurge]
  | .reconcileInstance => []

/-- The step that a mutation stage names in the identity of its request. -/
def mutationStep (workflow : ClaimedWorkflow) : String :=
  match workflow.command.data with
  | .create _ =>
    match workflow.stage with
    | .submittingCreate => "create"
    | .configuring => "configure"
    | _ => "start"
  | .power data => "power-" ++ data.action.text
  | .resize _ => "resize"
  | .snapshotCreate _ | .snapshotRollback _ | .snapshotDelete _ => workflow.action.text
  | .retention _ => "retain"
  | .purge _ => "purge"

/-- The resource that a claim addresses. -/
def address (workflow : ClaimedWorkflow) : Option String := workflow.providerResourceId.filter (· ≠ "")

/-- The task that a claim waits for. -/
def handle (workflow : ClaimedWorkflow) : Option String := workflow.providerTaskReference.filter (· ≠ "")

/-! ### The cases of a claim -/

/-- A call that a claim makes at its stage. -/
structure Asks (workflow : ClaimedWorkflow) (call : ProviderCall) : Prop extends Sends workflow call where
  step : call.mutates = true → call.context = some (LifecycleWorkflow.context workflow (mutationStep workflow))
  reads : call.mutates = false →
    workflow.stage ∈ pollingStages workflow.command.data.action ∧ (handle workflow).isSome = true ∨
      workflow.stage ∈ observingStages workflow.command.data.action

/-- How the execution of a claim goes, before a failed transport is classified. -/
inductive Executed (host : Host) (around : Surroundings) (workflow : ClaimedWorkflow) :
    List ProviderExchange → Except WorkflowError StoreWrite → Prop
  /-- The first transition asks nothing. -/
  | advanced {write : StoreWrite} (accepted : workflow.stage = .accepted)
      (ends : progress around workflow (firstStage workflow.command.data.action) {} = .done write) :
      Executed host around workflow [] (.ok write)
  | unsupported {write : StoreWrite} {message : String}
      (mutation : workflow.stage ∉ mutationStages workflow.command.data.action)
      (polling : workflow.stage ∉ pollingStages workflow.command.data.action)
      (observing : workflow.stage ∉ observingStages workflow.command.data.action)
      (ends : stageNotSupported around workflow message = .done write) :
      Executed host around workflow [] (.ok write)
  | unaddressed {error : ProviderTransportError} (missing : address workflow = none)
      (stage : workflow.stage ∈ mutationStages workflow.command.data.action ∨
        workflow.stage ∈ observingStages workflow.command.data.action)
      (same : error = protocolError "Provider resource ID is missing.") :
      Executed host around workflow [] (.error (.transport error))
  | untracked {write : StoreWrite} (stage : workflow.stage ∈ pollingStages workflow.command.data.action)
      (missing : handle workflow = none)
      (ends : fail around workflow
        { category := .permanent, code := "PROVIDER_TASK_REFERENCE_MISSING",
          safeMessage := "The provider task reference was not persisted." } = .done write) :
      Executed host around workflow [] (.ok write)
  | interrupted {exchange : ProviderExchange} {error : ProviderTransportError} (asks : Asks workflow exchange.1)
      (said : reply exchange = .failed error) :
      Executed host around workflow [exchange] (.error (.transport error))
  | mutated {exchange : ProviderExchange} {result : Option ProviderMutationResult} {write : StoreWrite}
      {acceptedStage synchronousStage : WorkflowStage} (asks : Asks workflow exchange.1)
      (mutates : exchange.1.mutates = true) (said : reply exchange = .result result)
      (follows : successors workflow.command.data.action workflow.stage = [acceptedStage, synchronousStage])
      (ends : handleMutationResult host around workflow result acceptedStage synchronousStage = .done write) :
      Executed host around workflow [exchange] (.ok write)
  | polled {exchange : ProviderExchange} {response : GetTaskResponse} {write : StoreWrite}
      {successStage : WorkflowStage} {taskReference : String} (asks : Asks workflow exchange.1)
      (stage : workflow.stage ∈ pollingStages workflow.command.data.action)
      (tracked : handle workflow = some taskReference)
      (said : reply exchange = .task response)
      (follows : successors workflow.command.data.action workflow.stage = [successStage])
      (ends : handleTaskResult host around workflow response successStage taskReference = .done write) :
      Executed host around workflow [exchange] (.ok write)
  /-- What was read proves too little. -/
  | reviewed {exchange : ProviderExchange} {write : StoreWrite} {failure : FailureValue}
      (asks : Asks workflow exchange.1) (describes : (reply exchange).describes = true)
      (stage : workflow.stage ∈ observingStages workflow.command.data.action)
      (ends : manualReview around workflow failure = .done write) :
      Executed host around workflow [exchange] (.ok write)
  /-- What was read proves the outcome. -/
  | confirmed {exchange : ProviderExchange} {write : StoreWrite} {observed : Option ObservedState}
      (asks : Asks workflow exchange.1) (describes : (reply exchange).describes = true)
      (stage : workflow.stage ∈ observingStages workflow.command.data.action)
      (ends : succeed around workflow (finalLifecycle workflow.command.data.action) observed = .done write) :
      Executed host around workflow [exchange] (.ok write)
  /-- What was read lets a purge go on. -/
  | verified {exchange : ProviderExchange} {write : StoreWrite} (asks : Asks workflow exchange.1)
      (describes : (reply exchange).describes = true) (purge : workflow.command.data.action = .purgeInstance)
      (stage : workflow.stage = .verifyingPurge)
      (ends : progress around workflow .submittingPurge {} = .done write) :
      Executed host around workflow [exchange] (.ok write)

/-- How a claim goes: as its execution went, or as the failure of its transport
    is classified. -/
inductive Transition (host : Host) (around : Surroundings) (workflow : ClaimedWorkflow) :
    List ProviderExchange → Except WorkflowError StoreWrite → Prop
  | through {past : List ProviderExchange} {write : StoreWrite}
      (executed : Executed host around workflow past (.ok write)) : Transition host around workflow past (.ok write)
  | caught {past : List ProviderExchange} {error : ProviderTransportError}
      {ended : Except WorkflowError StoreWrite}
      (executed : Executed host around workflow past (.error (.transport error)))
      (ends : handleProviderError around workflow error = finished ended) : Transition host around workflow past ended

section
variable {host : Host} {around : Surroundings} {workflow : ClaimedWorkflow}

/-! ### The shared classifications write once -/

theorem finishFailure_done (failure : FailureValue) (status : FinalStatus) :
    ∃ write, finishFailure around workflow failure status = .done write := ⟨_, rfl⟩

theorem handleMutationResult_done (result : Option ProviderMutationResult)
    (acceptedStage synchronousStage : WorkflowStage) :
    ∃ write, handleMutationResult host around workflow result acceptedStage synchronousStage = .done write := by
  unfold handleMutationResult
  cases result with
  | none => exact finishFailure_done _ _
  | some result =>
    dsimp only
    split
    next => exact finishFailure_done _ _
    next =>
      split
      next => exact finishFailure_done _ _
      next =>
        split
        next => exact finishFailure_done _ _
        next resource _ =>
          split
          next =>
            split
            next => exact finishFailure_done _ _
            next => exact ⟨_, rfl⟩
          next =>
            split
            next => exact ⟨_, rfl⟩
            next => exact finishFailure_done _ _

theorem handleTaskResult_done (response : GetTaskResponse) (successStage : WorkflowStage) (taskReference : String) :
    ∃ write, handleTaskResult host around workflow response successStage taskReference = .done write := by
  unfold handleTaskResult
  split
  next => exact ⟨_, rfl⟩
  next =>
    split
    next => exact ⟨_, rfl⟩
    next =>
      split
      next => exact finishFailure_done _ _
      next => exact finishFailure_done _ _

/-- A failed transport ends in a write, or finds a bug of this process. -/
theorem handleProviderError_finished (error : ProviderTransportError) :
    ∃ ended, handleProviderError around workflow error = finished ended := by
  unfold handleProviderError
  split
  next => exact ⟨.ok _, rfl⟩
  next =>
    split
    next =>
      unfold retryOrDeadLetter
      dsimp only
      split
      next => exact ⟨.ok _, rfl⟩
      next =>
        split
        next => exact ⟨.error _, rfl⟩
        next => exact ⟨.ok _, rfl⟩
    next => exact ⟨.ok _, rfl⟩

/-! ### Rules for the capabilities -/

/-- A program that goes as a claim may, from the conversation `past` on. -/
abbrev Executes (host : Host) (around : Surroundings) (workflow : ClaimedWorkflow) (p : Saga StoreWrite)
    (past : List ProviderExchange) : Prop :=
  p.Satisfies (fun past call => past = [] ∧ Asks workflow call) (Executed host around workflow) past

theorem done_executes {p : Saga StoreWrite} {past : List ProviderExchange} (quiet : ∃ write, p = .done write)
    (each : ∀ write, p = .done write → Executed host around workflow past (.ok write)) :
    Executes host around workflow p past := by
  obtain ⟨write, rfl⟩ := quiet
  exact each write rfl

/-- A claim without a resource raises; one with a resource goes on. -/
theorem requiredResource_executes {f : String → Saga StoreWrite}
    (stage : workflow.stage ∈ mutationStages workflow.command.data.action ∨
      workflow.stage ∈ observingStages workflow.command.data.action)
    (present : ∀ resource, address workflow = some resource → Executes host around workflow (f resource) []) :
    Executes host around workflow (requiredResource workflow >>= f) [] := by
  unfold requiredResource
  split
  next resource found =>
    split
    next blank => exact .unaddressed (by simp [address, found, blank]) stage rfl
    next filled => exact present resource (by simp [address, found, filled])
  next absent => exact .unaddressed (by simp [address, absent]) stage rfl

/-- A call fails or is answered. -/
theorem send_executes {call : ProviderCall} {f : call.Response → Saga StoreWrite} (asks : Asks workflow call)
    (answered : ∀ response, Executes host around workflow (f response) [⟨call, .ok response⟩]) :
    Executes host around workflow (send call >>= f) [] := by
  refine ⟨⟨rfl, asks⟩, fun answer => ?_⟩
  cases answer with
  | error error => exact .interrupted asks rfl
  | ok response => exact answered response

theorem instanceRequest_executes {step : String} {f : InstanceMutationRequest → Saga StoreWrite}
    (stage : workflow.stage ∈ mutationStages workflow.command.data.action ∨
      workflow.stage ∈ observingStages workflow.command.data.action)
    (present : ∀ request resource, address workflow = some resource →
      request.context = some (context workflow step) → request.expectedOwnershipMarkers = some (ownership workflow) →
      Executes host around workflow (f request) []) :
    Executes host around workflow (instanceRequest workflow step >>= f) [] := by
  unfold instanceRequest
  rw [Executes, bind_assoc]
  exact requiredResource_executes stage fun resource found => present _ resource found rfl rfl

theorem requiredResource_address {resource : String} (found : address workflow = some resource) :
    requiredResource workflow = .done resource := by
  obtain ⟨present, filled⟩ := Option.filter_eq_some_iff.mp found
  simp only [requiredResource, present, if_neg (of_decide_eq_true filled)]

theorem succeed_done {lifecycleState : LifecycleState} {observed : Option ObservedState} {resource : String}
    (found : address workflow = some resource) :
    ∃ write, succeed around workflow lifecycleState observed = .done write := by
  unfold succeed
  rw [requiredResource_address found]
  exact ⟨_, rfl⟩

/-- A call on an existing instance presents the context of its request. -/
theorem context_of_request {call : ProviderCall} {request : InstanceMutationRequest}
    (nested : call.request = some request) : call.context = request.context := by
  cases call <;> simp_all [ProviderCall.request, ProviderCall.context]

theorem mutates_of_purges {call : ProviderCall} (purges : call.purges = true) : call.mutates = true := by
  cases call <;> first | rfl | cases purges

/-- A read call of the claim's own, with the workflow's request. -/
theorem asks_read {call : ProviderCall} {request : InstanceMutationRequest} {step : String}
    (nested : call.request = some request) (presented : request.context = some (context workflow step))
    (marked : request.expectedOwnershipMarkers = some (ownership workflow)) (reads : call.mutates = false)
    (stage : workflow.stage ∈ observingStages workflow.command.data.action) : Asks workflow call where
  toSends := sends_request nested presented marked (fun mutates => absurd mutates (by simp [reads]))
    (fun purges => absurd (mutates_of_purges purges) (by simp [reads]))
  step mutates := absurd mutates (by simp [reads])
  reads _ := .inr stage

/-- A mutation of the claim's own, with the workflow's request. -/
theorem asks_mutation {call : ProviderCall} {request : InstanceMutationRequest}
    (nested : call.request = some request)
    (presented : request.context = some (context workflow (mutationStep workflow)))
    (marked : request.expectedOwnershipMarkers = some (ownership workflow)) (mutates : call.mutates = true)
    (stage : workflow.stage ∈ mutationStages workflow.command.data.action)
    (purge : call.purges = true → workflow.command.data.action = .purgeInstance) : Asks workflow call where
  toSends := sends_request nested presented marked (fun _ => stage) purge
  step _ := (context_of_request nested).trans presented
  reads reads := absurd mutates (by simp [reads])

/-- A mutation, whose result ends the claim. -/
theorem submission_executes {call : ProviderCall} {f : call.Response → Saga StoreWrite}
    {acceptedStage synchronousStage : WorkflowStage} (asks : Asks workflow call) (mutates : call.mutates = true)
    (follows : successors workflow.command.data.action workflow.stage = [acceptedStage, synchronousStage])
    (handled : ∀ response, ∃ result, reply ⟨call, .ok response⟩ = .result result ∧
      f response = handleMutationResult host around workflow result acceptedStage synchronousStage) :
    Executes host around workflow (send call >>= f) [] := by
  refine send_executes asks fun response => ?_
  obtain ⟨result, said, handles⟩ := handled response
  rw [handles]
  exact done_executes (handleMutationResult_done _ _ _) fun _ ends => .mutated asks mutates said follows ends

theorem pollTask_executes {successStage : WorkflowStage}
    (stage : workflow.stage ∈ pollingStages workflow.command.data.action)
    (follows : successors workflow.command.data.action workflow.stage = [successStage]) :
    Executes host around workflow (pollTask host around workflow successStage) [] := by
  unfold pollTask
  split
  next missing => exact .untracked stage missing rfl
  next reference tracked =>
    have sends : Sends workflow (.getTask
        { context := some (context workflow ("poll-" ++ workflow.stage.text)),
          providerTaskReference := some reference }) := by
      refine ⟨⟨_, rfl⟩, ?_, ?_, ?_⟩
      all_goals exact fun impossible => absurd impossible Bool.false_ne_true
    have asks : Asks workflow (.getTask
        { context := some (context workflow ("poll-" ++ workflow.stage.text)),
          providerTaskReference := some reference }) :=
      ⟨sends, fun mutates => absurd mutates Bool.false_ne_true, fun _ => .inl ⟨stage, by rw [handle, tracked]; rfl⟩⟩
    refine send_executes asks fun response => ?_
    exact done_executes (handleTaskResult_done _ _ _) fun _ ends => .polled asks stage tracked rfl follows ends

/-- A reading, after which the claim is reviewed, confirmed, or goes on. -/
theorem observation_executes {step : String} {f : Option InstanceObservation → Saga StoreWrite}
    (stage : workflow.stage ∈ observingStages workflow.command.data.action)
    (answered : ∀ request resource observation, address workflow = some resource →
      Asks workflow (.observeInstance request) →
      Executes host around workflow (f observation) [⟨.observeInstance request, .ok observation⟩]) :
    Executes host around workflow (observeInstance workflow step >>= f) [] := by
  unfold observeInstance
  rw [Executes, bind_assoc]
  refine instanceRequest_executes (.inr stage) fun request resource found presented marked => ?_
  have asks : Asks workflow (.observeInstance request) := asks_read rfl presented marked rfl stage
  exact send_executes asks fun observation => answered request resource observation found asks

section
variable {exchange : ProviderExchange} (asks : Asks workflow exchange.1) (describes : (reply exchange).describes = true)
  (stage : workflow.stage ∈ observingStages workflow.command.data.action)
include asks describes stage

theorem manualReview_executes {failure : FailureValue} :
    Executes host around workflow (manualReview around workflow failure) [exchange] :=
  done_executes (finishFailure_done _ _) fun _ ends => .reviewed asks describes stage ends

theorem succeed_executes {lifecycleState : LifecycleState} {observed : Option ObservedState} {resource : String}
    (found : address workflow = some resource)
    (final : lifecycleState = finalLifecycle workflow.command.data.action) :
    Executes host around workflow (succeed around workflow lifecycleState observed) [exchange] := by
  subst final
  exact done_executes (succeed_done found) fun _ ends => .confirmed asks describes stage ends

end

theorem submitPollObserve_executes {submitStage pollStage observeStage : WorkflowStage} {submit observe : Saga StoreWrite}
    (first : firstStage workflow.command.data.action = submitStage)
    (mutations : mutationStages workflow.command.data.action = [submitStage])
    (polls : pollingStages workflow.command.data.action = [pollStage])
    (observes : observingStages workflow.command.data.action = [observeStage])
    (follows : successors workflow.command.data.action pollStage = [observeStage])
    (submitted : workflow.stage = submitStage → Executes host around workflow submit [])
    (observed : workflow.stage ∈ observingStages workflow.command.data.action →
      Executes host around workflow observe []) :
    Executes host around workflow
      (submitPollObserve host around workflow submitStage pollStage observeStage submit observe) [] := by
  unfold submitPollObserve
  subst first
  split
  next accepted => exact .advanced accepted rfl
  next =>
    split
    next submitting => exact submitted submitting
    next elsewhere =>
      split
      next polling => exact pollTask_executes (by simp [polls, polling]) (by rw [polling, follows])
      next afar =>
        split
        next observing => exact observed (by simp [observes, observing])
        next beyond =>
          exact .unsupported (by simp [mutations, elsewhere]) (by simp [polls, afar]) (by simp [observes, beyond]) rfl

/-! ### The capabilities -/

theorem create_executes {data : CreateData} (isCreate : workflow.command.data = .create data) :
    Executes host around workflow (CreateInstanceWorkflow.execute host around workflow data) [] := by
  have create : workflow.command.data.action = .createInstance := by rw [isCreate]; rfl
  have sends {call : ProviderCall} (presented : call.context = some (context workflow (mutationStep workflow)))
      (marked : call.markers = some (ownership workflow))
      (stage : workflow.stage ∈ mutationStages workflow.command.data.action)
      (mutates : call.mutates = true) (keeps : call.purges = false) : Asks workflow call :=
    ⟨⟨⟨_, presented⟩, fun _ => marked, fun _ => stage, fun purges => absurd purges (by simp [keeps])⟩,
      fun _ => presented, fun reads => absurd mutates (by simp [reads])⟩
  unfold CreateInstanceWorkflow.execute
  split
  next stage => exact .advanced stage (by rw [create]; rfl)
  next stage =>
    have step : mutationStep workflow = "create" := by simp [mutationStep, isCreate, stage]
    have mutation : workflow.stage ∈ mutationStages workflow.command.data.action := by rw [create, stage]; decide
    refine submission_executes (sends (by rw [step]; rfl) rfl mutation rfl rfl) rfl (by rw [stage]; rfl) ?_
    exact fun response => ⟨response, rfl, rfl⟩
  next stage => exact pollTask_executes (by rw [create, stage]; decide) (by rw [stage]; rfl)
  next stage =>
    have step : mutationStep workflow = "configure" := by simp [mutationStep, isCreate, stage]
    have mutation : workflow.stage ∈ mutationStages workflow.command.data.action := by rw [create, stage]; decide
    refine requiredResource_executes (.inl mutation) fun resource _ => ?_
    refine submission_executes (sends (by rw [step]; rfl) rfl mutation rfl rfl) rfl (by rw [stage]; rfl) ?_
    exact fun response => ⟨response, rfl, rfl⟩
  next stage => exact pollTask_executes (by rw [create, stage]; decide) (by rw [stage]; rfl)
  next stage =>
    have step : mutationStep workflow = "start" := by simp [mutationStep, isCreate, stage]
    have mutation : workflow.stage ∈ mutationStages workflow.command.data.action := by rw [create, stage]; decide
    refine instanceRequest_executes (.inl mutation) fun request resource _ presented marked => ?_
    refine submission_executes (sends (step ▸ presented) marked mutation rfl rfl) rfl (by rw [stage]; rfl) ?_
    exact fun response => ⟨response, rfl, rfl⟩
  next stage => exact pollTask_executes (by rw [create, stage]; decide) (by rw [stage]; rfl)
  next stage =>
    have observing : workflow.stage ∈ observingStages workflow.command.data.action := by rw [create, stage]; decide
    refine observation_executes observing fun request resource observation found asks => ?_
    split
    next => exact manualReview_executes asks rfl observing
    next => exact succeed_executes asks rfl observing found (by rw [create]; rfl)
  next =>
    refine .unsupported ?_ ?_ ?_ rfl
    · rw [create]; simp_all [mutationStages]
    · rw [create]; simp_all [pollingStages]
    · rw [create]; simp_all [observingStages]

/-- The submission of a capability that nests the workflow's request. -/
theorem nested_executes {submitStage acceptedStage synchronousStage : WorkflowStage} {call : ProviderCall}
    {f : call.Response → Saga StoreWrite} {request : InstanceMutationRequest}
    (mutation : workflow.stage ∈ mutationStages workflow.command.data.action) (stage : workflow.stage = submitStage)
    (presented : request.context = some (context workflow (mutationStep workflow)))
    (marked : request.expectedOwnershipMarkers = some (ownership workflow))
    (follows : successors workflow.command.data.action submitStage = [acceptedStage, synchronousStage])
    (nested : call.request = some request) (mutates : call.mutates = true)
    (purge : call.purges = true → workflow.command.data.action = .purgeInstance)
    (handled : ∀ response, ∃ result, reply ⟨call, .ok response⟩ = .result result ∧
      f response = handleMutationResult host around workflow result acceptedStage synchronousStage) :
    Executes host around workflow (send call >>= f) [] :=
  submission_executes (asks_mutation nested presented marked mutates mutation purge) mutates (stage ▸ follows) handled

theorem power_executes {data : PowerData} (isPower : workflow.command.data = .power data) :
    Executes host around workflow (PowerInstanceWorkflow.execute host around workflow data) [] := by
  have power : workflow.command.data.action = .powerInstance := by rw [isPower]; rfl
  have step : mutationStep workflow = "power-" ++ data.action.text := by simp [mutationStep, isPower]
  refine submitPollObserve_executes (by rw [power]; rfl) (by rw [power]; rfl) (by rw [power]; rfl) (by rw [power]; rfl)
    rfl (fun stage => ?_) fun observing => ?_
  · have mutation : workflow.stage ∈ mutationStages workflow.command.data.action := by rw [power, stage]; decide
    refine instanceRequest_executes (.inl mutation) fun request resource _ presented marked => ?_
    rw [← step] at presented
    have keeps : false = true → workflow.command.data.action = .purgeInstance := fun impossible => nomatch impossible
    cases data.action with
    | start => exact nested_executes mutation stage presented marked rfl rfl rfl keeps fun result => ⟨result, rfl, rfl⟩
    | shutdown => exact nested_executes mutation stage presented marked rfl rfl rfl keeps fun result => ⟨result, rfl, rfl⟩
    | stop => exact nested_executes mutation stage presented marked rfl rfl rfl keeps fun result => ⟨result, rfl, rfl⟩
    | reboot => exact nested_executes mutation stage presented marked rfl rfl rfl keeps fun result => ⟨result, rfl, rfl⟩
  · refine observation_executes observing fun request resource observation found asks => ?_
    split
    next => exact manualReview_executes asks rfl observing
    next =>
      split
      next => exact manualReview_executes asks rfl observing
      next => exact succeed_executes asks rfl observing found (by rw [power]; rfl)

theorem resize_executes {data : ResizeData} (isResize : workflow.command.data = .resize data) :
    Executes host around workflow (ResizeInstanceWorkflow.execute host around workflow data) [] := by
  have resize : workflow.command.data.action = .resizeInstance := by rw [isResize]; rfl
  have step : mutationStep workflow = "resize" := by simp [mutationStep, isResize]
  refine submitPollObserve_executes (by rw [resize]; rfl) (by rw [resize]; rfl) (by rw [resize]; rfl)
    (by rw [resize]; rfl) rfl (fun stage => ?_) fun observing => ?_
  · have mutation : workflow.stage ∈ mutationStages workflow.command.data.action := by rw [resize, stage]; decide
    refine instanceRequest_executes (.inl mutation) fun request resource _ presented marked => ?_
    exact nested_executes mutation stage (step ▸ presented) marked rfl rfl rfl
      (fun impossible => absurd impossible Bool.false_ne_true) fun result => ⟨result, rfl, rfl⟩
  · refine observation_executes observing fun request resource observation found asks => ?_
    split
    next => exact manualReview_executes asks rfl observing
    next =>
      split
      next => exact manualReview_executes asks rfl observing
      next => exact succeed_executes asks rfl observing found (by rw [resize]; rfl)

/-- The listing that confirms a snapshot action. -/
theorem observeSnapshot_executes {expectedName : String} {satisfied : Bool → Bool}
    (observing : workflow.stage ∈ observingStages workflow.command.data.action)
    (final : finalLifecycle workflow.command.data.action = .active) :
    Executes host around workflow (SnapshotWorkflow.observeSnapshot around workflow expectedName satisfied) [] := by
  refine instanceRequest_executes (.inr observing) fun request resource found presented marked => ?_
  have asks : Asks workflow (.listSnapshots request) := asks_read rfl presented marked rfl observing
  refine send_executes asks fun listing => ?_
  dsimp only
  split
  next => exact succeed_executes asks rfl observing found final.symm
  next => exact manualReview_executes asks rfl observing

theorem snapshotCreate_executes {data : SnapshotCreateData} (isCreate : workflow.command.data = .snapshotCreate data) :
    Executes host around workflow (SnapshotWorkflow.executeCreate host around workflow data) [] := by
  have create : workflow.command.data.action = .createSnapshot := by rw [isCreate]; rfl
  have step : mutationStep workflow = workflow.action.text := by simp [mutationStep, isCreate]
  refine submitPollObserve_executes (by rw [create]; rfl) (by rw [create]; rfl) (by rw [create]; rfl)
    (by rw [create]; rfl) rfl (fun stage => ?_) fun observing => observeSnapshot_executes observing (by rw [create]; rfl)
  have mutation : workflow.stage ∈ mutationStages workflow.command.data.action := by rw [create, stage]; decide
  refine instanceRequest_executes (.inl mutation) fun request resource _ presented marked => ?_
  exact nested_executes mutation stage (step ▸ presented) marked rfl rfl rfl
    (fun impossible => absurd impossible Bool.false_ne_true) fun result => ⟨result, rfl, rfl⟩

/-- The request of a snapshot action nests the workflow's own. -/
theorem snapshotRequest_executes {data : SnapshotActionData} {f : SnapshotMutationRequest → Saga StoreWrite}
    (mutation : workflow.stage ∈ mutationStages workflow.command.data.action)
    (present : ∀ outer request, outer.request = some request →
      request.context = some (context workflow workflow.action.text) →
      request.expectedOwnershipMarkers = some (ownership workflow) → Executes host around workflow (f outer) []) :
    Executes host around workflow (SnapshotWorkflow.snapshotRequest workflow data >>= f) [] := by
  unfold SnapshotWorkflow.snapshotRequest
  rw [Executes, bind_assoc]
  exact instanceRequest_executes (.inl mutation) fun request _ _ => present _ request rfl

theorem snapshotRollback_executes {data : SnapshotActionData}
    (isRollback : workflow.command.data = .snapshotRollback data) :
    Executes host around workflow (SnapshotWorkflow.executeRollback host around workflow data) [] := by
  have rollback : workflow.command.data.action = .rollbackSnapshot := by rw [isRollback]; rfl
  have step : mutationStep workflow = workflow.action.text := by simp [mutationStep, isRollback]
  refine submitPollObserve_executes (by rw [rollback]; rfl) (by rw [rollback]; rfl) (by rw [rollback]; rfl)
    (by rw [rollback]; rfl) rfl (fun stage => ?_) fun observing =>
      observeSnapshot_executes observing (by rw [rollback]; rfl)
  have mutation : workflow.stage ∈ mutationStages workflow.command.data.action := by rw [rollback, stage]; decide
  refine snapshotRequest_executes mutation fun outer request nested presented marked => ?_
  exact nested_executes mutation stage (step ▸ presented) marked rfl nested rfl
    (fun impossible => absurd impossible Bool.false_ne_true) fun result => ⟨result, rfl, rfl⟩

theorem snapshotDelete_executes {data : SnapshotActionData}
    (isDelete : workflow.command.data = .snapshotDelete data) :
    Executes host around workflow (SnapshotWorkflow.executeDelete host around workflow data) [] := by
  have delete : workflow.command.data.action = .deleteSnapshot := by rw [isDelete]; rfl
  have step : mutationStep workflow = workflow.action.text := by simp [mutationStep, isDelete]
  refine submitPollObserve_executes (by rw [delete]; rfl) (by rw [delete]; rfl) (by rw [delete]; rfl)
    (by rw [delete]; rfl) rfl (fun stage => ?_) fun observing => observeSnapshot_executes observing (by rw [delete]; rfl)
  have mutation : workflow.stage ∈ mutationStages workflow.command.data.action := by rw [delete, stage]; decide
  refine snapshotRequest_executes mutation fun outer request nested presented marked => ?_
  exact nested_executes mutation stage (step ▸ presented) marked rfl nested rfl
    (fun impossible => absurd impossible Bool.false_ne_true) fun result => ⟨result, rfl, rfl⟩

theorem retention_executes {data : RetentionData} (isRetention : workflow.command.data = .retention data) :
    Executes host around workflow (RetainInstanceWorkflow.execute host around workflow data) [] := by
  have retain : workflow.command.data.action = .retainInstance := by rw [isRetention]; rfl
  have step : mutationStep workflow = "retain" := by simp [mutationStep, isRetention]
  refine submitPollObserve_executes (by rw [retain]; rfl) (by rw [retain]; rfl) (by rw [retain]; rfl)
    (by rw [retain]; rfl) rfl (fun stage => ?_) fun observing => ?_
  · have mutation : workflow.stage ∈ mutationStages workflow.command.data.action := by rw [retain, stage]; decide
    refine instanceRequest_executes (.inl mutation) fun request resource _ presented marked => ?_
    exact nested_executes mutation stage (step ▸ presented) marked rfl rfl rfl
      (fun impossible => absurd impossible Bool.false_ne_true) fun result => ⟨result, rfl, rfl⟩
  · refine observation_executes observing fun request resource observation found asks => ?_
    split
    next => exact manualReview_executes asks rfl observing
    next => exact succeed_executes asks rfl observing found (by rw [retain]; rfl)

theorem purge_executes {data : PurgeData} (isPurge : workflow.command.data = .purge data) :
    Executes host around workflow (PurgeInstanceWorkflow.execute host around workflow data) [] := by
  have purge : workflow.command.data.action = .purgeInstance := by rw [isPurge]; rfl
  have step : mutationStep workflow = "purge" := by simp [mutationStep, isPurge]
  have final : LifecycleState.purged = finalLifecycle workflow.command.data.action := by rw [purge]; rfl
  unfold PurgeInstanceWorkflow.execute
  split
  next stage => exact .advanced stage (by rw [purge]; rfl)
  next stage =>
    have observing : workflow.stage ∈ observingStages workflow.command.data.action := by rw [purge, stage]; decide
    refine observation_executes observing fun request resource observation found asks => ?_
    split
    next => exact succeed_executes asks rfl observing found final
    next =>
      split
      next => exact manualReview_executes asks rfl observing
      next => exact .verified asks rfl purge stage rfl
  next stage =>
    have mutation : workflow.stage ∈ mutationStages workflow.command.data.action := by rw [purge, stage]; decide
    refine instanceRequest_executes (.inl mutation) fun request resource _ presented marked => ?_
    exact nested_executes mutation stage (step ▸ presented) marked rfl rfl rfl (fun _ => purge) fun result =>
      ⟨result, rfl, rfl⟩
  next stage => exact pollTask_executes (by rw [purge, stage]; decide) (by rw [stage]; rfl)
  next stage =>
    have observing : workflow.stage ∈ observingStages workflow.command.data.action := by rw [purge, stage]; decide
    refine observation_executes observing fun request resource observation found asks => ?_
    split
    next => exact manualReview_executes asks rfl observing
    next => exact succeed_executes asks rfl observing found final
  next =>
    refine .unsupported ?_ ?_ ?_ rfl
    · rw [purge]; simp_all [mutationStages]
    · rw [purge]; simp_all [pollingStages]
    · rw [purge]; simp_all [observingStages]

theorem execute_executes : Executes host around workflow (execute host around workflow) [] := by
  unfold execute
  split
  next isCreate => exact create_executes isCreate
  next isPower => exact power_executes isPower
  next isResize => exact resize_executes isResize
  next isCreate => exact snapshotCreate_executes isCreate
  next isRollback => exact snapshotRollback_executes isRollback
  next isDelete => exact snapshotDelete_executes isDelete
  next isRetention => exact retention_executes isRetention
  next isPurge => exact purge_executes isPurge

/-- An execution raises nothing but failures of the transport. -/
theorem not_defect {past : List ProviderExchange} {message : String} :
    ¬ Executed host around workflow past (.error (.defect message)) := nofun

/-- Whatever the provider answers, a claim goes one of the ways of a transition. -/
theorem runClaimed_transition :
    (runClaimed host around workflow).Satisfies (fun past call => past = [] ∧ Asks workflow call)
      (Transition host around workflow) [] := by
  refine satisfies_catching execute_executes (fun _ _ executed => .through executed) fun later error executed => ?_
  cases error with
  | transport error =>
    exact satisfies_finished (handleProviderError_finished error) fun ended ends => .caught executed ends
  | defect message => exact absurd executed not_defect

/-! ### Every transition fits -/

theorem executed_fits {past : List ProviderExchange} {write : StoreWrite}
    (executed : Executed host around workflow past (.ok write)) : Fits around workflow write := by
  cases executed with
  | advanced accepted ends =>
    exact keeps_done (progress_keeps (.inr (by simp [accepted, successors]))) ends
  | unsupported _ _ _ ends => exact keeps_done fail_keeps ends
  | untracked _ _ ends => exact keeps_done fail_keeps ends
  | mutated _ _ _ follows ends => exact keeps_done (handleMutationResult_keeps follows) ends
  | polled _ _ _ _ follows ends => exact keeps_done (handleTaskResult_keeps follows) ends
  | reviewed _ _ _ ends => exact keeps_done manualReview_keeps ends
  | confirmed _ _ _ ends => exact keeps_done (succeed_keeps rfl) ends
  | verified _ _ purge stage ends =>
    exact keeps_done (progress_keeps (.inr (by simp [stage, successors, purge]))) ends

theorem transition_fits {past : List ProviderExchange} {ended : Except WorkflowError StoreWrite}
    (transition : Transition host around workflow past ended) :
    ∀ write, ended = .ok write → Fits around workflow write := by
  rintro write rfl
  cases transition with
  | through executed => exact executed_fits executed
  | caught _ ends => exact keeps_done (handleProviderError_then shared_keeps) ends

/-- Whatever the provider answers, a claim makes only the workflow's own calls
    and ends in one fitting write. -/
theorem runClaimed_fits : Keeps around workflow (runClaimed host around workflow) [] :=
  runClaimed_transition.weaken (fun _ _ asked => asked.2.toSends) fun _ _ => transition_fits

/-! ### Every move is explained -/

/-- A write that moves its workflow publishes the progress. -/
def Explained (ended : Except WorkflowError StoreWrite) : Prop :=
  ∀ input, ended = .ok (.checkpoint input) → ∃ attempt operationState reference nextActionAt,
    input.event.data = .progressed input.stage attempt operationState reference nextActionAt

/-- A program that explains its moves. -/
abbrev Explains (p : Saga StoreWrite) (past : List ProviderExchange) : Prop :=
  p.Satisfies (fun _ _ => True) (fun _ ended => Explained ended) past

theorem progress_explains {stage : WorkflowStage} {options : ProgressOptions} {past : List ProviderExchange} :
    Explains (progress around workflow stage options) past := by
  rintro input ⟨⟩
  exact ⟨_, _, _, _, rfl⟩

theorem shared_explains : Shared around workflow (fun _ _ => True) (fun _ ended => Explained ended) where
  raises _ _ _ impossible := nomatch impossible
  fails _ _ _ _ _ impossible := nomatch impossible
  stays _ _ := progress_explains
  gives _ _ _ _ impossible := nomatch impossible

theorem explained_done {p : Saga StoreWrite} {write : StoreWrite} (explains : Explains p []) (ends : p = .done write) :
    Explained (.ok write) := by
  subst ends
  exact explains

theorem executed_explained {past : List ProviderExchange} {write : StoreWrite}
    (executed : Executed host around workflow past (.ok write)) : Explained (.ok write) := by
  cases executed with
  | advanced _ ends => exact explained_done progress_explains ends
  | unsupported _ _ _ ends => exact explained_done shared_explains.fail ends
  | untracked _ _ ends => exact explained_done shared_explains.fail ends
  | mutated _ _ _ _ ends =>
    exact explained_done (handleMutationResult_then shared_explains (fun _ => progress_explains) fun _ => progress_explains)
      ends
  | polled _ _ _ _ _ ends => exact explained_done (handleTaskResult_then shared_explains fun _ => progress_explains) ends
  | reviewed _ _ _ ends => exact explained_done shared_explains.manualReview ends
  | confirmed _ _ _ ends =>
    refine explained_done (requiredResource_then (fun _ _ impossible => nomatch impossible) fun resource => ?_) ends
    rintro input ⟨⟩
  | verified _ _ _ _ ends => exact explained_done progress_explains ends

theorem transition_explained {past : List ProviderExchange} {ended : Except WorkflowError StoreWrite}
    (transition : Transition host around workflow past ended) : Explained ended := by
  cases transition with
  | through executed => exact executed_explained executed
  | caught executed ends =>
    intro input same
    subst same
    exact explained_done (handleProviderError_then shared_explains) ends input rfl

end

end ControlPlane.Transitions
