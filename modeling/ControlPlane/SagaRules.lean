import ControlPlane.LifecycleWorkflow

/-!
What a transition of a workflow promises whatever its provider answers: which
calls it makes at which stage and what they present (`Sends`), and how it ends
(`Fits`). One rule per step of a transition, for any guard and postcondition,
and the instances of these rules for fitting writes.
-/
namespace ControlPlane.SagaRules
open ControlPlane.Programs ControlPlane.Programs.Program ControlPlane.Domain ControlPlane.Commands
open ControlPlane.WorkflowSchema ControlPlane.ProviderPort ControlPlane.LifecycleWorkflow

/-! ### The stage graph -/

/-- The stage that a capability leaves `accepted` for. -/
def firstStage : WorkflowAction → WorkflowStage
  | .createInstance => .submittingCreate
  | .powerInstance => .submittingPower
  | .resizeInstance => .submittingResize
  | .createSnapshot | .rollbackSnapshot | .deleteSnapshot => .submittingSnapshot
  | .retainInstance => .submittingRetention
  | .purgeInstance => .verifyingPurge
  | .reconcileInstance => .accepted

/-- The stages that a transition may move a workflow to. -/
def successors (action : WorkflowAction) : WorkflowStage → List WorkflowStage
  | .accepted => [firstStage action]
  | .submittingCreate => [.pollingCreate, .configuring]
  | .pollingCreate => [.configuring]
  | .configuring => [.pollingConfiguration, .starting]
  | .pollingConfiguration => [.starting]
  | .starting => [.pollingStart, .observing]
  | .pollingStart => [.observing]
  | .submittingPower => [.pollingPower, .observingPower]
  | .pollingPower => [.observingPower]
  | .submittingResize => [.pollingResize, .observingResize]
  | .pollingResize => [.observingResize]
  | .submittingSnapshot => [.pollingSnapshot, .observingSnapshot]
  | .pollingSnapshot => [.observingSnapshot]
  | .submittingRetention => [.pollingRetention, .observingRetention]
  | .pollingRetention => [.observingRetention]
  | .verifyingPurge => if action = .purgeInstance then [.submittingPurge] else []
  | .submittingPurge => [.pollingPurge, .observingPurge]
  | .pollingPurge => [.observingPurge]
  | _ => []

/-- The lifecycle that a completed workflow leaves its instance in. -/
def finalLifecycle : WorkflowAction → LifecycleState
  | .retainInstance => .retained
  | .purgeInstance => .purged
  | _ => .active

/-! ### What a transition promises -/

/-- A call that a transition of the workflow makes. -/
structure Sends (workflow : ClaimedWorkflow) (call : ProviderCall) : Prop where
  context : ∃ step, call.context = some (context workflow step)
  markers : call.presentsMarkers = true → call.markers = some (ownership workflow)
  stage : call.mutates = true → workflow.stage ∈ mutationStages workflow.command.data.action
  purge : call.purges = true → workflow.command.data.action = .purgeInstance

/-- How a transition ends its claim. -/
inductive Outcome (workflow : ClaimedWorkflow) : StoreWrite → Prop
  | moved {input : CheckpointInput}
      (follows : input.stage = workflow.stage ∨
        input.stage ∈ successors workflow.command.data.action workflow.stage)
      (progressed : input.event.data.isTerminal = false) : Outcome workflow (.checkpoint input)
  | failed {input : CompleteInput} (failure : FailureValue) (status : input.status ≠ .succeeded)
      (event : input.event.data =
        .failed workflow.action failure (if input.status = .manualReview then .notSafe else .notRequired)) :
      Outcome workflow (.complete input)
  | succeeded {input : CompleteInput} (resource : Option String) (evidenceId : Uuid)
      (observed : Option ObservedState) (status : input.status = .succeeded)
      (event : input.event.data =
        .completed workflow.action (finalLifecycle workflow.command.data.action) resource evidenceId observed) :
      Outcome workflow (.complete input)
  | exhausted {input : DeadLetterWorkflowInput} (action : input.action = workflow.action)
      (compensation : input.compensationState = .notRequired) : Outcome workflow (.deadLetterWorkflow input)

/-- A write that a transition of the workflow may end with. -/
structure Fits (around : Surroundings) (workflow : ClaimedWorkflow) (write : StoreWrite) : Prop where
  fence : write.fence = fence around workflow
  envelope : write.event.toEnvelope = envelope around workflow
  outcome : Outcome workflow write

section
variable {host : Host} {around : Surroundings} {workflow : ClaimedWorkflow} {past : List ProviderExchange}

/-! ### Rules for any guard and postcondition -/

section
variable {α : Type} {allowed : List ProviderExchange → ProviderCall → Prop}
  {post : List ProviderExchange → Except WorkflowError α → Prop}

/-- A missing resource raises; a present one is handed on. -/
theorem requiredResource_then {f : String → Saga α} (missing : ∀ error, post past (.error error))
    (present : ∀ resource, (f resource).Satisfies allowed post past) :
    (requiredResource workflow >>= f).Satisfies allowed post past := by
  unfold requiredResource
  split
  · split
    · exact missing _
    · exact present _
  · exact missing _

/-- A failed transport raises; a response is handed on. -/
theorem send_then {call : ProviderCall} {f : call.Response → Saga α} (sends : allowed past call)
    (failed : ∀ later error, post later (.error error))
    (answered : ∀ response, (f response).Satisfies allowed post (past ++ [⟨call, .ok response⟩])) :
    (send call >>= f).Satisfies allowed post past := by
  refine ⟨sends, fun answer => ?_⟩
  cases answer with
  | error error => exact failed _ _
  | ok response => exact answered response

theorem instanceRequest_then {step : String} {f : InstanceMutationRequest → Saga α}
    (missing : ∀ error, post past (.error error))
    (present : ∀ request, request.context = some (context workflow step) →
      request.expectedOwnershipMarkers = some (ownership workflow) → (f request).Satisfies allowed post past) :
    (instanceRequest workflow step >>= f).Satisfies allowed post past := by
  unfold instanceRequest
  rw [bind_assoc]
  exact requiredResource_then missing fun resource => present _ rfl rfl

/-- An observation is read; its answer is handed on with the conversation. -/
theorem observeInstance_then {step : String} {f : Option InstanceObservation → Saga α}
    (sends : ∀ call, Sends workflow call → call.mutates = false → allowed past call)
    (failed : ∀ later error, post later (.error error))
    (answered : ∀ request observation,
      (f observation).Satisfies allowed post (past ++ [⟨.observeInstance request, .ok observation⟩])) :
    (observeInstance workflow step >>= f).Satisfies allowed post past := by
  unfold observeInstance
  rw [bind_assoc]
  refine instanceRequest_then (failed past) fun request presented marked => ?_
  refine send_then (sends _ ⟨⟨step, presented⟩, fun _ => marked, ?_, ?_⟩ rfl) failed (answered request)
  · exact fun mutates => absurd mutates Bool.false_ne_true
  · exact fun purges => absurd purges Bool.false_ne_true

end

section
variable {allowed : List ProviderExchange → ProviderCall → Prop}
  {post : List ProviderExchange → Except WorkflowError StoreWrite → Prop}

/-- What a guard and a postcondition must allow for the ways of ending that
    every capability shares: raising, failing, staying, and giving up. -/
structure Shared (around : Surroundings) (workflow : ClaimedWorkflow)
    (allowed : List ProviderExchange → ProviderCall → Prop)
    (post : List ProviderExchange → Except WorkflowError StoreWrite → Prop) : Prop where
  raises : ∀ past error, post past (.error error)
  fails : ∀ past failure status, status ≠ .succeeded →
    (finishFailure around workflow failure status).Satisfies allowed post past
  stays : ∀ past options, (progress around workflow workflow.stage options).Satisfies allowed post past
  gives : ∀ past stageAttempt error, (exhaust around workflow stageAttempt error).Satisfies allowed post past

variable (shared : Shared around workflow allowed post)
include shared

theorem Shared.fail {failure : FailureValue} : (fail around workflow failure).Satisfies allowed post past :=
  shared.fails past failure .failed (by decide)

theorem Shared.manualReview {failure : FailureValue} :
    (manualReview around workflow failure).Satisfies allowed post past :=
  shared.fails past failure .manualReview (by decide)

/-- The outcome of a mutation fails the workflow or moves it to one of two stages. -/
theorem handleMutationResult_then {result : Option ProviderMutationResult} {acceptedStage synchronousStage : WorkflowStage}
    (accepted : ∀ options, (progress around workflow acceptedStage options).Satisfies allowed post past)
    (synchronous : ∀ options, (progress around workflow synchronousStage options).Satisfies allowed post past) :
    (handleMutationResult host around workflow result acceptedStage synchronousStage).Satisfies allowed post past := by
  unfold handleMutationResult
  split
  next => exact shared.fail
  next result =>
    split
    next => exact shared.manualReview
    next =>
      split
      next => exact shared.fail
      next =>
        split
        next => exact shared.fail
        next resource _ =>
          split
          next =>
            split
            next => exact shared.fail
            next reference _ => exact accepted _
          next =>
            split
            next => exact synchronous _
            next => exact shared.fail

/-- The result of a poll fails the workflow, lets it wait, or moves it on. -/
theorem handleTaskResult_then {response : GetTaskResponse} {successStage : WorkflowStage} {taskReference : String}
    (moves : ∀ options, (progress around workflow successStage options).Satisfies allowed post past) :
    (handleTaskResult host around workflow response successStage taskReference).Satisfies allowed post past := by
  unfold handleTaskResult
  split
  next => exact shared.stays _ _
  next =>
    split
    next => exact moves _
    next =>
      split
      next => exact shared.manualReview
      next => exact shared.fail

/-- A poll fails the workflow, waits, or moves it on. -/
theorem pollTask_then {successStage : WorkflowStage}
    (sends : ∀ call, Sends workflow call → call.mutates = false → allowed past call)
    (moves : ∀ later options, (progress around workflow successStage options).Satisfies allowed post later) :
    (pollTask host around workflow successStage).Satisfies allowed post past := by
  unfold pollTask
  split
  next => exact shared.fail
  next reference _ =>
    refine send_then (sends _ ⟨⟨_, rfl⟩, ?_, ?_, ?_⟩ rfl) shared.raises fun response => ?_
    all_goals first | exact (fun impossible => absurd impossible Bool.false_ne_true) | skip
    exact handleTaskResult_then shared fun _ => moves _ _

/-- A transport failure fails the workflow, lets it wait, or gives it up. -/
theorem handleProviderError_then {error : ProviderTransportError} :
    (handleProviderError around workflow error).Satisfies allowed post past := by
  unfold handleProviderError
  split
  next => exact shared.manualReview
  next =>
    split
    next =>
      unfold retryOrDeadLetter
      dsimp only
      split
      next => exact shared.gives _ _ _
      next =>
        split
        next => exact shared.raises _ _
        next => exact shared.stays _ _
    next => exact shared.fail

/-- A claim does what its capability does, or classifies the transport failure. -/
theorem runClaimed_then (executes : (execute host around workflow).Satisfies allowed post past) :
    (runClaimed host around workflow).Satisfies allowed post past := by
  refine satisfies_catching executes (fun _ _ ended => ended) fun later error _ => ?_
  cases error with
  | transport error => exact handleProviderError_then shared
  | defect message => exact shared.raises _ _

end

/-! ### Rules for fitting writes -/

/-- A program that makes only the workflow's own calls and ends in a fitting write. -/
abbrev Keeps (around : Surroundings) (workflow : ClaimedWorkflow) (p : Saga StoreWrite)
    (past : List ProviderExchange) : Prop :=
  p.Satisfies (fun _ call => Sends workflow call) (fun _ ended => ∀ write, ended = .ok write → Fits around workflow write)
    past

/-- A transition that raises has written nothing. -/
theorem nothing_written (error : WorkflowError) :
    ∀ write, (.error error : Except WorkflowError StoreWrite) = .ok write → Fits around workflow write :=
  fun _ impossible => nomatch impossible

theorem progress_keeps {stage : WorkflowStage} {options : ProgressOptions}
    (follows : stage = workflow.stage ∨ stage ∈ successors workflow.command.data.action workflow.stage) :
    Keeps around workflow (progress around workflow stage options) past := by
  rintro write ⟨⟩
  exact ⟨rfl, rfl, .moved follows rfl⟩

theorem shared_keeps : Shared around workflow (fun _ call => Sends workflow call)
    (fun _ ended => ∀ write, ended = .ok write → Fits around workflow write) where
  raises _ := nothing_written
  fails past failure status notDone := by
    rintro write ⟨⟩
    exact ⟨rfl, rfl, .failed failure notDone rfl⟩
  stays past options := progress_keeps (.inl rfl)
  gives past stageAttempt error := by
    rintro write ⟨⟩
    exact ⟨rfl, rfl, .exhausted rfl rfl⟩

theorem fail_keeps {failure : FailureValue} : Keeps around workflow (fail around workflow failure) past :=
  shared_keeps.fail

theorem manualReview_keeps {failure : FailureValue} : Keeps around workflow (manualReview around workflow failure) past :=
  shared_keeps.manualReview

theorem succeed_keeps {lifecycleState : LifecycleState} {observed : Option ObservedState}
    (final : lifecycleState = finalLifecycle workflow.command.data.action) :
    Keeps around workflow (succeed around workflow lifecycleState observed) past := by
  refine requiredResource_then nothing_written fun resource => ?_
  rintro write ⟨⟩
  exact ⟨rfl, rfl, .succeeded _ _ _ rfl (by rw [final])⟩

theorem handleMutationResult_keeps {result : Option ProviderMutationResult} {acceptedStage synchronousStage : WorkflowStage}
    (follows : successors workflow.command.data.action workflow.stage = [acceptedStage, synchronousStage]) :
    Keeps around workflow (handleMutationResult host around workflow result acceptedStage synchronousStage) past :=
  handleMutationResult_then shared_keeps (fun _ => progress_keeps (.inr (by simp [follows])))
    fun _ => progress_keeps (.inr (by simp [follows]))

theorem handleTaskResult_keeps {response : GetTaskResponse} {successStage : WorkflowStage} {taskReference : String}
    (follows : successors workflow.command.data.action workflow.stage = [successStage]) :
    Keeps around workflow (handleTaskResult host around workflow response successStage taskReference) past :=
  handleTaskResult_then shared_keeps fun _ => progress_keeps (.inr (by simp [follows]))

/-- A call that nests the workflow's own request. -/
theorem sends_request {call : ProviderCall} {request : InstanceMutationRequest} {step : String}
    (nested : call.request = some request) (presented : request.context = some (context workflow step))
    (marked : request.expectedOwnershipMarkers = some (ownership workflow))
    (stage : call.mutates = true → workflow.stage ∈ mutationStages workflow.command.data.action)
    (purge : call.purges = true → workflow.command.data.action = .purgeInstance) : Sends workflow call := by
  refine ⟨⟨step, ?_⟩, fun _ => ?_, stage, purge⟩
  · cases call <;> simp_all [ProviderCall.request, ProviderCall.context]
  · cases call <;> simp_all [ProviderCall.request, ProviderCall.markers]

/-- What a program that fits ends with fits. -/
theorem keeps_done {p : Saga StoreWrite} {write : StoreWrite} (keeps : Keeps around workflow p [])
    (ends : p = .done write) : Fits around workflow write := by
  subst ends
  exact keeps write rfl

end

end ControlPlane.SagaRules
