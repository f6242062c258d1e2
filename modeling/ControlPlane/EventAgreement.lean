import ControlPlane.Provenance
import ControlPlane.ProjectionConsumer

/-!
The agreement of orchestrator and projection on workflow events. A workflow
copies what its provider says into the event of its write, and the projection
bounds every part of an event. So an event of a claim is narrowed exactly when
what the provider answered fits the contract (`conveyable`): its failure, its
task reference, and, where the answer ends the workflow well, the sizes it
measured and the resource that the workflow addressed.
-/
namespace ControlPlane.EventAgreement
open ControlPlane.Programs ControlPlane.Programs.Program ControlPlane.Tables ControlPlane.Runs ControlPlane.Texts
open ControlPlane.Domain ControlPlane.Commands ControlPlane.EventValidation ControlPlane.WorkflowSchema
open ControlPlane.WorkflowStore ControlPlane.StoreRules
open ControlPlane.ProviderPort ControlPlane.LifecycleWorkflow ControlPlane.SagaRules ControlPlane.Transitions
open ControlPlane.Orchestrator ControlPlane.Custody ControlPlane.Provenance ControlPlane.KafkaConsumer
open ControlPlane.ControlSchema ControlPlane.ProjectionStore ControlPlane.ProjectionConsumer
open ControlPlane.Fencing (StoreCall called_next)

/-! ### What fits the contract -/

/-- A failure of the provider within the bounds of an event. What it leaves out
    has a default. -/
def reportable (host : Host) (failure : Option ProviderFailure) : Bool :=
  ((failure.bind ProviderFailure.code).all fun code => stringInRange code 1 80) &&
    ((failure.bind ProviderFailure.safeMessage).all fun message => stringInRange message 0 512) &&
    ((failure.bind ProviderFailure.retryAfterMilliseconds).filter (· ≠ "")).all fun delay =>
      (host.number delay).any fun delay => integerInRange delay 1 86400000

/-- A task reference within the bounds of an event. -/
def nameable (reference : Option String) : Bool := reference.all fun reference => stringInRange reference 0 256

/-- A sizing within the bounds of an event. One without a count of processors is
    left out of it, and in one with a count every size has to be there. -/
def sized (host : Host) (observation : InstanceObservation) : Bool :=
  observation.resources.all fun resources => resources.cpuCount.all fun cpuCount : Nat =>
    integerInRange cpuCount 1 64 &&
      ((resources.memoryMib.bind host.number).any fun memory => integerInRange memory 512 262144) &&
      (resources.diskGib.bind host.number).any fun disk => integerInRange disk 8 2048

/-- Whether a listing has a snapshot of a name. -/
def lists (snapshots : Option (List ProviderSnapshot)) (name : String) : Bool :=
  (snapshots.getD []).any fun snapshot => snapshot.name = some name

/-- Whether an answer shows what a workflow was to achieve. -/
def proves (host : Host) (command : LifecycleCommand) : Reply → Bool
  | .observation observation =>
    match command.data with
    | .create _ => observation.any fun o => owned o && o.powerState = some .running
    | .power data => observation.any fun o =>
        owned o && o.powerState = some (PowerInstanceWorkflow.expectedPowerState data.action)
    | .resize data => observation.any fun o => owned o && !ResizeInstanceWorkflow.disagrees host data o
    | .retention _ => observation.any owned
    | .purge _ => !PurgeInstanceWorkflow.existsIn observation
    | _ => false
  | .listing snapshots =>
    match command.data with
    | .snapshotCreate data => lists snapshots data.name
    | .snapshotRollback _ => true
    | .snapshotDelete data => !lists snapshots data.providerSnapshotReference
    | _ => false
  | _ => false

/-- The sizes of an answer fit wherever a workflow publishes them. -/
def measures (host : Host) (command : LifecycleCommand) : Reply → Bool
  | .observation (some observation) =>
    match command.data with
    | .create _ | .resize _ => sized host observation
    | _ => true
  | _ => true

/-- Whether the event that tells an answer fits the contract. -/
def conveyable (host : Host) (workflow : ClaimedWorkflow) : Reply → Bool
  | .failed _ | .result none => true
  | .result (some result) =>
    if result.state = some .unknown ∨ result.state = some .rejected then reportable host result.failure
    else if result.state = some .accepted then
      ((result.providerResourceId.or workflow.providerResourceId).filter (· ≠ "")).isNone ||
        nameable result.providerTaskReference
    else true
  | .task response =>
    if response.state = some .queued ∨ response.state = some .running then nameable workflow.providerTaskReference
    else if response.state = some .succeeded ∨ response.state = some .unknown then true
    else reportable host response.failure
  | told =>
    !proves host workflow.command told ||
      ((address workflow).all fun resource => stringInRange resource 1 128) && measures host workflow.command told

/-- Every answer of a conversation fits. -/
def Conveyable (host : Host) (workflow : ClaimedWorkflow) (past : List ProviderExchange) : Prop :=
  ∀ exchange ∈ past, conveyable host workflow (reply exchange) = true

instance (host : Host) (workflow : ClaimedWorkflow) (past : List ProviderExchange) :
    Decidable (Conveyable host workflow past) := inferInstanceAs (Decidable (∀ _ ∈ _, _))

section
variable {host : Host} {around : Surroundings} {workflow : ClaimedWorkflow}

/-- A failure that is written in the program is valid when its texts are. -/
theorem written_valid {category : ErrorCategory} {code safeMessage : List Char}
    (coded : 1 ≤ (code.map fun c => if c.val > 0xFFFF then 2 else 1).sum ∧
      (code.map fun c => if c.val > 0xFFFF then 2 else 1).sum ≤ 80)
    (told : 0 ≤ (safeMessage.map fun c => if c.val > 0xFFFF then 2 else 1).sum ∧
      (safeMessage.map fun c => if c.val > 0xFFFF then 2 else 1).sum ≤ 512) :
    EventValidation.failureValue
      { category := category, code := String.ofList code, safeMessage := String.ofList safeMessage } = true := by
  simp only [EventValidation.failureValue, stringInRange_ofList coded, stringInRange_ofList told]
  rfl

/-- A failure in contract form is valid when the provider's own is. -/
theorem failureValue_valid {failure : Option ProviderFailure} {defaultCode : String}
    (known : stringInRange defaultCode 1 80 = true) :
    EventValidation.failureValue (LifecycleWorkflow.failureValue host failure defaultCode) =
      reportable host failure := by
  have spoken : stringInRange "The provider operation failed." 0 512 = true := stringInRange_ofList (by decide)
  simp only [EventValidation.failureValue, LifecycleWorkflow.failureValue, reportable]
  generalize failure.bind ProviderFailure.code = code
  generalize failure.bind ProviderFailure.safeMessage = message
  generalize (failure.bind ProviderFailure.retryAfterMilliseconds).filter (· ≠ "") = delay
  have coded : stringInRange (code.getD defaultCode) 1 80 = code.all fun code => stringInRange code 1 80 := by
    cases code with
    | none => exact known
    | some _ => rfl
  have told : stringInRange (message.getD "The provider operation failed.") 0 512 =
      message.all fun message => stringInRange message 0 512 := by
    cases message with
    | none => exact spoken
    | some _ => rfl
  rw [coded, told, Option.all_map]

/-- The sizes that a workflow measured are valid when the observation's are. -/
theorem measuredResources_valid (observation : InstanceObservation) :
    (measuredResources host observation).all isMeasured = sized host observation := by
  unfold measuredResources sized
  cases observation.resources with
  | none => rfl
  | some resources =>
    cases named : resources.cpuCount with
    | none => simp [named]
    | some cpuCount => simp [named, isMeasured]

/-! ### The events of a claim, by their data -/

theorem supported_progressed {stage : WorkflowStage} {attempt : Nat} {state : OperationState}
    {reference : Option String} {nextActionAt : Option Instant} (counted : positiveInteger attempt = true)
    (going : state = .running ∨ state = .retryWait) :
    isSupported { envelope around workflow with data := .progressed stage attempt state reference nextActionAt } =
      nameable reference := by
  rcases going with rfl | rfl <;>
    simp [isSupported, isWorkflowProgressed, isInstanceMutationCompleted, isInstanceMutationFailed,
      isProvisioningReplayResolved, envelope, counted, nameable]

theorem supported_failed {action : WorkflowAction} {failure : FailureValue} {compensation : CompensationState} :
    isSupported { envelope around workflow with data := .failed action failure compensation } =
      EventValidation.failureValue failure := by
  simp [isSupported, isWorkflowProgressed, isInstanceMutationCompleted, isInstanceMutationFailed,
    isProvisioningReplayResolved, envelope]

theorem supported_completed {action : WorkflowAction} {lifecycleState : LifecycleState} {resource : String}
    {evidenceId : Uuid} {observed : Option ObservedState} (known : isInstanceLifecycleState lifecycleState = true)
    (drawn : isUuidText evidenceId = true) :
    isSupported { envelope around workflow with
      data := .completed action lifecycleState (some resource) evidenceId observed } =
      (stringInRange resource 1 128 && observed.all fun observed => observed.resources.all isMeasured) := by
  simp [isSupported, isWorkflowProgressed, isInstanceMutationCompleted, isInstanceMutationFailed,
    isProvisioningReplayResolved, envelope, known, drawn]

/-! ### The shared classifications -/

theorem finishFailure_supported {failure : FailureValue} {status : FinalStatus} {write : StoreWrite}
    (ends : finishFailure around workflow failure status = .done write) :
    isSupported write.event = EventValidation.failureValue failure := by
  cases ends
  exact supported_failed

section
variable (counted : positiveInteger workflow.attempt = true)
include counted

theorem progress_supported {stage : WorkflowStage} {options : ProgressOptions} {write : StoreWrite}
    (going : options.operationState = .running ∨ options.operationState = .retryWait)
    (ends : progress around workflow stage options = .done write) :
    isSupported write.event = nameable options.providerTaskReference.join := by
  cases ends
  exact supported_progressed counted going

theorem result_supported {result : Option ProviderMutationResult} {acceptedStage synchronousStage : WorkflowStage}
    {write : StoreWrite}
    (ends : handleMutationResult host around workflow result acceptedStage synchronousStage = .done write) :
    isSupported write.event = conveyable host workflow (.result result) := by
  have fixed {failure : FailureValue} (valid : EventValidation.failureValue failure = true)
      (ends : fail around workflow failure = .done write) : isSupported write.event = true := by
    rw [finishFailure_supported ends, valid]
  cases result with
  | none => exact fixed (written_valid (by decide) (by decide)) ends
  | some result =>
    simp only [handleMutationResult] at ends
    simp only [conveyable]
    by_cases unknown : result.state = some .unknown
    · rw [if_pos unknown] at ends
      rw [if_pos (.inl unknown), finishFailure_supported ends, failureValue_valid (stringInRange_ofList (by decide))]
    · rw [if_neg unknown] at ends
      by_cases rejected : result.state = some .rejected
      · rw [if_pos rejected] at ends
        rw [if_pos (.inr rejected), finishFailure_supported ends, failureValue_valid (stringInRange_ofList (by decide))]
      · rw [if_neg rejected] at ends
        rw [if_neg (by simp [unknown, rejected])]
        cases resource : (result.providerResourceId.or workflow.providerResourceId).filter (· ≠ "") with
        | none =>
          simp only [resource] at ends
          rw [fixed (written_valid (by decide) (by decide)) ends]
          simp
        | some resourceId =>
          simp only [resource] at ends
          by_cases accepted : result.state = some .accepted
          · rw [if_pos accepted] at ends ⊢
            cases task : result.providerTaskReference.filter (· ≠ "") with
            | none =>
              -- A blank reference is no reference, and fits.
              simp only [task] at ends
              rw [fixed (written_valid (by decide) (by decide)) ends]
              cases given : result.providerTaskReference with
              | none => rfl
              | some reference =>
                have blank : reference = "" := by simpa [given, Option.filter] using task
                subst blank
                have fits : nameable (some "") = true := by decide
                rw [fits, Bool.or_true]
            | some taskReference =>
              simp only [task] at ends
              rw [progress_supported counted (.inl rfl) ends, (Option.filter_eq_some_iff.mp task).1]
              rfl
          · rw [if_neg accepted] at ends ⊢
            by_cases succeeded : result.state = some .succeeded
            · rw [if_pos succeeded] at ends
              exact progress_supported counted (.inl rfl) ends
            · rw [if_neg succeeded] at ends
              exact fixed (written_valid (by decide) (by decide)) ends

theorem task_supported {response : GetTaskResponse} {successStage : WorkflowStage} {taskReference : String}
    {write : StoreWrite} (tracked : handle workflow = some taskReference)
    (ends : handleTaskResult host around workflow response successStage taskReference = .done write) :
    isSupported write.event = conveyable host workflow (.task response) := by
  simp only [handleTaskResult] at ends
  simp only [conveyable]
  by_cases waiting : response.state = some .queued ∨ response.state = some .running
  · rw [if_pos waiting] at ends ⊢
    rw [progress_supported counted (.inl rfl) ends, (Option.filter_eq_some_iff.mp tracked).1]
    rfl
  · rw [if_neg waiting] at ends ⊢
    by_cases succeeded : response.state = some .succeeded
    · rw [if_pos succeeded] at ends
      rw [if_pos (.inl succeeded)]
      exact progress_supported counted (.inl rfl) ends
    · rw [if_neg succeeded] at ends
      by_cases unknown : response.state = some .unknown
      · rw [if_pos unknown] at ends
        rw [if_pos (.inr unknown), finishFailure_supported ends]
        exact written_valid (by decide) (by decide)
      · rw [if_neg unknown] at ends
        rw [if_neg (by simp [succeeded, unknown]), finishFailure_supported ends, failureValue_valid (stringInRange_ofList (by decide))]

/-- What a failed transport ends in has fixed texts. -/
theorem caught_supported {error : ProviderTransportError} {write : StoreWrite}
    (ends : handleProviderError around workflow error = .done write) : isSupported write.event = true := by
  have fixed {failure : FailureValue} {status : FinalStatus} (valid : EventValidation.failureValue failure = true)
      (ends : finishFailure around workflow failure status = .done write) : isSupported write.event = true := by
    rw [finishFailure_supported ends, valid]
  unfold handleProviderError at ends
  split at ends
  next =>
    refine fixed ?_ ends
    have shouted : stringInRange ("PROVIDER_" ++ toUpperCase error.code.text) 1 80 = true := by
      cases error.code <;> decide
    simp only [EventValidation.failureValue, shouted, Bool.true_and]
    exact Bool.and_eq_true_iff.mpr ⟨stringInRange_ofList (by decide), rfl⟩
  next =>
    split at ends
    next =>
      simp only [retryOrDeadLetter] at ends
      split at ends
      next =>
        cases ends
        have valid : EventValidation.failureValue
            { category := .transient, code := "WORKFLOW_RETRY_EXHAUSTED",
              safeMessage := "The provider remained unavailable until the workflow retry policy expired." } = true :=
          written_valid (by decide) (by decide)
        exact supported_failed.trans valid
      next =>
        split at ends
        next => cases ends
        next => exact progress_supported counted (.inr rfl) ends
    next => exact fixed (written_valid (by decide) (by decide)) ends

end

/-! ### What is read -/

/-- A claim that read what is there ends with an event that is narrowed exactly
    when its reading fits. -/
def Tells (host : Host) (workflow : ClaimedWorkflow) (past : List ProviderExchange)
    (ended : Except WorkflowError StoreWrite) : Prop :=
  ∀ exchange, past = [exchange] → (reply exchange).describes = true →
    ∃ write, ended = .ok write ∧ isSupported write.event = conveyable host workflow (reply exchange)

/-- A program that tells, from the conversation `past` on. -/
abbrev Telling (host : Host) (workflow : ClaimedWorkflow) (p : Saga StoreWrite) (past : List ProviderExchange) : Prop :=
  p.Satisfies (fun _ _ => True) (Tells host workflow) past

theorem tells_quiet {ended : Except WorkflowError StoreWrite} : Tells host workflow [] ended :=
  fun _ impossible => nomatch impossible

theorem conveyable_describes {told : Reply} (describes : told.describes = true) :
    conveyable host workflow told =
      (!proves host workflow.command told ||
        ((address workflow).all fun resource => stringInRange resource 1 128) &&
          measures host workflow.command told) := by
  cases told <;> first | rfl | cases describes

theorem requiredResource_missing (absent : address workflow = none) :
    ∃ error, requiredResource workflow = .raise error := by
  unfold requiredResource
  split
  next resource found =>
    split
    next => exact ⟨_, rfl⟩
    next filled => simp [address, found, filled] at absent
  next => exact ⟨_, rfl⟩

theorem instanceRequest_telling {step : String} {f : InstanceMutationRequest → Saga StoreWrite}
    (present : ∀ request resource, address workflow = some resource → Telling host workflow (f request) []) :
    Telling host workflow (instanceRequest workflow step >>= f) [] := by
  unfold instanceRequest
  rw [Telling, bind_assoc]
  cases found : address workflow with
  | none =>
    obtain ⟨error, missing⟩ := requiredResource_missing found
    rw [missing]
    exact tells_quiet
  | some resource =>
    rw [requiredResource_address found]
    exact present _ resource found

theorem send_telling {call : ProviderCall} {f : call.Response → Saga StoreWrite}
    (answered : ∀ response, Telling host workflow (f response) [⟨call, .ok response⟩]) :
    Telling host workflow (send call >>= f) [] := by
  refine ⟨trivial, fun answer => ?_⟩
  cases answer with
  | error error =>
    intro exchange same describes
    cases same
    cases call <;> cases describes
  | ok response => exact answered response

theorem observation_telling {step : String} {f : Option InstanceObservation → Saga StoreWrite}
    (answered : ∀ request resource observation, address workflow = some resource →
      Telling host workflow (f observation) [⟨.observeInstance request, .ok observation⟩]) :
    Telling host workflow (observeInstance workflow step >>= f) [] := by
  unfold observeInstance
  rw [Telling, bind_assoc]
  refine instanceRequest_telling fun request resource found => ?_
  exact send_telling fun observation => answered request resource observation found

section
variable {exchange : ProviderExchange} (describes : (reply exchange).describes = true)
include describes

theorem manualReview_telling {failure : FailureValue} (doubted : proves host workflow.command (reply exchange) = false)
    (valid : EventValidation.failureValue failure = true) :
    Telling host workflow (manualReview around workflow failure) [exchange] := by
  intro again same _
  cases same
  refine ⟨_, rfl, ?_⟩
  rw [conveyable_describes describes, doubted]
  exact supported_failed.trans valid

theorem succeed_telling {lifecycleState : LifecycleState} {observed : Option ObservedState} {resource : String}
    (drawn : isUuidText (around.fresh 1) = true) (found : address workflow = some resource)
    (known : isInstanceLifecycleState lifecycleState = true)
    (proof : proves host workflow.command (reply exchange) = true)
    (measured : (observed.all fun observed => observed.resources.all isMeasured) =
      measures host workflow.command (reply exchange)) :
    Telling host workflow (succeed around workflow lifecycleState observed) [exchange] := by
  unfold succeed
  rw [requiredResource_address found]
  intro again same _
  cases same
  refine ⟨_, rfl, ?_⟩
  rw [conveyable_describes describes, proof, found, ← measured]
  exact supported_completed known drawn

end

/-! ### The capabilities, where they read -/

section
variable (drawn : isUuidText (around.fresh 1) = true)
include drawn

theorem create_telling {data : CreateData} (isCreate : workflow.command.data = .create data)
    (stage : workflow.stage = .observing) :
    Telling host workflow (CreateInstanceWorkflow.execute host around workflow data) [] := by
  simp only [CreateInstanceWorkflow.execute, stage, CreateInstanceWorkflow.observe]
  refine observation_telling fun request resource observation found => ?_
  have told : proves host workflow.command (.observation observation) =
      observation.any fun o => owned o && o.powerState = some .running := by simp only [proves, isCreate]
  cases seen : observation.filter fun o => owned o && o.powerState = some .running with
  | none =>
    refine manualReview_telling rfl (told.trans ?_) (written_valid (by decide) (by decide))
    rw [← Option.isSome_filter, seen]
    rfl
  | some shown =>
    obtain ⟨rfl, running⟩ := Option.filter_eq_some_iff.mp seen
    refine succeed_telling rfl drawn found rfl (told.trans running) ?_
    exact (measuredResources_valid shown).trans (by simp only [reply, measures, isCreate])

theorem power_telling {data : PowerData} (isPower : workflow.command.data = .power data)
    (stage : workflow.stage = .observingPower) :
    Telling host workflow (PowerInstanceWorkflow.execute host around workflow data) [] := by
  simp only [PowerInstanceWorkflow.execute, submitPollObserve, stage, PowerInstanceWorkflow.observePower]
  refine observation_telling fun request resource observation found => ?_
  have told : proves host workflow.command (.observation observation) = observation.any fun o =>
      owned o && o.powerState = some (PowerInstanceWorkflow.expectedPowerState data.action) := by
    simp only [proves, isPower]
  cases seen : observation.filter owned with
  | none =>
    refine manualReview_telling rfl (told.trans ?_) (written_valid (by decide) (by decide))
    cases observation with
    | none => rfl
    | some o =>
      have foreign : owned o = false := by simpa [Option.filter] using seen
      simp [foreign]
  | some shown =>
    obtain ⟨rfl, own⟩ := Option.filter_eq_some_iff.mp seen
    by_cases reached : shown.powerState = some (PowerInstanceWorkflow.expectedPowerState data.action)
    · simp only [reached, ne_eq, not_true, if_false]
      refine succeed_telling rfl drawn found rfl (told.trans (by simp [own, reached])) ?_
      simp only [reply, measures, isPower]
      rfl
    · simp only [ne_eq, reached, not_false_eq_true, if_true]
      exact manualReview_telling rfl (told.trans (by simp [reached])) (written_valid (by decide) (by decide))

theorem resize_telling {data : ResizeData} (isResize : workflow.command.data = .resize data)
    (stage : workflow.stage = .observingResize) :
    Telling host workflow (ResizeInstanceWorkflow.execute host around workflow data) [] := by
  simp only [ResizeInstanceWorkflow.execute, submitPollObserve, stage, ResizeInstanceWorkflow.observeResize]
  refine observation_telling fun request resource observation found => ?_
  have told : proves host workflow.command (.observation observation) = observation.any fun o =>
      owned o && !ResizeInstanceWorkflow.disagrees host data o := by simp only [proves, isResize]
  cases seen : observation.filter owned with
  | none =>
    refine manualReview_telling rfl (told.trans ?_) (written_valid (by decide) (by decide))
    cases observation with
    | none => rfl
    | some o =>
      have foreign : owned o = false := by simpa [Option.filter] using seen
      simp [foreign]
  | some shown =>
    obtain ⟨rfl, own⟩ := Option.filter_eq_some_iff.mp seen
    by_cases differs : ResizeInstanceWorkflow.disagrees host data shown = true
    · simp only [differs, if_true]
      exact manualReview_telling rfl (told.trans (by simp [differs])) (written_valid (by decide) (by decide))
    · simp only [differs, Bool.false_eq_true, if_false]
      refine succeed_telling rfl drawn found rfl (told.trans (by simp [own, differs])) ?_
      exact (measuredResources_valid shown).trans (by simp only [reply, measures, isResize])

theorem snapshot_telling {expectedName : String} {satisfied : Bool → Bool}
    (told : ∀ snapshots, proves host workflow.command (.listing snapshots) = satisfied (lists snapshots expectedName)) :
    Telling host workflow (SnapshotWorkflow.observeSnapshot around workflow expectedName satisfied) [] := by
  refine instanceRequest_telling fun request resource found => ?_
  refine send_telling fun snapshots => ?_
  cases listed : satisfied (lists snapshots expectedName) with
  | true =>
    simp only [lists] at listed
    simp only [listed, if_true]
    exact succeed_telling rfl drawn found rfl ((told snapshots).trans listed) rfl
  | false =>
    simp only [lists] at listed
    simp only [listed]
    exact manualReview_telling rfl ((told snapshots).trans listed) (written_valid (by decide) (by decide))

theorem retention_telling {data : RetentionData} (isRetention : workflow.command.data = .retention data)
    (stage : workflow.stage = .observingRetention) :
    Telling host workflow (RetainInstanceWorkflow.execute host around workflow data) [] := by
  simp only [RetainInstanceWorkflow.execute, submitPollObserve, stage, RetainInstanceWorkflow.observeRetention]
  refine observation_telling fun request resource observation found => ?_
  have told : proves host workflow.command (.observation observation) = observation.any owned := by
    simp only [proves, isRetention]
  cases seen : observation.filter owned with
  | none =>
    refine manualReview_telling rfl (told.trans ?_) (written_valid (by decide) (by decide))
    rw [← Option.isSome_filter, seen]
    rfl
  | some shown =>
    obtain ⟨rfl, own⟩ := Option.filter_eq_some_iff.mp seen
    refine succeed_telling rfl drawn found rfl (told.trans own) ?_
    simp only [reply, measures, isRetention]
    rfl

theorem purge_telling {data : PurgeData} (counted : positiveInteger workflow.attempt = true)
    (isPurge : workflow.command.data = .purge data)
    (stage : workflow.stage = .verifyingPurge ∨ workflow.stage = .observingPurge) :
    Telling host workflow (PurgeInstanceWorkflow.execute host around workflow data) [] := by
  have told (observation : Option InstanceObservation) : proves host workflow.command (.observation observation) =
      !PurgeInstanceWorkflow.existsIn observation := by simp only [proves, isPurge]
  have gone {request : InstanceMutationRequest} {resource : String} {observation : Option InstanceObservation}
      (found : address workflow = some resource) (absent : PurgeInstanceWorkflow.existsIn observation = false) :
      Telling host workflow (PurgeInstanceWorkflow.completePurge around workflow)
        [⟨.observeInstance request, .ok observation⟩] := by
    refine succeed_telling rfl drawn found rfl ((told observation).trans (by simp [absent])) ?_
    cases observation with
    | none => rfl
    | some _ => simp only [reply, measures, isPurge]; rfl
  rcases stage with stage | stage
  · simp only [PurgeInstanceWorkflow.execute, stage, PurgeInstanceWorkflow.verifyOwnership]
    refine observation_telling fun request resource observation found => ?_
    cases present : PurgeInstanceWorkflow.existsIn observation with
    | false => exact gone found present
    | true =>
      have unproved : proves host workflow.command (.observation observation) = false := by rw [told, present]; rfl
      simp only [Bool.not_true, Bool.false_eq_true, if_false]
      split
      next => exact manualReview_telling rfl unproved (written_valid (by decide) (by decide))
      next =>
        -- An instance that is there and ours is purged, and its verification says so.
        intro exchange same describes
        cases same
        refine ⟨_, rfl, ?_⟩
        rw [conveyable_describes describes]
        simp only [reply] at unproved ⊢
        rw [unproved]
        exact @progress_supported around workflow counted .submittingPurge {} _ (.inl rfl) rfl
  · simp only [PurgeInstanceWorkflow.execute, stage, PurgeInstanceWorkflow.observeAbsence]
    refine observation_telling fun request resource observation found => ?_
    cases present : PurgeInstanceWorkflow.existsIn observation with
    | false => exact gone found present
    | true => exact manualReview_telling rfl ((told observation).trans (by simp [present])) (written_valid (by decide) (by decide))

/-- A claim at a stage that reads tells what it read. -/
theorem execute_telling (counted : positiveInteger workflow.attempt = true)
    (stage : workflow.stage ∈ observingStages workflow.command.data.action) :
    Telling host workflow (LifecycleWorkflow.execute host around workflow) [] := by
  unfold LifecycleWorkflow.execute
  cases kind : workflow.command.data with
  | create data =>
    rw [kind] at stage
    exact create_telling drawn kind (List.mem_singleton.mp stage)
  | power data =>
    rw [kind] at stage
    exact power_telling drawn kind (List.mem_singleton.mp stage)
  | resize data =>
    rw [kind] at stage
    exact resize_telling drawn kind (List.mem_singleton.mp stage)
  | snapshotCreate data =>
    rw [kind] at stage
    simp only [SnapshotWorkflow.executeCreate, submitPollObserve, List.mem_singleton.mp stage]
    exact snapshot_telling drawn fun snapshots => by simp only [proves, kind]; rfl
  | snapshotRollback data =>
    rw [kind] at stage
    simp only [SnapshotWorkflow.executeRollback, submitPollObserve, List.mem_singleton.mp stage]
    show Telling host workflow
      (SnapshotWorkflow.observeSnapshot around workflow data.providerSnapshotReference fun _ => true) []
    exact snapshot_telling drawn fun snapshots => by simp only [proves, kind]
  | snapshotDelete data =>
    rw [kind] at stage
    simp only [SnapshotWorkflow.executeDelete, submitPollObserve, List.mem_singleton.mp stage]
    exact snapshot_telling drawn fun snapshots => by simp only [proves, kind]
  | retention data =>
    rw [kind] at stage
    exact retention_telling drawn kind (List.mem_singleton.mp stage)
  | purge data =>
    rw [kind] at stage
    have either : workflow.stage = .verifyingPurge ∨ workflow.stage = .observingPurge := by
      simpa [CommandData.action, observingStages] using stage
    exact purge_telling drawn counted kind either

end

/-! ### One claim -/

/-- A claim at a stage where it neither calls nor waits ends with fixed texts. -/
theorem execute_silent (counted : positiveInteger workflow.attempt = true)
    (mutation : workflow.stage ∉ mutationStages workflow.command.data.action)
    (polling : workflow.stage ∉ pollingStages workflow.command.data.action)
    (observing : workflow.stage ∉ observingStages workflow.command.data.action) :
    ∃ write, LifecycleWorkflow.execute host around workflow = .done write ∧ isSupported write.event = true := by
  have goes {stage : WorkflowStage} :
      ∃ write, progress around workflow stage {} = .done write ∧ isSupported write.event = true :=
    ⟨_, rfl, @progress_supported around workflow counted stage {} _ (.inl rfl) rfl⟩
  have refuses {message : String} (short : stringInRange message 0 512 = true) :
      ∃ write, stageNotSupported around workflow message = .done write ∧ isSupported write.event = true := by
    refine ⟨_, rfl, supported_failed.trans ?_⟩
    have coded : stringInRange "WORKFLOW_STAGE_INVALID" 1 80 = true := stringInRange_ofList (by decide)
    simp [EventValidation.failureValue, coded, short]
  have table {submitStage pollStage observeStage : WorkflowStage} {submit observe : Saga StoreWrite}
      (apart : workflow.stage ≠ submitStage ∧ workflow.stage ≠ pollStage ∧ workflow.stage ≠ observeStage) :
      ∃ write, submitPollObserve host around workflow submitStage pollStage observeStage submit observe =
        .done write ∧ isSupported write.event = true := by
    unfold submitPollObserve
    rw [if_neg apart.1, if_neg apart.2.1, if_neg apart.2.2]
    by_cases accepted : workflow.stage = .accepted
    · rw [if_pos accepted]; exact goes
    · rw [if_neg accepted]; exact refuses (stringInRange_ofList (by decide))
  unfold LifecycleWorkflow.execute
  cases kind : workflow.command.data with
  | create data =>
    simp only [kind, CommandData.action, mutationStages, pollingStages, observingStages, List.mem_cons,
      List.not_mem_nil, or_false, not_or] at mutation polling observing
    dsimp only
    unfold CreateInstanceWorkflow.execute
    split
    next => exact goes
    all_goals first | exact refuses (stringInRange_ofList (by decide)) | simp_all
  | purge data =>
    simp only [kind, CommandData.action, mutationStages, pollingStages, observingStages, List.mem_cons,
      List.not_mem_nil, or_false, not_or] at mutation polling observing
    dsimp only
    unfold PurgeInstanceWorkflow.execute
    split
    next => exact goes
    all_goals first | exact refuses (stringInRange_ofList (by decide)) | simp_all
  | _ data =>
    rw [kind] at mutation polling observing
    exact table ⟨fun same => mutation (same ▸ List.mem_singleton_self _),
      fun same => polling (same ▸ List.mem_singleton_self _), fun same => observing (same ▸ List.mem_singleton_self _)⟩

/-- A claim that counts ends with an event that is narrowed exactly when the
    provider's answers fit. -/
def Agrees (host : Host) (workflow : ClaimedWorkflow) (past : List ProviderExchange)
    (ended : Except WorkflowError StoreWrite) : Prop :=
  positiveInteger workflow.attempt = true →
    ∀ write, ended = .ok write → (isSupported write.event = true ↔ Conveyable host workflow past)

theorem conveyable_single {exchange : ProviderExchange} :
    Conveyable host workflow [exchange] ↔ conveyable host workflow (reply exchange) = true := by simp [Conveyable]

theorem runClaimed_telling (counted : positiveInteger workflow.attempt = true)
    (drawn : isUuidText (around.fresh 1) = true)
    (stage : workflow.stage ∈ observingStages workflow.command.data.action) :
    Telling host workflow (runClaimed host around workflow) [] := by
  refine satisfies_catching (execute_telling drawn counted stage) (fun _ _ tells => tells) fun later error tells => ?_
  -- What was read ends a claim, so nothing is raised after it.
  have unread (ended : Except WorkflowError StoreWrite) : Tells host workflow later ended := fun exchange same describes => by
    obtain ⟨write, impossible, -⟩ := tells exchange same describes
    cases impossible
  cases error with
  | transport error => exact satisfies_finished (handleProviderError_finished error) fun ended _ => unread ended
  | defect message => exact unread _

theorem transition_agrees {past : List ProviderExchange} {ended : Except WorkflowError StoreWrite}
    (spoken : ¬ (workflow.stage ∉ mutationStages workflow.command.data.action ∧
      workflow.stage ∉ pollingStages workflow.command.data.action ∧
      workflow.stage ∉ observingStages workflow.command.data.action))
    (transition : Transition host around workflow past ended)
    (tells : workflow.stage ∈ observingStages workflow.command.data.action → Tells host workflow past ended) :
    Agrees host workflow past ended := by
  rintro counted write rfl
  have read {exchange : ProviderExchange} (observing : workflow.stage ∈ observingStages workflow.command.data.action)
      (describes : (reply exchange).describes = true) (same : past = [exchange]) :
      isSupported write.event = true ↔ Conveyable host workflow past := by
    obtain ⟨other, ends, told⟩ := tells observing exchange same describes
    cases ends
    rw [same, conveyable_single, told]
  cases transition with
  | through executed =>
    cases executed with
    | advanced accepted ends =>
      rw [progress_supported counted (.inl rfl) ends]
      simp [Conveyable, nameable]
    | unsupported mutation polling observing _ => exact absurd ⟨mutation, polling, observing⟩ spoken
    | untracked _ _ ends =>
      rw [finishFailure_supported ends]
      simp only [Conveyable, List.not_mem_nil, false_implies, implies_true, iff_true]
      exact written_valid (by decide) (by decide)
    | mutated _ _ said _ ends => rw [conveyable_single, said, result_supported counted ends]
    | polled _ _ tracked said _ ends => rw [conveyable_single, said, task_supported counted tracked ends]
    | reviewed _ describes observing _ => exact read observing describes rfl
    | confirmed _ describes observing _ => exact read observing describes rfl
    | verified _ describes purge stage _ => exact read (by rw [purge, stage]; decide) describes rfl
  | caught executed ends =>
    rw [caught_supported counted ends]
    cases executed with
    | unaddressed => simp [Conveyable]
    | interrupted _ said => simp [conveyable_single, said, conveyable]

/-- Whatever the provider answers, a claim agrees with the projection. -/
theorem runClaimed_agrees (drawn : isUuidText (around.fresh 1) = true) :
    (runClaimed host around workflow).Satisfies (fun _ _ => True) (Agrees host workflow) [] := by
  have goes : (runClaimed host around workflow).Satisfies (fun past call => past = [] ∧ Asks workflow call)
      (Transition host around workflow) [] := runClaimed_transition
  by_cases counted : positiveInteger workflow.attempt = true
  · by_cases silent : workflow.stage ∉ mutationStages workflow.command.data.action ∧
      workflow.stage ∉ pollingStages workflow.command.data.action ∧
      workflow.stage ∉ observingStages workflow.command.data.action
    · obtain ⟨write, ends, supported⟩ := @execute_silent host around workflow counted silent.1 silent.2.1 silent.2.2
      unfold runClaimed
      rw [ends]
      rintro - other same
      cases same
      simp [supported, Conveyable]
    · by_cases observing : workflow.stage ∈ observingStages workflow.command.data.action
      · exact (goes.both (runClaimed_telling counted drawn observing)).weaken (fun _ _ _ => trivial)
          fun _ _ both => transition_agrees silent both.1 fun _ => both.2
      · exact goes.weaken (fun _ _ _ => trivial) fun _ _ transition =>
          transition_agrees silent transition fun impossible => absurd impossible observing
  · exact goes.weaken (fun _ _ _ => trivial) fun _ _ _ impossible => absurd impossible counted

/-! ### Runs -/

/-- What a run is promised from outside: random identifiers are UUIDs, and a
    command is admitted when its envelope was decoded. -/
def Regular : State → Action → Prop
  | _, .claim _ _ _ _ around => ∀ n, isUuidText (around.fresh n) = true
  | _, .outside (.admitCommand _ command _) => isEventEnvelope command.data.schemaName command.toEnvelope = true
  | _, _ => True

/-- A command whose envelope was decoded. -/
abbrev Decoded (command : LifecycleCommand) : Prop :=
  isEventEnvelope command.data.schemaName command.toEnvelope = true

/-- A claim in flight that draws UUIDs, counts its attempts, has a decoded
    command, and is about to agree with the projection. -/
structure Orderly (host : Host) (flight : InFlight) : Prop where
  drawn : ∀ n, isUuidText (flight.around.fresh n) = true
  attempted : 0 < flight.workflow.attempt
  decoded : Decoded flight.workflow.command
  agrees : flight.program.Satisfies (fun _ _ => True) (Agrees host flight.workflow) flight.past

structure AllOrderly (host : Host) (s : State) : Prop where
  commands : ∀ row ∈ s.store.db.workflows, Decoded row.command
  flights : ∀ flight ∈ s.inFlight, Orderly host flight

theorem commands_next {s t : State} {action : Action} (regular : Regular s action)
    (taken : next host s action = some t) (commands : ∀ row ∈ s.store.db.workflows, Decoded row.command) :
    ∀ row ∈ t.store.db.workflows, Decoded row.command := by
  intro row member
  rcases stored_cases taken with same | ⟨call, stored, source⟩
  · exact commands row (same ▸ member)
  · rcases workflows_from (called_next host stored).1 member with ⟨old, there, same⟩ | ⟨fresh, command, delivery, rfl, same⟩
    · rw [same]; exact commands old there
    · rw [same]
      rcases source with ⟨rfl, -⟩ | ⟨_, _, _, _, impossible⟩ | ⟨_, _, write, _, _, impossible⟩
      · exact regular
      · cases impossible
      · cases write <;> cases impossible

theorem orderly_next {s t : State} {action : Action} (regular : Regular s action) (taken : next host s action = some t)
    (orderly : AllOrderly host s) : AllOrderly host t := by
  refine ⟨commands_next regular taken orderly.commands, ?_⟩
  have kept := orderly.flights
  cases steps_next taken with
  | outside call admission stored same => rw [same]; exact kept
  | claim workerId leaseSeconds action locked around workflow after claimed stored same =>
    rw [same]
    intro flight member
    rcases List.mem_append.mp member with old | new
    · exact kept flight old
    · obtain rfl := List.mem_singleton.mp new
      obtain ⟨row, -, claim⟩ := claimNext_ok claimed
      obtain ⟨stage, -, handed⟩ := claim.handed
      have attempted : 0 < workflow.attempt := by rw [handed]; exact Nat.succ_pos _
      have decoded : Decoded workflow.command := by rw [claim.command]; exact orderly.commands row claim.member
      exact ⟨regular, attempted, decoded, runClaimed_agrees (regular 1)⟩
  | send flight member call resume asks same =>
    rw [same]
    intro other present
    rcases mem_replace present with rfl | old
    · obtain ⟨drawn, attempted, decoded, agrees⟩ := kept flight member
      exact ⟨drawn, attempted, decoded, agrees⟩
    · exact kept other old
  | receive flight member answers call resume asks same =>
    rw [same]
    intro other present
    rcases mem_replace present with rfl | old
    · obtain ⟨drawn, attempted, decoded, agrees⟩ := kept flight member
      rw [asks] at agrees
      exact ⟨drawn, attempted, decoded, agrees.2 (answers call)⟩
    · exact kept other old
  | write flight member fresh write ends stored same =>
    rw [same]
    exact fun other present => kept other (mem_without present)
  | crash claim same =>
    rw [same]
    exact fun other present => kept other (mem_without present)

theorem orderly_run {now : Instant} {s : State} (run : Reaches (next host) Regular (initial now) s) :
    AllOrderly host s :=
  reaches_invariant (AllOrderly host) (fun _ _ _ orderly regular taken => orderly_next regular taken orderly) run
    ⟨fun _ impossible => absurd impossible List.not_mem_nil, fun _ impossible => absurd impossible List.not_mem_nil⟩

/-! ### Records -/

/-- A claim's event has the envelope that its command had. -/
theorem decoded_event {write : StoreWrite} (decoded : Decoded workflow.command)
    (drawn : isUuidText (around.fresh 0) = true) (same : write.event.toEnvelope = envelope around workflow) :
    isEventEnvelope (ProjectionMessage.workflow write.event).schemaName write.event.toEnvelope = true := by
  have named : stringInRange (ProjectionMessage.workflow write.event).schemaName 1 120 = true := by
    simp only [ProjectionMessage.schemaName]
    cases write.event.data <;> exact stringInRange_ofList (by decide)
  have first : positiveInteger 1 = true := by decide
  have inst : stringInRange "instance" 1 64 = true := stringInRange_ofList (by decide)
  simp only [Decoded, isEventEnvelope, Bool.and_eq_true] at decoded
  obtain ⟨⟨⟨⟨⟨⟨⟨⟨⟨event, -⟩, -⟩, -⟩, aggregate⟩, project⟩, operation⟩, correlation⟩, -⟩, key⟩ := decoded
  simp only [isEventEnvelope, same, envelope, named, drawn, first, inst, event, aggregate, project, operation,
    correlation, key, Bool.and_self]

/-- A decoded event is narrowed exactly when it is supported. -/
theorem workflowEvent_iff {record : ProjectionRecord} {event : WorkflowEvent}
    (carries : record.value = .message (.workflow event))
    (enveloped : isEventEnvelope (ProjectionMessage.workflow event).schemaName event.toEnvelope = true) :
    workflowEvent record =
      if isSupported event then .ok event else .error (.permanent "PROJECTION_SCHEMA_UNSUPPORTED") := by
  have valid : isEventEnvelope (Enveloped.schemaName (ProjectionMessage.workflow event))
      (Enveloped.envelope (ProjectionMessage.workflow event)) = true := enveloped
  simp only [workflowEvent, decoded, carries, decodeEventEnvelope, if_pos valid, bind, Except.bind]
  split <;> rfl

/-- A record whose own failure sends it to quarantine. -/
def Quarantined (record : ProjectionRecord) : Prop :=
  ∃ draws db error code, ProjectionConsumer.handle record draws db = .error error ∧ quarantineCode error = some code

/-- A record of the events topic is quarantined exactly when it is not narrowed. -/
theorem quarantined_iff {record : ProjectionRecord} (events : record.delivery.topic = eventTopic) :
    Quarantined record ↔ ∃ error code, workflowEvent record = .error error ∧ quarantineCode error = some code := by
  have other : record.delivery.topic ≠ reconciliationTopic := by rw [events]; decide
  have handled (draws : Draws) (db : ControlDb) : ProjectionConsumer.handle record draws db = (do
      let event ← workflowEvent record
      stored (applyWorkflowEvent db event record.delivery draws.now)) := by
    unfold ProjectionConsumer.handle
    rw [if_neg other, if_pos events]
  constructor
  · rintro ⟨draws, db, error, code, fails, own⟩
    rw [handled] at fails
    cases narrowed : workflowEvent record with
    | error found =>
      rw [narrowed] at fails
      cases fails
      exact ⟨_, code, rfl, own⟩
    | ok event =>
      rw [narrowed] at fails
      simp only [bind, Except.bind, stored] at fails
      split at fails
      next => cases fails
      next => cases fails; cases own
  · rintro ⟨error, code, fails, own⟩
    exact ⟨⟨0, fun _ => ""⟩, {}, error, code, by rw [handled, fails]; rfl, own⟩

/-! ### The agreement -/

/-- The event of a claim in flight is narrowed when it is supported. -/
theorem workflowEvent_flight {now : Instant} {s : State} (run : Reaches (next host) Regular (initial now) s)
    {flight : InFlight} (member : flight ∈ s.inFlight) {write : StoreWrite} (ends : flight.program = .done write)
    {record : ProjectionRecord} (carries : record.value = .message (.workflow write.event)) :
    workflowEvent record = if isSupported write.event then .ok write.event
      else .error (.permanent "PROJECTION_SCHEMA_UNSUPPORTED") := by
  have guarded : Guarded host s := guarded_run (guarded_initial now) run
  have fits := transition_fits ((guarded.flights flight member).fence ends).1 write rfl
  have orderly := (orderly_run run).flights flight member
  exact workflowEvent_iff carries (decoded_event orderly.decoded (orderly.drawn 0) fits.envelope)

/-- The event of a claim in flight is narrowed, and its record stays out of
    quarantine, exactly when the provider's answers to the claim fit the
    contract. The attempts are counted in a column of 32 bits. -/
theorem narrowed_iff_conveyable {now : Instant} {s : State} (run : Reaches (next host) Regular (initial now) s)
    {flight : InFlight} (member : flight ∈ s.inFlight) {write : StoreWrite} (ends : flight.program = .done write)
    (counted : flight.workflow.attempt < 2 ^ 31) {record : ProjectionRecord} (events : record.delivery.topic = eventTopic)
    (carries : record.value = .message (.workflow write.event)) :
    (workflowEvent record = .ok write.event ↔ Conveyable host flight.workflow flight.past) ∧
    (¬ Quarantined record ↔ Conveyable host flight.workflow flight.past) := by
  obtain ⟨-, attempted, -, agrees⟩ := (orderly_run run).flights flight member
  have positive : positiveInteger flight.workflow.attempt = true := by
    have safe : flight.workflow.attempt ≤ maximumSafeInteger := by
      show flight.workflow.attempt ≤ 2 ^ 53 - 1
      omega
    simp [positiveInteger, attempted, safe]
  rw [ends] at agrees
  have agreed : isSupported write.event = true ↔ Conveyable host flight.workflow flight.past := agrees positive write rfl
  rw [quarantined_iff events, workflowEvent_flight run member ends carries, ← agreed]
  by_cases supported : isSupported write.event = true
  · simp [supported]
  · simp [supported, quarantineCode]

end

/-! ### A sizing without a disk -/

/-- A host that reads the number 1024. -/
def sampleReader : Host := { sampleHost with number := fun text => if text = "1024" then some 1024 else none }

def sampleDrawn : Action :=
  .claim "worker" 30 .createInstance (fun _ => false)
    ⟨"worker", 0, 0, 0, 0, fun _ => "00000000-0000-4000-8000-0000000000f9"⟩

/-- A claim of a creation that makes one call. -/
def drawnClaim (claim : Nat) (observation : Option InstanceObservation) : List Action :=
  [sampleDrawn, .send claim, .receive claim (sampleProvider (some sampleResult) observation)]

/-- The instance with its markers, its processor and its memory. -/
def sampleUnsized : InstanceObservation :=
  { sampleObservation with resources := some { cpuCount := some 1, memoryMib := some "1024" } }

/-- A creation up to its last write. -/
def sampleCreated : List Action :=
  sampleAdmission 0 sampleCreate :: sampleDrawn :: .write 0 (fun _ => "") ::
    (drawnClaim 1 none ++ .write 1 (fun _ => "") :: (drawnClaim 2 none ++ .write 2 (fun _ => "") ::
      (drawnClaim 3 none ++ .write 3 (fun _ => "") :: drawnClaim 4 sampleUnsized)))

theorem sampleCreated_regular (s : State) : ∀ action ∈ sampleCreated, Regular s action := by
  have uuid : isUuidText "00000000-0000-4000-8000-0000000000f9" = true := isUuidText_ofList (by decide)
  have drawn : ∀ _ : Nat, isUuidText "00000000-0000-4000-8000-0000000000f9" = true := fun _ => uuid
  have decoded : isEventEnvelope sampleCreate.data.schemaName sampleCreate.toEnvelope = true := by decide
  simp only [sampleCreated, drawnClaim, List.cons_append, List.nil_append, List.forall_mem_cons]
  exact ⟨decoded, drawn, trivial, drawn, trivial, trivial, trivial, drawn, trivial, trivial, trivial, drawn, trivial,
    trivial, trivial, drawn, trivial, trivial, fun _ impossible => absurd impossible List.not_mem_nil⟩

/-- A claim that is about to end its workflow with an event that the projection
    does not support. -/
def unfit (flight : InFlight) : Bool :=
  match flight.program with
  | .done write => write.event.data.isTerminal && !isSupported write.event && flight.workflow.attempt < 2 ^ 31
  | _ => false

theorem sampleCreated_unfit :
    ∃ s, Reaches (next sampleReader) Regular (initial 0) s ∧ ∃ flight ∈ s.inFlight, unfit flight = true := by
  have checked : (execute (next sampleReader) (initial 0) sampleCreated).any fun s => s.inFlight.any unfit := by
    decide
  obtain ⟨s, executed, found⟩ := (Option.any_eq_true _ _).mp checked
  obtain ⟨flight, member, unfits⟩ := List.any_eq_true.mp found
  exact ⟨s, reaches_execute (meets_of_forall fun action member s => sampleCreated_regular s action member) executed,
    flight, member, unfits⟩

theorem unfit_done {flight : InFlight} (unfits : unfit flight = true) :
    ∃ write, flight.program = .done write ∧ write.event.data.isTerminal = true ∧ isSupported write.event = false ∧
      flight.workflow.attempt < 2 ^ 31 := by
  unfold unfit at unfits
  split at unfits
  next write ends =>
    simp only [Bool.and_eq_true, Bool.not_eq_true', decide_eq_true_eq] at unfits
    exact ⟨write, ends, unfits.1.1, unfits.1.2, unfits.2⟩
  next => cases unfits

theorem narrowed_iff_sampleCreated : ∃ (s : State) (flight : InFlight) (write : StoreWrite) (record : ProjectionRecord),
    flight ∈ s.inFlight ∧ flight.program = .done write ∧ record.value = .message (.workflow write.event) ∧
      (workflowEvent record = .ok write.event ↔ Conveyable sampleReader flight.workflow flight.past) ∧
      (¬ Quarantined record ↔ Conveyable sampleReader flight.workflow flight.past) := by
  obtain ⟨s, run, flight, member, unfits⟩ := sampleCreated_unfit
  obtain ⟨write, ends, -, -, counted⟩ := unfit_done unfits
  let record : ProjectionRecord :=
    ⟨⟨eventTopic, 0, 0, 0, none⟩, .message (.workflow write.event), "", none, none⟩
  exact ⟨s, flight, write, record, member, ends, rfl, narrowed_iff_conveyable run member ends counted rfl rfl⟩

/-- The completion of a creation whose sizing has no disk is quarantined. -/
theorem completion_quarantined :
    ∃ s, Reaches (next sampleReader) Regular (initial 0) s ∧ ∃ flight ∈ s.inFlight, ∃ write,
      flight.program = .done write ∧ write.event.data.isTerminal = true ∧
      ∀ record : ProjectionRecord, record.delivery.topic = eventTopic →
        record.value = .message (.workflow write.event) →
        workflowEvent record ≠ .ok write.event ∧ Quarantined record := by
  obtain ⟨s, run, flight, member, unfits⟩ := sampleCreated_unfit
  obtain ⟨write, ends, terminal, unsupported, -⟩ := unfit_done unfits
  refine ⟨s, run, flight, member, write, ends, terminal, fun record events carries => ?_⟩
  have refused := workflowEvent_flight run member ends carries
  rw [unsupported] at refused
  refine ⟨?_, (quarantined_iff events).mpr ⟨_, _, refused, rfl⟩⟩
  rw [refused]
  exact fun impossible => nomatch impossible

end ControlPlane.EventAgreement
