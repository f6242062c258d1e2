import ControlPlane.Transitions
import ControlPlane.EventValidation

/-!
How the shared engine judges what a provider answers. `failed` asserts that
nothing was left behind and `manual_review` declines to assert it, so a claim
may end as failed only on an answer that excludes an effect; and an outcome
that the provider itself calls transient is not the end while the retry budget
lasts. The engine keeps the first rule on the answers it can read, and the
second rule on none.
-/
namespace ControlPlane.FailureClassification
open ControlPlane.Programs ControlPlane.Programs.Program ControlPlane.Domain ControlPlane.Commands
open ControlPlane.WorkflowSchema ControlPlane.ProviderPort ControlPlane.LifecycleWorkflow ControlPlane.SagaRules
open ControlPlane.Transitions ControlPlane.EventValidation

/-! ### How a claim ends -/

/-- The status that a write ends its workflow with, when it ends it. -/
def ending : StoreWrite → Option FinalStatus
  | .checkpoint _ => none
  | .complete input => some input.status
  | .deadLetterWorkflow _ => some .failed

def EndsAs (status : FinalStatus) (ended : Except WorkflowError StoreWrite) : Prop :=
  ∃ write, ended = .ok write ∧ ending write = some status

/-- No write ends the workflow: it goes on, or the claim wrote nothing. -/
def GoesOn (ended : Except WorkflowError StoreWrite) : Prop := ∀ write, ended = .ok write → ending write = none

/-- The workflow waits at its stage for the next attempt. -/
def Waits (workflow : ClaimedWorkflow) (ended : Except WorkflowError StoreWrite) : Prop :=
  ∃ input, ended = .ok (.checkpoint input) ∧ input.stage = workflow.stage ∧
    ∃ attempt reference nextActionAt, input.nextAttemptAt = some nextActionAt ∧
      input.event.data = .progressed workflow.stage attempt .retryWait reference (some nextActionAt)

/-- Whether the retry policy allows another attempt of the stage. -/
def BudgetLeft (around : Surroundings) (workflow : ClaimedWorkflow) : Prop :=
  workflow.stageAttempt + 1 < maximumRetryAttempts ∧
    0 < ((workflow.retryStartedAt.getD around.now + retryBudgetMs : Nat) : Int) - (around.now : Int)

instance (around : Surroundings) (workflow : ClaimedWorkflow) : Decidable (BudgetLeft around workflow) :=
  inferInstanceAs (Decidable (_ ∧ _))

/-! ### What an answer tells -/

/-- An answer in which the provider calls a failure transient. -/
def reportsTransient (exchange : ProviderExchange) : Bool :=
  match reply exchange with
  | .result (some result) =>
    result.state = some .rejected && result.failure.bind ProviderFailure.category = some .transient
  | .task response => response.state = some .failed && response.failure.bind ProviderFailure.category = some .transient
  | _ => false

/-- An answer that excludes any effect at the provider. -/
def excludesEffect (exchange : ProviderExchange) : Bool :=
  match reply exchange with
  | .result (some result) => result.state = some .rejected
  | .task response => response.state = some .failed
  | .failed error => error.code = .protocolError
  | _ => false

/-- The resource that a result speaks of. -/
def addressed (workflow : ClaimedWorkflow) (result : ProviderMutationResult) : Option String :=
  (result.providerResourceId.or workflow.providerResourceId).filter (· ≠ "")

/-- A result that says what was done, to which resource, and how to follow it. -/
def wellFormed (workflow : ClaimedWorkflow) (result : ProviderMutationResult) : Bool :=
  (addressed workflow result).isSome &&
    (result.state = some .succeeded ||
      result.state = some .accepted && (result.providerTaskReference.filter (· ≠ "")).isSome)

/-- An answer that reports progress. -/
def accomplishes (workflow : ClaimedWorkflow) (exchange : ProviderExchange) : Bool :=
  match reply exchange with
  | .result (some result) => wellFormed workflow result
  | .task response =>
    response.state = some .queued || response.state = some .running || response.state = some .succeeded
  | _ => false

/-! ### The two rules -/

/-- What was said excludes that the stage left anything behind. -/
def NothingLeft (workflow : ClaimedWorkflow) (said : List ProviderExchange) : Prop :=
  (∃ exchange ∈ said, excludesEffect exchange = true) ∨
    -- A mutation stage that made no call has done nothing.
    (said = [] ∧ workflow.stage ∈ mutationStages workflow.command.data.action)

/-- The claim is judged by what it was answered. -/
structure Judged (workflow : ClaimedWorkflow) (said : List ProviderExchange)
    (ended : Except WorkflowError StoreWrite) : Prop where
  failed : EndsAs .failed ended → NothingLeft workflow said
  /-- Only a failed poll may be repeated. -/
  reviewed : ∀ exchange ∈ said, accomplishes workflow exchange = false → excludesEffect exchange = false →
    EndsAs .manualReview ended ∨ (exchange.1.mutates = false ∧ GoesOn ended)

/-- A transient failure within the budget lets the workflow wait. -/
def RetriesTransient (around : Surroundings) (workflow : ClaimedWorkflow) (said : List ProviderExchange)
    (ended : Except WorkflowError StoreWrite) : Prop :=
  (∃ exchange ∈ said, reportsTransient exchange = true) → BudgetLeft around workflow →
    ¬ EndsAs .failed ended ∧ Waits workflow ended

/-! ### The answers that are judged rightly -/

/-- An answer that the engine can judge. -/
def Legible (around : Surroundings) (workflow : ClaimedWorkflow) (exchange : ProviderExchange) : Prop :=
  match reply exchange with
  | .result none => False
  | .result (some result) =>
    result.state = some .unknown ∨ result.state = some .rejected ∨ wellFormed workflow result = true
  | .task response =>
    response.state = some .queued ∨ response.state = some .running ∨ response.state = some .succeeded ∨
      response.state = some .unknown ∨ response.state = some .failed
  | .failed error =>
    exchange.1.mutates = true ∨ error.code = .protocolError ∨ (error.retryable = true ∧ BudgetLeft around workflow)
  | _ => True

/-- A poll has its handle, and every answer can be judged. -/
structure Informed (around : Surroundings) (workflow : ClaimedWorkflow) (said : List ProviderExchange) : Prop where
  handle : workflow.stage ∈ pollingStages workflow.command.data.action →
    (Transitions.handle workflow).isSome = true
  legible : ∀ exchange ∈ said, Legible around workflow exchange

/-! ### The verdicts of the engine -/

/-- How the result of a mutation ends its claim. -/
inductive MutationVerdict (workflow : ClaimedWorkflow) (acceptedStage synchronousStage : WorkflowStage) :
    Option ProviderMutationResult → StoreWrite → Prop
  | unknown {result : ProviderMutationResult} {input : CompleteInput} (state : result.state = some .unknown)
      (status : input.status = .manualReview) :
      MutationVerdict workflow acceptedStage synchronousStage (some result) (.complete input)
  | rejected {result : ProviderMutationResult} {input : CompleteInput} (state : result.state = some .rejected)
      (status : input.status = .failed) :
      MutationVerdict workflow acceptedStage synchronousStage (some result) (.complete input)
  | accepted {result : ProviderMutationResult} {input : CheckpointInput} {resource reference : String}
      (state : result.state = some .accepted) (found : addressed workflow result = some resource)
      (tracked : result.providerTaskReference.filter (· ≠ "") = some reference) (stage : input.stage = acceptedStage)
      (resourceId : input.providerResourceId = some resource)
      (taskReference : input.providerTaskReference = some (some reference)) :
      MutationVerdict workflow acceptedStage synchronousStage (some result) (.checkpoint input)
  | succeeded {result : ProviderMutationResult} {input : CheckpointInput} {resource : String}
      (state : result.state = some .succeeded) (found : addressed workflow result = some resource)
      (stage : input.stage = synchronousStage) (resourceId : input.providerResourceId = some resource) :
      MutationVerdict workflow acceptedStage synchronousStage (some result) (.checkpoint input)
  | missing {input : CompleteInput} (status : input.status = .failed) :
      MutationVerdict workflow acceptedStage synchronousStage none (.complete input)
  | malformed {result : ProviderMutationResult} {input : CompleteInput} (known : result.state ≠ some .unknown)
      (taken : result.state ≠ some .rejected) (malformed : wellFormed workflow result = false)
      (status : input.status = .failed) :
      MutationVerdict workflow acceptedStage synchronousStage (some result) (.complete input)

/-- How the result of a poll ends its claim. -/
inductive TaskVerdict (workflow : ClaimedWorkflow) (successStage : WorkflowStage) :
    GetTaskResponse → StoreWrite → Prop
  | pending {response : GetTaskResponse} {input : CheckpointInput}
      (state : response.state = some .queued ∨ response.state = some .running)
      (stage : input.stage = workflow.stage) : TaskVerdict workflow successStage response (.checkpoint input)
  | succeeded {response : GetTaskResponse} {input : CheckpointInput} (state : response.state = some .succeeded)
      (stage : input.stage = successStage) : TaskVerdict workflow successStage response (.checkpoint input)
  | unknown {response : GetTaskResponse} {input : CompleteInput} (state : response.state = some .unknown)
      (status : input.status = .manualReview) : TaskVerdict workflow successStage response (.complete input)
  | failed {response : GetTaskResponse} {input : CompleteInput} (pending : response.state ≠ some .queued)
      (running : response.state ≠ some .running) (succeeded : response.state ≠ some .succeeded)
      (known : response.state ≠ some .unknown) (status : input.status = .failed) :
      TaskVerdict workflow successStage response (.complete input)

/-- How the failure of a transport ends its claim. -/
inductive ErrorVerdict (around : Surroundings) (workflow : ClaimedWorkflow) (error : ProviderTransportError) :
    Except WorkflowError StoreWrite → Prop
  | unknown {input : CompleteInput} (mutation : workflow.stage ∈ mutationStages workflow.action)
      (code : error.code ≠ .protocolError) (status : input.status = .manualReview) :
      ErrorVerdict around workflow error (.ok (.complete input))
  | waits {input : CheckpointInput} (safe : workflow.stage ∈ mutationStages workflow.action → error.code = .protocolError)
      (retryable : error.retryable = true) (left : BudgetLeft around workflow)
      (waits : Waits workflow (.ok (.checkpoint input))) : ErrorVerdict around workflow error (.ok (.checkpoint input))
  | defect {message : String} (safe : workflow.stage ∈ mutationStages workflow.action → error.code = .protocolError)
      (retryable : error.retryable = true) (left : BudgetLeft around workflow) :
      ErrorVerdict around workflow error (.error (.defect message))
  | exhausted {input : DeadLetterWorkflowInput}
      (safe : workflow.stage ∈ mutationStages workflow.action → error.code = .protocolError)
      (retryable : error.retryable = true) (spent : ¬ BudgetLeft around workflow) :
      ErrorVerdict around workflow error (.ok (.deadLetterWorkflow input))
  | failed {input : CompleteInput} (safe : workflow.stage ∈ mutationStages workflow.action → error.code = .protocolError)
      (final : error.retryable = false) (status : input.status = .failed) :
      ErrorVerdict around workflow error (.ok (.complete input))

section
variable {host : Host} {around : Surroundings} {workflow : ClaimedWorkflow}

theorem handleMutationResult_verdict {result : Option ProviderMutationResult}
    {acceptedStage synchronousStage : WorkflowStage} {write : StoreWrite}
    (ends : handleMutationResult host around workflow result acceptedStage synchronousStage = .done write) :
    MutationVerdict workflow acceptedStage synchronousStage result write := by
  unfold handleMutationResult at ends
  split at ends
  next =>
    cases ends
    exact .missing rfl
  next result =>
    split at ends
    next unknown =>
      cases ends
      exact .unknown unknown rfl
    next known =>
      split at ends
      next rejected =>
        cases ends
        exact .rejected rejected rfl
      next taken =>
        split at ends
        next unaddressed =>
          cases ends
          have absent : addressed workflow result = none := unaddressed
          exact .malformed known taken (by simp [wellFormed, absent]) rfl
        next resource found =>
          have filled : resource ≠ "" := of_decide_eq_true (Option.filter_eq_some_iff.mp found).2
          split at ends
          next accepted =>
            split at ends
            next untracked =>
              cases ends
              have loose : wellFormed workflow result = false := by
                rw [wellFormed, untracked]
                simp [accepted]
              exact .malformed known taken loose rfl
            next reference tracked =>
              cases ends
              exact .accepted accepted found tracked rfl (by simp [filled]) rfl
          next pending =>
            split at ends
            next succeeded =>
              cases ends
              exact .succeeded succeeded found rfl (by simp [filled])
            next other =>
              cases ends
              exact .malformed known taken (by simp [wellFormed, pending, other]) rfl

theorem handleTaskResult_verdict {response : GetTaskResponse} {successStage : WorkflowStage} {taskReference : String}
    {write : StoreWrite} (ends : handleTaskResult host around workflow response successStage taskReference = .done write) :
    TaskVerdict workflow successStage response write := by
  unfold handleTaskResult at ends
  split at ends
  next pending =>
    cases ends
    exact .pending pending rfl
  next ended =>
    obtain ⟨queued, running⟩ := not_or.mp ended
    split at ends
    next succeeded =>
      cases ends
      exact .succeeded succeeded rfl
    next unfinished =>
      split at ends
      next unknown =>
        cases ends
        exact .unknown unknown rfl
      next known =>
        cases ends
        exact .failed queued running unfinished known rfl

theorem handleProviderError_verdict {error : ProviderTransportError} {ended : Except WorkflowError StoreWrite}
    (ends : handleProviderError around workflow error = finished ended) : ErrorVerdict around workflow error ended := by
  unfold handleProviderError at ends
  split at ends
  next unknown =>
    obtain ⟨mutation, code⟩ := (Bool.and_eq_true _ _).mp unknown
    cases ended with
    | error _ => cases ends
    | ok write =>
      cases ends
      exact .unknown (by simpa using mutation) (by simpa using code) rfl
  next decided =>
    have safe : workflow.stage ∈ mutationStages workflow.action → error.code = .protocolError := by
      intro mutation
      by_contra other
      exact decided (by simp [mutation, other])
    split at ends
    next retryable =>
      unfold retryOrDeadLetter at ends
      dsimp only at ends
      split at ends
      next spent =>
        cases ended with
        | error _ => cases ends
        | ok write =>
          cases ends
          refine .exhausted safe retryable fun left => ?_
          obtain ⟨attempts, time⟩ := left
          omega
      next within =>
        have left : BudgetLeft around workflow := by
          constructor
          · omega
          · omega
        split at ends
        next =>
          cases ended with
          | error _ => cases ends; exact .defect safe retryable left
          | ok _ => cases ends
        next =>
          cases ended with
          | error _ => cases ends
          | ok write =>
            cases ends
            exact .waits safe retryable left ⟨_, rfl, rfl, _, _, _, rfl, rfl⟩
    next final =>
      cases ended with
      | error _ => cases ends
      | ok write =>
        cases ends
        exact .failed safe (by simpa using final) rfl

/-! ### Mutation and polling stages -/

theorem mutation_stage {action : WorkflowAction} {stage : WorkflowStage} (mutation : stage ∈ mutationStages action) :
    stage ≠ .accepted ∧ stage ∉ pollingStages action ∧ stage ∉ observingStages action := by
  revert mutation
  cases action <;> cases stage <;> decide

theorem polling_stage {action : WorkflowAction} {stage : WorkflowStage} (polling : stage ∈ pollingStages action) :
    stage ≠ .accepted ∧ stage ∉ mutationStages action ∧ stage ∉ observingStages action := by
  revert polling
  cases action <;> cases stage <;> decide

/-- A stage that mutates or polls is no other. -/
theorem working_stage {action : WorkflowAction} {stage : WorkflowStage}
    (working : stage ∈ mutationStages action ∨ stage ∈ pollingStages action) :
    stage ≠ .accepted ∧ stage ∉ observingStages action := by
  rcases working with mutation | polling
  · exact ⟨(mutation_stage mutation).1, (mutation_stage mutation).2.2⟩
  · exact ⟨(polling_stage polling).1, (polling_stage polling).2.2⟩

/-- A call of a polling stage follows a task. -/
theorem asks_tracked {call : ProviderCall} (asks : Asks workflow call)
    (polling : workflow.stage ∈ pollingStages workflow.command.data.action) : (handle workflow).isSome = true := by
  have reads : call.mutates = false := by
    by_contra mutates
    exact (polling_stage polling).2.1 (asks.stage (by simpa using mutates))
  rcases asks.reads reads with ⟨-, tracked⟩ | observing
  · exact tracked
  · exact absurd observing (polling_stage polling).2.2

/-! ### What the engine judges rightly -/

theorem not_endsAs {write : StoreWrite} {status other : FinalStatus} (ends : ending write = some other)
    (differs : status ≠ other) : ¬ EndsAs status (.ok write) := by
  rintro ⟨_, ⟨⟩, same⟩
  exact differs (Option.some.inj (same.symm.trans ends))

theorem goesOn_not_failed {ended : Except WorkflowError StoreWrite} {status : FinalStatus} (goes : GoesOn ended) :
    ¬ EndsAs status ended := by
  rintro ⟨write, same, ends⟩
  rw [goes write same] at ends
  cases ends

theorem goesOn_error {error : WorkflowError} : GoesOn (.error error) := fun _ impossible => nomatch impossible

theorem goesOn_checkpoint {input : CheckpointInput} : GoesOn (.ok (.checkpoint input)) := by
  rintro write ⟨⟩
  rfl

/-- A single answer is all there was. -/
theorem nothingLeft_single {exchange : ProviderExchange} :
    NothingLeft workflow [exchange] ↔ excludesEffect exchange = true := by
  simp [NothingLeft]

theorem wellFormed_accepted {result : ProviderMutationResult} {resource reference : String}
    (state : result.state = some .accepted) (found : addressed workflow result = some resource)
    (tracked : result.providerTaskReference.filter (· ≠ "") = some reference) : wellFormed workflow result = true := by
  rw [wellFormed, found, tracked]
  simp [state]

theorem wellFormed_succeeded {result : ProviderMutationResult} {resource : String}
    (state : result.state = some .succeeded) (found : addressed workflow result = some resource) :
    wellFormed workflow result = true := by
  rw [wellFormed, found]
  simp [state]

theorem mutated_judged {exchange : ProviderExchange} {result : Option ProviderMutationResult} {write : StoreWrite}
    {acceptedStage synchronousStage : WorkflowStage} (said : reply exchange = .result result)
    (mutation : workflow.stage ∈ mutationStages workflow.command.data.action)
    (verdict : MutationVerdict workflow acceptedStage synchronousStage result write) :
    Judged workflow [exchange] (.ok write) ↔ Informed around workflow [exchange] := by
  have handle : workflow.stage ∈ pollingStages workflow.command.data.action →
      (Transitions.handle workflow).isSome = true :=
    fun polling => absurd polling (mutation_stage mutation).2.1
  have informed (legible : Legible around workflow exchange) : Informed around workflow [exchange] :=
    ⟨handle, fun other member => List.mem_singleton.mp member ▸ legible⟩
  have illegible (unread : ¬ Legible around workflow exchange) : ¬ Informed around workflow [exchange] :=
    fun informed => unread (informed.legible exchange List.mem_cons_self)
  have unproven {input : CompleteInput} (status : input.status = .failed) (left : excludesEffect exchange = false) :
      ¬ Judged workflow [exchange] (.ok (.complete input)) := by
    intro judged
    have nothing := judged.failed ⟨_, rfl, congrArg some status⟩
    rw [nothingLeft_single, left] at nothing
    cases nothing
  cases verdict with
  | unknown state status =>
    refine iff_of_true ⟨fun failed => ?_, fun _ _ _ _ => .inl ⟨_, rfl, congrArg some status⟩⟩
      (informed (by simp [Legible, said, state]))
    exact absurd failed (not_endsAs (congrArg some status) (by decide))
  | rejected state status =>
    have excludes : excludesEffect exchange = true := by simp [excludesEffect, said, state]
    refine iff_of_true ⟨fun _ => nothingLeft_single.mpr excludes, fun other member _ left => ?_⟩
      (informed (by simp [Legible, said, state]))
    rw [List.mem_singleton.mp member, excludes] at left
    cases left
  | accepted state found tracked _ _ _ =>
    have formed := wellFormed_accepted state found tracked
    refine iff_of_true ⟨fun failed => absurd failed (goesOn_not_failed goesOn_checkpoint), fun other member idle _ => ?_⟩
      (informed (by simp [Legible, said, formed]))
    rw [List.mem_singleton.mp member] at idle
    simp [accomplishes, said, formed] at idle
  | succeeded state found _ _ =>
    have formed := wellFormed_succeeded state found
    refine iff_of_true ⟨fun failed => absurd failed (goesOn_not_failed goesOn_checkpoint), fun other member idle _ => ?_⟩
      (informed (by simp [Legible, said, formed]))
    rw [List.mem_singleton.mp member] at idle
    simp [accomplishes, said, formed] at idle
  | missing status =>
    exact iff_of_false (unproven status (by simp [excludesEffect, said])) (illegible (by simp [Legible, said]))
  | malformed known taken malformed status =>
    exact iff_of_false (unproven status (by simp [excludesEffect, said, taken]))
      (illegible (by simp [Legible, said, known, taken, malformed]))

theorem polled_judged {exchange : ProviderExchange} {response : GetTaskResponse} {write : StoreWrite}
    {successStage : WorkflowStage} {taskReference : String} (said : reply exchange = .task response)
    (tracked : Transitions.handle workflow = some taskReference)
    (verdict : TaskVerdict workflow successStage response write) :
    Judged workflow [exchange] (.ok write) ↔ Informed around workflow [exchange] := by
  have informed (legible : Legible around workflow exchange) : Informed around workflow [exchange] :=
    ⟨fun _ => by rw [tracked]; rfl, fun other member => List.mem_singleton.mp member ▸ legible⟩
  have progressed {input : CheckpointInput} (progress : accomplishes workflow exchange = true) :
      Judged workflow [exchange] (.ok (.checkpoint input)) := by
    refine ⟨fun failed => absurd failed (goesOn_not_failed goesOn_checkpoint), fun other member idle _ => ?_⟩
    rw [List.mem_singleton.mp member, progress] at idle
    cases idle
  cases verdict with
  | pending state _ =>
    have progress : accomplishes workflow exchange = true := by rcases state with state | state <;> simp [accomplishes, said, state]
    exact iff_of_true (progressed progress)
      (informed (by rcases state with state | state <;> simp [Legible, said, state]))
  | succeeded state _ =>
    exact iff_of_true (progressed (by simp [accomplishes, said, state])) (informed (by simp [Legible, said, state]))
  | unknown state status =>
    refine iff_of_true ⟨fun failed => ?_, fun _ _ _ _ => .inl ⟨_, rfl, congrArg some status⟩⟩
      (informed (by simp [Legible, said, state]))
    exact absurd failed (not_endsAs (congrArg some status) (by decide))
  | failed queued running succeeded known status =>
    by_cases state : response.state = some .failed
    · have excludes : excludesEffect exchange = true := by simp [excludesEffect, said, state]
      refine iff_of_true ⟨fun _ => nothingLeft_single.mpr excludes, fun other member _ left => ?_⟩
        (informed (by simp [Legible, said, state]))
      rw [List.mem_singleton.mp member, excludes] at left
      cases left
    · -- A task without a state of the protocol is read as a failed one.
      refine iff_of_false (fun judged => ?_) fun informed => ?_
      · have nothing := judged.failed ⟨_, rfl, congrArg some status⟩
        rw [nothingLeft_single] at nothing
        simp [excludesEffect, said, state] at nothing
      · have legible := informed.legible exchange List.mem_cons_self
        simp [Legible, said, queued, running, succeeded, known, state] at legible

theorem interrupted_judged {exchange : ProviderExchange} {error : ProviderTransportError}
    {ended : Except WorkflowError StoreWrite} (said : reply exchange = .failed error) (asks : Asks workflow exchange.1)
    (agrees : workflow.action = workflow.command.data.action)
    (handle : workflow.stage ∈ pollingStages workflow.command.data.action →
      (Transitions.handle workflow).isSome = true)
    (verdict : ErrorVerdict around workflow error ended) :
    Judged workflow [exchange] ended ↔ Informed around workflow [exchange] := by
  have informed (legible : Legible around workflow exchange) : Informed around workflow [exchange] :=
    ⟨handle, fun other member => List.mem_singleton.mp member ▸ legible⟩
  -- A protocol error excludes an effect, and then every ending is right.
  have excluded (code : error.code = .protocolError) :
      Judged workflow [exchange] ended ↔ Informed around workflow [exchange] := by
    have excludes : excludesEffect exchange = true := by simp [excludesEffect, said, code]
    refine iff_of_true ⟨fun _ => nothingLeft_single.mpr excludes, fun other member _ left => ?_⟩
      (informed (by simp [Legible, said, code]))
    rw [List.mem_singleton.mp member, excludes] at left
    cases left
  by_cases code : error.code = .protocolError
  · exact excluded code
  · have left : excludesEffect exchange = false := by simp [excludesEffect, said, code]
    have reading (safe : workflow.stage ∈ mutationStages workflow.action → error.code = .protocolError) :
        exchange.1.mutates = false := by
      by_contra mutates
      have mutation := asks.stage (by simpa using mutates)
      exact code (safe (agrees ▸ mutation))
    have unproven (ends : EndsAs .failed ended) : ¬ Judged workflow [exchange] ended := by
      intro judged
      have nothing := judged.failed ends
      rw [nothingLeft_single, left] at nothing
      cases nothing
    cases verdict with
    | unknown mutation _ status =>
      have mutates : exchange.1.mutates = true := by
        by_contra reads
        rcases asks.reads (by simpa using reads) with ⟨polling, -⟩ | observing
        · exact (polling_stage polling).2.1 (agrees ▸ mutation)
        · exact (mutation_stage (agrees ▸ mutation)).2.2 observing
      refine iff_of_true ⟨fun failed => ?_, fun _ _ _ _ => .inl ⟨_, rfl, congrArg some status⟩⟩
        (informed (by simp [Legible, said, mutates]))
      exact absurd failed (not_endsAs (congrArg some status) (by decide))
    | waits safe retryable within _ =>
      refine iff_of_true ⟨fun failed => absurd failed (goesOn_not_failed goesOn_checkpoint),
        fun other member _ _ => .inr ⟨?_, goesOn_checkpoint⟩⟩ (informed (by simp [Legible, said, retryable, within]))
      rw [List.mem_singleton.mp member]
      exact reading safe
    | defect safe retryable within =>
      refine iff_of_true ⟨fun failed => absurd failed (goesOn_not_failed goesOn_error),
        fun other member _ _ => .inr ⟨?_, goesOn_error⟩⟩ (informed (by simp [Legible, said, retryable, within]))
      rw [List.mem_singleton.mp member]
      exact reading safe
    | exhausted safe retryable spent =>
      refine iff_of_false (unproven ⟨_, rfl, rfl⟩) fun informed => ?_
      have legible := informed.legible exchange List.mem_cons_self
      simp [Legible, said, reading safe, code, spent] at legible
    | failed safe final status =>
      refine iff_of_false (unproven ⟨_, rfl, congrArg some status⟩) fun informed => ?_
      have legible := informed.legible exchange List.mem_cons_self
      simp [Legible, said, reading safe, code, final] at legible

theorem transition_judged {said : List ProviderExchange} {ended : Except WorkflowError StoreWrite}
    (working : workflow.stage ∈ mutationStages workflow.command.data.action ∨
      workflow.stage ∈ pollingStages workflow.command.data.action)
    (agrees : workflow.action = workflow.command.data.action) (transition : Transition host around workflow said ended) :
    Judged workflow said ended ↔ Informed around workflow said := by
  obtain ⟨begun, idle⟩ := working_stage working
  cases transition with
  | through executed =>
    cases executed with
    | advanced accepted _ => exact absurd accepted begun
    | unsupported mutation polling _ _ =>
      rcases working with mutating | waiting
      · exact absurd mutating mutation
      · exact absurd waiting polling
    | untracked polling missing ends =>
      cases ends
      refine iff_of_false (fun judged => ?_) fun informed => ?_
      · rcases judged.failed ⟨_, rfl, rfl⟩ with ⟨_, impossible, _⟩ | ⟨-, mutation⟩
        · cases impossible
        · exact (polling_stage polling).2.1 mutation
      · have handle := informed.handle polling
        rw [missing] at handle
        cases handle
    | mutated asks mutates said _ ends =>
      exact mutated_judged said (asks.stage mutates) (handleMutationResult_verdict ends)
    | polled _ _ tracked said _ ends => exact polled_judged said tracked (handleTaskResult_verdict ends)
    | reviewed _ _ observing _ => exact absurd observing idle
    | confirmed _ _ observing _ => exact absurd observing idle
    | verified _ _ purge verifying _ => exact absurd (by rw [purge, verifying]; decide) idle
  | caught executed ends =>
    cases executed with
    | unaddressed _ stage same =>
      rcases stage with mutation | observing
      · refine iff_of_true ⟨fun _ => .inr ⟨rfl, mutation⟩, fun _ impossible => absurd impossible List.not_mem_nil⟩
          ⟨fun polling => absurd polling (mutation_stage mutation).2.1, fun _ impossible => absurd impossible List.not_mem_nil⟩
      · exact absurd observing idle
    | interrupted asks said =>
      refine interrupted_judged said asks agrees (fun polling => ?_) (handleProviderError_verdict ends)
      exact asks_tracked asks polling

/-! ### The theorems -/

/-- At a mutation or polling stage a claim is judged by what it was answered,
    whatever that is, exactly when a poll has its handle and every answer can be
    judged. -/
theorem judged_iff (working : workflow.stage ∈ mutationStages workflow.command.data.action ∨
      workflow.stage ∈ pollingStages workflow.command.data.action)
    (agrees : workflow.action = workflow.command.data.action) (provider : Oracle ProviderCall.Answer) :
    Judged workflow ((runClaimed host around workflow).run provider []).1
        ((runClaimed host around workflow).run provider []).2 ↔
      Informed around workflow ((runClaimed host around workflow).run provider []).1 :=
  transition_judged working agrees (runClaimed_transition.run_post provider)

/-- A description is no report of a failure. -/
theorem not_transient {exchange : ProviderExchange} (describes : (reply exchange).describes = true) :
    reportsTransient exchange = false := by
  cases said : reply exchange <;> simp_all [Reply.describes, reportsTransient]

theorem transient_fails {said : List ProviderExchange} {ended : Except WorkflowError StoreWrite}
    (transition : Transition host around workflow said ended)
    (reported : ∃ exchange ∈ said, reportsTransient exchange = true) : EndsAs .failed ended := by
  obtain ⟨exchange, member, transient⟩ := reported
  cases transition with
  | through executed =>
    cases executed with
    | advanced => cases member
    | unsupported => cases member
    | untracked => cases member
    | mutated _ _ said _ ends =>
      obtain rfl := List.mem_singleton.mp member
      cases handleMutationResult_verdict ends with
      | unknown state _ => simp [reportsTransient, said, state] at transient
      | rejected _ status => exact ⟨_, rfl, congrArg some status⟩
      | accepted state => simp [reportsTransient, said, state] at transient
      | succeeded state => simp [reportsTransient, said, state] at transient
      | missing => simp [reportsTransient, said] at transient
      | malformed _ taken => simp [reportsTransient, said, taken] at transient
    | polled _ _ _ said _ ends =>
      obtain rfl := List.mem_singleton.mp member
      cases handleTaskResult_verdict ends with
      | pending state _ =>
        rcases state with state | state <;> simp [reportsTransient, said, state] at transient
      | succeeded state => simp [reportsTransient, said, state] at transient
      | unknown state _ => simp [reportsTransient, said, state] at transient
      | failed _ _ _ _ status => exact ⟨_, rfl, congrArg some status⟩
    | reviewed _ describes _ _ =>
      obtain rfl := List.mem_singleton.mp member
      exact absurd transient (by simp [not_transient describes])
    | confirmed _ describes _ _ =>
      obtain rfl := List.mem_singleton.mp member
      exact absurd transient (by simp [not_transient describes])
    | verified _ describes _ _ _ =>
      obtain rfl := List.mem_singleton.mp member
      exact absurd transient (by simp [not_transient describes])
  | caught executed ends =>
    cases executed with
    | unaddressed => cases member
    | interrupted _ said =>
      obtain rfl := List.mem_singleton.mp member
      simp [reportsTransient, said] at transient

/-- A transient failure that is reported within the budget never lets the
    workflow wait: it ends as failed. -/
theorem transient_not_retried (provider : Oracle ProviderCall.Answer)
    (reported : ∃ exchange ∈ ((runClaimed host around workflow).run provider []).1, reportsTransient exchange = true)
    (left : BudgetLeft around workflow) :
    ¬ RetriesTransient around workflow ((runClaimed host around workflow).run provider []).1
      ((runClaimed host around workflow).run provider []).2 := by
  intro retries
  have fails := transient_fails (runClaimed_transition.run_post provider) reported
  exact (retries reported left).1 fails

end

/-! ### Sample claims -/

def sampleAround : Surroundings := ⟨"worker", 0, 0, 0, 0, fun _ => ""⟩

def claimedAt (command : LifecycleCommand) (stage : WorkflowStage) : ClaimedWorkflow :=
  { action := command.data.action, command := command, stage := stage, attempt := 1, stageAttempt := 0,
    retryStartedAt := none, fencingToken := 1, providerResourceId := some "910000", providerTaskReference := none }

/-- A provider that answers every mutation in one way. -/
def answering (result : ProviderMutationResult) : Oracle ProviderCall.Answer
  | _, .getTask _ => .ok {}
  | _, .observeInstance _ => .ok none
  | _, .listSnapshots _ => .ok none
  | _, .submitCreateInstance _ | _, .applyInstanceConfiguration _ | _, .startInstance _ | _, .shutdownInstance _
  | _, .stopInstance _ | _, .rebootInstance _ | _, .resizeInstance _ | _, .createSnapshot _ | _, .rollbackSnapshot _
  | _, .deleteSnapshot _ | _, .markInstanceRetained _ | _, .purgeInstance _ => .ok (some result)

theorem judged_iff_submittingCreate :
    (WorkflowStage.submittingCreate ∈ mutationStages sampleCreate.data.action ∧
      (claimedAt sampleCreate .submittingCreate).action = sampleCreate.data.action) ∧
    (Judged (claimedAt sampleCreate .submittingCreate)
        ((runClaimed sampleHost sampleAround (claimedAt sampleCreate .submittingCreate)).run (answering {}) []).1
        ((runClaimed sampleHost sampleAround (claimedAt sampleCreate .submittingCreate)).run (answering {}) []).2 ↔
      Informed sampleAround (claimedAt sampleCreate .submittingCreate)
        ((runClaimed sampleHost sampleAround (claimedAt sampleCreate .submittingCreate)).run (answering {}) []).1) :=
  ⟨⟨by decide, rfl⟩, judged_iff (.inl (by decide)) rfl (answering {})⟩

/-- A creation that was accepted without a reference of its task ends as failed. -/
theorem acceptance_fails : ¬ ∀ (host : Host) (around : Surroundings) (workflow : ClaimedWorkflow)
    (provider : Oracle ProviderCall.Answer), workflow.action = workflow.command.data.action →
    workflow.stage ∈ mutationStages workflow.command.data.action →
    Judged workflow ((runClaimed host around workflow).run provider []).1
      ((runClaimed host around workflow).run provider []).2 := by
  intro all
  have judged := all sampleHost sampleAround (claimedAt sampleCreate .submittingCreate)
    (answering { state := some .accepted, providerResourceId := some "910000" }) rfl (by decide)
  rcases judged.failed ⟨_, rfl, rfl⟩ with ⟨exchange, member, excludes⟩ | ⟨impossible, -⟩
  · obtain rfl := List.mem_singleton.mp member
    cases excludes
  · cases impossible

/-- The refusal of a VM that another operation holds. -/
def lockedResult : ProviderMutationResult :=
  { state := some .rejected,
    failure := some { category := some .transient, code := some "PROVIDER_RESOURCE_LOCKED" } }

theorem reports_locked : ∃ exchange ∈ ((runClaimed sampleHost sampleAround (claimedAt samplePower .submittingPower)).run
    (answering lockedResult) []).1, reportsTransient exchange = true := ⟨_, List.mem_singleton.mpr rfl, rfl⟩

theorem transient_not_retried_locked :
    BudgetLeft sampleAround (claimedAt samplePower .submittingPower) ∧
      ¬ RetriesTransient sampleAround (claimedAt samplePower .submittingPower)
        ((runClaimed sampleHost sampleAround (claimedAt samplePower .submittingPower)).run
          (answering lockedResult) []).1
        ((runClaimed sampleHost sampleAround (claimedAt samplePower .submittingPower)).run
          (answering lockedResult) []).2 :=
  ⟨by decide, transient_not_retried (answering lockedResult) reports_locked (by decide)⟩

/-- A power action on a locked VM ends as failed at its first attempt. -/
theorem locked_fails : ¬ ∀ (host : Host) (around : Surroundings) (workflow : ClaimedWorkflow)
    (provider : Oracle ProviderCall.Answer),
    RetriesTransient around workflow ((runClaimed host around workflow).run provider []).1
      ((runClaimed host around workflow).run provider []).2 := by
  intro all
  obtain ⟨notFailed, -⟩ := all sampleHost sampleAround (claimedAt samplePower .submittingPower) (answering lockedResult)
    reports_locked (by decide)
  exact notFailed ⟨_, rfl, rfl⟩

end ControlPlane.FailureClassification
