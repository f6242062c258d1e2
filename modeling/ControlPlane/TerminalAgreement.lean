import ControlPlane.Custody
import ControlPlane.FailureClassification
import ControlPlane.AcceptanceRules

/-!
The end of an operation on both sides. The store sets the status of a workflow
by the state that the provider answered with, and the projection the state of
its operation by the category of the failure in the event. The two agree on
every end but one: a clean failure whose category asks for a human.
-/
namespace ControlPlane.TerminalAgreement
open ControlPlane.Programs ControlPlane.Programs.Program ControlPlane.Tables ControlPlane.Domain ControlPlane.Commands
open ControlPlane.EventValidation ControlPlane.WorkflowSchema ControlPlane.WorkflowStore ControlPlane.StoreRules
open ControlPlane.ControlSchema ControlPlane.ProjectionStore ControlPlane.AcceptanceRules
open ControlPlane.ProviderPort ControlPlane.LifecycleWorkflow ControlPlane.SagaRules ControlPlane.Transitions
open ControlPlane.FailureClassification ControlPlane.Custody

/-! ### The two sides -/

/-- The store performs the write of a claim. -/
def perform (db : WorkflowDb) (fresh : Nat → Uuid) (now : Instant) : StoreWrite → Except String WorkflowDb
  | .checkpoint input => checkpoint db fresh input now
  | .complete input => complete db fresh input now
  | .deadLetterWorkflow input => deadLetterWorkflow db fresh input now

/-- The state of an operation that says what the status of its workflow says. -/
def stateOf : WorkflowStatus → OperationState
  | .running => .running
  | .retryWait => .retryWait
  | .succeeded => .succeeded
  | .failed => .failed
  | .manualReview => .manualReview

/-- The rows and the document of an operation have a state. -/
structure Shows (db : ControlDb) (operationId : Uuid) (state : OperationState) : Prop where
  rows : ∀ row ∈ db.operations, row.id = operationId → row.state = state
  document : ∃ document, find OperationView.id operationId db.operationDocuments = some document ∧
    document.state = state

/-- Wherever a write is stored and its event is applied, the operation has the
    state that its workflow has. -/
def Agrees (write : StoreWrite) : Prop :=
  ∀ (db after : WorkflowDb) (fresh : Nat → Uuid) (now : Instant) (row : WorkflowRow) (control projected : ControlDb),
    perform db fresh now write = .ok after → after.workflow write.fence.operationId = some row →
    applyEvent control write.event = .ok projected → Shows projected write.event.operationId (stateOf row.status)

/-- The category in which a provider reports a failure. -/
def reported (exchange : ProviderExchange) : Option FailureCategory :=
  match reply exchange with
  | .result (some result) => result.failure.bind ProviderFailure.category
  | .task response => response.failure.bind ProviderFailure.category
  | _ => none

/-- A claim that ends its workflow ends it alike on both sides, and for review
    when the provider reported an unknown outcome. -/
structure EndsAlike (said : List ProviderExchange) (ended : Except WorkflowError StoreWrite) : Prop where
  agrees : ∀ write, ended = .ok write → ending write ≠ none → Agrees write
  unknown : (∃ exchange ∈ said, reported exchange = some .unknownOutcome) →
    ∀ status, EndsAs status ended → status = .manualReview

/-- An answer that the provider calls a failure and its category a question:
    its state ends the workflow as failed, its category sends the operation to
    review. -/
def Contradicts (workflow : ClaimedWorkflow) (exchange : ProviderExchange) : Prop :=
  match reply exchange with
  | .result (some result) =>
    result.state ≠ some .unknown ∧ wellFormed workflow result = false ∧
      (reported exchange = some .unknownOutcome ∨
        result.state = some .rejected ∧ reported exchange = some .manualReview)
  | .task response =>
    response.state ∉ [some .queued, some .running, some .succeeded, some .unknown] ∧
      (reported exchange = some .unknownOutcome ∨ reported exchange = some .manualReview)
  | _ => False

/-! ### What the projection makes of an event -/

/-- The state that a terminal event gives its operation. -/
def endState : WorkflowEventData → Option OperationState
  | .completed .. => some .succeeded
  | .failed _ failure compensationState => some (if manual failure compensationState then .manualReview else .failed)
  | .progressed .. | .replayResolved .. => none

section
variable {db after : ControlDb} {event : WorkflowEvent}

theorem projectedOperation_state {state : OperationState} (ends : endState event.data = some state)
    (document o : OperationView) : (projectedOperation event document o).state = state := by
  unfold endState at ends
  unfold projectedOperation
  split at ends
  next data => rw [data]; exact Option.some.inj ends
  next data => rw [data]; exact Option.some.inj ends
  next => cases ends
  next => cases ends

/-- A terminal event gives its operation one state, everywhere. -/
theorem applyEvent_shows {state : OperationState} (applied : applyEvent db event = .ok after)
    (ends : endState event.data = some state) : Shows after event.operationId state := by
  cases applyEvent_applied applied with
  | documented document operation views found journaled present same =>
    subst same
    constructor
    · intro row member own
      obtain ⟨old, -, ⟨-, rfl⟩ | ⟨other, rfl⟩⟩ := mem_update.mp member
      · exact projectedOperation_state ends operation old
      · exact absurd own other
    · refine ⟨projectedOperation event operation operation, ?_, projectedOperation_state ends operation operation⟩
      rw [find_update_of fun o chosen => (projectedOperation_id event operation operation).trans chosen.symm, journaled,
        Option.map_some, if_pos rfl]
  | resolved _ _ _ _ _ data => rw [data] at ends; cases ends

end

/-! ### What the store makes of a write -/

section
variable {db after : WorkflowDb} {fresh : Nat → Uuid} {now : Instant} {write : StoreWrite}

/-- The row of a workflow after a stage write. -/
theorem stageWrite_row {fence : Fence} {rewrite : WorkflowRow → WorkflowRow} {row : WorkflowRow}
    (stage : StageWrite db after fence now rewrite) (keeps : ∀ w, (rewrite w).operationId = w.operationId)
    (found : after.workflow fence.operationId = some row) : ∃ old, row = rewrite old := by
  obtain ⟨⟨old, lease, held, -⟩, workflows⟩ := stage
  have later := @workflow_rewritten _ _ fence.operationId _ _ keeps held.workflow
  rw [if_pos rfl] at later
  simp only [WorkflowDb.workflow, workflows, updateWorkflow] at found
  exact ⟨old, (Option.some.inj (later.symm.trans found)).symm⟩

/-- A write that ends its workflow gives it its status. -/
theorem perform_status {row : WorkflowRow} {status : FinalStatus} (ends : ending write = some status)
    (performed : perform db fresh now write = .ok after)
    (found : after.workflow write.fence.operationId = some row) : row.status = status.status := by
  cases write with
  | checkpoint input => cases ends
  | complete input =>
    cases ends
    obtain ⟨old, rfl⟩ := stageWrite_row (complete_ok performed).1 (fun _ => rfl) found
    rfl
  | deadLetterWorkflow input =>
    cases ends
    obtain ⟨row', -, stage, -⟩ := deadLetterWorkflow_ok performed
    obtain ⟨old, rfl⟩ := stageWrite_row stage (fun _ => rfl) found
    rfl

/-- A completion can be stored. -/
theorem complete_stored (command : LifecycleCommand) (input : CompleteInput) :
    ∃ db after row, perform db fresh now (.complete input) = .ok after ∧
      after.workflow input.operationId = some row := by
  let row : WorkflowRow := { newWorkflow command 0 none now with
    operationId := input.operationId, fencingToken := input.fencingToken }
  let db : WorkflowDb :=
    { workflows := [row], instanceLeases := [⟨row.instanceId, input.workerId, input.fencingToken, now + 1⟩] }
  have here : db.workflow input.operationId = some row := by simp [db, row, WorkflowDb.workflow, find]
  have leased : db.lease row.instanceId = some ⟨row.instanceId, input.workerId, input.fencingToken, now + 1⟩ := by
    simp [db, WorkflowDb.lease, find]
  have asserted : assertLease db input.toFence now = .ok row := by
    simp [assertLease, here, leased, row]
  obtain ⟨after, performed⟩ : ∃ after, complete db fresh input now = .ok after := by
    simp only [complete, asserted]
    exact ⟨_, rfl⟩
  have later := @workflow_rewritten _ _ input.operationId _ (completedRow input now) (fun _ => rfl) here
  rw [if_pos rfl] at later
  refine ⟨db, after, completedRow input now row, performed, ?_⟩
  rw [WorkflowDb.workflow, (complete_ok performed).1.workflows]
  exact later

end

/-- The documents that an event is applied to. -/
def documentsOf (event : WorkflowEvent) : ControlDb :=
  { instanceDocuments :=
      [{ id := event.aggregateId, projectId := event.projectId, lifecycleState := .provisioning,
         desired := ⟨"debian-12", "small", "lab", "vm", .running, false⟩, observed := none,
         ipv4Lease := ⟨"10.0.0.2", 24, "10.0.0.1", .active⟩, activeOperationId := some event.operationId,
         drift := "none", lastReconciledAt := none, retentionDeadline := none, purgeEligible := false, createdAt := 0, updatedAt := 0 }],
    operationDocuments :=
      [Acceptance.acceptedOperation event.operationId event.projectId .createInstance .instance_ event.aggregateId 0] }

/-- A failure can be applied where its documents are. -/
theorem failed_applied {event : WorkflowEvent} {action : WorkflowAction} {failure : FailureValue}
    {compensationState : CompensationState} (data : event.data = .failed action failure compensationState) :
    ∃ projected, applyEvent (documentsOf event) event = .ok projected := by
  have locked : ∃ documents, lockDocuments (documentsOf event) event.aggregateId event.operationId = .ok documents := by
    simp [lockDocuments, documentsOf, find, Acceptance.acceptedOperation]
  obtain ⟨documents, locked⟩ := locked
  rw [applyEvent, data]
  simp only [applyFailed, locked]
  exact ⟨_, rfl⟩

/-! ### Clean failures -/

/-- The category of a failure that ends its workflow as failed. -/
def cleanCategory : StoreWrite → Option ErrorCategory
  | .checkpoint _ => none
  | .complete input =>
    match input.status, input.event.data with
    | .failed, .failed _ failure _ => some failure.category
    | _, _ => none
  | .deadLetterWorkflow input => some input.failure.category

/-- A category that sends an operation to review. -/
def AsksReview (category : ErrorCategory) : Prop := category = .unknownOutcome ∨ category = .manualReview

theorem manual_clean {failure : FailureValue} : manual failure .notRequired = true ↔ AsksReview failure.category := by
  simp [manual, AsksReview]

section
variable {host : Host} {around : Surroundings} {workflow : ClaimedWorkflow} {write : StoreWrite}
  {said : List ProviderExchange} {exchange : ProviderExchange}

/-- Where both sides end alike, they end in the state of the status. -/
theorem agrees_of_endState {status : FinalStatus} (ends : ending write = some status)
    (shows : endState write.event.data = some (stateOf status.status)) : Agrees write := by
  intro db after fresh now row control projected performed found applied
  rw [perform_status ends performed found]
  exact applyEvent_shows applied shows

/-- A claim's write agrees unless it is a clean failure whose category asks for
    a review. -/
theorem agrees_of_clean (fits : Fits around workflow write) (ends : ending write ≠ none)
    (clean : ∀ category, cleanCategory write = some category → ¬ AsksReview category) : Agrees write := by
  cases fits.outcome with
  | moved => exact absurd rfl ends
  | @failed input failure status event =>
    cases which : input.status with
    | succeeded => exact absurd which status
    | failed =>
      have kept := clean failure.category (by simp [cleanCategory, which, event])
      refine agrees_of_endState (congrArg some which) ?_
      have clear : manual failure .notRequired = false := by
        simpa using mt manual_clean.mp kept
      simp [StoreWrite.event, event, which, endState, clear, FinalStatus.status, stateOf]
    | manualReview =>
      refine agrees_of_endState (congrArg some which) ?_
      simp [StoreWrite.event, event, which, endState, manual, FinalStatus.status, stateOf]
  | succeeded resource evidenceId observed status event =>
    refine agrees_of_endState (congrArg some status) ?_
    simp [StoreWrite.event, event, endState, FinalStatus.status, stateOf]
  | @exhausted input action compensation =>
    have kept := clean input.failure.category rfl
    have clear : manual input.failure .notRequired = false := by
      simpa using mt manual_clean.mp kept
    refine @agrees_of_endState _ .failed rfl ?_
    simp [StoreWrite.event, DeadLetterWorkflowInput.event, compensation, endState, clear, FinalStatus.status, stateOf]

/-- A clean failure whose category asks for a review is failed in the store and
    under review in the projection. -/
theorem clean_disagrees {input : CompleteInput} {action : WorkflowAction} {failure : FailureValue}
    (status : input.status = .failed) (data : input.event.data = .failed action failure .notRequired)
    (asks : AsksReview failure.category) : ¬ Agrees (.complete input) := by
  intro agrees
  obtain ⟨db, after, row, performed, found⟩ := @complete_stored (fun _ => "") 0 sampleCreate input
  obtain ⟨projected, applied⟩ := failed_applied data
  have shows := agrees db after _ _ row _ projected performed found applied
  have ends : ending (.complete input) = some .failed := congrArg some status
  rw [perform_status ends performed found] at shows
  have review : endState input.event.data = some .manualReview := by
    rw [data, endState, manual_clean.mpr asks]
    rfl
  obtain ⟨document, present, state⟩ := shows.document
  obtain ⟨document', present', state'⟩ := (applyEvent_shows applied review).document
  cases Option.some.inj (present.symm.trans present')
  cases state.symm.trans state'

/-! ### What a claim is answered -/

theorem providerFailureCategory_asksReview {category : Option FailureCategory} :
    AsksReview (providerFailureCategory category) ↔ category = some .unknownOutcome ∨ category = some .manualReview := by
  unfold AsksReview
  cases category with
  | none => simp [providerFailureCategory]
  | some category => cases category <;> simp [providerFailureCategory]

theorem permanent_asksNothing : ¬ AsksReview .permanent := by simp [AsksReview]

/-- A rejection ends as a clean failure of the category that was reported. -/
theorem rejected_clean {result : ProviderMutationResult} {acceptedStage synchronousStage : WorkflowStage}
    (rejected : result.state = some .rejected)
    (ends : handleMutationResult host around workflow (some result) acceptedStage synchronousStage = .done write) :
    ∃ input failure, write = .complete input ∧ input.status = .failed ∧
      input.event.data = .failed workflow.action failure .notRequired ∧
      failure.category = providerFailureCategory (result.failure.bind ProviderFailure.category) := by
  simp only [handleMutationResult, rejected] at ends
  cases ends
  exact ⟨_, _, rfl, rfl, rfl, rfl⟩

/-- A task without a result ends as a clean failure of the category that was
    reported. -/
theorem task_clean {response : GetTaskResponse} {successStage : WorkflowStage} {taskReference : String}
    (state : response.state ∉ [some .queued, some .running, some .succeeded, some .unknown])
    (ends : handleTaskResult host around workflow response successStage taskReference = .done write) :
    ∃ input failure, write = .complete input ∧ input.status = .failed ∧
      input.event.data = .failed workflow.action failure .notRequired ∧
      failure.category = providerFailureCategory (response.failure.bind ProviderFailure.category) := by
  simp only [List.mem_cons, List.not_mem_nil, or_false, not_or] at state
  obtain ⟨queued, running, succeeded, known⟩ := state
  simp only [handleTaskResult, queued, running, succeeded, known, or_self, if_false] at ends
  cases ends
  exact ⟨_, _, rfl, rfl, rfl, rfl⟩

/-- Any other result fails permanently, if it fails. -/
theorem malformed_clean {result : ProviderMutationResult} {acceptedStage synchronousStage : WorkflowStage}
    (known : result.state ≠ some .unknown) (taken : result.state ≠ some .rejected)
    (ends : handleMutationResult host around workflow (some result) acceptedStage synchronousStage = .done write) :
    ∀ category, cleanCategory write = some category → category = .permanent := by
  intro category clean
  simp only [handleMutationResult, if_neg known, if_neg taken] at ends
  split at ends
  next =>
    cases ends
    exact (Option.some.inj clean).symm
  next =>
    split at ends
    next =>
      split at ends
      next =>
        cases ends
        exact (Option.some.inj clean).symm
      next => cases ends; cases clean
    next =>
      split at ends
      next => cases ends; cases clean
      next =>
        cases ends
        exact (Option.some.inj clean).symm

/-- The failure of a transport asks for no review that its status does not ask for. -/
theorem error_clean {error : ProviderTransportError}
    (ends : handleProviderError around workflow error = .done write) :
    ∀ category, cleanCategory write = some category → ¬ AsksReview category := by
  intro category clean
  unfold handleProviderError at ends
  split at ends
  next => cases ends; cases clean
  next =>
    split at ends
    next =>
      unfold retryOrDeadLetter at ends
      dsimp only at ends
      split at ends
      next => cases ends; cases clean; simp [AsksReview]
      next =>
        split at ends
        next => cases ends
        next => cases ends; cases clean
    next => cases ends; cases clean; simp [AsksReview]

/-! ### Both sides end alike -/

/-- A write that asks for no review behind the store's back ends alike when the
    provider reported no unknown outcome. -/
theorem endsAlike_of_clean (fits : Fits around workflow write)
    (clean : ∀ category, cleanCategory write = some category → ¬ AsksReview category)
    (unknown : (∃ exchange ∈ said, reported exchange = some .unknownOutcome) →
      ∀ status, ending write = some status → status = .manualReview) : EndsAlike said (.ok write) := by
  constructor
  · rintro _ ⟨⟩ ends
    exact agrees_of_clean fits ends clean
  · rintro told status ⟨_, ⟨⟩, ends⟩
    exact unknown told status ends

/-- A clean failure of the category that was reported ends alike unless that
    asks for a review. -/
theorem clean_endsAlike {input : CompleteInput} {action : WorkflowAction} {failure : FailureValue}
    (fits : Fits around workflow (.complete input)) (status : input.status = .failed)
    (data : input.event.data = .failed action failure .notRequired)
    (category : failure.category = providerFailureCategory (reported exchange)) :
    EndsAlike [exchange] (.ok (.complete input)) ↔
      ¬ (reported exchange = some .unknownOutcome ∨ reported exchange = some .manualReview) := by
  rw [← providerFailureCategory_asksReview, ← category]
  constructor
  · intro alike asks
    exact clean_disagrees status data asks (alike.agrees _ rfl (by simp [ending]))
  · intro calm
    refine endsAlike_of_clean fits ?_ ?_
    · intro shown same
      simp only [cleanCategory, status, data, Option.some.injEq] at same
      exact same ▸ calm
    · rintro ⟨other, member, unknown⟩
      rw [category, providerFailureCategory_asksReview] at calm
      exact absurd (.inl (List.mem_singleton.mp member ▸ unknown)) calm

theorem mutated_endsAlike {result : Option ProviderMutationResult} {acceptedStage synchronousStage : WorkflowStage}
    (fits : Fits around workflow write) (said : reply exchange = .result result)
    (ends : handleMutationResult host around workflow result acceptedStage synchronousStage = .done write) :
    EndsAlike [exchange] (.ok write) ↔ ¬ Contradicts workflow exchange := by
  have verdict := handleMutationResult_verdict ends
  cases result with
  | none =>
    have quiet : reported exchange = none := by simp [reported, said]
    refine iff_of_true (endsAlike_of_clean fits ?_ (by simp [quiet])) (by simp [Contradicts, said])
    cases ends
    rintro category ⟨⟩
    exact permanent_asksNothing
  | some result =>
    have told : reported exchange = result.failure.bind ProviderFailure.category := by simp [reported, said]
    by_cases known : result.state = some .unknown
    · have agreed : ¬ Contradicts workflow exchange := by simp [Contradicts, said, known]
      refine iff_of_true (endsAlike_of_clean fits ?_ ?_) agreed
      all_goals simp only [handleMutationResult, known, if_true] at ends; cases ends
      · rintro category ⟨⟩
      · rintro - status ⟨⟩
        rfl
    · by_cases taken : result.state = some .rejected
      · have loose : wellFormed workflow result = false := by simp [wellFormed, taken]
        have contradicts : Contradicts workflow exchange ↔
            reported exchange = some .unknownOutcome ∨ reported exchange = some .manualReview := by
          simp [Contradicts, said, taken, loose]
        obtain ⟨input, failure, rfl, status, data, category⟩ := rejected_clean taken ends
        rw [contradicts]
        exact clean_endsAlike fits status data (told ▸ category)
      · have clean : ∀ category, cleanCategory write = some category → ¬ AsksReview category :=
          fun category shown => malformed_clean known taken ends category shown ▸ permanent_asksNothing
        cases verdict with
        | unknown state _ => exact absurd state known
        | rejected state _ => exact absurd state taken
        | accepted state found tracked _ _ _ =>
          have formed := wellFormed_accepted state found tracked
          exact iff_of_true (endsAlike_of_clean fits clean (by rintro _ _ ⟨⟩))
            (by simp [Contradicts, said, formed])
        | succeeded state found _ _ =>
          have formed := wellFormed_succeeded state found
          exact iff_of_true (endsAlike_of_clean fits clean (by rintro _ _ ⟨⟩))
            (by simp [Contradicts, said, formed])
        | malformed _ _ loose status =>
          have contradicts : Contradicts workflow exchange ↔ reported exchange = some .unknownOutcome := by
            simp [Contradicts, said, known, loose, taken]
          rw [contradicts]
          constructor
          · intro alike unknown
            have review := alike.unknown ⟨exchange, List.mem_singleton.mpr rfl, unknown⟩ .failed
              ⟨_, rfl, congrArg some status⟩
            cases review
          · intro calm
            refine endsAlike_of_clean fits clean ?_
            rintro ⟨other, member, unknown⟩
            exact absurd (List.mem_singleton.mp member ▸ unknown) calm

theorem polled_endsAlike {response : GetTaskResponse} {successStage : WorkflowStage} {taskReference : String}
    (fits : Fits around workflow write) (said : reply exchange = .task response)
    (ends : handleTaskResult host around workflow response successStage taskReference = .done write) :
    EndsAlike [exchange] (.ok write) ↔ ¬ Contradicts workflow exchange := by
  have told : reported exchange = response.failure.bind ProviderFailure.category := by simp [reported, said]
  by_cases state : response.state ∈ [some .queued, some .running, some .succeeded, some .unknown]
  · have agreed : ¬ Contradicts workflow exchange := by simp only [Contradicts, said, state, not_true, false_and, not_false_iff]
    refine iff_of_true ?_ agreed
    cases handleTaskResult_verdict ends with
    | pending _ _ => exact endsAlike_of_clean fits nofun fun _ _ impossible => nomatch impossible
    | succeeded _ _ => exact endsAlike_of_clean fits nofun fun _ _ impossible => nomatch impossible
    | unknown _ status =>
      refine endsAlike_of_clean fits (by simp [cleanCategory, status]) ?_
      rintro - _ ⟨⟩
      exact status
    | failed queued running succeeded known _ => simp [queued, running, succeeded, known] at state
  · have contradicts : Contradicts workflow exchange ↔
        reported exchange = some .unknownOutcome ∨ reported exchange = some .manualReview := by
      simp only [Contradicts, said, state, not_false_iff, true_and]
    obtain ⟨input, failure, rfl, status, data, category⟩ := task_clean state ends
    rw [contradicts]
    exact clean_endsAlike fits status data (told ▸ category)

/-- A claim that was answered nothing ends alike. -/
theorem unanswered_endsAlike (fits : Fits around workflow write)
    (clean : ∀ category, cleanCategory write = some category → ¬ AsksReview category) :
    EndsAlike [] (.ok write) ↔ ∀ exchange ∈ ([] : List ProviderExchange), ¬ Contradicts workflow exchange :=
  iff_of_true (endsAlike_of_clean fits clean (by simp)) (by simp)

/-- An answer without a category contradicts nothing. -/
theorem silent_endsAlike (fits : Fits around workflow write)
    (clean : ∀ category, cleanCategory write = some category → ¬ AsksReview category)
    (silent : reported exchange = none) (agreed : ¬ Contradicts workflow exchange) :
    EndsAlike [exchange] (.ok write) ↔ ∀ other ∈ [exchange], ¬ Contradicts workflow other :=
  iff_of_true (endsAlike_of_clean fits clean (by simp [silent])) (by simpa using agreed)

theorem describes_silent (describes : (reply exchange).describes = true) :
    reported exchange = none ∧ ¬ Contradicts workflow exchange := by
  cases said : reply exchange <;> simp_all [Reply.describes, reported, Contradicts]

/-- Nothing that raised ends its workflow. -/
theorem error_endsAlike {error : WorkflowError} : EndsAlike said (.error error) := by
  constructor
  · intro write impossible
    cases impossible
  · rintro - status ⟨write, impossible, -⟩
    cases impossible

theorem succeed_status {lifecycleState : LifecycleState} {observed : Option ObservedState}
    (ends : succeed around workflow lifecycleState observed = .done write) :
    ∃ input, write = .complete input ∧ input.status = .succeeded := by
  unfold succeed requiredResource at ends
  split at ends
  next resource present =>
    split at ends
    next => cases ends
    next => cases ends; exact ⟨_, rfl, rfl⟩
  next => cases ends

theorem transition_endsAlike {ended : Except WorkflowError StoreWrite}
    (transition : Transition host around workflow said ended) :
    EndsAlike said ended ↔ ∀ exchange ∈ said, ¬ Contradicts workflow exchange := by
  have every := transition_fits transition
  cases transition with
  | through executed =>
    have fits := every _ rfl
    cases executed with
    | advanced _ ends => cases ends; exact unanswered_endsAlike fits nofun
    | unsupported _ _ _ ends =>
      cases ends
      refine unanswered_endsAlike fits ?_
      rintro category ⟨⟩
      exact permanent_asksNothing
    | untracked _ _ ends =>
      cases ends
      refine unanswered_endsAlike fits ?_
      rintro category ⟨⟩
      exact permanent_asksNothing
    | mutated _ _ said _ ends => simpa using mutated_endsAlike fits said ends
    | polled _ _ _ said _ ends => simpa using polled_endsAlike fits said ends
    | reviewed _ describes _ ends =>
      obtain ⟨silent, agreed⟩ := describes_silent describes
      cases ends
      exact silent_endsAlike fits nofun silent agreed
    | @confirmed exchange write observed _ describes _ ends =>
      obtain ⟨silent, agreed⟩ := describes_silent describes
      obtain ⟨input, rfl, status⟩ := succeed_status ends
      exact silent_endsAlike fits (by simp [cleanCategory, status]) silent agreed
    | verified _ describes _ _ ends =>
      obtain ⟨silent, agreed⟩ := describes_silent describes
      cases ends
      exact silent_endsAlike fits nofun silent agreed
  | caught executed ends =>
    cases ended with
    | error error =>
      refine iff_of_true error_endsAlike ?_
      cases executed with
      | unaddressed => simp
      | interrupted _ said => simp [Contradicts, said]
    | ok write =>
      have fits := every _ rfl
      have clean := error_clean ends
      cases executed with
      | unaddressed => exact unanswered_endsAlike fits clean
      | interrupted _ said =>
        exact silent_endsAlike fits clean (by simp [reported, said]) (by simp [Contradicts, said])

/-! ### The theorem -/

/-- Whatever its provider answers, a claim that ends its workflow ends it alike
    on both sides exactly when no answer contradicts itself. -/
theorem endsAlike_iff (provider : Oracle ProviderCall.Answer) :
    EndsAlike ((runClaimed host around workflow).run provider []).1
        ((runClaimed host around workflow).run provider []).2 ↔
      ∀ exchange ∈ ((runClaimed host around workflow).run provider []).1, ¬ Contradicts workflow exchange :=
  transition_endsAlike (runClaimed_transition.run_post provider)

end

/-- How an adapter refuses a configuration that it has no state to verify against. -/
def unverifiedResult : ProviderMutationResult :=
  { state := some .rejected,
    failure := some { category := some .unknownOutcome, code := some "TERRAFORM_STATE_ABSENT",
                      safeMessage := some "The instance has no Terraform state to verify against." } }

/-- A creation whose configuration is refused with an unknown outcome is failed
    in the store and under review in the projection. -/
theorem unverified_disagrees : ¬ ∀ (host : Host) (around : Surroundings) (workflow : ClaimedWorkflow)
    (provider : Oracle ProviderCall.Answer), EndsAlike ((runClaimed host around workflow).run provider []).1
      ((runClaimed host around workflow).run provider []).2 := by
  intro all
  have alike := all sampleHost sampleAround (claimedAt sampleCreate .configuring) (answering unverifiedResult)
  rw [transition_endsAlike (runClaimed_transition.run_post _)] at alike
  refine alike _ (List.mem_singleton.mpr rfl) ⟨?_, rfl, .inl rfl⟩
  decide

end ControlPlane.TerminalAgreement
