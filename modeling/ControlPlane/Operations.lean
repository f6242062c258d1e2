import ControlPlane.Rejections

/-!
The row of an operation and its document. Every acceptance and every event
writes both, so the two stay copies of each other. What they tell about the end
of an operation fits its state, until the progress of a replayed workflow
reopens an operation that has ended: the progress takes nothing of the end back.
-/
namespace ControlPlane.Operations
open ControlPlane.Tables ControlPlane.Runs ControlPlane.Domain ControlPlane.Commands ControlPlane.EventValidation
open ControlPlane.WorkflowSchema ControlPlane.ControlSchema ControlPlane.Acceptance ControlPlane.ProjectionStore
open ControlPlane.AcceptanceRules ControlPlane.ProjectionConsumer ControlPlane.Platform ControlPlane.Rejections
open ControlPlane.ProviderPort (ProviderMutationResult)

section
variable {host : Host} {db after : ControlDb}

/-! ### Acceptance -/

/-- Nothing is told about an end. -/
structure Unended (o : OperationView) : Prop where
  completedAt : o.completedAt = none
  category : o.errorCategory = none
  code : o.errorCode = none
  message : o.errorMessage = none
  review : o.manualReviewRequired = false

/-- What an acceptance adds to the operations and to their documents. -/
inductive Opened (db after : ControlDb) : Prop
  | nothing (operations : after.operations = db.operations)
      (documents : after.operationDocuments = db.operationDocuments) : Opened db after
  | operation (operation : OperationView) (waiting : operation.state = .accepted) (unended : Unended operation)
      (unused : ∀ o ∈ db.operations, o.id ≠ operation.id) (operations : after.operations = db.operations ++ [operation])
      (documents : after.operationDocuments = db.operationDocuments ++ [operation]) : Opened db after

theorem mutates_opened {now : Instant} {m : Mutation} (mutates : Mutates db after now m)
    (waiting : m.operation.state = .accepted) (unended : Unended m.operation) : Opened db after :=
  .operation m.operation waiting unended mutates.unused mutates.operations mutates.operationDocuments

theorem accepted_unended (operationId projectId : Uuid) (action : WorkflowAction) (targetType : TargetType)
    (targetId : Uuid) (now : Instant) :
    Unended (acceptedOperation operationId projectId action targetType targetId now) := ⟨rfl, rfl, rfl, rfl, rfl⟩

theorem effects_opened {draws : Draws} {answer : AcceptedMutation} {request : Request}
    (effects : Effects host draws db after answer request) : Opened db after := by
  cases effects with
  | replayed _ same => subst same; exact .nothing rfl rfl
  | create command context address records _ _ built creates =>
    have begun : records.operation.state = .accepted ∧ Unended records.operation := by
      obtain ⟨_, -, built⟩ := bind_ok built
      obtain ⟨_, -, built⟩ := bind_ok built
      cases built
      exact ⟨rfl, rfl, rfl, rfl, rfl, rfl⟩
    exact .operation records.operation begun.1 begun.2 creates.unused creates.operations creates.operationDocuments
  | power _ _ _ mutates => exact mutates_opened mutates rfl (accepted_unended ..)
  | resize _ _ _ _ _ _ mutates => exact mutates_opened mutates rfl (accepted_unended ..)
  | snapshotCreate _ _ _ _ mutates => exact mutates_opened mutates rfl (accepted_unended ..)
  | snapshotAction _ _ _ _ _ _ _ _ mutates => exact mutates_opened mutates rfl (accepted_unended ..)
  | retention _ _ _ _ _ mutates => exact mutates_opened mutates rfl (accepted_unended ..)
  | purge _ _ _ _ _ _ _ _ _ mutates => exact mutates_opened mutates rfl (accepted_unended ..)
  | replay _ _ _ _ _ _ _ written => subst written; exact .nothing rfl rfl

/-! ### The row and the document -/

/-- The rows are keyed, and the documents are copies of them. -/
structure Mirrored (db : ControlDb) : Prop where
  keyed : Keyed OperationView.id db.operations
  copies : db.operationDocuments = db.operations

theorem Opened.mirrored (opened : Opened db after) (mirrored : Mirrored db) : Mirrored after := by
  cases opened with
  | nothing operations documents =>
    constructor
    · rw [operations]; exact mirrored.keyed
    · rw [operations, documents]; exact mirrored.copies
  | operation operation _ _ unused operations documents =>
    constructor
    · rw [operations]; exact keyed_append mirrored.keyed unused
    · rw [operations, documents, mirrored.copies]

/-- What an event makes of an operation, which is its own document. -/
def told (event : WorkflowEvent) (o : OperationView) : OperationView := projectedOperation event o o

theorem told_id (event : WorkflowEvent) (o : OperationView) : (told event o).id = o.id := projectedOperation_id event o o

/-- An event writes the row and the document alike. -/
theorem applied_told {event : WorkflowEvent} (mirrored : Mirrored db) (applied : Applied db after event) :
    after.operations = update (fun o : OperationView => o.id = event.operationId) (told event) db.operations ∧
      after.operationDocuments = after.operations := by
  cases applied with
  | documented document operation views found journaled present same =>
    subst same
    have member : operation ∈ db.operations := mirrored.copies ▸ find_mem journaled
    have about : operation.id = event.operationId := find_key journaled
    -- The row of the event is the document that was read.
    have row : ∀ o ∈ db.operations, o.id = event.operationId → o = operation :=
      fun o there same => mirrored.keyed.eq_of_key there member (same.trans about.symm)
    have rows : (updateOperation event.operationId (projectedOperation event operation) db).operations =
        update (fun o : OperationView => o.id = event.operationId) (told event) db.operations := by
      refine List.map_congr_left fun o there => ?_
      by_cases same : o.id = event.operationId
      · rw [if_pos same, if_pos same, row o there same]
        rfl
      · rw [if_neg same, if_neg same]
    refine ⟨rows, ?_⟩
    simp only [rows, mirrored.copies, about]
    refine List.map_congr_left fun o there => ?_
    by_cases same : o.id = event.operationId
    · rw [if_pos same, if_pos same, row o there same]
      rfl
    · rw [if_neg same, if_neg same]
  | resolved replayRequestId originalEventId outcome generation resolvedAt data owned known same =>
    subst same
    refine ⟨?_, mirrored.copies⟩
    have untold : told event = id := by
      funext o
      simp only [told, projectedOperation, data, id]
    simp [untold, update]

theorem applied_mirrored {event : WorkflowEvent} (mirrored : Mirrored db) (applied : Applied db after event) :
    Mirrored after := by
  obtain ⟨operations, documents⟩ := applied_told mirrored applied
  refine ⟨?_, documents⟩
  rw [operations]
  exact keyed_update mirrored.keyed fun o _ => told_id event o

theorem mirrored_next {s t : Lifecycle.State} {action : Lifecycle.Action} (mirrored : Mirrored s.db)
    (taken : Lifecycle.next host s action = some t) : Mirrored t.db := by
  cases Lifecycle.does_next taken with
  | accepted _ _ _ _ _ effects => exact (effects_opened effects).mirrored mirrored
  | projected event delivery now _ applied =>
    have received : Mirrored { s.db with
      eventReceipts := s.db.eventReceipts ++ [⟨.events, event.eventId, delivery, now⟩] } := ⟨mirrored.keyed, mirrored.copies⟩
    exact applied_mirrored received applied
  | lettered _ _ _ _ written => subst written; exact ⟨mirrored.keyed, mirrored.copies⟩
  | administered _ written => subst written; exact ⟨mirrored.keyed, mirrored.copies⟩
  | nothing _ same => subst same; exact mirrored

/-- What a document shows of an operation is what its row says. -/
structure Shows (document row : OperationView) : Prop where
  state : document.state = row.state
  stage : document.stage = row.stage
  progress : document.progressPercent = row.progressPercent
  startedAt : document.startedAt = row.startedAt
  updatedAt : document.updatedAt = row.updatedAt
  completedAt : document.completedAt = row.completedAt
  category : document.errorCategory = row.errorCategory
  code : document.errorCode = row.errorCode
  message : document.errorMessage = row.errorMessage
  review : document.manualReviewRequired = row.manualReviewRequired

theorem Shows.refl (o : OperationView) : Shows o o := ⟨rfl, rfl, rfl, rfl, rfl, rfl, rfl, rfl, rfl, rfl⟩

/-- In every run each operation has one row and one document, which agree. -/
theorem documents_show (host : Host) (catalog : Catalog) {s : Lifecycle.State}
    (run : Reaches (Lifecycle.next host) Anything (Lifecycle.initial catalog) s) (operationId : Uuid) :
    (s.db.operations.map OperationView.id).Nodup ∧ (s.db.operationDocuments.map OperationView.id).Nodup ∧
      ((find OperationView.id operationId s.db.operationDocuments).isSome ↔
        (find OperationView.id operationId s.db.operations).isSome) ∧
      ∀ row document, find OperationView.id operationId s.db.operations = some row →
        find OperationView.id operationId s.db.operationDocuments = some document → Shows document row := by
  have start : Mirrored (Lifecycle.initial catalog).db := ⟨List.nodup_nil, rfl⟩
  have mirrored := reaches_invariant (fun s : Lifecycle.State => Mirrored s.db)
    (fun s action t mirrored _ taken => mirrored_next mirrored taken) run start
  refine ⟨mirrored.keyed, mirrored.copies ▸ mirrored.keyed, by rw [mirrored.copies], ?_⟩
  intro row document rowed documented
  rw [mirrored.copies, rowed] at documented
  cases documented
  exact .refl row

/-- What an operation and its document are after a sample run. -/
theorem documents_show_sampleFailed : ∃ s row document,
    execute (Lifecycle.next sampleHost) (Lifecycle.initial Lifecycle.sampleCatalog)
      [Lifecycle.acceptSample, Lifecycle.projectSample 0 sampleCreate "failed" (Lifecycle.sampleFailure .createInstance)] =
        some s ∧
      find OperationView.id sampleCreate.operationId s.db.operations = some row ∧
      find OperationView.id sampleCreate.operationId s.db.operationDocuments = some document ∧ Shows document row := by
  have executed : execute (Lifecycle.next sampleHost) (Lifecycle.initial Lifecycle.sampleCatalog)
    [Lifecycle.acceptSample, Lifecycle.projectSample 0 sampleCreate "failed" (Lifecycle.sampleFailure .createInstance)] =
      some _ := rfl
  have run := reaches_execute (meets_anything _ _) executed
  exact ⟨_, _, _, executed, rfl, rfl,
    (documents_show sampleHost Lifecycle.sampleCatalog run sampleCreate.operationId).2.2.2 _ _ rfl rfl⟩

/-! ### The end of an operation -/

/-- What an operation tells about its end fits its state. -/
structure Settled (o : OperationView) : Prop where
  open_ : ¬ Ended o.state → Unended o
  ended : Ended o.state → o.completedAt.isSome = true

/-- A supported event leaves an operation settled, unless it is the progress of
    one that has ended. -/
theorem told_settled {event : WorkflowEvent} {o : OperationView} (supported : isSupported event = true)
    (settled : Settled o) (onward : isWorkflowProgressed event = true → ¬ Ended o.state) : Settled (told event o) := by
  obtain ⟨envelope, data⟩ := event
  cases data with
  | progressed stage attempt operationState reference nextActionAt =>
    have progresses : isWorkflowProgressed ⟨envelope, .progressed stage attempt operationState reference nextActionAt⟩ =
        true := by
      simpa [isSupported, isInstanceMutationCompleted, isInstanceMutationFailed, isProvisioningReplayResolved] using supported
    have unended := settled.open_ (onward progresses)
    refine ⟨fun _ => ⟨unended.completedAt, unended.category, unended.code, unended.message, unended.review⟩, ?_⟩
    -- No progress says that its operation has ended.
    intro ended
    change Ended operationState at ended
    simp only [isWorkflowProgressed, Bool.and_eq_true, Bool.or_eq_true, decide_eq_true_eq] at progresses
    rcases progresses.1.2 with ((state | state) | state) | state <;>
      (subst state; rcases ended with ended | ended | ended <;> cases ended)
  | completed action lifecycleState resource evidence observed => exact ⟨fun open_ => absurd (.inl rfl) open_, fun _ => rfl⟩
  | failed action failure compensationState =>
    refine ⟨fun open_ => absurd ?_ open_, fun _ => rfl⟩
    by_cases review : manual failure compensationState = true
    · exact .inr (.inr (by simp [told, projectedOperation, review]))
    · exact .inr (.inl (by simp [told, projectedOperation, review]))
  | replayResolved => exact settled

/-- Every operation is settled. -/
def AllSettled (db : ControlDb) : Prop := Mirrored db ∧ ∀ o ∈ db.operations, Settled o

theorem Opened.settled (opened : Opened db after) (settled : AllSettled db) : AllSettled after := by
  refine ⟨opened.mirrored settled.1, ?_⟩
  cases opened with
  | nothing operations => rw [operations]; exact settled.2
  | operation operation waiting unended _ operations =>
    intro o member
    rw [operations] at member
    rcases List.mem_append.mp member with old | new
    · exact settled.2 o old
    · rw [List.mem_singleton.mp new]
      refine ⟨fun _ => unended, fun ended => ?_⟩
      rw [waiting] at ended
      rcases ended with ended | ended | ended <;> cases ended

/-- A delivery brings no progress of an operation that has ended, other than a
    progress that was received before. -/
def Onward (s : Platform.State) : Platform.Action → Prop
  | .project index _ _ _ => ∀ row event, s.published[index]? = some row → row.message = .event event →
      isWorkflowProgressed event = true → ¬ Seen s.control.db .events event.eventId row.replayGeneration →
      ∀ o ∈ s.control.db.operations, o.id = event.operationId → ¬ Ended o.state
  | _ => True

theorem settled_next {s t : Platform.State} {action : Platform.Action} (settled : AllSettled s.control.db)
    (onward : Onward s action) (taken : Platform.next host s action = some t) : AllSettled t.control.db := by
  rcases control_next taken with same | ⟨act, controls, stepped⟩
  · rw [same]; exact settled
  · cases Lifecycle.does_next stepped with
    | accepted _ _ _ _ _ effects => exact (effects_opened effects).settled settled
    | projected event delivery now unseen applied =>
      cases controls with
      | event index partition offset _ row found _ message supported =>
        have received : Mirrored { s.control.db with
          eventReceipts := s.control.db.eventReceipts ++
            [⟨.events, event.eventId, deliveryOf row eventTopic partition offset, now⟩] } :=
          ⟨settled.1.keyed, settled.1.copies⟩
        refine ⟨applied_mirrored received applied, fun o member => ?_⟩
        rw [(applied_told received applied).1] at member
        obtain ⟨old, there, ⟨about, rfl⟩ | ⟨-, rfl⟩⟩ := mem_update.mp member
        · exact told_settled supported (settled.2 old there) fun progresses =>
            onward row event found message progresses unseen old there about
        · exact settled.2 o there
    | lettered _ _ _ _ written => rw [written]; exact ⟨⟨settled.1.keyed, settled.1.copies⟩, settled.2⟩
    | administered _ written => rw [written]; exact ⟨⟨settled.1.keyed, settled.1.copies⟩, settled.2⟩
    | nothing _ same => rw [same]; exact settled

/-- Where no progress reopens an operation that has ended, an operation tells
    about an end if and only if it has ended, in its row and in its document. -/
theorem settled_unless_reopened (host : Host) (catalog : Catalog) (now : Instant) {s : Platform.State}
    (run : Reaches (Platform.next host) Onward (Platform.initial catalog now) s) :
    ∀ o, o ∈ s.control.db.operations ∨ o ∈ s.control.db.operationDocuments →
      (¬ Ended o.state → o.completedAt = none ∧ o.errorCategory = none ∧ o.errorCode = none ∧ o.errorMessage = none ∧
        o.manualReviewRequired = false) ∧
      (Ended o.state → o.completedAt.isSome = true) := by
  have start : AllSettled (Platform.initial catalog now).control.db := ⟨⟨List.nodup_nil, rfl⟩, fun _ member => nomatch member⟩
  have settled := reaches_invariant (fun s : Platform.State => AllSettled s.control.db)
    (fun s action t settled onward taken => settled_next settled onward taken) run start
  intro o member
  have row : o ∈ s.control.db.operations := member.elim id fun documented => settled.1.copies ▸ documented
  have ⟨open_, ended⟩ := settled.2 o row
  exact ⟨fun unended => have ⟨completedAt, category, code, message, review⟩ := open_ unended
    ⟨completedAt, category, code, message, review⟩, ended⟩

end

/-! ### Sample runs -/

instance (state : OperationState) : Decidable (Ended state) := inferInstanceAs (Decidable (_ ∨ _ ∨ _))

def sampleClaim (action : WorkflowAction) (now : Instant) (eventId : Uuid) : Platform.Action :=
  .work (.claim "worker" 30 action (fun _ => false) ⟨"worker", now, 0, 0, 0, fun _ => eventId⟩)

def sampleWrite (claim : Nat) (eventId : Uuid) : Platform.Action := .work (.write claim fun _ => eventId)

/-- A claim that asks the provider nothing. -/
def silentClaim (claim : Nat) (action : WorkflowAction) (eventId : Uuid) : List Platform.Action :=
  [sampleClaim action 0 eventId, sampleWrite claim eventId]

/-- A claim that makes one call. -/
def answeredClaim (claim : Nat) (action : WorkflowAction) (eventId : Uuid) (result : ProviderMutationResult) :
    List Platform.Action :=
  [sampleClaim action 0 eventId, .work (.send claim),
   .work (.receive claim (Orchestrator.sampleProvider (some result) (some Orchestrator.sampleObservation))),
   sampleWrite claim eventId]

/-- A claim whose provider cannot be reached. -/
def failingClaim (claim : Nat) (action : WorkflowAction) (now : Instant) (eventId : Uuid) : List Platform.Action :=
  [sampleClaim action now eventId, .work (.send claim),
   .work (.receive claim fun _ => .error ⟨.unavailable, "The provider cannot be reached.", true⟩), sampleWrite claim eventId]

/-- A delivery of a command. -/
def sampleConsumption (index : Nat) (eventId : Uuid) : Platform.Action := .consume index 0 index (fun _ => eventId) 0

/-- A delivery of what the orchestrator published. -/
def sampleProjection (index : Nat) : Platform.Action := .project index 0 index 0

/-- The creation of an instance up to its first checkpoint. -/
def sampleStarted : List Platform.Action :=
  requests Lifecycle.acceptSample ++ sampleConsumption 0 "" ::
    silentClaim 0 .createInstance "00000000-0000-4000-8000-000000000110"

/-- A creation whose task could not be polled until its budget was spent, with
    its failure and its dead letter projected. -/
def sampleExhausted : List Platform.Action :=
  sampleStarted ++ (answeredClaim 1 .createInstance "00000000-0000-4000-8000-000000000111"
      { state := some .accepted, providerTaskReference := some "task", providerResourceId := some "910000" } ++
    .work (.outside (.pass LifecycleWorkflow.taskPollDelayMs)) :: (failingClaim 2 .createInstance 0 "00000000-0000-4000-8000-000000000112" ++
    (failingClaim 3 .createInstance LifecycleWorkflow.retryBudgetMs "00000000-0000-4000-8000-000000000113" ++
    [sampleProjection 3, sampleProjection 4])))

/-- An administrator asks to replay it. -/
def sampleReplayRequest : Platform.Action :=
  .accept (Lifecycle.sampleDraws 0
      ["00000000-0000-4000-8000-000000000120", "00000000-0000-4000-8000-000000000121", "outbox"])
    (.replay
      ⟨"administrator", "replay", sampleCreate.eventId, "00000000-0000-4000-8000-000000000122", "The provider is back."⟩)
    "hash"

/-- The creation is replayed, and reports its first progress. -/
def sampleReplayed : List Platform.Action :=
  sampleExhausted ++ sampleReplayRequest :: sampleConsumption 1 "00000000-0000-4000-8000-000000000123" ::
    sampleConsumption 2 "00000000-0000-4000-8000-000000000124" ::
    (silentClaim 4 .createInstance "00000000-0000-4000-8000-000000000114" ++ [sampleProjection 7])

/-- Whether a delivery may bring progress of an operation that has ended. -/
def reopens (s : Platform.State) : Platform.Action → Bool
  | .project index _ _ _ => s.published[index]?.any fun row =>
    match row.message with
    | .event event => isWorkflowProgressed event &&
        s.control.db.operations.any fun o => o.id = event.operationId && decide (Ended o.state)
    | _ => false
  | _ => false

theorem onward_of_reopens {s : Platform.State} {action : Platform.Action} (stays : (!reopens s action) = true) :
    Onward s action := by
  cases action with
  | project index partition offset now =>
    intro row event found message progresses _ o member about ended
    have reopened : reopens s (.project index partition offset now) = true := by
      simp only [reopens, found, Option.any_some, message, progresses, Bool.true_and, List.any_eq_true, Bool.and_eq_true,
        decide_eq_true_eq]
      exact ⟨o, member, about, ended⟩
    rw [reopened] at stays
    cases stays
  | _ => trivial

theorem settled_unless_reopened_sampleStarted : ∃ s,
    execute (Platform.next sampleHost) (Platform.initial Lifecycle.sampleCatalog 0)
        (sampleStarted ++ [sampleProjection 0]) = some s ∧
      ∃ o ∈ s.control.db.operations, o.state = .running ∧ o.completedAt = none := by
  have passed : (tested (Platform.next sampleHost) (fun s action => !reopens s action)
      (Platform.initial Lifecycle.sampleCatalog 0) (sampleStarted ++ [sampleProjection 0])).any (fun s =>
        s.control.db.operations.any fun o => o.state = .running) = true := by decide +kernel
  obtain ⟨s, reached, running⟩ := (Option.any_eq_true _ _).mp passed
  obtain ⟨o, member, state⟩ := List.any_eq_true.mp running
  have run := reaches_tested (fun _ _ => onward_of_reopens) reached
  refine ⟨s, execute_tested reached, o, member, of_decide_eq_true state, ?_⟩
  refine ((settled_unless_reopened sampleHost Lifecycle.sampleCatalog 0 run o (.inl member)).1 ?_).1
  rw [of_decide_eq_true state]
  decide

/-- A replayed creation is running, and still says when it failed and why. -/
theorem replayed_unsettled : ¬ ∀ (host : Host) (catalog : Catalog) (now : Instant) (s : Platform.State),
    Reaches (Platform.next host) Anything (Platform.initial catalog now) s → ∀ o ∈ s.control.db.operations,
      ¬ Ended o.state → o.completedAt = none ∧ o.errorCode = none := by
  intro all
  have executed : (execute (Platform.next sampleHost) (Platform.initial Lifecycle.sampleCatalog 0) sampleReplayed).any
      (fun s => s.control.db.operations.any fun o =>
        o.state = .running && o.completedAt.isSome && o.errorCode = some "WORKFLOW_RETRY_EXHAUSTED") = true := by
    decide +kernel
  obtain ⟨s, reached, kept⟩ := (Option.any_eq_true _ _).mp executed
  obtain ⟨o, member, holds⟩ := List.any_eq_true.mp kept
  simp only [Bool.and_eq_true, decide_eq_true_eq] at holds
  have open_ : ¬ Ended o.state := by rw [holds.1.1]; decide
  have clean := all sampleHost Lifecycle.sampleCatalog 0 s (reaches_execute (meets_anything _ _) reached) o member open_
  rw [clean.1] at holds
  cases holds.1.2

end ControlPlane.Operations
