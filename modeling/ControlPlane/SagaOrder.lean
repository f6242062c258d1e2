import ControlPlane.Exclusion

/-!
The order of a saga. A claim that is executed ends in exactly one write. Within one
replay generation the stage of a workflow only moves forward in the order of its
capability, whatever crashes and is claimed again, and the percentages that its
events show never decrease.
-/
namespace ControlPlane.SagaOrder
open ControlPlane.Programs ControlPlane.Programs.Program ControlPlane.Tables ControlPlane.Runs
open ControlPlane.Domain ControlPlane.Commands ControlPlane.WorkflowSchema ControlPlane.WorkflowStore ControlPlane.StoreRules
open ControlPlane.ProviderPort ControlPlane.LifecycleWorkflow ControlPlane.SagaRules ControlPlane.Transitions
open ControlPlane.Orchestrator ControlPlane.Custody ControlPlane.ControlSchema ControlPlane.ProjectionStore
open ControlPlane.AcceptanceRules ControlPlane.EventValidation
open ControlPlane.Fencing (StoreCall Called called_next)

/-! ### The claim -/

/-- A stage that the capability goes on to, or an end. -/
inductive Moves (action : WorkflowAction) : PersistedStage → PersistedStage → Prop
  | on {before after : WorkflowStage} (follows : after ∈ successors action before) :
      Moves action (.stage before) (.stage after)
  | ends (before : WorkflowStage) (status : FinalStatus) : Moves action (.stage before) status.stage

/-- Stages in the order of the capability. -/
abbrev Follows (action : WorkflowAction) : PersistedStage → PersistedStage → Prop :=
  Relation.ReflTransGen (Moves action)

/-- The percentage that an event shows, if it shows one. -/
def shown (event : WorkflowEvent) : Option Nat :=
  match event.data with
  | .progressed stage _ _ _ _ => some (progressPercent (.stage stage))
  | .completed .. => some (progressPercent .completed)
  | .failed .. | .replayResolved .. => none

/-- What a message shows of an operation. -/
def shows (operationId : Uuid) : WorkflowMessage → Option Nat
  | .event event => if event.operationId = operationId then shown event else none
  | _ => none

/-- The percentages that the messages of an operation show. -/
def percents (operationId : Uuid) (outbox : List (OutboxRow WorkflowMessage)) : List Nat :=
  outbox.filterMap fun row => shows operationId row.message

/-- The percentage of the projected operation. -/
def percentOf (db : ControlDb) (operationId : Uuid) : Option Nat :=
  (find OperationView.id operationId db.operationDocuments).map OperationView.progressPercent

/-- Applies the events among the messages, in their order. -/
def project (db : ControlDb) (outbox : List (OutboxRow WorkflowMessage)) : Except String ControlDb :=
  outbox.foldlM (fun db row => match row.message with
    | .event event => applyEvent db event
    | _ => return db) db

/-- Wherever the projection of the messages stands, the percentage of the operation
    is not less than wherever it stood before. -/
def Rises (operationId : Uuid) (stage : PersistedStage) (outbox : List (OutboxRow WorkflowMessage)) : Prop :=
  ∀ first second rest, outbox = first ++ (second ++ rest) → ∀ db middle after percent,
    percentOf db operationId = some percent → percent ≤ progressPercent stage →
    project db first = .ok middle → project middle second = .ok after →
    ∃ before now, percentOf middle operationId = some before ∧ percentOf after operationId = some now ∧ before ≤ now

/-- What is left of a workflow that was not replayed meanwhile. -/
structure Advanced (s t : State) (row later : WorkflowRow) : Prop where
  order : Follows row.command.data.action row.stage later.stage
  progress : ∃ more, t.store.db.outbox = s.store.db.outbox ++ more ∧ Rises row.operationId row.stage more

/-! ### One write -/

section
variable {host : Host} {around : Surroundings} {workflow : ClaimedWorkflow}

theorem handleProviderError_done (random : 0 ≤ around.random ∧ around.random < 1) (error : ProviderTransportError) :
    ∃ write, handleProviderError around workflow error = .done write := by
  unfold handleProviderError
  split
  next => exact finishFailure_done _ _
  next =>
    split
    next =>
      unfold retryOrDeadLetter
      dsimp only
      split
      next => exact ⟨_, rfl⟩
      next =>
        rw [if_neg (not_or.mpr ⟨Rat.not_lt.mpr random.1, Rat.not_le.mpr random.2⟩)]
        exact ⟨_, rfl⟩
    next => exact finishFailure_done _ _

/-- A claim that is executed to its end writes, whatever the provider answered. -/
theorem runClaimed_writes (random : 0 ≤ around.random ∧ around.random < 1) (oracle : Oracle ProviderCall.Answer) :
    ∃ write, ((runClaimed host around workflow).run oracle []).2 = .ok write := by
  have transition := (@runClaimed_transition host around workflow).run_post oracle
  generalize ((runClaimed host around workflow).run oracle []).1 = past at transition
  generalize ((runClaimed host around workflow).run oracle []).2 = ended at transition ⊢
  cases transition with
  | through executed => exact ⟨_, rfl⟩
  | caught _ ends =>
    obtain ⟨write, done⟩ : ∃ write, finished ended = .done write := ends ▸ handleProviderError_done random _
    cases ended with
    | ok write => exact ⟨write, rfl⟩
    | error _ => cases done

end

/-! ### The order of the stages -/

/-- The stages in the order of their list. -/
def workflowStages : List WorkflowStage :=
  [.accepted, .submittingCreate, .pollingCreate, .configuring, .pollingConfiguration, .starting, .pollingStart, .observing,
    .submittingPower, .pollingPower, .observingPower, .submittingResize, .pollingResize, .observingResize,
    .submittingSnapshot, .pollingSnapshot, .observingSnapshot, .submittingRetention, .pollingRetention, .observingRetention,
    .verifyingPurge, .submittingPurge, .pollingPurge, .observingPurge]

def position : PersistedStage → Nat
  | .stage stage => workflowStages.idxOf stage
  | _ => workflowStages.length

section
variable {action : WorkflowAction} (commanded : action ≠ .reconcileInstance) {a b : PersistedStage}
include commanded

theorem successors_after (before : WorkflowStage) :
    ∀ after ∈ successors action before, workflowStages.idxOf before < workflowStages.idxOf after ∧
      progressPercent (.stage before) ≤ progressPercent (.stage after) := by
  cases action with
  | reconcileInstance => exact absurd rfl commanded
  | _ => cases before <;> decide

theorem moves_position (moves : Moves action a b) : position a < position b := by
  cases moves with
  | on follows => exact (successors_after commanded _ _ follows).1
  | ends before status => cases before <;> cases status <;> decide

theorem moves_percent (moves : Moves action a b) : progressPercent a ≤ progressPercent b := by
  cases moves with
  | on follows => exact (successors_after commanded _ _ follows).2
  | ends before status => cases before <;> cases status <;> decide

theorem follows_position (follows : Follows action a b) : a = b ∨ position a < position b := by
  induction follows with
  | refl => exact .inl rfl
  | tail _ moves ih =>
    have further := moves_position commanded moves
    rcases ih with rfl | before
    · exact .inr further
    · exact .inr (Nat.lt_trans before further)

/-- No stage comes both before and after another. -/
theorem follows_antisymm (there : Follows action a b) (back : Follows action b a) : a = b := by
  rcases follows_position commanded there with same | before
  · exact same
  · rcases follows_position commanded back with same | after
    · exact same.symm
    · omega

end

theorem commanded (data : CommandData) : data.action ≠ .reconcileInstance := by
  cases data <;> exact WorkflowAction.noConfusion

/-! ### The projection -/

theorem projectedOperation_percent (event : WorkflowEvent) (document o : OperationView) :
    (projectedOperation event document o).progressPercent = (shown event).getD o.progressPercent := by
  cases data : event.data <;> simp [projectedOperation, shown, data]

/-- An applied event sets the percentage that it shows, of its own operation. -/
theorem applyEvent_percent {db after : ControlDb} {event : WorkflowEvent} (applied : applyEvent db event = .ok after)
    (operationId : Uuid) :
    percentOf after operationId = (percentOf db operationId).map fun percent =>
      (shows operationId (.event event)).getD percent := by
  cases applyEvent_applied applied with
  | documented document operation views found journaled present same =>
    have keeps : ∀ o : OperationView, o.id = operation.id → (projectedOperation event operation operation).id = o.id :=
      fun o here => (projectedOperation_id event operation operation).trans here.symm
    simp only [percentOf, same]
    rw [find_update_of keeps]
    cases known : find OperationView.id operationId db.operationDocuments with
    | none => rfl
    | some o =>
      by_cases own : event.operationId = operationId
      · rw [own, known] at journaled
        cases journaled
        simp [shows, own, projectedOperation_percent]
      · have other : o.id ≠ operation.id := by
          rw [find_key known, find_key journaled]
          exact Ne.symm own
        simp [other, shows, own]
  | resolved replayRequestId originalEventId outcome replayGeneration resolvedAt data owned known same =>
    have silent : shows operationId (.event event) = none := by simp [shows, shown, data]
    rw [silent, same]
    simp only [percentOf]
    cases find OperationView.id operationId db.operationDocuments <;> rfl

/-- The last of some percentages. -/
def latest (percent : Nat) (list : List Nat) : Nat := list.foldl (fun _ next => next) percent

theorem latest_le {percent high : Nat} {list : List Nat} (first : percent ≤ high) (all : ∀ next ∈ list, next ≤ high) :
    latest percent list ≤ high := by
  induction list generalizing percent with
  | nil => exact first
  | cons next rest ih =>
    obtain ⟨here, others⟩ := List.forall_mem_cons.mp all
    exact ih here others

theorem le_latest {low percent : Nat} {list : List Nat} (first : low ≤ percent) (all : ∀ next ∈ list, low ≤ next) :
    low ≤ latest percent list := by
  induction list generalizing percent with
  | nil => exact first
  | cons next rest ih =>
    obtain ⟨here, others⟩ := List.forall_mem_cons.mp all
    exact ih here others

/-- The percentage after some messages is the last one that they show. -/
theorem project_percent {operationId : Uuid} {outbox : List (OutboxRow WorkflowMessage)} {db after : ControlDb}
    (projected : project db outbox = .ok after) :
    percentOf after operationId =
      (percentOf db operationId).map fun percent => latest percent (percents operationId outbox) := by
  induction outbox generalizing db with
  | nil =>
    cases projected
    cases percentOf after operationId <;> rfl
  | cons row rest ih =>
    obtain ⟨middle, applied, remaining⟩ := bind_ok projected
    have one : percentOf middle operationId =
        (percentOf db operationId).map fun percent => (shows operationId row.message).getD percent := by
      cases message : row.message with
      | event event =>
        simp only [message] at applied
        exact applyEvent_percent applied operationId
      | command | deadLettered =>
        simp only [message] at applied
        cases applied
        cases percentOf db operationId <;> rfl
    rw [ih remaining, one, Option.map_map]
    refine congrArg (fun f => Option.map f (percentOf db operationId)) (funext fun percent => ?_)
    cases showing : shows operationId row.message with
    | none => simp [percents, showing]
    | some next => simp [percents, showing, latest]

/-- Percentages that never decrease rise in every projection. -/
theorem rises_of_pairwise {operationId : Uuid} {stage : PersistedStage} {outbox : List (OutboxRow WorkflowMessage)}
    (rising : (progressPercent stage :: percents operationId outbox).Pairwise (· ≤ ·)) :
    Rises operationId stage outbox := by
  rintro first second rest rfl db middle after percent here least projected continued
  have parts : percents operationId (first ++ (second ++ rest)) =
      percents operationId first ++ (percents operationId second ++ percents operationId rest) := by
    simp [percents]
  rw [parts] at rising
  obtain ⟨above, rising⟩ := List.pairwise_cons.mp rising
  have ordered := (List.pairwise_append.mp rising).2.2
  have before := @project_percent operationId _ _ _ projected
  have now := @project_percent operationId _ _ _ continued
  rw [here] at before
  rw [before] at now
  refine ⟨_, _, before, now, le_latest (Nat.le_refl _) fun next member => ?_⟩
  refine latest_le (Nat.le_trans least ?_) fun earlier there => ?_
  · exact above next (List.mem_append_right _ (List.mem_append_left _ member))
  · exact ordered earlier there next (List.mem_append_left _ member)

/-! ### What a step does -/

section
variable {host : Host} {s t : State} {action : Action} {row : WorkflowRow}

/-- The write of a claim moves its row by one stage at most, and shows that stage. -/
theorem rewritten_moves {around : Surroundings} {workflow : ClaimedWorkflow} {past : List ProviderExchange}
    {write : StoreWrite} {now : Instant} (transition : Transition host around workflow past (.ok write))
    (handed : Handed row workflow) :
    ((rewritten write now row).stage = row.stage ∨
      Moves row.command.data.action row.stage (rewritten write now row).stage) ∧
    ∀ percent, shown write.event = some percent → percent = progressPercent (rewritten write now row).stage := by
  rw [handed.stage, ← handed.command]
  cases (transition_fits transition write rfl).outcome with
  | @moved input follows progressed =>
    obtain ⟨_, _, _, _, explained⟩ := transition_explained transition input rfl
    refine ⟨?_, fun percent shows => ?_⟩
    · rcases follows with same | further
      · exact .inl (congrArg PersistedStage.stage same)
      · exact .inr (.on further)
    · simp only [shown, StoreWrite.event, explained, Option.some.injEq] at shows
      exact shows.symm
  | @failed input failure status event =>
    refine ⟨.inr (.ends workflow.stage input.status), fun percent shows => ?_⟩
    simp [shown, StoreWrite.event, event] at shows
  | @succeeded input resource evidenceId observed status event =>
    refine ⟨.inr (.ends workflow.stage input.status), fun percent shows => ?_⟩
    simp only [shown, StoreWrite.event, event, Option.some.injEq] at shows
    rw [← shows, rewritten, completedRow, status]
    rfl
  | @exhausted input =>
    refine ⟨.inr (.ends workflow.stage .failed), fun percent shows => ?_⟩
    simp [shown, StoreWrite.event, DeadLetterWorkflowInput.event] at shows

theorem percents_singleton (operationId : Uuid) (row : OutboxRow WorkflowMessage) :
    percents operationId [row] = (shows operationId row.message).toList := by
  cases showing : shows operationId row.message <;> simp [percents, showing]

theorem percents_append (operationId : Uuid) (first second : List (OutboxRow WorkflowMessage)) :
    percents operationId (first ++ second) = percents operationId first ++ percents operationId second :=
  List.filterMap_append

/-- The messages that a call appends show nothing, unless it is a claim's write. -/
theorem called_appends {before : Fencing.State} {call : StoreCall} {after : WorkflowDb} (called : Called host before call after)
    (operationId : Uuid) :
    ∃ more, after.outbox = before.db.outbox ++ more ∧
      (percents operationId more = [] ∨ ∃ fresh write, call = storeCall fresh write ∧
        percents operationId more = (shows operationId (.event write.event)).toList) := by
  have same {after : WorkflowDb} (outbox : after.outbox = before.db.outbox) :
      ∃ more, after.outbox = before.db.outbox ++ more ∧
        (percents operationId more = [] ∨ ∃ fresh write, call = storeCall fresh write ∧
          percents operationId more = (shows operationId (.event write.event)).toList) :=
    ⟨[], outbox.trans (List.append_nil _).symm, .inl rfl⟩
  cases called with
  | nothing => exact same rfl
  | admitted admitted =>
    cases admitted with
    | duplicate | noted | started => exact same rfl
    | misidentified | unauthorized | conflicting =>
      obtain ⟨records, unchanged⟩ := rejectReplayCommand_same before.db _ _ _ before.now
      exact same (by rw [unchanged])
    | reopened | introduced => exact ⟨_, rfl, .inl (by simp [percents_singleton, shows, shown])⟩
  | decided decided =>
    cases decided with
    | duplicate => exact same rfl
    | rejected => exact ⟨_, rfl, .inl (by simp [percents_singleton, shows, shown])⟩
    | accepted => exact ⟨_, rfl, .inl rfl⟩
  | stored => exact ⟨_, rfl, .inl rfl⟩
  | claimed claim =>
    obtain ⟨leased, taken, rfl⟩ := claim.taken
    exact same (takeLease_rows taken).2
  | @checkpointed fresh input =>
    exact ⟨_, rfl, .inr ⟨fresh, .checkpoint input, rfl, percents_singleton _ _⟩⟩
  | @completed fresh input =>
    exact ⟨_, rfl, .inr ⟨fresh, .complete input, rfl, percents_singleton _ _⟩⟩
  | @exhausted fresh input =>
    refine ⟨_, List.append_assoc _ _ _, .inr ⟨fresh, .deadLetterWorkflow input, rfl, ?_⟩⟩
    rw [percents_append, percents_singleton, percents_singleton]
    exact List.append_nil _

/-- A replay that reopens a workflow is of the next generation. -/
theorem reopened_generation {fresh : Nat → Uuid} {command : LifecycleCommand} {delivery : MessageDeliveryIdentity}
    (stored : Fencing.next host s.store (.admitCommand fresh command delivery) = some t.store)
    (found : s.store.db.workflow row.operationId = some row) (own : command.operationId = row.operationId)
    (failed : row.status = .failed)
    (reopened : t.store.db.workflow row.operationId =
      some (reopenedWorkflow command delivery.replayGeneration s.store.now row)) :
    row.replayGeneration < delivery.replayGeneration := by
  have kept {P : Prop} (same : t.store.db.workflow row.operationId = some row) : P := by
    rw [reopened] at same
    have status := congrArg WorkflowRow.status (Option.some.inj same)
    rw [failed] at status
    cases status
  have added (first : WorkflowRow) :
      find WorkflowRow.operationId row.operationId (s.store.db.workflows ++ [first]) = some row := by
    rw [find_append, show find WorkflowRow.operationId row.operationId s.store.db.workflows = some row from found,
      Option.some_or]
  obtain ⟨called, -⟩ := called_next host stored
  generalize t.store.db = after at called kept
  cases called with
  | nothing => exact kept found
  | admitted admitted =>
    cases admitted with
    | duplicate | noted => exact kept found
    | started | introduced => exact kept (added _)
    | misidentified | unauthorized | conflicting =>
      obtain ⟨records, unchanged⟩ := rejectReplayCommand_same s.store.db delivery _ _ s.store.now
      exact kept (by rw [unchanged]; exact found)
    | reopened authorization other _ _ _ there matching =>
      obtain rfl : row = other := Option.some.inj (found.symm.trans (own ▸ there))
      simp only [replayConflict, Bool.or_eq_false_iff, decide_eq_false_iff_not, not_not] at matching
      omega

/-- The write of a claim changes nothing, or publishes something. -/
theorem write_grows {before after : Fencing.State} {fresh : Nat → Uuid} {write : StoreWrite}
    (stored : Fencing.next host before (storeCall fresh write) = some after) :
    after.db = before.db ∨ before.db.outbox.length < after.db.outbox.length := by
  obtain ⟨called, -⟩ := called_next host stored
  generalize after.db = db at called ⊢
  cases write with
  | checkpoint input =>
    cases called with
    | nothing => exact .inl rfl
    | checkpointed => exact .inr (by simp [releaseLease, writeEvent, writeWorkflowOutbox, updateWorkflow])
  | complete input =>
    cases called with
    | nothing => exact .inl rfl
    | completed => exact .inr (by simp [releaseLease, writeEvent, writeWorkflowOutbox, updateWorkflow, completeReceipt])
  | deadLetterWorkflow input =>
    cases called with
    | nothing => exact .inl rfl
    | exhausted =>
      exact .inr (by
        simp [releaseLease, writeDeadLetter, writeEvent, writeWorkflowOutbox, updateWorkflow, completeReceipt])

section
variable {flight : InFlight} {fresh : Nat → Uuid} {write : StoreWrite} {operationId : Uuid}
  (guarded : Guarded host s) (member : flight ∈ s.inFlight) (ends : flight.program = .done write)
  (stored : Fencing.next host s.store (storeCall fresh write) = some t.store)
  (found : s.store.db.workflow operationId = some row)
include guarded member ends stored found

/-- The write of a claim of the workflow is refused, or rewrites the row that the claim was handed. -/
theorem write_own (taken : next host s (.write flight.claim fresh) = some t)
    (own : flight.workflow.command.operationId = operationId) :
    t.store.db = s.store.db ∨ s.store.db.outbox.length < t.store.db.outbox.length ∧ Handed row flight.workflow ∧
      t.store.db.workflow operationId = some (rewritten write s.store.now row) := by
  rcases write_grows stored with unchanged | grown
  · exact .inl unchanged
  rcases Exclusion.written_cases guarded member ends stored with unchanged | ⟨w, present, operation, handed, wrote⟩
  · exact .inl unchanged
  · obtain rfl : w = row := guarded.covered.operations.eq_of_key present (find_mem found)
      (operation.trans (own.trans (find_key found).symm))
    exact .inr ⟨grown, handed,
      (guarded_next guarded taken).covered.operations.find_eq wrote (by simp [find_key found])⟩

/-- The write of a claim of another workflow leaves the row alone. -/
theorem write_other (own : flight.workflow.command.operationId ≠ operationId) :
    t.store.db.workflow operationId = some row := by
  obtain ⟨later, there, step⟩ := row_next guarded.covered stored found
  generalize called : storeCall fresh write = call at step
  cases step with
  | kept => exact there
  | claimed | reopened => cases write <;> cases called
  | @written fresh' write' lease held =>
    obtain rfl : write = write' := by cases write <;> cases write' <;> cases called <;> rfl
    have fenced : write.fence.operationId = flight.workflow.command.operationId :=
      congrArg Fence.operationId ((guarded.flights flight member).fence ends).2
    exact absurd (fenced.symm.trans ((find_key held.workflow).symm.trans (find_key found))) own

end

/-- What a step does to a workflow and to what is shown of it. -/
inductive StageStep (row later : WorkflowRow) (percents : List Nat) : Prop
  | went (stage : later.stage = row.stage ∨ Moves row.command.data.action row.stage later.stage)
      (command : later.command = row.command) (generation : later.replayGeneration = row.replayGeneration)
      (showing : ∀ percent ∈ percents, percent = progressPercent later.stage) : StageStep row later percents
  | reopened (newer : row.replayGeneration < later.replayGeneration) : StageStep row later percents

/-- Every step moves a workflow on, or reopens it in a newer generation. -/
theorem stage_step (guarded : Guarded host s) (taken : next host s action = some t) {operationId : Uuid}
    (found : s.store.db.workflow operationId = some row) :
    ∃ later more, t.store.db.workflow operationId = some later ∧ t.store.db.outbox = s.store.db.outbox ++ more ∧
      StageStep row later (percents operationId more) := by
  have quiet (store : t.store = s.store) :
      ∃ later more, t.store.db.workflow operationId = some later ∧ t.store.db.outbox = s.store.db.outbox ++ more ∧
        StageStep row later (percents operationId more) :=
    ⟨row, [], store ▸ found, store ▸ (List.append_nil _).symm, .went (.inl rfl) rfl rfl nofun⟩
  cases steps_next taken with
  | outside call admission stored same =>
    obtain ⟨later, there, step⟩ := row_step guarded taken found
    obtain ⟨more, appended, showing⟩ := called_appends (called_next host stored).1 operationId
    have silent : percents operationId more = [] := by
      rcases showing with silent | ⟨fresh, write, isWrite, -⟩
      · exact silent
      · exact absurd isWrite (not_worker admission fresh write)
    refine ⟨later, more, there, appended, ?_⟩
    rw [silent]
    cases step with
    | kept => exact .went (.inl rfl) rfl rfl nofun
    | reopened own failed sameEvent =>
      obtain rfl := find_key found
      exact .reopened (reopened_generation stored found own failed there)
  | claim workerId leaseSeconds capability locked around workflow after claimed stored same =>
    obtain ⟨later, there, step⟩ := row_step guarded taken found
    obtain ⟨more, appended, showing⟩ := called_appends (called_next host stored).1 operationId
    have silent : percents operationId more = [] := by
      rcases showing with silent | ⟨fresh, write, isWrite, -⟩
      · exact silent
      · cases write <;> cases isWrite
    refine ⟨later, more, there, appended, ?_⟩
    rw [silent]
    cases step with
    | kept => exact .went (.inl rfl) rfl rfl nofun
    | claimed => exact .went (.inl rfl) rfl rfl nofun
  | send flight member call resume asks same => exact quiet (by rw [same])
  | receive flight member answers call resume asks same => exact quiet (by rw [same])
  | crash claim same => exact quiet (by rw [same])
  | write flight member fresh write ends stored same =>
    have transition := ((guarded.flights flight member).fence ends).1
    have about : write.event.operationId = flight.workflow.command.operationId := by
      rw [(transition_fits transition write rfl).envelope]
      rfl
    obtain ⟨more, appended, showing⟩ := called_appends (called_next host stored).1 operationId
    have showing : ∀ percent ∈ percents operationId more, shows operationId (.event write.event) = some percent := by
      intro percent member
      rcases showing with silent | ⟨fresh', write', isWrite, shown⟩
      · rw [silent] at member
        cases member
      · obtain rfl : write = write' := by cases write <;> cases write' <;> cases isWrite <;> rfl
        rw [shown] at member
        exact Option.mem_toList.mp member
    by_cases own : flight.workflow.command.operationId = operationId
    · rcases write_own guarded member ends stored found taken own with unchanged | ⟨-, handed, there⟩
      · exact ⟨row, [], unchanged ▸ found, unchanged ▸ (List.append_nil _).symm, .went (.inl rfl) rfl rfl nofun⟩
      · obtain ⟨moves, shown⟩ := rewritten_moves transition handed
        refine ⟨_, more, there, appended, .went moves (by simp) (by simp) fun percent there => ?_⟩
        have visible := showing percent there
        simp only [shows, about, own, if_true] at visible
        exact shown percent visible
    · refine ⟨row, more, write_other guarded member ends stored found own, appended,
        .went (.inl rfl) rfl rfl fun percent there => ?_⟩
      have visible := showing percent there
      simp only [shows, about, own, if_false] at visible
      cases visible

/-! ### Runs -/

/-- What a run leaves of a workflow: it was reopened in a newer generation, or it
    went on in order and what was shown of it rises to its stage. -/
def Carried (s : State) (row : WorkflowRow) (t : State) : Prop :=
  ∃ later more, t.store.db.workflow row.operationId = some later ∧ t.store.db.outbox = s.store.db.outbox ++ more ∧
    (row.replayGeneration < later.replayGeneration ∨
      later.replayGeneration = row.replayGeneration ∧ later.command = row.command ∧
        Follows row.command.data.action row.stage later.stage ∧
        (progressPercent row.stage :: percents row.operationId more).Pairwise (· ≤ ·) ∧
        ∀ percent ∈ progressPercent row.stage :: percents row.operationId more, percent ≤ progressPercent later.stage)

theorem carried_start (found : s.store.db.workflow row.operationId = some row) : Carried s row s :=
  ⟨row, [], found, (List.append_nil _).symm, .inr ⟨rfl, rfl, .refl, List.pairwise_singleton _ _, fun percent member => by
    exact Nat.le_of_eq (List.mem_singleton.mp member)⟩⟩

theorem carried_next {u : State} (carried : Carried s row t) (guarded : Guarded host t)
    (taken : next host t action = some u) : Carried s row u := by
  obtain ⟨later, more, there, appended, went⟩ := carried
  obtain ⟨last, again, found, appends, step⟩ := stage_step guarded taken there
  refine ⟨last, more ++ again, found, by rw [appends, appended, List.append_assoc], ?_⟩
  rcases went with newer | ⟨same, commanded_, order, rising, high⟩
  · refine .inl ?_
    cases step with
    | went _ _ generation => rw [generation]; exact newer
    | reopened newest => exact Nat.lt_trans newer newest
  · cases step with
    | reopened newer => exact .inl (same ▸ newer)
    | went stage command generation showing =>
      refine .inr ⟨generation.trans same, command.trans commanded_, ?_, ?_⟩
      · rcases stage with stays | moves
        · rw [stays]; exact order
        · exact order.tail (commanded_ ▸ moves)
      · have higher : progressPercent later.stage ≤ progressPercent last.stage := by
          rcases stage with stays | moves
          · exact Nat.le_of_eq (congrArg progressPercent stays.symm)
          · exact moves_percent (commanded _) moves
        rw [percents_append, ← List.cons_append]
        refine ⟨List.pairwise_append.mpr ⟨rising, ?_, fun percent before now after => ?_⟩, fun percent member => ?_⟩
        · exact List.pairwise_of_forall_mem_list fun a first b second =>
            Nat.le_of_eq ((showing a first).trans (showing b second).symm)
        · rw [showing now after]
          exact Nat.le_trans (high percent before) higher
        · rcases List.mem_append.mp member with before | after
          · exact Nat.le_trans (high percent before) higher
          · exact Nat.le_of_eq (showing percent after)

theorem carried_run (guarded : Guarded host s) (found : s.store.db.workflow row.operationId = some row)
    (run : Reaches (next host) Anything s t) : Carried s row t := by
  have both := reaches_invariant (fun t => Guarded host t ∧ Carried s row t)
    (fun _ _ _ kept _ taken => ⟨guarded_next kept.1 taken, carried_next kept.2 kept.1 taken⟩) run
    ⟨guarded, carried_start found⟩
  exact both.2

/-- A claim that was handed out and is not in flight. -/
structure Over (claim : Nat) (s : State) : Prop where
  numbered : claim < s.claims
  gone : ∀ flight ∈ s.inFlight, flight.claim ≠ claim

theorem over_next {claim : Nat} (over_ : Over claim s) (guarded : Guarded host s) (taken : next host s action = some t) :
    Over claim t := by
  obtain ⟨counted, flights⟩ := flight_next guarded taken
  refine ⟨Nat.lt_of_lt_of_le over_.numbered counted, fun flight member same => ?_⟩
  rcases flights flight member with ⟨old, there, number, -⟩ | ⟨number, -⟩
  · exact over_.gone old there (number.symm.trans same)
  · have numbered := over_.numbered
    omega

/-- A claim that wrote is over. -/
theorem over_write {claim : Nat} {fresh : Nat → Uuid} (guarded : Guarded host s)
    (taken : next host s (.write claim fresh) = some t) : Over claim t := by
  cases steps_next taken with
  | write flight member fresh write ends stored same =>
    rw [same]
    exact ⟨(guarded.flights flight member).numbered, fun other present => by
      simpa using (List.mem_filter.mp present).2⟩

theorem over_run {claim : Nat} (over_ : Over claim s) (guarded : Guarded host s) (run : Reaches (next host) Anything s t) :
    Over claim t := by
  have both := reaches_invariant (fun t => Guarded host t ∧ Over claim t)
    (fun _ _ _ kept _ taken => ⟨guarded_next kept.1 taken, over_next kept.2 kept.1 taken⟩) run ⟨guarded, over_⟩
  exact both.2

end

/-- Each claim that is executed to its end writes, and no claim writes twice; within one
    replay generation a workflow goes through the stages of its capability in order, is
    never at a stage again that it left, and its projected percentage never decreases. -/
theorem saga_order {host : Host} {now : Instant} {s t u : State} {operationId : Uuid} {row : WorkflowRow}
    (reached : Reaches (next host) Anything (initial now) s) (run : Reaches (next host) Anything s t)
    (further : Reaches (next host) Anything t u) (found : s.store.db.workflow operationId = some row) :
    (∀ around workflow oracle, 0 ≤ around.random ∧ around.random < 1 →
      ∃ write, ((runClaimed host around workflow).run oracle []).2 = .ok write) ∧
    (∀ claim fresh after, next host s (.write claim fresh) = some after →
      ∀ later, Reaches (next host) Anything after later → ∀ flight ∈ later.inFlight, flight.claim ≠ claim) ∧
    ∃ later last, t.store.db.workflow operationId = some later ∧ u.store.db.workflow operationId = some last ∧
      row.replayGeneration ≤ later.replayGeneration ∧
      (later.replayGeneration = row.replayGeneration → Advanced s t row later) ∧
      (last.replayGeneration = row.replayGeneration → later.stage ≠ row.stage → last.stage ≠ row.stage) := by
  have guarded := guarded_run (guarded_initial now) reached
  obtain rfl := find_key found
  refine ⟨fun _ _ oracle random => runClaimed_writes random oracle, fun claim fresh after taken later run => ?_, ?_⟩
  · exact (over_run (over_write guarded taken) (guarded_next guarded taken) run).gone
  · obtain ⟨later, more, there, appended, went⟩ := carried_run guarded found run
    have same := find_key there
    obtain ⟨last, _, here, _, goes⟩ := carried_run (guarded_run guarded run) (same ▸ there) further
    refine ⟨later, last, there, same ▸ here, ?_, fun generation => ?_, fun generation left back => ?_⟩
    · rcases went with newer | ⟨same, -⟩
      · exact Nat.le_of_lt newer
      · exact Nat.le_of_eq same.symm
    · rcases went with newer | ⟨-, -, order, rising, -⟩
      · omega
      · exact ⟨order, more, appended, rises_of_pairwise rising⟩
    · rcases went with newer | ⟨alike, command, order, -, -⟩
      · rcases goes with newest | ⟨sameAgain, -⟩ <;> omega
      · rcases goes with newest | ⟨-, -, onward, -, -⟩
        · omega
        · exact left (follows_antisymm (commanded _) order (command ▸ back ▸ onward)).symm

/-- A creation that was admitted, and that left its first stage. -/
def sampleAdmitted : State := (execute (next sampleHost) (initial 0) [sampleAdmission 0 sampleCreate]).getD (initial 0)

def sampleSubmitting : State :=
  (execute (next sampleHost) sampleAdmitted (silentClaim 0 .createInstance)).getD sampleAdmitted

theorem saga_order_sample : ∃ row later,
    sampleAdmitted.store.db.workflow sampleCreate.operationId = some row ∧
      sampleSubmitting.store.db.workflow sampleCreate.operationId = some later ∧
      later.stage = .stage .submittingCreate ∧ Advanced sampleAdmitted sampleSubmitting row later := by
  have admitted : execute (next sampleHost) (initial 0) [sampleAdmission 0 sampleCreate] = some sampleAdmitted := rfl
  have left : execute (next sampleHost) sampleAdmitted (silentClaim 0 .createInstance) = some sampleSubmitting := rfl
  have found : sampleAdmitted.store.db.workflow sampleCreate.operationId = some _ := rfl
  obtain ⟨-, -, later, last, there, -, -, advanced, -⟩ := saga_order (reaches_execute (meets_anything _ _) admitted)
    (reaches_execute (meets_anything _ _) left) .refl found
  cases there
  exact ⟨_, _, found, rfl, rfl, advanced rfl⟩

end ControlPlane.SagaOrder
