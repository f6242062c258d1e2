import ControlPlane.Replays
import ControlPlane.Orchestrator

/-!
How a workflow learns which resource it addresses. The create of an instance
learns the id from its provider, and every later workflow of the instance
inherits the id of the earliest row that has one. That row is a create in every
reached state (`Heirs`), because a claim that addresses nothing learns nothing.
A replay clears the id of the row that it reopens, so that what the others
inherit survives only when there was nothing to clear.
-/
namespace ControlPlane.Inheritance
open ControlPlane.Programs ControlPlane.Programs.Program ControlPlane.Tables ControlPlane.Runs
open ControlPlane.Domain ControlPlane.Commands ControlPlane.EventValidation
open ControlPlane.WorkflowSchema ControlPlane.WorkflowStore ControlPlane.StoreRules
open ControlPlane.ProviderPort ControlPlane.LifecycleWorkflow ControlPlane.SagaRules ControlPlane.Transitions
open ControlPlane.Orchestrator ControlPlane.Replays
open ControlPlane.Fencing (StoreCall Called called_next)

/-! ### Who has the resource of an instance -/

/-- A workflow of an instance that knows its resource. -/
def holds (i : Uuid) (row : WorkflowRow) : Bool := row.instanceId = i && row.providerResourceId.isSome

/-- The resource id of the create of an instance. -/
def createResource (db : WorkflowDb) (i : Uuid) : Option String :=
  (db.workflows.find? fun row => holds i row && row.action = .createInstance).bind WorkflowRow.providerResourceId

/-- The workflows in the order of their admission, where the first of an
    instance that knows its resource is a create. -/
structure Heirs (rows : List WorkflowRow) (now : Instant) : Prop where
  operations : Keyed WorkflowRow.operationId rows
  ordered : rows.Pairwise fun a b => a.createdAt ≤ b.createdAt
  past : ∀ row ∈ rows, row.createdAt ≤ now
  led : ∀ i row, rows.find? (holds i) = some row → row.action = .createInstance

/-- Over rows in order the search for the earliest ends with the first. -/
theorem earliest_first {first : WorkflowRow} {rest : List WorkflowRow}
    (older : ∀ row ∈ rest, first.createdAt ≤ row.createdAt) :
    rest.foldl (fun best w => match best with
      | none => some w
      | some b => if w.createdAt < b.createdAt then some w else some b) (some first) = some first := by
  induction rest with
  | nil => rfl
  | cons row rest ih =>
    have before := older row List.mem_cons_self
    simp only [List.foldl_cons, if_neg (Nat.not_lt.mpr before)]
    exact ih fun later member => older later (List.mem_cons_of_mem _ member)

section
variable {db : WorkflowDb} {rows : List WorkflowRow} {now : Instant}

theorem Heirs.inherited (heirs : Heirs db.workflows now) {command : LifecycleCommand}
    (heir : command.data.action ≠ .createInstance) :
    inheritedResource db command =
      (db.workflows.find? (holds command.aggregateId)).bind WorkflowRow.providerResourceId := by
  have holders : (db.workflows.filter (holds command.aggregateId)).Pairwise fun a b => a.createdAt ≤ b.createdAt :=
    heirs.ordered.sublist List.filter_sublist
  rw [← List.head?_filter]
  simp only [inheritedResource, if_neg heir]
  show ((db.workflows.filter (holds command.aggregateId)).foldl _ none).bind _ = _
  cases among : db.workflows.filter (holds command.aggregateId) with
  | nil => rfl
  | cons first rest =>
    rw [among] at holders
    exact congrArg (fun best => best.bind WorkflowRow.providerResourceId)
      (earliest_first (List.pairwise_cons.mp holders).1)

/-- The first that knows the resource of an instance is the create that does. -/
theorem Heirs.created (heirs : Heirs db.workflows now) (i : Uuid) :
    createResource db i = (db.workflows.find? (holds i)).bind WorkflowRow.providerResourceId := by
  cases found : db.workflows.find? (holds i) with
  | none =>
    have nobody := List.find?_eq_none.mp found
    have absent : (db.workflows.find? fun row => holds i row && row.action = .createInstance) = none :=
      List.find?_eq_none.mpr fun row member both => nobody row member (Bool.and_eq_true_iff.mp both).1
    rw [createResource, absent]
  | some row =>
    obtain ⟨held, before, after, split, nobody⟩ := List.find?_eq_some_iff_append.mp found
    have create := heirs.led i row found
    have here : (db.workflows.find? fun row => holds i row && row.action = .createInstance) = some row := by
      refine List.find?_eq_some_iff_append.mpr ⟨by simp [held, create], before, after, split, fun other member => ?_⟩
      simp only [Bool.not_eq_true'] at nobody ⊢
      rw [nobody other member, Bool.false_and]
    rw [createResource, here]

/-- What any workflow of an instance knows, its create knows. -/
theorem Heirs.known (heirs : Heirs db.workflows now) {row : WorkflowRow} (member : row ∈ db.workflows)
    (knows : row.providerResourceId.isSome = true) : (createResource db row.instanceId).isSome = true := by
  rw [heirs.created]
  cases found : db.workflows.find? (holds row.instanceId) with
  | none => exact absurd (by simp [holds, knows]) (List.find?_eq_none.mp found row member)
  | some first =>
    have held := List.find?_some found
    exact (Bool.and_eq_true_iff.mp held).2

end

/-! ### What a call leaves of the workflows -/

/-- What a later table has of a workflow. -/
structure Remains (row later : WorkflowRow) : Prop where
  operation : later.operationId = row.operationId
  aggregate : later.instanceId = row.instanceId
  action : later.action = row.action
  knows : row.providerResourceId.isSome = true → later.providerResourceId.isSome = true

def Remaining (rows later : List WorkflowRow) : Prop := ∀ row ∈ rows, ∃ row' ∈ later, Remains row row'

theorem Remaining.refl (rows : List WorkflowRow) : Remaining rows rows :=
  fun row member => ⟨row, member, rfl, rfl, rfl, id⟩

theorem Remaining.trans {first second third : List WorkflowRow} (before : Remaining first second)
    (after : Remaining second third) : Remaining first third := by
  intro row member
  obtain ⟨middle, present, operation, aggregate, action, knows⟩ := before row member
  obtain ⟨later, also, operation', aggregate', action', knows'⟩ := after middle present
  exact ⟨later, also, operation'.trans operation, aggregate'.trans aggregate, action'.trans action, knows' ∘ knows⟩

section
variable {rows : List WorkflowRow} {now : Instant}

theorem Heirs.later (heirs : Heirs rows now) {later : Instant} (passed : now ≤ later) : Heirs rows later :=
  ⟨heirs.operations, heirs.ordered, fun row member => Nat.le_trans (heirs.past row member) passed, heirs.led⟩

/-- Rewriting a workflow keeps the order when nothing is forgotten and only a
    create learns. -/
theorem Heirs.update (heirs : Heirs rows now) {op : Uuid} {rewrite : WorkflowRow → WorkflowRow}
    (keeps : ∀ row, (rewrite row).operationId = row.operationId ∧ (rewrite row).instanceId = row.instanceId ∧
      (rewrite row).action = row.action ∧ (rewrite row).createdAt = row.createdAt)
    (remembers : ∀ row ∈ rows, row.operationId = op → row.providerResourceId.isSome = true →
      (rewrite row).providerResourceId.isSome = true)
    (learns : ∀ row ∈ rows, row.operationId = op → (rewrite row).providerResourceId.isSome = true →
      row.providerResourceId.isSome = true ∨ row.action = .createInstance) :
    Heirs (Tables.update (fun row : WorkflowRow => row.operationId = op) rewrite rows) now ∧
      Remaining rows (Tables.update (fun row : WorkflowRow => row.operationId = op) rewrite rows) := by
  let written : WorkflowRow → WorkflowRow := fun row => if row.operationId = op then rewrite row else row
  have same (row : WorkflowRow) : (written row).operationId = row.operationId ∧
      (written row).instanceId = row.instanceId ∧ (written row).action = row.action ∧
      (written row).createdAt = row.createdAt := by
    by_cases chosen : row.operationId = op
    · simpa [written, chosen] using keeps row
    · simp [written, chosen]
  have kept : ∀ row ∈ rows, row.providerResourceId.isSome = true → (written row).providerResourceId.isSome = true := by
    intro row member knows
    by_cases chosen : row.operationId = op
    · simpa [written, chosen] using remembers row member chosen knows
    · simpa [written, chosen] using knows
  have gained : ∀ row ∈ rows, (written row).providerResourceId.isSome = true →
      row.providerResourceId.isSome = true ∨ row.action = .createInstance := by
    intro row member knows
    by_cases chosen : row.operationId = op
    · exact learns row member chosen (by simpa [written, chosen] using knows)
    · exact .inl (by simpa [written, chosen] using knows)
  show Heirs (rows.map written) now ∧ Remaining rows (rows.map written)
  refine ⟨⟨keyed_update heirs.operations fun row _ => (keeps row).1, ?_, ?_, ?_⟩, ?_⟩
  · rw [List.pairwise_map]
    exact heirs.ordered.imp fun {a b} older => by rw [(same a).2.2.2, (same b).2.2.2]; exact older
  · intro row member
    obtain ⟨old, present, rfl⟩ := List.mem_map.mp member
    rw [(same old).2.2.2]
    exact heirs.past old present
  · intro i row found
    rw [List.find?_map] at found
    obtain ⟨old, first, rfl⟩ := Option.map_eq_some_iff.mp found
    obtain ⟨held, before, after, split, nobody⟩ := List.find?_eq_some_iff_append.mp first
    have present : old ∈ rows := split ▸ List.mem_append_right _ List.mem_cons_self
    obtain ⟨here, knows⟩ := Bool.and_eq_true_iff.mp held
    rw [(same old).2.2.1]
    rcases gained old present knows with already | create
    · -- Nobody before it knew the resource, or it would know it still.
      refine heirs.led i old (List.find?_eq_some_iff_append.mpr ⟨?_, before, after, split, fun other member => ?_⟩)
      · rw [holds, already, Bool.and_true]
        simpa [(same old).2.1] using here
      · have inside : other ∈ rows := split ▸ List.mem_append_left _ member
        have blind := nobody other member
        by_contra holding
        have holding : holds i other = true := by simpa using holding
        obtain ⟨there, knew⟩ := Bool.and_eq_true_iff.mp holding
        have still : holds i (written other) = true := by
          rw [holds, kept other inside knew, (same other).2.1, there]
          rfl
        simp [still] at blind
    · exact create
  · intro row member
    exact ⟨written row, List.mem_map_of_mem member, (same row).1, (same row).2.1, (same row).2.2.1, kept row member⟩

/-- A new workflow keeps the order when it is a create or inherits. -/
theorem Heirs.append (heirs : Heirs rows now) {row : WorkflowRow} (new : ∀ other ∈ rows, other.operationId ≠ row.operationId)
    (created : row.createdAt = now)
    (inherits : row.action ≠ .createInstance → row.providerResourceId.isSome = true →
      (rows.find? (holds row.instanceId)).isSome = true) :
    Heirs (rows ++ [row]) now ∧ Remaining rows (rows ++ [row]) := by
  refine ⟨⟨keyed_append heirs.operations new, ?_, ?_, ?_⟩, fun old member =>
    ⟨old, List.mem_append_left _ member, rfl, rfl, rfl, id⟩⟩
  · refine List.pairwise_append.mpr ⟨heirs.ordered, List.pairwise_singleton _ _, fun old member other last => ?_⟩
    rw [List.mem_singleton.mp last, created]
    exact heirs.past old member
  · intro other member
    rcases List.mem_append.mp member with old | last
    · exact heirs.past other old
    · obtain rfl := List.mem_singleton.mp last
      exact Nat.le_of_eq created
  · intro i first found
    rw [List.find?_append] at found
    cases before : rows.find? (holds i) with
    | some old =>
      rw [before] at found
      exact heirs.led i first (before.trans found)
    | none =>
      rw [before, Option.none_or] at found
      obtain rfl := List.mem_singleton.mp (List.mem_of_find?_eq_some found)
      by_contra heir
      have held : holds i first = true := List.find?_some found
      obtain ⟨here, knows⟩ := Bool.and_eq_true_iff.mp held
      have known := inherits heir knows
      rw [of_decide_eq_true here, before] at known
      cases known

end

/-! ### What a claim learns -/

section
variable {host : Host} {around : Surroundings} {workflow : ClaimedWorkflow}

/-- A program that makes no mutating call. -/
abbrev Reads (p : Saga StoreWrite) : Prop := p.Satisfies (fun _ call => call.mutates = false) (fun _ _ => True) []

theorem requiredResource_missing (missing : address workflow = none) :
    requiredResource workflow = .raise (.transport (protocolError "Provider resource ID is missing.")) := by
  unfold requiredResource
  split
  next resource found =>
    split
    next => rfl
    next filled => exact absurd missing (by simp [address, found, filled])
  next => rfl

theorem instanceRequest_missing (missing : address workflow = none) (step : String) :
    instanceRequest workflow step = .raise (.transport (protocolError "Provider resource ID is missing.")) := by
  unfold instanceRequest
  rw [requiredResource_missing missing]
  rfl

theorem observeInstance_missing (missing : address workflow = none) (step : String) :
    observeInstance workflow step = .raise (.transport (protocolError "Provider resource ID is missing.")) := by
  unfold observeInstance
  rw [instanceRequest_missing missing]
  rfl

theorem finishFailure_reads (failure : FailureValue) (status : FinalStatus) :
    Reads (finishFailure around workflow failure status) := trivial

theorem pollTask_reads (successStage : WorkflowStage) : Reads (pollTask host around workflow successStage) := by
  unfold pollTask
  split
  next => exact finishFailure_reads _ _
  next reference _ =>
    refine ⟨rfl, fun answer => ?_⟩
    cases answer with
    | error error => trivial
    | ok response =>
      obtain ⟨write, ends⟩ :=
        @handleTaskResult_done host around workflow response successStage reference
      show Program.Satisfies _ _ (handleTaskResult host around workflow response successStage reference) _
      rw [ends]
      trivial

theorem submitPollObserve_reads {submitStage pollStage observeStage : WorkflowStage} {submit observe : Saga StoreWrite}
    (submits : Reads submit) (observes : Reads observe) :
    Reads (submitPollObserve host around workflow submitStage pollStage observeStage submit observe) := by
  unfold submitPollObserve
  split
  next => trivial
  next =>
    split
    next => exact submits
    next =>
      split
      next => exact pollTask_reads _
      next =>
        split
        next => exact observes
        next => exact finishFailure_reads _ _

/-- A claim that addresses nothing mutates nothing, unless it creates. -/
theorem execute_reads (missing : address workflow = none) (heir : workflow.command.data.action ≠ .createInstance) :
    Reads (LifecycleWorkflow.execute host around workflow) := by
  have requests := instanceRequest_missing missing
  have observes := observeInstance_missing missing
  have listing (expectedName : String) (satisfied : Bool → Bool) :
      Reads (SnapshotWorkflow.observeSnapshot around workflow expectedName satisfied) := by
    unfold SnapshotWorkflow.observeSnapshot
    rw [requests]
    trivial
  unfold LifecycleWorkflow.execute
  split
  next isCreate => exact absurd (by rw [isCreate]; rfl) heir
  next data _ =>
    refine submitPollObserve_reads ?_ ?_
    · rw [PowerInstanceWorkflow.submitPower, requests]; trivial
    · rw [PowerInstanceWorkflow.observePower, observes]; trivial
  next data _ =>
    refine submitPollObserve_reads ?_ ?_
    · rw [ResizeInstanceWorkflow.submitResize, requests]; trivial
    · rw [ResizeInstanceWorkflow.observeResize, observes]; trivial
  next data _ =>
    refine submitPollObserve_reads ?_ (listing _ _)
    rw [SnapshotWorkflow.createSnapshot, requests]; trivial
  next data _ =>
    refine submitPollObserve_reads ?_ (listing _ _)
    rw [SnapshotWorkflow.rollbackSnapshot, SnapshotWorkflow.snapshotRequest, requests]; trivial
  next data _ =>
    refine submitPollObserve_reads ?_ (listing _ _)
    rw [SnapshotWorkflow.deleteSnapshot, SnapshotWorkflow.snapshotRequest, requests]; trivial
  next data _ =>
    refine submitPollObserve_reads ?_ ?_
    · rw [RetainInstanceWorkflow.submitRetention, requests]; trivial
    · rw [RetainInstanceWorkflow.observeRetention, observes]; trivial
  next data _ =>
    unfold PurgeInstanceWorkflow.execute
    split
    next => trivial
    next => rw [PurgeInstanceWorkflow.verifyOwnership, observes]; trivial
    next => rw [PurgeInstanceWorkflow.submitPurge, requests]; trivial
    next => exact pollTask_reads _
    next => rw [PurgeInstanceWorkflow.observeAbsence, observes]; trivial
    next => exact finishFailure_reads _ _

theorem runClaimed_reads (missing : address workflow = none) (heir : workflow.command.data.action ≠ .createInstance) :
    Reads (runClaimed host around workflow) := by
  refine satisfies_catching (execute_reads missing heir) (fun _ _ _ => trivial) fun later error _ => ?_
  cases error with
  | transport error =>
    exact satisfies_finished (handleProviderError_finished error) fun _ _ => trivial
  | defect message => trivial

/-- What a write of a claim says of the resource: a claim that addresses nothing
    names none, unless it creates. -/
def Learns (workflow : ClaimedWorkflow) : StoreWrite → Prop
  | .checkpoint input =>
    (input.providerResourceId.filter (· ≠ "")).isSome = true →
      workflow.command.data.action = .createInstance ∨ (address workflow).isSome = true
  | _ => True

theorem progress_learns {stage : WorkflowStage} {options : ProgressOptions} {write : StoreWrite}
    (silent : options.providerResourceId = none) (ends : progress around workflow stage options = .done write) :
    Learns workflow write := by
  cases ends
  intro names
  dsimp only at names
  cases known : workflow.providerResourceId.filter (· ≠ "") with
  | none => rw [silent, known] at names; cases names
  | some resource => exact .inr (by rw [address, known]; rfl)

theorem finishFailure_learns {failure : FailureValue} {status : FinalStatus} {write : StoreWrite}
    (ends : finishFailure around workflow failure status = .done write) : Learns workflow write := by
  cases ends
  trivial

theorem transition_learns {past : List ProviderExchange} {write : StoreWrite}
    (transition : Transition host around workflow past (.ok write)) (reads : ∀ exchange ∈ past, exchange.1.mutates = false) :
    Learns workflow write := by
  cases transition with
  | through executed =>
    cases executed with
    | advanced _ ends => exact progress_learns rfl ends
    | unsupported _ _ _ ends => exact finishFailure_learns ends
    | untracked _ _ ends => exact finishFailure_learns ends
    | mutated _ mutates => exact absurd mutates (by rw [reads _ List.mem_cons_self]; exact Bool.false_ne_true)
    | polled _ _ _ _ _ ends =>
      unfold handleTaskResult at ends
      split at ends
      next => exact progress_learns rfl ends
      next =>
        split at ends
        next => exact progress_learns rfl ends
        next =>
          split at ends
          next => exact finishFailure_learns ends
          next => exact finishFailure_learns ends
    | reviewed _ _ _ ends => exact finishFailure_learns ends
    | confirmed _ _ _ ends =>
      unfold succeed at ends
      cases found : requiredResource workflow with
      | done resource => rw [found] at ends; cases ends; trivial
      | raise error => rw [found] at ends; cases ends
      | ask call resume => rw [found] at ends; cases ends
    | verified _ _ _ _ ends => exact progress_learns rfl ends
  | caught _ ends =>
    unfold handleProviderError at ends
    split at ends
    next => exact finishFailure_learns ends
    next =>
      split at ends
      next =>
        unfold retryOrDeadLetter at ends
        dsimp only at ends
        split at ends
        next => cases ends; trivial
        next =>
          split at ends
          next => cases ends
          next => exact progress_learns rfl ends
      next => exact finishFailure_learns ends

/-- Whatever the provider answers, a claim that addresses nothing learns nothing,
    unless it creates. -/
theorem runClaimed_learns : (runClaimed host around workflow).Satisfies (fun _ _ => True)
    (fun _ ended => ∀ write, ended = .ok write → Fits around workflow write ∧ Learns workflow write) [] := by
  by_cases knows : workflow.command.data.action = .createInstance ∨ (address workflow).isSome = true
  · refine runClaimed_fits.weaken (fun _ _ _ => trivial) fun past ended fits write same => ⟨fits write same, ?_⟩
    cases write with
    | checkpoint input => exact fun _ => knows
    | complete input => trivial
    | deadLetterWorkflow input => trivial
  · obtain ⟨heir, missing⟩ := not_or.mp knows
    have reads : Reads (runClaimed host around workflow) :=
      runClaimed_reads (by simpa using missing) heir
    refine (runClaimed_transition.both (reads.only fun _ impossible => nomatch impossible)).weaken
      (fun _ _ _ => trivial) ?_
    rintro past ended ⟨transition, -, quiet⟩ write rfl
    exact ⟨transition_fits transition write rfl, transition_learns transition quiet⟩

end

/-! ### Every call keeps the order -/

/-- Whether an admission clears a resource id that someone addresses: a replay
    that is authorized and reopens a create that knows its resource, or starts
    any other workflow without the resource that its create knows. -/
def clears (host : Host) (db : WorkflowDb) (command : LifecycleCommand) (delivery : MessageDeliveryIdentity) : Bool :=
  delivery.replayGeneration ≠ 0 && (db.receipt command.eventId delivery.replayGeneration).isNone &&
    (authorizationOf db command delivery (host.canonicalSha256 (.lifecycle command))).isSome &&
    match db.workflow command.operationId with
    | some row =>
      !replayConflict command delivery row &&
        (if row.action = .createInstance then row.providerResourceId else createResource db row.instanceId).isSome
    | none => command.data.action ≠ .createInstance && (createResource db command.aggregateId).isSome

section
variable {host : Host} {db : WorkflowDb} {command : LifecycleCommand} {delivery : MessageDeliveryIdentity}
  {authorization : ReplayRequestRow}

theorem clears_reopened {row : WorkflowRow} (kept : clears host db command delivery = false)
    (replay : delivery.replayGeneration ≠ 0) (new : db.receipt command.eventId delivery.replayGeneration = none)
    (authorized : authorizationOf db command delivery (host.canonicalSha256 (.lifecycle command)) = some authorization)
    (found : db.workflow command.operationId = some row) (matching : replayConflict command delivery row = false) :
    (if row.action = .createInstance then row.providerResourceId else createResource db row.instanceId) = none := by
  simpa [clears, replay, new, authorized, found, matching] using kept

theorem clears_introduced (kept : clears host db command delivery = false)
    (replay : delivery.replayGeneration ≠ 0) (new : db.receipt command.eventId delivery.replayGeneration = none)
    (authorized : authorizationOf db command delivery (host.canonicalSha256 (.lifecycle command)) = some authorization)
    (absent : db.workflow command.operationId = none) (heir : command.data.action ≠ .createInstance) :
    createResource db command.aggregateId = none := by
  simpa [clears, replay, new, authorized, absent, heir] using kept

theorem heirs_admitted {after : WorkflowDb} {fresh : Nat → Uuid} {now : Instant} {admission : CommandAdmission}
    (heirs : Heirs db.workflows now) (kept : clears host db command delivery = false)
    (admitted : CommandAdmitted host db fresh command delivery now admission after) :
    Heirs after.workflows now ∧ Remaining db.workflows after.workflows := by
  have unchanged : Heirs db.workflows now ∧ Remaining db.workflows db.workflows := ⟨heirs, .refl _⟩
  cases admitted with
  | duplicate => exact unchanged
  | noted => exact unchanged
  | misidentified => rw [rejectReplayCommand_workflows]; exact unchanged
  | unauthorized => rw [rejectReplayCommand_workflows]; exact unchanged
  | conflicting => rw [rejectReplayCommand_workflows]; exact unchanged
  | started original absent new free =>
    refine heirs.append (fun w member => (free w member).1) rfl fun heir knows => ?_
    have inherited : (inheritedResource db command).isSome = true := knows
    rw [heirs.inherited heir] at inherited
    cases found : db.workflows.find? (holds command.aggregateId) with
    | none => rw [found] at inherited; cases inherited
    | some first =>
      show (db.workflows.find? (holds command.aggregateId)).isSome = true
      rw [found]
      rfl
  | reopened authorization row replay new authorized found matching =>
    have cleared := clears_reopened kept replay new authorized found matching
    refine heirs.update (fun _ => ⟨rfl, rfl, rfl, rfl⟩) (fun w member chosen knows => ?_) fun _ _ _ impossible => by
      cases impossible
    have same : w = row := heirs.operations.eq_of_key member (find_mem found) (chosen.trans (find_key found).symm)
    subst same
    split at cleared
    next => rw [cleared] at knows; cases knows
    next =>
      have known := heirs.known member knows
      rw [cleared] at known
      cases known
  | introduced authorization replay new authorized absent free =>
    exact heirs.append (fun w member => (free w member).1) rfl fun _ impossible => by cases impossible

/-- Every call keeps the order, when no admission clears what is addressed and
    no write names a resource that its workflow may not learn. -/
theorem heirs_next {s t : Fencing.State} {call : StoreCall} (heirs : Heirs s.db.workflows s.now)
    (taken : Fencing.next host s call = some t)
    (admits : ∀ fresh command delivery, call = .admitCommand fresh command delivery →
      clears host s.db command delivery = false)
    (learns : ∀ fresh input, call = .checkpoint fresh input →
      (input.providerResourceId.filter (· ≠ "")).isSome = true → ∀ row ∈ s.db.workflows,
        row.operationId = input.operationId → row.providerResourceId.isSome = true ∨ row.action = .createInstance) :
    Heirs t.db.workflows t.now ∧ Remaining s.db.workflows t.db.workflows := by
  obtain ⟨called, passed⟩ := called_next host taken
  suffices Heirs t.db.workflows s.now ∧ Remaining s.db.workflows t.db.workflows from ⟨this.1.later passed, this.2⟩
  generalize t.db = after at called
  have unchanged : Heirs s.db.workflows s.now ∧ Remaining s.db.workflows s.db.workflows := ⟨heirs, .refl _⟩
  have rewritten {op : Uuid} {rewrite : WorkflowRow → WorkflowRow}
      (keeps : ∀ row, (rewrite row).operationId = row.operationId ∧ (rewrite row).instanceId = row.instanceId ∧
        (rewrite row).action = row.action ∧ (rewrite row).createdAt = row.createdAt)
      (resource : ∀ row, (rewrite row).providerResourceId = row.providerResourceId) :
      Heirs (updateWorkflow s.db op rewrite).workflows s.now ∧
        Remaining s.db.workflows (updateWorkflow s.db op rewrite).workflows :=
    heirs.update keeps (fun row _ _ knows => (resource row).symm ▸ knows) fun row _ _ knows =>
      .inl (resource row ▸ knows)
  cases called with
  | nothing => exact unchanged
  | admitted admitted => exact heirs_admitted heirs (admits _ _ _ rfl) admitted
  | decided decided =>
    cases decided with
    | duplicate => exact unchanged
    | rejected => exact unchanged
    | accepted => exact unchanged
  | stored => exact unchanged
  | claimed claim =>
    obtain ⟨leases, rfl⟩ := claim.frame
    exact rewritten (fun _ => ⟨rfl, rfl, rfl, rfl⟩) fun _ => rfl
  | @checkpointed fresh input row lease held =>
    refine heirs.update (fun _ => ⟨rfl, rfl, rfl, rfl⟩) (fun w _ _ knows => ?_) fun w member chosen knows => ?_
    · simp only [checkpointRow, Option.isSome_or, knows, Bool.or_true]
    · simp only [checkpointRow, Option.isSome_or, Bool.or_eq_true] at knows
      rcases knows with names | already
      · exact learns fresh input rfl names w member chosen
      · exact .inl already
  | completed => exact rewritten (fun _ => ⟨rfl, rfl, rfl, rfl⟩) fun _ => rfl
  | exhausted => exact rewritten (fun _ => ⟨rfl, rfl, rfl, rfl⟩) fun _ => rfl

end

/-! ### Every step of the orchestrator -/

/-- What a claim in flight rests on: it addresses what its workflow knows. -/
structure FlightHeir (rows : List WorkflowRow) (flight : InFlight) : Prop where
  learns : flight.program.Satisfies (fun _ _ => True)
    (fun _ ended => ∀ write, ended = .ok write →
      Fits flight.around flight.workflow write ∧ Learns flight.workflow write) flight.past
  row : ∃ row ∈ rows, row.operationId = flight.workflow.command.operationId ∧
    row.action = flight.workflow.command.data.action ∧
    ((address flight.workflow).isSome = true → row.providerResourceId.isSome = true)

structure Inherited (s : State) : Prop where
  identified : Identified s.store.db.workflows
  heirs : Heirs s.store.db.workflows s.store.now
  flights : ∀ flight ∈ s.inFlight, FlightHeir s.store.db.workflows flight

theorem FlightHeir.later {rows later : List WorkflowRow} {flight : InFlight} (heir : FlightHeir rows flight)
    (remaining : Remaining rows later) : FlightHeir later flight := by
  obtain ⟨learns, row, member, operation, action, knows⟩ := heir
  obtain ⟨row', present, remains⟩ := remaining row member
  exact ⟨learns, row', present, remains.operation.trans operation, remains.action.trans action,
    remains.knows ∘ knows⟩

/-- A run whose replays clear nothing that is addressed. -/
def Kept (host : Host) (s : State) : Action → Prop
  | .outside (.admitCommand _ command delivery) => clears host s.store.db command delivery = false
  | _ => True

section
variable {host : Host}

/-- A claim is handed a command of its own capability. -/
theorem claimNext_action {db after : WorkflowDb} {now : Instant} {workerId : String} {leaseSeconds : Nat}
    {action : WorkflowAction} {locked : Uuid → Bool} {claimed : ClaimedWorkflow}
    (ended : claimNext db workerId leaseSeconds action locked now = .ok (some (claimed, after))) :
    claimed.command.data.action = claimed.action := by
  simp only [claimNext] at ended
  split at ended
  next => cases ended
  next =>
    split at ended
    next => cases ended
    next row chosen =>
      split at ended
      next => cases ended
      next token leased taken =>
        split at ended
        all_goals cases ended
        next command stage valid reached => exact commandValidator_action (lifecycleCommand_some valid).2

theorem started_heir {s : State} {workerId : String} {leaseSeconds : Nat} {action : WorkflowAction}
    {locked : Uuid → Bool} {around : Surroundings} {workflow : ClaimedWorkflow} {after : WorkflowDb}
    (inherited : Inherited s)
    (claimed : claimNext s.store.db workerId leaseSeconds action locked s.store.now = .ok (some (workflow, after))) :
    FlightHeir s.store.db.workflows (started host s.claims workerId around workflow) := by
  refine ⟨runClaimed_learns, ?_⟩
  obtain ⟨row, -, claim⟩ := claimNext_ok claimed
  obtain ⟨stage, -, handed⟩ := claim.handed
  have own := claimNext_action claimed
  refine ⟨row, claim.member, ?_, ?_, fun addressed => ?_⟩
  · show row.operationId = workflow.command.operationId
    rw [claim.command]
    exact (inherited.identified row claim.member).symm
  · show row.action = workflow.command.data.action
    rw [own, handed]
    rfl
  · have known : address workflow = (row.providerResourceId.filter (· ≠ "")).filter (· ≠ "") := by rw [handed]; rfl
    cases resource : row.providerResourceId with
    | none =>
      have addressed : (address workflow).isSome = true := addressed
      rw [known, resource] at addressed
      cases addressed
    | some id => rfl

/-- A write of a claim names a resource that its workflow may learn. -/
theorem write_learns {s : State} {flight : InFlight} {write : StoreWrite} (inherited : Inherited s)
    (member : flight ∈ s.inFlight) (ends : flight.program = .done write) (fresh : Nat → Uuid) :
    ∀ fresh' input, storeCall fresh write = .checkpoint fresh' input →
      (input.providerResourceId.filter (· ≠ "")).isSome = true → ∀ row ∈ s.store.db.workflows,
        row.operationId = input.operationId → row.providerResourceId.isSome = true ∨ row.action = .createInstance := by
  intro fresh' input same names row present chosen
  obtain ⟨learns, own, there, operation, action, knows⟩ := inherited.flights flight member
  rw [ends] at learns
  obtain ⟨fits, learned⟩ := learns write rfl
  cases write with
  | complete input => cases same
  | deadLetterWorkflow input => cases same
  | checkpoint input =>
    cases same
    have target : input.operationId = flight.workflow.command.operationId := congrArg Fence.operationId fits.fence
    have here : row = own := inherited.heirs.operations.eq_of_key present there
      (chosen.trans (target.trans operation.symm))
    subst here
    rcases learned names with create | addressed
    · exact .inr (action.trans create)
    · exact .inl (knows addressed)

/-- Every step that clears nothing keeps who inherits from whom. -/
theorem inherited_next {s t : State} {action : Action} (inherited : Inherited s) (kept : Kept host s action)
    (taken : next host s action = some t) : Inherited t ∧ Remaining s.store.db.workflows t.store.db.workflows := by
  have ⟨identified, heirs, flights⟩ := inherited
  have quiet : ∀ {call : StoreCall}, Fencing.next host s.store call = some t.store →
      (∀ fresh command delivery, call = .admitCommand fresh command delivery →
        clears host s.store.db command delivery = false) →
      (∀ fresh input, call ≠ .checkpoint fresh input) →
      Heirs t.store.db.workflows t.store.now ∧ Remaining s.store.db.workflows t.store.db.workflows :=
    fun stored admits silent => heirs_next heirs stored admits fun fresh input same => absurd same (silent fresh input)
  cases steps_next taken with
  | outside call admission stored same =>
    have after := quiet stored (by rintro fresh command delivery rfl; exact kept)
      (by rintro fresh input rfl; cases admission)
    refine ⟨⟨identified_next identified stored, after.1, ?_⟩, after.2⟩
    rw [same]
    exact fun flight member => (flights flight member).later after.2
  | claim workerId leaseSeconds wanted locked around workflow later claimed stored same =>
    have after := quiet stored (fun _ _ _ impossible => nomatch impossible) (fun _ _ impossible => nomatch impossible)
    refine ⟨⟨identified_next identified stored, after.1, ?_⟩, after.2⟩
    rw [same]
    intro flight member
    rcases List.mem_append.mp member with old | new
    · exact (flights flight old).later after.2
    · obtain rfl := List.mem_singleton.mp new
      exact (started_heir inherited claimed).later after.2
  | send flight member call resume asks same =>
    rw [same]
    refine ⟨⟨identified, heirs, fun other present => ?_⟩, .refl _⟩
    rcases mem_replace present with rfl | old
    · exact ⟨(flights flight member).learns, (flights flight member).row⟩
    · exact flights other old
  | receive flight member answers call resume asks same =>
    rw [same]
    refine ⟨⟨identified, heirs, fun other present => ?_⟩, .refl _⟩
    rcases mem_replace present with rfl | old
    · obtain ⟨learns, row⟩ := flights flight member
      rw [asks] at learns
      exact ⟨learns.2 (answers call), row⟩
    · exact flights other old
  | write flight member fresh write ends stored same =>
    have after := heirs_next heirs stored (by cases write <;> exact fun _ _ _ impossible => nomatch impossible)
      (write_learns inherited member ends fresh)
    refine ⟨⟨identified_next identified stored, after.1, ?_⟩, after.2⟩
    rw [same]
    exact fun other present => (flights other (mem_without present)).later after.2
  | crash claim same =>
    rw [same]
    exact ⟨⟨identified, heirs, fun other present => flights other (mem_without present)⟩, .refl _⟩

theorem inherited_initial (now : Instant) : Inherited (initial now) :=
  ⟨fun _ impossible => absurd impossible List.not_mem_nil,
    ⟨List.nodup_nil, .nil, fun _ impossible => absurd impossible List.not_mem_nil, fun _ _ impossible => nomatch impossible⟩,
    fun _ impossible => absurd impossible List.not_mem_nil⟩

theorem inherited_run {now : Instant} {s : State} (run : Reaches (next host) (Kept host) (initial now) s) :
    Inherited s :=
  reaches_invariant Inherited (fun _ _ _ inherited kept taken => (inherited_next inherited kept taken).1) run
    (inherited_initial now)

/-- What the create of an instance learned it still knows later in the run. -/
theorem resource_kept {s t : State} (inherited : Inherited s) (run : Reaches (next host) (Kept host) s t) (i : Uuid)
    (known : (createResource s.store.db i).isSome = true) : (createResource t.store.db i).isSome = true := by
  have grown : Inherited t ∧ Remaining s.store.db.workflows t.store.db.workflows := by
    induction run with
    | refl => exact ⟨inherited, .refl _⟩
    | tail _ last ih =>
      obtain ⟨action, kept, taken⟩ := last
      obtain ⟨after, remaining⟩ := inherited_next ih.1 kept taken
      exact ⟨after, ih.2.trans remaining⟩
  obtain ⟨after, remaining⟩ := grown
  rw [inherited.heirs.created] at known
  cases found : s.store.db.workflows.find? (holds i) with
  | none => rw [found] at known; cases known
  | some row =>
    have held : holds i row = true := List.find?_some found
    obtain ⟨here, knows⟩ := Bool.and_eq_true_iff.mp held
    obtain ⟨row', present, remains⟩ := remaining row (List.mem_of_find?_eq_some found)
    have reached := after.heirs.known present (remains.knows knows)
    rw [remains.aggregate, of_decide_eq_true here] at reached
    exact reached

end

/-! ### Every run -/

section
variable {host : Host}

/-- The row of an operation that an admission started or reopened, when it is no
    create, has the resource id of the create of its instance. -/
theorem admitted_resource {db after : WorkflowDb} {fresh : Nat → Uuid} {command : LifecycleCommand}
    {delivery : MessageDeliveryIdentity} {now : Instant} {row : WorkflowRow} (heirs : Heirs db.workflows now)
    (kept : clears host db command delivery = false)
    (admitted : CommandAdmitted host db fresh command delivery now .accepted after)
    (found : after.workflow command.operationId = some row) (heir : row.action ≠ .createInstance) :
    row.providerResourceId = createResource db row.instanceId := by
  have appended {new : WorkflowRow} (absent : db.workflow command.operationId = none)
      (own : new.operationId = command.operationId)
      (later : find WorkflowRow.operationId command.operationId (db.workflows ++ [new]) = some row) : new = row := by
    have absent : find WorkflowRow.operationId command.operationId db.workflows = none := absent
    rw [find_append, absent, Option.none_or] at later
    simpa [find, own] using later
  cases admitted with
  | started original absent new free =>
    obtain rfl := appended absent rfl found
    show inheritedResource db command = createResource db command.aggregateId
    rw [heirs.inherited heir, heirs.created]
  | reopened authorization old replay new authorized present matching =>
    have cleared := clears_reopened kept replay new authorized present matching
    have keeps (w : WorkflowRow) :
        (reopenedWorkflow command delivery.replayGeneration now w).operationId = w.operationId := rfl
    have later : find WorkflowRow.operationId command.operationId
        (update (fun w : WorkflowRow => w.operationId = command.operationId)
          (reopenedWorkflow command delivery.replayGeneration now) db.workflows) = some row := found
    have present : find WorkflowRow.operationId command.operationId db.workflows = some old := present
    rw [find_update keeps, present, Option.map_some, if_pos (find_key present)] at later
    obtain rfl := Option.some.inj later
    have heir : old.action ≠ .createInstance := heir
    rw [if_neg heir] at cleared
    exact cleared.symm
  | introduced authorization replay new authorized absent free =>
    obtain rfl := appended absent rfl found
    exact (clears_introduced kept replay new authorized absent heir).symm

/-- In every run whose replays clear nothing that is addressed, a workflow other
    than a create is admitted or reopened with the resource id of the create of
    its instance, and an id that the create has learned stays available to every
    later admission. -/
theorem stays_addressed {now : Instant} {s : State} (run : Reaches (next host) (Kept host) (initial now) s) :
    (∀ fresh command delivery after row, clears host s.store.db command delivery = false →
      admitCommand host s.store.db fresh command delivery s.store.now = .ok (.accepted, after) →
      after.workflow command.operationId = some row → row.action ≠ .createInstance →
      row.providerResourceId = createResource s.store.db row.instanceId) ∧
    ∀ t i, Reaches (next host) (Kept host) s t → (createResource s.store.db i).isSome = true →
      (createResource t.store.db i).isSome = true ∧
      ∀ command : LifecycleCommand, command.aggregateId = i → command.data.action ≠ .createInstance →
        inheritedResource t.store.db command = createResource t.store.db i := by
  have inherited := inherited_run run
  constructor
  · intro fresh command delivery after row kept admitted found heir
    exact admitted_resource inherited.heirs kept (admitCommand_cases admitted) found heir
  · intro t i later known
    refine ⟨resource_kept inherited later i known, ?_⟩
    rintro command rfl heir
    have heirs := (inherited_run (run.trans later)).heirs
    rw [heirs.inherited heir, heirs.created]

end

/-- The creation of an instance, step by step. -/
def sampleCreated : List Action :=
  sampleAdmission 0 sampleCreate :: (silentClaim 0 .createInstance ++
    (answeredClaim 1 .createInstance sampleObservation ++ (answeredClaim 2 .createInstance sampleObservation ++
    (answeredClaim 3 .createInstance sampleObservation ++ answeredClaim 4 .createInstance sampleObservation))))

/-- No original delivery clears anything. -/
theorem kept_sampleCreated : ∀ action ∈ sampleCreated, ∀ s, Kept sampleHost s action := by
  intro action member s
  simp only [sampleCreated, silentClaim, answeredClaim, List.cons_append, List.nil_append, List.mem_cons,
    List.not_mem_nil, or_false] at member
  rcases member with rfl | member
  · simp [sampleAdmission, Kept, clears]
  · rcases member with rfl | rfl | rfl | rfl | rfl | rfl | rfl | rfl | rfl | rfl | rfl | rfl | rfl | rfl | rfl | rfl |
      rfl | rfl
    all_goals trivial

theorem stays_addressed_sampleCreated :
    ∃ s after row, execute (next sampleHost) (initial 0) sampleCreated = some s ∧
      admitCommand sampleHost s.store.db (fun _ => "") samplePower ⟨"provisioning.commands.v1", 0, 1, 0, none⟩
        s.store.now = .ok (.accepted, after) ∧
      after.workflow samplePower.operationId = some row ∧ row.providerResourceId = some "910000" ∧
      row.providerResourceId = createResource s.store.db row.instanceId ∧
      (createResource s.store.db sampleCreate.aggregateId).isSome = true := by
  have executed : execute (next sampleHost) (initial 0) sampleCreated = some _ := rfl
  have run := reaches_execute (meets_of_forall kept_sampleCreated) executed
  refine ⟨_, _, _, executed, rfl, rfl, rfl, ?_, ?_⟩
  · exact (stays_addressed run).1 (fun _ => "") samplePower ⟨"provisioning.commands.v1", 0, 1, 0, none⟩ _ _ rfl rfl rfl
      (by decide)
  · exact ((stays_addressed run).2 _ sampleCreate.aggregateId .refl rfl).1

/-- A claim whose provider cannot be reached. -/
def failingClaim (claim : Nat) (action : WorkflowAction) (now : Instant) : List Action :=
  [.claim "worker" 30 action (fun _ => false) ⟨"worker", now, 0, 0, 0, fun _ => ""⟩, .send claim,
   .receive claim (fun _ => .error ⟨.unavailable, "The provider cannot be reached.", true⟩), .write claim fun _ => ""]

/-- A request to replay the power action of a sample instance. -/
def samplePowerReplay : ProvisioningReplayRequested :=
  { sampleReplay with operationId := samplePower.operationId, originalEventId := samplePower.eventId }

/-- A power action that stopped the instance, could not observe it until its
    budget was spent, and may be replayed. -/
def sampleExhausted : List Action :=
  sampleCreated ++ sampleAdmission 1 samplePower :: (silentClaim 5 .powerInstance ++
    (answeredClaim 6 .powerInstance sampleObservation ++ (failingClaim 7 .powerInstance 0 ++
    (failingClaim 8 .powerInstance retryBudgetMs ++
    [.outside (.admitReplayRequest (fun n => if n = 0 then "outbox" else "") samplePowerReplay
       ⟨"provisioning.commands.v1", 0, 2, 0, none⟩)]))))

/-- Whether an admission leaves a workflow, other than a create, without the
    resource of the create of its instance. -/
def forgets (host : Host) (s : State) (command : LifecycleCommand) (delivery : MessageDeliveryIdentity) : Bool :=
  match admitCommand host s.store.db (fun _ => "") command delivery s.store.now with
  | .ok (.accepted, after) => (after.workflow command.operationId).any fun row =>
      row.action ≠ .createInstance && row.providerResourceId ≠ createResource s.store.db row.instanceId
  | _ => false

theorem forgets_admitted {host : Host} {s : State} {command : LifecycleCommand} {delivery : MessageDeliveryIdentity}
    (forgotten : forgets host s command delivery = true) :
    ∃ after row, admitCommand host s.store.db (fun _ => "") command delivery s.store.now = .ok (.accepted, after) ∧
      after.workflow command.operationId = some row ∧ row.action ≠ .createInstance ∧
      row.providerResourceId ≠ createResource s.store.db row.instanceId := by
  unfold forgets at forgotten
  split at forgotten
  next after admitted =>
    obtain ⟨row, found, differs⟩ := (Option.any_eq_true _ _).mp forgotten
    simp only [Bool.and_eq_true, decide_eq_true_eq] at differs
    exact ⟨after, row, admitted, found, differs.1, differs.2⟩
  next => cases forgotten

/-- The replay of a power action addresses nothing, although the create of its
    instance knows the resource. -/
theorem replay_forgets : ¬ ∀ (host : Host) (now : Instant) (s : State) (fresh : Nat → Uuid) (command : LifecycleCommand)
    (delivery : MessageDeliveryIdentity) (after : WorkflowDb) (row : WorkflowRow),
    Reaches (next host) Anything (initial now) s →
    admitCommand host s.store.db fresh command delivery s.store.now = .ok (.accepted, after) →
    after.workflow command.operationId = some row → row.action ≠ .createInstance →
    row.providerResourceId = createResource s.store.db row.instanceId := by
  intro all
  have forgotten : (execute (next sampleHost) (initial 0) sampleExhausted).any (fun s =>
      forgets sampleHost s (restoredCommand samplePower samplePowerReplay 0)
        ⟨"provisioning.commands.v1", 0, 3, 1, some "outbox"⟩) = true := by decide +kernel
  obtain ⟨s, executed, here⟩ := (Option.any_eq_true _ _).mp forgotten
  obtain ⟨after, row, admitted, found, heir, differs⟩ := forgets_admitted here
  exact differs (all sampleHost 0 s (fun _ => "") _ _ after row (reaches_execute (meets_anything _ _) executed) admitted
    found heir)

end ControlPlane.Inheritance
