import ControlPlane.Rejections

/-!
Which operations of an instance are open at once. An acceptance takes the
instance, and the end of an operation gives it back, whoever holds it. A replay
reopens a workflow and takes nothing. As long as nothing is accepted beside a
replayed operation, and no replay is admitted beside another operation, one
operation of each instance is open at a time (`Exclusive`).
-/
namespace ControlPlane.Exclusion
open ControlPlane.Tables ControlPlane.Runs ControlPlane.Domain ControlPlane.Commands ControlPlane.EventValidation
open ControlPlane.WorkflowSchema ControlPlane.WorkflowStore ControlPlane.StoreRules ControlPlane.ControlSchema
open ControlPlane.Acceptance ControlPlane.AcceptanceRules ControlPlane.SagaRules ControlPlane.Transitions
open ControlPlane.LifecycleWorkflow ControlPlane.Orchestrator ControlPlane.Custody ControlPlane.Provenance
open ControlPlane.CommandConsumer ControlPlane.Platform ControlPlane.Rejections
open ControlPlane.Fencing (StoreCall Called called_next)

section
variable {host : Host}

/-! ### The orchestrator -/

/-- A delivery that is original, or that was received before, reopens nothing. -/
theorem admission_keeps {s t : Fencing.State} {fresh : Nat → Uuid} {command : LifecycleCommand}
    {delivery : MessageDeliveryIdentity} (taken : Fencing.next host s (.admitCommand fresh command delivery) = some t)
    (known : delivery.replayGeneration = 0 ∨ s.db.receipt command.eventId delivery.replayGeneration ≠ none) :
    ∀ w ∈ s.db.workflows, w ∈ t.db.workflows := by
  intro w member
  obtain ⟨called, -⟩ := called_next host taken
  generalize t.db = after at called
  have impossible {P : Prop} (replay : delivery.replayGeneration ≠ 0)
      (new : s.db.receipt command.eventId delivery.replayGeneration = none) : P :=
    absurd new (known.resolve_left replay)
  cases called with
  | nothing => exact member
  | admitted admitted =>
    cases admitted with
    | duplicate | noted => exact member
    | started => exact List.mem_append_left _ member
    | misidentified | unauthorized | conflicting =>
      obtain ⟨records, same⟩ := rejectReplayCommand_same s.db delivery _ _ s.now
      rw [same]
      exact member
    | reopened _ _ replay new => exact impossible replay new
    | introduced _ replay new => exact impossible replay new

section
variable {s t : Orchestrator.State} {action : Orchestrator.Action}

theorem row_after (guarded : Guarded host s) (taken : Orchestrator.next host s action = some t) {w : WorkflowRow}
    (member : w ∈ s.store.db.workflows) :
    ∃ later, t.store.db.workflow w.operationId = some later ∧ RowStep host s w action later :=
  row_step guarded taken (guarded.covered.operations.find_eq member rfl)

/-- What reopens a workflow is a replay that was not received before. -/
theorem reopened_replays {fresh : Nat → Uuid} {command : LifecycleCommand} {delivery : MessageDeliveryIdentity}
    {w : WorkflowRow} (guarded : Guarded host s)
    (taken : Orchestrator.next host s (.outside (.admitCommand fresh command delivery)) = some t)
    (member : w ∈ s.store.db.workflows) (failed : w.status = .failed)
    (found : t.store.db.workflow w.operationId =
      some (reopenedWorkflow command delivery.replayGeneration s.store.now w)) :
    delivery.replayGeneration ≠ 0 ∧ s.store.db.receipt command.eventId delivery.replayGeneration = none := by
  by_contra known
  have known : delivery.replayGeneration = 0 ∨ s.store.db.receipt command.eventId delivery.replayGeneration ≠ none := by
    by_cases original : delivery.replayGeneration = 0
    · exact .inl original
    · exact .inr fun new => known ⟨original, new⟩
  have stored : Fencing.next host s.store (.admitCommand fresh command delivery) = some t.store := by
    cases Orchestrator.steps_next taken with
    | outside _ _ stored => exact stored
  have kept := admission_keeps stored known w member
  have same := (guarded_next guarded taken).covered.operations.eq_of_key (find_mem found) kept (find_key found)
  have status := congrArg WorkflowRow.status same
  rw [failed] at status
  cases status

/-- A row that no replay touched goes on, or ends. -/
theorem unreplayed_step {w later : WorkflowRow} (guarded : Guarded host s)
    (taken : Orchestrator.next host s action = some t) (member : w ∈ s.store.db.workflows)
    (found : t.store.db.workflow w.operationId = some later) (step : RowStep host s w action later)
    (first : later.replayGeneration = 0) : w.replayGeneration = 0 ∧ (later.live → w.live) := by
  cases step with
  | kept => exact ⟨first, id⟩
  | claimed live => exact ⟨first, fun _ => live⟩
  | reopened _ failed => exact absurd first (reopened_replays guarded taken member failed found).1
  | @written _ write _ _ _ _ handed => exact ⟨(rewritten_generation write _ w).symm.trans first, fun _ => handed.1⟩

/-- A write of a claim in flight is refused, or rewrites the row that the claim
    was handed. -/
theorem written_cases {flight : InFlight} {write : StoreWrite} {fresh : Nat → Uuid} (guarded : Guarded host s)
    (member : flight ∈ s.inFlight) (ends : flight.program = .done write)
    (stored : Fencing.next host s.store (storeCall fresh write) = some t.store) :
    t.store.db = s.store.db ∨ ∃ w ∈ s.store.db.workflows, w.operationId = flight.workflow.command.operationId ∧
      Handed w flight.workflow ∧ rewritten write s.store.now w ∈ t.store.db.workflows := by
  have custody := guarded.flights flight member
  obtain ⟨-, own⟩ := custody.fence ends
  have holds {w : WorkflowRow} {lease : LeaseRow} (held : Held s.store.db write.fence s.store.now w lease)
      (workflows : t.store.db.workflows = (updateWorkflow s.store.db write.fence.operationId
        (rewritten write s.store.now)).workflows) :
      ∃ w ∈ s.store.db.workflows, w.operationId = flight.workflow.command.operationId ∧ Handed w flight.workflow ∧
        rewritten write s.store.now w ∈ t.store.db.workflows := by
    have present := find_mem held.workflow
    have operation := find_key held.workflow
    refine ⟨w, present, by rw [operation, own]; rfl, ?_, ?_⟩
    · obtain ⟨row, found, token⟩ := custody.row
      rw [own] at held
      have here : row = w := Option.some.inj (found.symm.trans held.workflow)
      subst here
      rcases token with older | ⟨-, handed⟩
      · exact absurd (held.rowToken.symm ▸ older) (Nat.lt_irrefl _)
      · exact handed
    · rw [workflows]
      exact mem_update.mpr ⟨w, present, .inl ⟨operation, rfl⟩⟩
  obtain ⟨called, -⟩ := called_next host stored
  generalize same : t.store.db = after at called holds
  cases write with
  | checkpoint input =>
    cases called with
    | nothing => exact .inl rfl
    | checkpointed held => exact .inr (holds held rfl)
  | complete input =>
    cases called with
    | nothing => exact .inl rfl
    | completed held => exact .inr (holds held rfl)
  | deadLetterWorkflow input =>
    cases called with
    | nothing => exact .inl rfl
    | exhausted held => exact .inr (holds held rfl)

/-- A write that ends its operation ends the workflow. -/
theorem rewritten_ended {around : Surroundings} {workflow : ClaimedWorkflow} {write : StoreWrite} {now : Instant}
    {w : WorkflowRow} (fits : Fits around workflow write) (terminal : write.event.data.isTerminal = true) :
    ¬ (rewritten write now w).live := by
  cases fits.outcome with
  | moved follows progressed => exact absurd terminal (by rw [StoreWrite.event, progressed]; decide)
  | @failed input | @succeeded input =>
    intro live
    cases status : input.status <;> simp [rewritten, completedRow, WorkflowRow.live, status, FinalStatus.status] at live
  | exhausted => intro live; rcases live with live | live <;> cases live

end

/-! ### The events that end an operation -/

/-- Events are published in generation 0, also those of a replayed workflow. -/
def Original (db : WorkflowDb) : Prop :=
  ∀ row ∈ db.outbox, ∀ event, row.message = .event event → row.replayGeneration = 0

theorem original_append {db after : WorkflowDb} {more : List (OutboxRow WorkflowMessage)} (original : Original db)
    (appended : after.outbox = db.outbox ++ more)
    (first : ∀ row ∈ more, row.replayGeneration = 0 ∨ ∀ event, row.message ≠ .event event) : Original after := by
  intro row member event message
  rw [appended] at member
  rcases List.mem_append.mp member with old | new
  · exact original row old event message
  · exact (first row new).resolve_right fun other => other event message

theorem original_called {s : Fencing.State} {call : StoreCall} {after : WorkflowDb} (called : Called host s call after)
    (original : Original s.db) : Original after := by
  have one {row : OutboxRow WorkflowMessage} (first : row.replayGeneration = 0 ∨ ∀ event, row.message ≠ .event event) :
      ∀ other ∈ [row], other.replayGeneration = 0 ∨ ∀ event, other.message ≠ .event event := by
    intro other member
    rw [List.mem_singleton.mp member]
    exact first
  cases called with
  | nothing => exact original
  | @admitted _ _ delivery _ _ admitted =>
    cases admitted with
    | duplicate | noted | started => exact original
    | misidentified | unauthorized | conflicting =>
      obtain ⟨records, same⟩ := rejectReplayCommand_same s.db delivery _ _ s.now
      rw [same]
      exact original
    | reopened | introduced => exact original_append original rfl (one (.inl rfl))
  | decided decided =>
    cases decided with
    | duplicate => exact original
    | rejected => exact original_append original rfl (one (.inl rfl))
    | accepted => exact original_append original rfl (one (.inr fun event other => by cases other))
  | stored => exact original_append original rfl (one (.inl rfl))
  | claimed claim =>
    obtain ⟨leases, rfl⟩ := claim.frame
    exact original
  | checkpointed | completed => exact original_append original rfl (one (.inl rfl))
  | exhausted =>
    refine original_append original (List.append_assoc _ _ _) fun row member => .inl ?_
    rcases List.mem_cons.mp member with rfl | last
    · rfl
    · rw [List.mem_singleton.mp last]

/-- An event that ends its operation was published. -/
structure Concluded (db : WorkflowDb) (event : WorkflowEvent) : Prop where
  published : ∃ row ∈ db.outbox, row.message = .event event
  terminal : event.data.isTerminal = true

/-- An operation that no replay touched is ended by one event, and its workflow
    has ended with it. -/
structure Ends (s : Orchestrator.State) : Prop where
  original : Original s.store.db
  ended : ∀ event, Concluded s.store.db event → ∃ w ∈ s.store.db.workflows, w.operationId = event.operationId ∧
    (w.replayGeneration = 0 → ¬ w.live)
  once : ∀ first second, Concluded s.store.db first → Concluded s.store.db second → first.operationId = second.operationId →
    (∀ w ∈ s.store.db.workflows, w.operationId = first.operationId → w.replayGeneration = 0) → first = second

section
variable {s t : Orchestrator.State} {action : Orchestrator.Action}

/-- The claim whose write is an event, and the row that it was handed. -/
def Writes (s t : Orchestrator.State) (event : WorkflowEvent) : Prop :=
  ∃ flight ∈ s.inFlight, ∃ write, flight.program = .done write ∧ write.event = event ∧
    ∃ w ∈ s.store.db.workflows, w.operationId = event.operationId ∧ Handed w flight.workflow ∧
      rewritten write s.store.now w ∈ t.store.db.workflows

/-- A step publishes at most one event that ends an operation, which a claim
    writes. -/
theorem ended_next (guarded : Guarded host s) (taken : Orchestrator.next host s action = some t) :
    ∃ written : Option WorkflowEvent, ∀ event, Concluded t.store.db event →
      Concluded s.store.db event ∨ written = some event ∧ Writes s t event := by
  rcases stored_cases taken with same | ⟨call, stored, source⟩
  · exact ⟨none, fun event ended => .inl (same ▸ ended)⟩
  · refine ⟨writtenEvent call, ?_⟩
    rintro event ⟨⟨row, member, message⟩, terminal⟩
    rcases outbox_next stored row member event message terminal with old | written
    · exact .inl ⟨⟨row, old, message⟩, terminal⟩
    · rcases source with ⟨-, admission⟩ | ⟨_, _, _, _, rfl⟩ | ⟨flight, there, write, fresh, ends, rfl⟩
      · cases call <;> first | cases written; done | cases admission
      · cases written
      · have own : write.event = event := by cases write <;> exact Option.some.inj written
        have about := congrArg Envelope.operationId
          (transition_fits (InCustody.fence (guarded.flights flight there) ends).1 write rfl).envelope
        rcases written_cases guarded there ends stored with same | ⟨w, present, operation, handed, later⟩
        · exact .inl ⟨⟨row, same ▸ member, message⟩, terminal⟩
        · exact .inr ⟨written, flight, there, write, ends, own, w, present, by rw [operation, ← own, about]; rfl, handed, later⟩

theorem Writes.ended {event : WorkflowEvent} (writes : Writes s t event) (guarded : Guarded host s)
    (terminal : event.data.isTerminal = true) :
    ∃ w ∈ t.store.db.workflows, w.operationId = event.operationId ∧ ¬ w.live := by
  obtain ⟨flight, member, write, done, own, w, present, operation, -, later⟩ := writes
  have fits := transition_fits (InCustody.fence (guarded.flights flight member) done).1 write rfl
  exact ⟨_, later, (rewritten_operation write _ w).trans operation, rewritten_ended fits (own ▸ terminal)⟩

/-- No claim writes about an operation that an event ended before any replay. -/
theorem Ends.unwritten {event first : WorkflowEvent} (ends : Ends s) (guarded : Guarded host s)
    (taken : Orchestrator.next host s action = some t) (before : Concluded s.store.db first) (writes : Writes s t event)
    (same : first.operationId = event.operationId)
    (unreplayed : ∀ w ∈ t.store.db.workflows, w.operationId = first.operationId → w.replayGeneration = 0) : False := by
  obtain ⟨flight, member, write, done, own, w, present, operation, handed, -⟩ := writes
  obtain ⟨other, there, again, closed⟩ := ends.ended first before
  have here := guarded.covered.operations.eq_of_key there present (again.trans (same.trans operation.symm))
  subst here
  obtain ⟨later, found, step⟩ := row_after guarded taken there
  have untouched := unreplayed later (find_mem found) ((find_key found).trans again)
  exact closed (unreplayed_step guarded taken there found step untouched).1 handed.1

theorem ends_next (guarded : Guarded host s) (ends : Ends s) (taken : Orchestrator.next host s action = some t) :
    Ends t := by
  obtain ⟨written, publishes⟩ := ended_next guarded taken
  constructor
  · rcases stored_cases taken with same | ⟨call, stored, -⟩
    · rw [same]
      exact ends.original
    · exact original_called (called_next host stored).1 ends.original
  · intro event ended
    rcases publishes event ended with before | ⟨-, writes⟩
    · obtain ⟨w, there, same, closed⟩ := ends.ended event before
      obtain ⟨later, found, step⟩ := row_after guarded taken there
      refine ⟨later, find_mem found, (find_key found).trans same, fun first live => ?_⟩
      have ⟨unreplayed, was⟩ := unreplayed_step guarded taken there found step first
      exact closed unreplayed (was live)
    · obtain ⟨w, there, same, closed⟩ := writes.ended guarded ended.terminal
      exact ⟨w, there, same, fun _ => closed⟩
  · intro first second ended also same unreplayed
    rcases publishes first ended with before | ⟨one, writes⟩ <;> rcases publishes second also with earlier | ⟨other, rewrites⟩
    · refine ends.once first second before earlier same fun w there about => ?_
      obtain ⟨later, found, step⟩ := row_after guarded taken there
      exact (unreplayed_step guarded taken there found step
        (unreplayed later (find_mem found) ((find_key found).trans about))).1
    · exact (ends.unwritten guarded taken before rewrites same unreplayed).elim
    · exact (ends.unwritten guarded taken earlier writes same.symm fun w there about =>
        unreplayed w there (about.trans same.symm)).elim
    · exact Option.some.inj (one.symm.trans other)

theorem ends_initial (now : Instant) : Ends (Orchestrator.initial now) := by
  refine ⟨fun _ impossible => absurd impossible List.not_mem_nil, ?_, ?_⟩
  · rintro event ⟨⟨row, impossible, -⟩, -⟩
    exact absurd impossible List.not_mem_nil
  · rintro first second ⟨⟨row, impossible, -⟩, -⟩
    exact absurd impossible List.not_mem_nil

end

/-! ### Who holds an instance -/

/-- The instance that a request takes. -/
def Request.takes : Request → Option Uuid
  | .purge command => some command.instanceId
  | request => request.mutates

/-- The operation that holds an instance. -/
def holderOf (db : ControlDb) (instanceId : Uuid) : Option Uuid :=
  (db.instance_ instanceId).bind InstanceRow.activeOperationId

/-- An acceptance takes a free instance for the operation of a new command, or
    leaves the instances and the commands alone. -/
inductive Takes (db after : ControlDb) (request : Request) : Prop
  | nothing (instances : after.instances = db.instances) (queue : ∀ command, Queued after command ↔ Queued db command)
      (receipts : after.eventReceipts = db.eventReceipts) : Takes db after request
  | taken (command : LifecycleCommand) (unused : ∀ o ∈ db.operations, o.id ≠ command.operationId)
      (free : db.instance_ command.aggregateId = none ∨
        Request.takes request = some command.aggregateId ∧ holderOf db command.aggregateId = none)
      (queue : ∀ other, Queued after other ↔ Queued db other ∨ other = command)
      (known : ∀ instanceId, (after.instance_ instanceId).isSome ↔
        (db.instance_ instanceId).isSome ∨ instanceId = command.aggregateId)
      (holder : ∀ instanceId, holderOf after instanceId =
        if instanceId = command.aggregateId then some command.operationId else holderOf db instanceId)
      (receipts : after.eventReceipts = db.eventReceipts) : Takes db after request

section
variable {db after : ControlDb} {request : Request}

theorem instance_update {id : Uuid} {rewrite : InstanceRow → InstanceRow} (keeps : ∀ row, (rewrite row).id = row.id)
    (instances : after.instances = (db.updateInstance id rewrite).instances) (instanceId : Uuid) :
    after.instance_ instanceId =
      (db.instance_ instanceId).map fun row => if instanceId = id then rewrite row else row := by
  rw [ControlDb.instance_, instances, ControlDb.updateInstance, find_update keeps]
  cases found : find InstanceRow.id instanceId db.instances with
  | none => simp [ControlDb.instance_, found]
  | some row => simp [ControlDb.instance_, found, find_key found]

/-- The row of an instance once a mutation is written. -/
theorem mutates_instance {now : Instant} {m : Mutation} (mutates : Mutates db after now m)
    (keeps : ∀ row, (m.rewrite row).id = row.id) (instanceId : Uuid) :
    after.instance_ instanceId = (db.instance_ instanceId).map fun row =>
      if instanceId = m.row.id then { m.rewrite row with activeOperationId := some m.operation.id } else row :=
  @instance_update db after m.row.id (fun row => { m.rewrite row with activeOperationId := some m.operation.id }) keeps
    mutates.instances instanceId

/-- A mutation of an idle instance takes it. -/
theorem mutates_takes {now : Instant} {m : Mutation} (mutates : Mutates db after now m)
    (found : db.instance_ m.row.id = some m.row) (idle : m.row.activeOperationId = none)
    (asks : Request.takes request = some m.row.id) (about : m.event.aggregateId = m.row.id)
    (same : m.event.operationId = m.operation.id) (keeps : ∀ row, (m.rewrite row).id = row.id) :
    Takes db after request := by
  obtain ⟨outboxId, appended⟩ := mutates.outbox
  have rows := mutates_instance mutates keeps
  refine .taken m.event (same ▸ mutates.unused) (.inr ⟨about ▸ asks, ?_⟩) (fun other => queued_append appended) ?_ ?_
    mutates.frame.receipts
  · rw [holderOf, about, found]
    exact idle
  · intro instanceId
    rw [rows, Option.isSome_map]
    refine ⟨.inl, fun known => known.elim id fun same => ?_⟩
    rw [same, about, found]
    rfl
  · intro instanceId
    rw [holderOf, rows, about]
    by_cases here : instanceId = m.row.id
    · simp only [here, found, Option.map_some, Option.bind_some, if_true, same]
    · simp only [here, if_false, Option.map_id', holderOf]

theorem creates_takes {now : Instant} {records : AcceptanceRecords} (creates : Creates db after now records)
    (held : records.row.activeOperationId = some records.event.operationId)
    (about : records.event.aggregateId = records.row.id) (same : records.operation.id = records.event.operationId) :
    Takes db after request := by
  obtain ⟨outboxId, appended⟩ := creates.outbox
  have absent : db.instance_ records.row.id = none := by
    rw [ControlDb.instance_, find, List.find?_eq_none]
    intro other member
    simpa using creates.fresh other member
  have rows (instanceId : Uuid) : after.instance_ instanceId =
      (db.instance_ instanceId).or (if instanceId = records.row.id then some records.row else none) := by
    rw [ControlDb.instance_, creates.instances, find_append]
    by_cases here : instanceId = records.row.id
    · simp [find, here, ControlDb.instance_]
    · simp [find, here, Ne.symm here, ControlDb.instance_]
  refine .taken records.event (same ▸ creates.unused) (.inl (about ▸ absent)) (fun other => queued_append appended) ?_ ?_
    creates.frame.receipts
  · intro instanceId
    rw [rows, about]
    by_cases here : instanceId = records.row.id <;> simp [here]
  · intro instanceId
    rw [holderOf, rows, about]
    by_cases here : instanceId = records.row.id
    · simp only [here, absent, Option.none_or, if_true, Option.bind_some, held]
    · simp only [here, if_false, Option.or_none, holderOf]

theorem effects_takes {draws : Draws} {answer : AcceptedMutation} (effects : Effects host draws db after answer request) :
    Takes db after request := by
  cases effects with
  | replayed _ same => subst same; exact .nothing rfl (fun _ => Iff.rfl) rfl
  | create command context address records _ _ built creates =>
    obtain ⟨-, -, -, -, held, about, same, -⟩ := buildAcceptanceRecords_ok built
    exact creates_takes creates held about same
  | power _ _ idle mutates => exact mutates_takes mutates idle.found idle.idle (congrArg some idle.id.symm) rfl rfl fun _ => rfl
  | resize _ _ _ idle _ _ mutates =>
    exact mutates_takes mutates idle.found idle.idle (congrArg some idle.id.symm) rfl rfl fun _ => rfl
  | snapshotCreate _ _ idle _ mutates =>
    exact mutates_takes mutates idle.found idle.idle (congrArg some idle.id.symm) rfl rfl fun _ => rfl
  | snapshotAction _ _ _ _ idle _ _ _ mutates =>
    exact mutates_takes mutates idle.found idle.idle (congrArg some idle.id.symm) rfl rfl fun _ => rfl
  | retention _ _ _ idle _ mutates =>
    exact mutates_takes mutates idle.found idle.idle (congrArg some idle.id.symm) rfl rfl fun _ => rfl
  | purge _ _ _ found about idle _ _ _ mutates =>
    exact mutates_takes mutates found idle (congrArg some about.symm) rfl rfl fun _ => rfl
  | replay _ _ _ event outboxId _ _ written =>
    subst written
    refine .nothing rfl (fun command => ⟨fun ⟨row, member, message⟩ => ?_, fun ⟨row, member, message⟩ =>
      ⟨row, List.mem_append_left _ member, message⟩⟩) rfl
    rcases List.mem_append.mp member with old | new
    · exact ⟨row, old, message⟩
    · rw [List.mem_singleton.mp new] at message
      cases message

/-- A projected event releases the instance it is about when it ends an
    operation, and takes no other. -/
theorem projected_holder {event : WorkflowEvent} (projected : Projected db after event) (instanceId : Uuid) :
    holderOf after instanceId =
      if instanceId = event.aggregateId ∧ event.data.isTerminal = true then none else holderOf db instanceId := by
  rw [holderOf, instance_update (projectedInstance_id event) projected.instances]
  cases found : db.instance_ instanceId with
  | none => simp [holderOf, found]
  | some row =>
    by_cases here : instanceId = event.aggregateId
    · subst here
      simp [holderOf, found, projectedInstance_activeOperationId]
    · simp [holderOf, found, here]

end

/-! ### Open operations -/

/-- The workflow of an operation has not ended, or has not begun. -/
def Running (s : Platform.State) (operationId : Uuid) : Prop :=
  ∀ w ∈ s.workflows, w.operationId = operationId → w.live

/-- The projection has not heard of an end of the operation. -/
def Unheard (s : Platform.State) (operationId : Uuid) : Prop :=
  ∃ event, Concluded s.orchestrator.store.db event ∧ event.operationId = operationId ∧
    ¬ Seen s.control.db .events event.eventId 0

/-- An operation of the instance is on its way. -/
structure Open (s : Platform.State) (instanceId operationId : Uuid) : Prop where
  accepted : ∃ command, Queued s.control.db command ∧ command.aggregateId = instanceId ∧ command.operationId = operationId
  ongoing : Running s operationId ∨ Unheard s operationId

/-- A replay reopened the operation. -/
def Replayed (s : Platform.State) (operationId : Uuid) : Prop :=
  ∃ w ∈ s.workflows, w.operationId = operationId ∧ w.replayGeneration ≠ 0

/-- The operation that holds an instance. -/
abbrev holder (s : Platform.State) (instanceId : Uuid) : Option Uuid := holderOf s.control.db instanceId

/-- A replay that was not received before is delivered. -/
def Readmits (s : Platform.State) (command : LifecycleCommand) : Platform.Action → Prop
  | .consume index _ _ _ _ => ∃ row, s.commands[index]? = some row ∧ row.message = .lifecycle command ∧
      row.replayGeneration ≠ 0 ∧ s.orchestrator.store.db.receipt command.eventId row.replayGeneration = none
  | _ => False

/-- Nothing is accepted for a free instance while a replayed operation of it is
    open, and no replay is delivered while another operation holds the instance
    or, itself replayed, is open. -/
def Apart (s : Platform.State) : Platform.Action → Prop
  | .accept _ request _ => ∀ instanceId, Request.takes request = some instanceId → holder s instanceId = none →
      ∀ operationId, Open s instanceId operationId → ¬ Replayed s operationId
  | action => ∀ command, Readmits s command action →
      (holder s command.aggregateId = none ∨ holder s command.aggregateId = some command.operationId) ∧
        ∀ operationId, Open s command.aggregateId operationId → Replayed s operationId →
          operationId = command.operationId

/-- One operation of an instance is open at a time. It holds the instance,
    unless it was replayed. -/
structure Exclusive (host : Host) (s : Platform.State) : Prop where
  accountable : Accountable host s
  ends : Ends s.orchestrator
  attributed : ∀ event, Concluded s.orchestrator.store.db event → ∃ command, Queued s.control.db command ∧
    command.aggregateId = event.aggregateId ∧ command.operationId = event.operationId
  known : ∀ command, Queued s.control.db command → (s.instance_ command.aggregateId).isSome
  single : ∀ instanceId first second, Open s instanceId first → Open s instanceId second → first = second
  owner : ∀ instanceId operationId, Open s instanceId operationId →
    holder s instanceId = none ∨ holder s instanceId = some operationId
  held : ∀ instanceId operationId, Open s instanceId operationId → ¬ Replayed s operationId →
    holder s instanceId = some operationId

section
variable {s t : Platform.State}

theorem Running.same {operationId : Uuid} (workflows : t.workflows = s.workflows) :
    Running t operationId ↔ Running s operationId := by
  simp only [Running, workflows]

theorem Replayed.same {operationId : Uuid} (workflows : t.workflows = s.workflows) :
    Replayed t operationId ↔ Replayed s operationId := by
  simp only [Replayed, workflows]

/-- An operation that is open after a step of the control plane was open before
    it, if it was accepted before. -/
theorem open_before (orchestrator : t.orchestrator = s.orchestrator)
    (receipts : ∀ r ∈ s.control.db.eventReceipts, r ∈ t.control.db.eventReceipts) {instanceId operationId : Uuid}
    (open_ : Open t instanceId operationId)
    (accepted : ∃ command, Queued s.control.db command ∧ command.aggregateId = instanceId ∧
      command.operationId = operationId) : Open s instanceId operationId := by
  refine ⟨accepted, ?_⟩
  rcases open_.ongoing with running | ⟨event, concluded, about, unseen⟩
  · exact .inl ((Running.same (by simp only [Platform.State.workflows, orchestrator])).mp running)
  · refine .inr ⟨event, orchestrator ▸ concluded, about, fun seen => unseen ?_⟩
    obtain ⟨r, member, rest⟩ := seen
    exact ⟨r, receipts r member, rest⟩

/-- A step that opens nothing and moves no holder. -/
theorem Exclusive.kept (exclusive : Exclusive host s) (accountable : Accountable host t) (ends : Ends t.orchestrator)
    (attributed : ∀ event, Concluded t.orchestrator.store.db event → ∃ command, Queued t.control.db command ∧
      command.aggregateId = event.aggregateId ∧ command.operationId = event.operationId)
    (known : ∀ command, Queued t.control.db command → (t.instance_ command.aggregateId).isSome)
    (opens : ∀ instanceId operationId, Open t instanceId operationId → Open s instanceId operationId)
    (replayed : ∀ operationId, Replayed s operationId → Replayed t operationId)
    (holders : ∀ instanceId, holder t instanceId = holder s instanceId) : Exclusive host t where
  accountable := accountable
  ends := ends
  attributed := attributed
  known := known
  single instanceId first second one other :=
    exclusive.single instanceId first second (opens _ _ one) (opens _ _ other)
  owner instanceId operationId open_ := holders instanceId ▸ exclusive.owner instanceId operationId (opens _ _ open_)
  held instanceId operationId open_ untouched :=
    (holders instanceId).trans
      (exclusive.held instanceId operationId (opens _ _ open_) fun again => untouched (replayed _ again))

/-- A step of the control plane that takes no instance and accepts no command. -/
theorem exclusive_quiet (exclusive : Exclusive host s) (accountable : Accountable host t)
    (orchestrator : t.orchestrator = s.orchestrator) (instances : t.control.db.instances = s.control.db.instances)
    (queue : ∀ command, Queued t.control.db command ↔ Queued s.control.db command)
    (receipts : ∀ r ∈ s.control.db.eventReceipts, r ∈ t.control.db.eventReceipts) : Exclusive host t := by
  have workflows : t.workflows = s.workflows := by simp only [Platform.State.workflows, orchestrator]
  refine exclusive.kept accountable (orchestrator ▸ exclusive.ends) ?_ ?_ ?_ (fun _ => (Replayed.same workflows).mpr) ?_
  · rw [orchestrator]
    intro event concluded
    exact (exclusive.attributed event concluded).imp fun command found => ⟨(queue command).mpr found.1, found.2⟩
  · intro command queued
    simp only [Platform.State.instance_, ControlDb.instance_, instances]
    exact exclusive.known command ((queue command).mp queued)
  · intro instanceId operationId open_
    exact open_before orchestrator receipts open_
      (open_.accepted.imp fun command found => ⟨(queue command).mp found.1, found.2⟩)
  · intro instanceId
    simp only [holderOf, ControlDb.instance_, instances]

theorem exclusive_accepted {request : Request} (exclusive : Exclusive host s) (accountable : Accountable host t)
    (orchestrator : t.orchestrator = s.orchestrator)
    (apart : ∀ instanceId, Request.takes request = some instanceId → holder s instanceId = none →
      ∀ operationId, Open s instanceId operationId → ¬ Replayed s operationId)
    (takes : Takes s.control.db t.control.db request) : Exclusive host t := by
  have workflows : t.workflows = s.workflows := by simp only [Platform.State.workflows, orchestrator]
  have ends : Ends t.orchestrator := orchestrator ▸ exclusive.ends
  cases takes with
  | nothing instances queue receipts =>
    exact exclusive_quiet exclusive accountable orchestrator instances queue fun r member => receipts ▸ member
  | taken new unused free queue known moved receipts =>
    have holders (instanceId : Uuid) : holder t instanceId =
        if instanceId = new.aggregateId then some new.operationId else holder s instanceId := moved instanceId
    -- The operation of the new command is nobody else's.
    have apartFrom {command : LifecycleCommand} (queued : Queued s.control.db command) :
        command.operationId ≠ new.operationId := by
      obtain ⟨o, member, same⟩ := exclusive.accountable.journal.operation command queued
      exact same ▸ unused o member
    have older {instanceId operationId : Uuid} (open_ : Open t instanceId operationId)
        (other : operationId ≠ new.operationId) : Open s instanceId operationId := by
      refine open_before orchestrator (fun r member => receipts ▸ member) open_ ?_
      obtain ⟨command, queued, about, same⟩ := open_.accepted
      rcases (queue command).mp queued with old | rfl
      · exact ⟨command, old, about, same⟩
      · exact absurd same.symm other
    -- Nothing is open for the instance that is taken.
    have quiet (operationId : Uuid) : ¬ Open s new.aggregateId operationId := by
      intro open_
      rcases free with absent | ⟨asks, idle⟩
      · obtain ⟨command, queued, about, -⟩ := open_.accepted
        have there := exclusive.known command queued
        rw [about, Platform.State.instance_, absent] at there
        cases there
      · have held := exclusive.held _ _ open_ (apart _ asks idle _ open_)
        cases held.symm.trans idle
    have fresh {instanceId : Uuid} (open_ : Open t instanceId new.operationId) : instanceId = new.aggregateId := by
      obtain ⟨command, queued, about, same⟩ := open_.accepted
      rcases (queue command).mp queued with old | rfl
      · exact absurd same (apartFrom old)
      · exact about.symm
    have alone {operationId : Uuid} (open_ : Open t new.aggregateId operationId) : operationId = new.operationId := by
      by_contra other
      exact quiet operationId (older open_ other)
    constructor
    · exact accountable
    · exact ends
    · rw [orchestrator]
      intro event concluded
      exact (exclusive.attributed event concluded).imp fun command found => ⟨(queue command).mpr (.inl found.1), found.2⟩
    · intro command queued
      refine (known command.aggregateId).mpr ?_
      rcases (queue command).mp queued with old | rfl
      · exact .inl (exclusive.known command old)
      · exact .inr rfl
    · intro instanceId first second one other
      by_cases here : instanceId = new.aggregateId
      · subst here
        rw [alone one, alone other]
      · have apart {operationId : Uuid} (open_ : Open t instanceId operationId) : operationId ≠ new.operationId := by
          rintro rfl
          exact here (fresh open_)
        exact exclusive.single instanceId first second (older one (apart one)) (older other (apart other))
    · intro instanceId operationId open_
      rw [holders]
      by_cases here : instanceId = new.aggregateId
      · subst here
        rw [if_pos rfl, alone open_]
        exact .inr rfl
      · rw [if_neg here]
        exact exclusive.owner instanceId operationId (older open_ fun same => here (fresh (same ▸ open_)))
    · intro instanceId operationId open_ untouched
      rw [holders]
      by_cases here : instanceId = new.aggregateId
      · subst here
        rw [if_pos rfl, alone open_]
      · rw [if_neg here]
        exact exclusive.held instanceId operationId (older open_ fun same => here (fresh (same ▸ open_)))
          fun again => untouched ((Replayed.same workflows).mpr again)

/-- An event that ends an operation closes it, unless it was replayed. -/
theorem exclusive_projected {event : WorkflowEvent} {delivery : MessageDeliveryIdentity} {now : Instant}
    (exclusive : Exclusive host s) (accountable : Accountable host t) (orchestrator : t.orchestrator = s.orchestrator)
    (published : ∃ row ∈ s.published, row.message = .event event ∧ delivery.replayGeneration = row.replayGeneration)
    (unseen : ¬ Seen s.control.db .events event.eventId delivery.replayGeneration)
    (applied : Applied { s.control.db with
      eventReceipts := s.control.db.eventReceipts ++ [⟨.events, event.eventId, delivery, now⟩] } t.control.db event) :
    Exclusive host t := by
  have workflows : t.workflows = s.workflows := by simp only [Platform.State.workflows, orchestrator]
  have ends : Ends t.orchestrator := orchestrator ▸ exclusive.ends
  have projected := applied.projected
  obtain ⟨row, member, message, generation⟩ := published
  have original : delivery.replayGeneration = 0 := generation.trans (exclusive.ends.original row member event message)
  have receipts : t.control.db.eventReceipts =
      s.control.db.eventReceipts ++ [⟨.events, event.eventId, delivery, now⟩] := by
    cases applied with
    | documented _ _ _ _ _ _ same => rw [same]
    | resolved _ _ _ _ _ _ _ _ same => rw [same]
  have queue (command : LifecycleCommand) : Queued t.control.db command ↔ Queued s.control.db command := by
    simp only [Queued, projected.outbox]
  have holders (instanceId : Uuid) : holder t instanceId =
      if instanceId = event.aggregateId ∧ event.data.isTerminal = true then none else holder s instanceId :=
    projected_holder projected instanceId
  have opens {instanceId operationId : Uuid} (open_ : Open t instanceId operationId) : Open s instanceId operationId :=
    open_before orchestrator (fun r there => receipts ▸ List.mem_append_left _ there) open_
      (open_.accepted.imp fun command found => ⟨(queue command).mp found.1, found.2⟩)
  have untouched {operationId : Uuid} (fresh : ¬ Replayed t operationId) : ¬ Replayed s operationId :=
    fun again => fresh ((Replayed.same workflows).mpr again)
  -- The operation that the event ends is closed.
  have closed {operationId : Uuid} (terminal : event.data.isTerminal = true)
      (open_ : Open t event.aggregateId operationId) (fresh : ¬ Replayed t operationId) : False := by
    have concluded : Concluded s.orchestrator.store.db event := ⟨⟨row, member, message⟩, terminal⟩
    obtain ⟨command, queued, about, own⟩ := exclusive.attributed event concluded
    have ended : Open s event.aggregateId event.operationId :=
      ⟨⟨command, queued, about, own⟩, .inr ⟨event, concluded, rfl, fun seen => unseen (original ▸ seen)⟩⟩
    have same : operationId = event.operationId := exclusive.single _ _ _ (opens open_) ended
    subst same
    rcases open_.ongoing with running | ⟨other, again, about, unheard⟩
    · obtain ⟨w, there, own, closed⟩ := exclusive.ends.ended event concluded
      refine closed ?_ (running w (workflows ▸ there) own)
      by_contra replayed
      exact untouched fresh ⟨w, there, own, replayed⟩
    · refine unheard ?_
      have same : other = event := by
        refine exclusive.ends.once other event (orchestrator ▸ again) concluded about fun w there own => ?_
        by_contra replayed
        exact untouched fresh ⟨w, there, own.trans about, replayed⟩
      rw [same]
      exact ⟨_, receipts ▸ List.mem_append_right _ (List.mem_singleton_self _), rfl, rfl, original⟩
  constructor
  · exact accountable
  · exact ends
  · rw [orchestrator]
    intro other concluded
    exact (exclusive.attributed other concluded).imp fun command found => ⟨(queue command).mpr found.1, found.2⟩
  · intro command queued
    rw [Platform.State.instance_, instance_update (projectedInstance_id event) projected.instances, Option.isSome_map]
    exact exclusive.known command ((queue command).mp queued)
  · intro instanceId first second one other
    exact exclusive.single instanceId first second (opens one) (opens other)
  · intro instanceId operationId open_
    rw [holders]
    split
    · exact .inl rfl
    · exact exclusive.owner instanceId operationId (opens open_)
  · intro instanceId operationId open_ fresh
    rw [holders]
    split
    next here =>
      obtain ⟨rfl, terminal⟩ := here
      exact (closed terminal open_ fresh).elim
    next => exact exclusive.held instanceId operationId (opens open_) (untouched fresh)

/-- The workflow of a command is reopened by a replay of it. -/
structure Reopens (s t : Orchestrator.State) (command : LifecycleCommand) (delivery : MessageDeliveryIdentity) : Prop where
  replay : delivery.replayGeneration ≠ 0
  new : s.store.db.receipt command.eventId delivery.replayGeneration = none
  reopened : ∃ w ∈ t.store.db.workflows, w.operationId = command.operationId ∧ w.command = command ∧
    w.replayGeneration = delivery.replayGeneration

/-- What is open after a step of the orchestrator was open before it, or is
    reopened by it. -/
theorem open_orchestrated {act : Orchestrator.Action} (guarded : Guarded host s.orchestrator)
    (taken : Orchestrator.next host s.orchestrator act = some t.orchestrator) (control : t.control = s.control)
    {instanceId operationId : Uuid} (open_ : Open t instanceId operationId) :
    Open s instanceId operationId ∨ ∃ fresh command delivery, act = .outside (.admitCommand fresh command delivery) ∧
      command.operationId = operationId ∧ Reopens s.orchestrator t.orchestrator command delivery := by
  have accepted := control ▸ open_.accepted
  have keyed := guarded.covered.operations
  rcases open_.ongoing with running | ⟨event, concluded, about, unheard⟩
  · by_cases before : Running s operationId
    · exact .inl ⟨accepted, .inl before⟩
    · -- A workflow that had ended is live.
      obtain ⟨w, member, own, closed⟩ : ∃ w ∈ s.workflows, w.operationId = operationId ∧ ¬ w.live := by
        simpa [Running] using before
      obtain ⟨later, found, step⟩ := row_after guarded taken member
      have live := running later (find_mem found) ((find_key found).trans own)
      cases step with
      | kept => exact absurd live closed
      | claimed was => exact absurd was closed
      | written _ _ _ handed => exact absurd handed.1 closed
      | @reopened fresh command delivery same failed =>
        have ⟨replay, new⟩ := reopened_replays guarded taken member failed found
        exact .inr ⟨fresh, command, delivery, rfl, same.trans own, replay, new, _, find_mem found,
          (find_key found).trans same.symm, rfl, rfl⟩
  · obtain ⟨written, publishes⟩ := ended_next guarded taken
    rcases publishes event concluded with before | ⟨-, writes⟩
    · exact .inl ⟨accepted, .inr ⟨event, before, about, control ▸ unheard⟩⟩
    · obtain ⟨flight, -, write, -, -, w, present, operation, handed, -⟩ := writes
      refine .inl ⟨accepted, .inl fun other there own => ?_⟩
      rw [keyed.eq_of_key there present (own.trans (about.symm.trans operation.symm))]
      exact handed.1

theorem exclusive_orchestrated {act : Orchestrator.Action} (exclusive : Exclusive host s) (accountable : Accountable host t)
    (taken : Orchestrator.next host s.orchestrator act = some t.orchestrator) (control : t.control = s.control)
    (apart : ∀ fresh command delivery, act = .outside (.admitCommand fresh command delivery) →
      delivery.replayGeneration ≠ 0 →
      s.orchestrator.store.db.receipt command.eventId delivery.replayGeneration = none →
      (holder s command.aggregateId = none ∨ holder s command.aggregateId = some command.operationId) ∧
        ∀ operationId, Open s command.aggregateId operationId → Replayed s operationId →
          operationId = command.operationId) : Exclusive host t := by
  have guarded := exclusive.accountable.guarded
  have ends := ends_next guarded exclusive.ends taken
  have holders (instanceId : Uuid) : holder t instanceId = holder s instanceId := by rw [holder, control]
  have attributed : ∀ event, Concluded t.orchestrator.store.db event → ∃ command, Queued t.control.db command ∧
      command.aggregateId = event.aggregateId ∧ command.operationId = event.operationId := by
    intro event concluded
    rw [control]
    obtain ⟨written, publishes⟩ := ended_next guarded taken
    rcases publishes event concluded with before | ⟨-, flight, member, write, done, own, w, present, -, handed, -⟩
    · exact exclusive.attributed event before
    · obtain ⟨original, queued, copies⟩ := exclusive.accountable.copied w.command (.workflow w present rfl)
      have envelope := (transition_fits (InCustody.fence (guarded.flights flight member) done).1 write rfl).envelope
      rw [own] at envelope
      have aggregate : event.aggregateId = w.command.aggregateId :=
        (congrArg Envelope.aggregateId envelope).trans (congrArg (·.aggregateId) handed.command)
      have operation : event.operationId = w.command.operationId :=
        (congrArg Envelope.operationId envelope).trans (congrArg (·.operationId) handed.command)
      exact ⟨original, queued, copies.aggregate.symm.trans aggregate.symm, copies.operation.symm.trans operation.symm⟩
  have known : ∀ command, Queued t.control.db command → (t.instance_ command.aggregateId).isSome := by
    intro command queued
    rw [control] at queued
    rw [Platform.State.instance_, control]
    exact exclusive.known command queued
  have replayed : ∀ operationId, Replayed s operationId → Replayed t operationId := by
    rintro operationId ⟨w, member, own, again⟩
    obtain ⟨later, found, step⟩ := row_after guarded taken member
    exact ⟨later, find_mem found, (find_key found).trans own, fun first =>
      again (unreplayed_step guarded taken member found step first).1⟩
  by_cases reopens : ∃ fresh command delivery, act = .outside (.admitCommand fresh command delivery) ∧
      Reopens s.orchestrator t.orchestrator command delivery
  · obtain ⟨fresh, command, delivery, rfl, reopens⟩ := reopens
    have ⟨free, alone⟩ := apart fresh command delivery rfl reopens.replay reopens.new
    obtain ⟨w, member, own, same, generation⟩ := reopens.reopened
    obtain ⟨original, queued, copies⟩ := accountable.copied w.command (.workflow w member rfl)
    rw [same] at copies
    have again : Replayed t command.operationId := ⟨w, member, own, generation ▸ reopens.replay⟩
    have opens {instanceId operationId : Uuid} (open_ : Open t instanceId operationId) :
        Open s instanceId operationId ∨ operationId = command.operationId := by
      rcases open_orchestrated guarded taken control open_ with before | ⟨_, _, _, outside, about, -⟩
      · exact .inl before
      · cases outside
        exact .inr about.symm
    -- Only the command's own instance has an open operation of that name.
    have here {instanceId : Uuid} (open_ : Open t instanceId command.operationId) : instanceId = command.aggregateId := by
      obtain ⟨accepted, there, about, operation⟩ := open_.accepted
      rw [accountable.journal.unique accepted original there queued (operation.trans copies.operation)] at about
      exact about.symm.trans copies.aggregate.symm
    have only {operationId : Uuid} (open_ : Open t command.aggregateId operationId) : operationId = command.operationId := by
      rcases opens open_ with before | same
      · by_cases touched : Replayed s operationId
        · exact alone operationId before touched
        · have held := exclusive.held _ _ before touched
          rcases free with idle | own
          · cases held.symm.trans idle
          · exact Option.some.inj (held.symm.trans own)
      · exact same
    constructor
    · exact accountable
    · exact ends
    · exact attributed
    · exact known
    · intro instanceId first second one other
      by_cases at_ : instanceId = command.aggregateId
      · subst at_
        rw [only one, only other]
      · have older {operationId : Uuid} (open_ : Open t instanceId operationId) : Open s instanceId operationId := by
          rcases opens open_ with before | rfl
          · exact before
          · exact absurd (here open_) at_
        exact exclusive.single instanceId first second (older one) (older other)
    · intro instanceId operationId open_
      rw [holders]
      rcases opens open_ with before | rfl
      · exact exclusive.owner instanceId operationId before
      · rw [here open_]
        exact free
    · intro instanceId operationId open_ fresh
      rw [holders]
      rcases opens open_ with before | rfl
      · exact exclusive.held instanceId operationId before fun touched => fresh (replayed _ touched)
      · exact absurd again fresh
  · refine exclusive.kept accountable ends attributed known (fun instanceId operationId open_ => ?_) replayed holders
    rcases open_orchestrated guarded taken control open_ with before | ⟨fresh, command, delivery, rfl, -, again⟩
    · exact before
    · exact absurd ⟨fresh, command, delivery, rfl, again⟩ reopens

theorem exclusive_next {action : Platform.Action} (exclusive : Exclusive host s) (apart : Apart s action)
    (taken : Platform.next host s action = some t) : Exclusive host t := by
  have accountable := accountable_next exclusive.accountable taken
  rcases orchestrator_next taken with orchestrator | ⟨control, act, works, stepped⟩
  · have quiet (instances : t.control.db.instances = s.control.db.instances)
        (outbox : t.control.db.outbox = s.control.db.outbox)
        (receipts : ∀ r ∈ s.control.db.eventReceipts, r ∈ t.control.db.eventReceipts) : Exclusive host t :=
      exclusive_quiet exclusive accountable orchestrator instances (fun command => by simp only [Queued, outbox]) receipts
    rcases control_next taken with control | ⟨act, controls, stepped⟩
    · exact quiet (by rw [control]) (by rw [control]) fun r member => by rw [control]; exact member
    · cases Lifecycle.does_next stepped with
      | accepted draws request requestHash answer _ effects =>
        cases controls with
        | request => exact exclusive_accepted exclusive accountable orchestrator apart (effects_takes effects)
      | projected event delivery now unseen applied =>
        cases controls with
        | event index partition offset _ row found _ message =>
          exact exclusive_projected exclusive accountable orchestrator ⟨row, List.mem_of_getElem? found, message, rfl⟩
            unseen applied
      | lettered letter delivery now _ written =>
        exact quiet (by rw [written]) (by rw [written]) fun r member => by rw [written]; exact List.mem_append_left _ member
      | administered catalog written =>
        exact quiet (by rw [written]) (by rw [written]) fun r member => by rw [written]; exact member
      | nothing _ same => exact quiet (by rw [same]) (by rw [same]) fun r member => by rw [same]; exact member
  · refine exclusive_orchestrated exclusive accountable stepped control ?_
    rintro fresh command delivery rfl replay new
    cases works with
    | command index partition offset fresh attempts row found command narrowed =>
      have message := (ingress_admits narrowed).1
      exact apart command ⟨row, found, message, replay, new⟩
    | other _ _ noCommand => exact absurd rfl (noCommand _ _ _)

theorem exclusive_initial (catalog : Catalog) (now : Instant) : Exclusive host (Platform.initial catalog now) := by
  have unqueued {command : LifecycleCommand} (queued : Queued (Platform.initial catalog now).control.db command) : False := by
    obtain ⟨row, impossible, -⟩ := queued
    exact List.not_mem_nil impossible
  have closed {instanceId operationId : Uuid} (open_ : Open (Platform.initial catalog now) instanceId operationId) : False :=
    open_.accepted.elim fun _ found => unqueued found.1
  constructor
  · exact accountable_initial catalog now
  · exact ends_initial now
  · rintro event ⟨⟨row, impossible, -⟩, -⟩
    exact absurd impossible List.not_mem_nil
  · exact fun _ queued => (unqueued queued).elim
  · exact fun _ _ _ one => (closed one).elim
  · exact fun _ _ open_ => (closed open_).elim
  · exact fun _ _ open_ => (closed open_).elim

theorem exclusive_run {catalog : Catalog} {now : Instant}
    (run : Reaches (Platform.next host) Apart (Platform.initial catalog now) s) : Exclusive host s :=
  reaches_invariant (Exclusive host) (fun _ _ _ exclusive apart taken => exclusive_next exclusive apart taken) run
    (exclusive_initial catalog now)

end

end

end ControlPlane.Exclusion
