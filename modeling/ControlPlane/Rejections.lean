import ControlPlane.Platform
import ControlPlane.Provenance

/-!
What becomes of an accepted command that its consumer rejects for good. No copy
of it is ever admitted, since the validators do not read what a replay changes,
so its operation never has a workflow. The events of the workflows are the only
ones that move an operation, and the notice of a dead letter does not: the
operation stays accepted for ever.
-/
namespace ControlPlane.Rejections
open ControlPlane.Tables ControlPlane.Runs ControlPlane.Domain ControlPlane.Commands ControlPlane.EventValidation
open ControlPlane.WorkflowSchema ControlPlane.ControlSchema ControlPlane.ProjectionStore ControlPlane.AcceptanceRules
open ControlPlane.KafkaConsumer (HandlerError RecordValue)
open ControlPlane.CommandRouting ControlPlane.CommandConsumer ControlPlane.Provenance ControlPlane.Platform
open ControlPlane.Custody (Guarded guarded_next guarded_initial)

/-! ### Acceptance -/

section
variable {host : Host} {db after : ControlDb}

/-- A command that was accepted, as it is published. -/
def Queued (db : ControlDb) (command : LifecycleCommand) : Prop := ∃ row ∈ db.outbox, row.message = .lifecycle command

/-- What an acceptance adds to the operations and to the outbox. -/
inductive Journaled (db after : ControlDb) : Prop
  | nothing (operations : after.operations = db.operations)
      (queue : ∀ command, Queued after command ↔ Queued db command) : Journaled db after
  | operation (operation : OperationView) (command : LifecycleCommand) (waiting : operation.state = .accepted)
      (same : operation.id = command.operationId) (unused : ∀ o ∈ db.operations, o.id ≠ command.operationId)
      (operations : after.operations = db.operations ++ [operation])
      (queue : ∃ outboxId occurredAt, after.outbox = db.outbox ++ [⟨outboxId, .lifecycle command, 0, occurredAt⟩]) :
      Journaled db after

theorem mutates_journaled {now : Instant} {m : Mutation} (mutates : Mutates db after now m)
    (waiting : m.operation.state = .accepted) (same : m.operation.id = m.event.operationId) : Journaled db after :=
  .operation m.operation m.event waiting same (same ▸ mutates.unused) mutates.operations
    (mutates.outbox.imp fun _ more => ⟨now, more⟩)

theorem effects_journaled {draws : Draws} {answer : AcceptedMutation} {request : Request}
    (effects : Effects host draws db after answer request) : Journaled db after := by
  cases effects with
  | replayed _ same => subst same; exact .nothing rfl fun _ => Iff.rfl
  | create command context address records _ _ built creates =>
    have waiting : records.operation.state = .accepted := by
      obtain ⟨_, -, built⟩ := bind_ok built
      obtain ⟨_, -, built⟩ := bind_ok built
      cases built
      rfl
    obtain ⟨-, -, -, -, -, -, same, -⟩ := buildAcceptanceRecords_ok built
    exact .operation records.operation records.event waiting same (same ▸ creates.unused) creates.operations
      (creates.outbox.imp fun _ more => ⟨draws.now, more⟩)
  | power _ _ _ mutates => exact mutates_journaled mutates rfl rfl
  | resize _ _ _ _ _ _ mutates => exact mutates_journaled mutates rfl rfl
  | snapshotCreate _ _ _ _ mutates => exact mutates_journaled mutates rfl rfl
  | snapshotAction _ _ _ _ _ _ _ _ mutates => exact mutates_journaled mutates rfl rfl
  | retention _ _ _ _ _ mutates => exact mutates_journaled mutates rfl rfl
  | purge _ _ _ _ _ _ _ _ _ mutates => exact mutates_journaled mutates rfl rfl
  | replay _ _ _ event outboxId _ _ written =>
    subst written
    refine .nothing rfl fun command => ⟨fun ⟨row, member, message⟩ => ?_, fun ⟨row, member, message⟩ =>
      ⟨row, List.mem_append_left _ member, message⟩⟩
    rcases List.mem_append.mp member with old | new
    · exact ⟨row, old, message⟩
    · rw [List.mem_singleton.mp new] at message
      cases message

/-- The commands after an acceptance: those before it, and perhaps a new one. -/
theorem queued_append {command new : LifecycleCommand} {outboxId : Uuid} {occurredAt : Instant}
    (appended : after.outbox = db.outbox ++ [⟨outboxId, .lifecycle new, 0, occurredAt⟩]) :
    Queued after command ↔ Queued db command ∨ command = new := by
  constructor
  · rintro ⟨row, member, message⟩
    rw [appended] at member
    rcases List.mem_append.mp member with old | fresh
    · exact .inl ⟨row, old, message⟩
    · rw [List.mem_singleton.mp fresh] at message
      cases message
      exact .inr rfl
  · rintro (⟨row, member, message⟩ | rfl)
    · exact ⟨row, appended ▸ List.mem_append_left _ member, message⟩
    · exact ⟨_, appended ▸ List.mem_append_right _ (List.mem_singleton_self _), rfl⟩

/-- Every accepted command has its operation, which no other command has. -/
structure Journal (db : ControlDb) : Prop where
  operation : ∀ command, Queued db command → ∃ o ∈ db.operations, o.id = command.operationId
  unique : ∀ first second, Queued db first → Queued db second → first.operationId = second.operationId → first = second

theorem Journal.kept (journal : Journal db) (operations : after.operations.map OperationView.id = db.operations.map OperationView.id)
    (outbox : after.outbox = db.outbox) : Journal after := by
  have queue {command : LifecycleCommand} (queued : Queued after command) : Queued db command :=
    queued.imp fun row found => ⟨outbox ▸ found.1, found.2⟩
  constructor
  · intro command queued
    obtain ⟨o, member, about⟩ := journal.operation command (queue queued)
    have ids : o.id ∈ after.operations.map OperationView.id := operations ▸ List.mem_map_of_mem member
    obtain ⟨later, present, same⟩ := List.mem_map.mp ids
    exact ⟨later, present, same.trans about⟩
  · intro first second one other
    exact journal.unique first second (queue one) (queue other)

theorem Journaled.journal (journaled : Journaled db after) (journal : Journal db) : Journal after := by
  cases journaled with
  | nothing operations queue =>
    constructor
    · intro command queued
      rw [operations]
      exact journal.operation command ((queue command).mp queued)
    · intro first second one other
      exact journal.unique first second ((queue first).mp one) ((queue second).mp other)
  | operation operation new waiting same unused operations queue =>
    obtain ⟨outboxId, occurredAt, appended⟩ := queue
    -- The operation of the new command is no older command's.
    have apart {command : LifecycleCommand} (queued : Queued db command) : command.operationId ≠ new.operationId := by
      obtain ⟨o, member, about⟩ := journal.operation command queued
      exact about ▸ unused o member
    constructor
    · intro command queued
      rw [operations]
      rcases (queued_append appended).mp queued with old | rfl
      · obtain ⟨o, member, about⟩ := journal.operation command old
        exact ⟨o, List.mem_append_left _ member, about⟩
      · exact ⟨operation, List.mem_append_right _ (List.mem_singleton_self operation), same⟩
    · intro first second one other alike
      rcases (queued_append appended).mp one with old | rfl <;> rcases (queued_append appended).mp other with older | rfl
      · exact journal.unique first second old older alike
      · exact absurd alike (apart old)
      · exact absurd alike.symm (apart older)
      · rfl

theorem Journaled.queued (journaled : Journaled db after) {command : LifecycleCommand} (queued : Queued db command) :
    Queued after command := by
  cases journaled with
  | nothing operations queue => exact (queue command).mpr queued
  | operation operation new waiting same unused operations queue =>
    obtain ⟨outboxId, occurredAt, appended⟩ := queue
    exact (queued_append appended).mpr (.inl queued)

/-- An operation after an acceptance was there before, or is accepted only. -/
theorem Journaled.waiting (journaled : Journaled db after) : ∀ o ∈ after.operations, o ∈ db.operations ∨ o.state = .accepted := by
  intro o member
  cases journaled with
  | nothing operations queue => exact .inl (operations ▸ member)
  | operation operation new waiting same unused operations queue =>
    rw [operations] at member
    rcases List.mem_append.mp member with old | fresh
    · exact .inl old
    · exact .inr (List.mem_singleton.mp fresh ▸ waiting)

/-- An event moves its own operation, unless it resolves a replay. -/
theorem applied_operation {event : WorkflowEvent} (applied : Applied db after event) :
    ∀ o ∈ after.operations, ∃ old ∈ db.operations, o.id = old.id ∧
      (o.state = old.state ∨ o.id = event.operationId ∧ resolves event.data = false) := by
  intro o member
  cases applied with
  | documented document operation views found journaled present same =>
    subst same
    obtain ⟨old, there, ⟨about, rfl⟩ | ⟨-, rfl⟩⟩ := mem_update.mp member
    · refine ⟨old, there, projectedOperation_id event operation old, ?_⟩
      cases data : event.data
      case replayResolved => exact .inl (by simp only [projectedOperation, data])
      all_goals exact .inr ⟨(projectedOperation_id event operation old).trans about, rfl⟩
    · exact ⟨o, there, rfl, .inl rfl⟩
  | resolved _ _ _ _ _ _ _ _ same =>
    subst same
    exact ⟨o, member, rfl, .inl rfl⟩

end

/-! ### What the consumer admits and rejects -/

section
variable {command : LifecycleCommand}

theorem isSupportedCommandSchema_schemaName (data : CommandData) : isSupportedCommandSchema data.schemaName = true := by
  cases data <;> rfl

/-- A command is admitted as it was delivered, and only if its validator accepts it. -/
theorem ingress_admits {message : CommandMessage} (narrowed : ingress (.message message) = .ok (.command command)) :
    message = .lifecycle command ∧ Sound command := by
  obtain ⟨found, decoded, rest⟩ := bind_ok narrowed
  cases decodedCommand_ok decoded
  split at rest
  next =>
    obtain ⟨accepted, read, done⟩ := bind_ok rest
    cases done
    rcases narrowCommand_cases decoded with ⟨again, narrowed, same⟩ | ⟨code, refused⟩
    · cases read.symm.trans narrowed
      subst same
      exact ⟨rfl, (narrowCommand_ok read).2⟩
    · cases read.symm.trans refused
  next =>
    split at rest
    next =>
      obtain ⟨request, -, done⟩ := bind_ok rest
      cases done
    next => cases rest

/-- A command is rejected for good only if its validator does not accept it. -/
theorem ingress_rejects {code : String}
    (refused : ingress (.message (.lifecycle command)) = .error (.permanent code)) : ¬ Sound command := by
  intro sound
  by_cases enveloped : isEventEnvelope command.data.schemaName command.toEnvelope = true
  · have read := decodedCommand_lifecycle enveloped
    have narrowed := narrowCommand_lifecycle enveloped (commandValidator_first sound)
    rw [if_pos (show commandValidator command.data.action command = true from sound)] at narrowed
    simp only [ingress, read, bind, Except.bind, CommandMessage.schemaName, isSupportedCommandSchema_schemaName,
      if_true, narrowed] at refused
    cases refused
  · have broken : decodedCommand (.message (.lifecycle command)) = .error (.decode .invalidEnvelope) := by
      have invalid : ¬ isEventEnvelope (KafkaConsumer.Enveloped.schemaName (CommandMessage.lifecycle command))
        (KafkaConsumer.Enveloped.envelope (CommandMessage.lifecycle command)) = true := enveloped
      rw [decodedCommand, KafkaConsumer.decodeEventEnvelope, if_neg invalid]
      rfl
    simp only [ingress, broken, bind, Except.bind] at refused
    cases refused

end

/-! ### The invariant -/

section
variable {host : Host} {s t : Platform.State}

/-- The orchestrator works on accepted commands that their validators accept, and
    only what it works on leaves the accepted state. -/
structure Accountable (host : Host) (s : Platform.State) : Prop where
  guarded : Guarded host s.orchestrator
  explained : Explained s.orchestrator.store.db
  journal : Journal s.control.db
  copied : ∀ command, Holds s.orchestrator.store.db command → ∃ original, Queued s.control.db original ∧ CopyOf original command
  sound : ∀ w ∈ s.workflows, Sound w.command
  waiting : ∀ o ∈ s.control.db.operations, (∀ w ∈ s.workflows, w.operationId ≠ o.id) → o.state = .accepted
  rejected : ∀ command, .lifecycle command ∈ s.rejected → ¬ Sound command

/-- What is delivered was accepted, or restored from what was. -/
theorem Accountable.commands (accountable : Accountable host s) {row : OutboxRow CommandMessage} {command : LifecycleCommand}
    (member : row ∈ s.commands) (message : row.message = .lifecycle command) :
    ∃ original, Queued s.control.db original ∧ CopyOf original command := by
  rcases List.mem_append.mp member with accepted | restored
  · exact ⟨command, ⟨row, accepted, message⟩, .refl command⟩
  · obtain ⟨source, published, same⟩ := List.mem_filterMap.mp restored
    unfold restoredRow at same
    split at same
    next copy carried =>
      cases same
      cases message
      exact accountable.copied command (.outbox source published carried)
    next => cases same

/-- The operations and the commands of the control plane after one of its steps. -/
structure Continues (s t : Platform.State) : Prop where
  journal : Journal t.control.db
  queued : ∀ command, Queued s.control.db command → Queued t.control.db command
  waiting : ∀ o ∈ t.control.db.operations, (∀ w ∈ s.workflows, w.operationId ≠ o.id) → o.state = .accepted

theorem continues_next (accountable : Accountable host s) {action : Lifecycle.Action} (carries : Carries s action)
    (taken : Lifecycle.next host s.control action = some t.control) : Continues s t := by
  have same (db : t.control.db.operations = s.control.db.operations) (outbox : t.control.db.outbox = s.control.db.outbox) :
      Continues s t :=
    ⟨accountable.journal.kept (congrArg _ db) outbox, fun _ queued => queued.imp fun _ found => ⟨outbox ▸ found.1, found.2⟩,
      fun o member => accountable.waiting o (db ▸ member)⟩
  cases Lifecycle.does_next taken with
  | accepted draws request requestHash answer ended effects history =>
    have journaled := effects_journaled effects
    refine ⟨journaled.journal accountable.journal, fun _ => journaled.queued, fun o member absent => ?_⟩
    rcases journaled.waiting o member with old | fresh
    · exact accountable.waiting o old absent
    · exact fresh
  | projected event delivery now unseen applied history =>
    have projected := applied.projected
    refine ⟨accountable.journal.kept projected.operations projected.outbox,
      fun _ queued => queued.imp fun _ found => ⟨projected.outbox ▸ found.1, found.2⟩, fun o member absent => ?_⟩
    obtain ⟨old, there, same, state | ⟨about, moves⟩⟩ := applied_operation applied o member
    · exact state.trans (accountable.waiting old there fun w present => same ▸ absent w present)
    · -- The event moves an operation that has a workflow.
      cases carries with
      | event row published _ _ _ message =>
        rcases accountable.explained row published event message with resolution | ⟨w, present, own⟩
        · cases resolution.symm.trans moves
        · exact absurd (own.trans about.symm) (absent w present)
  | lettered letter delivery now unseen written => exact same (by rw [written]) (by rw [written])
  | administered catalog written => exact same (by rw [written]) (by rw [written])
  | nothing action unchanged => exact same (by rw [unchanged]) (by rw [unchanged])

theorem accountable_controlled (accountable : Accountable host s) {action : Lifecycle.Action} (carries : Carries s action)
    (taken : Lifecycle.next host s.control action = some t.control) (orchestrator : t.orchestrator = s.orchestrator)
    (rejected : t.rejected = s.rejected) : Accountable host t := by
  have continues := continues_next accountable carries taken
  have workflows : t.workflows = s.workflows := by simp only [Platform.State.workflows, orchestrator]
  exact
    { guarded := orchestrator ▸ accountable.guarded
      explained := orchestrator ▸ accountable.explained
      journal := continues.journal
      copied := fun command holds => by
        obtain ⟨original, queued, copies⟩ := accountable.copied command (orchestrator ▸ holds)
        exact ⟨original, continues.queued original queued, copies⟩
      sound := workflows ▸ accountable.sound
      waiting := workflows ▸ continues.waiting
      rejected := rejected ▸ accountable.rejected }

theorem accountable_orchestrated (accountable : Accountable host s) {action : Orchestrator.Action}
    (brings : ∀ call, action = .outside call → Brings s call)
    (taken : Orchestrator.next host s.orchestrator action = some t.orchestrator) (control : t.control = s.control)
    (rejected : t.rejected = s.rejected ∨ ∃ message code, ingress (.message message) = .error (.permanent code) ∧
      t.rejected = s.rejected ++ [message]) : Accountable host t where
  guarded := guarded_next accountable.guarded taken
  explained := explained_next accountable.guarded accountable.explained taken
  journal := control ▸ accountable.journal
  copied command holds := by
    rw [control]
    rcases holds_next taken holds with ⟨old, held, copies⟩ | ⟨call, outside, own⟩
    · obtain ⟨original, queued, again⟩ := accountable.copied old held
      exact ⟨original, queued, again.trans copies⟩
    · cases brings call outside with
      | command row member fresh delivered delivery narrowed =>
        cases own
        exact accountable.commands member (ingress_admits narrowed).1
      | replayRequest => cases own
      | letter row member fresh input same =>
        simp only [offered] at own
        split at own
        next found message =>
          cases own
          exact accountable.commands member (same.symm.trans message)
        next => cases own
      | time => cases own
  sound w member := by
    rcases stored_cases taken with same | ⟨call, stored, source⟩
    · exact accountable.sound w (by rw [Platform.State.workflows, ← same]; exact member)
    · rcases workflows_from (Fencing.called_next host stored).1 member with ⟨old, there, same⟩ | ⟨fresh, command, delivery, rfl, same⟩
      · exact same ▸ accountable.sound old there
      · rcases source with ⟨outside, -⟩ | ⟨_, _, _, _, impossible⟩ | ⟨_, _, write, _, _, impossible⟩
        · cases brings _ outside with
          | command row member fresh delivered delivery narrowed => exact same ▸ (ingress_admits narrowed).2
        · cases impossible
        · cases write <;> cases impossible
  waiting o member absent := by
    refine accountable.waiting o (control ▸ member) fun w present => ?_
    obtain ⟨later, here, same⟩ := workflow_persists accountable.guarded taken present
    exact same ▸ absent later here
  rejected command member := by
    rcases rejected with same | ⟨message, code, refused, appended⟩
    · exact accountable.rejected command (same ▸ member)
    · rw [appended] at member
      rcases List.mem_append.mp member with old | new
      · exact accountable.rejected command old
      · cases List.mem_singleton.mp new
        exact ingress_rejects refused

theorem accountable_next {action : Platform.Action} (accountable : Accountable host s)
    (taken : Platform.next host s action = some t) : Accountable host t := by
  cases steps_next taken with
  | controlled action carries stepped orchestrator rejected =>
    exact accountable_controlled accountable carries stepped orchestrator rejected
  | orchestrated action brings stepped control rejected =>
    exact accountable_orchestrated accountable brings stepped control rejected
  | nothing same => exact same ▸ accountable

theorem accountable_initial (catalog : Catalog) (now : Instant) : Accountable host (Platform.initial catalog now) where
  guarded := guarded_initial now
  explained := explained_initial now
  journal := ⟨fun _ ⟨_, member, _⟩ => absurd member List.not_mem_nil, fun _ _ ⟨_, member, _⟩ => absurd member List.not_mem_nil⟩
  copied command holds := by cases holds <;> next row member same => exact absurd member List.not_mem_nil
  sound _ member := absurd member List.not_mem_nil
  waiting _ member := absurd member List.not_mem_nil
  rejected _ member := absurd member List.not_mem_nil

theorem accountable_run {catalog : Catalog} {now : Instant} {allowed : Platform.State → Platform.Action → Prop}
    (run : Reaches (Platform.next host) allowed (Platform.initial catalog now) s) : Accountable host s :=
  reaches_invariant (Accountable host) (fun _ _ _ kept _ taken => accountable_next kept taken) run
    (accountable_initial catalog now)

/-! ### The theorem -/

/-- A state that an operation ends in. -/
def Ended (state : OperationState) : Prop := state = .succeeded ∨ state = .failed ∨ state = .manualReview

/-- Whether the projection has received what the orchestrator published. -/
def IsReceived (db : ControlDb) (replayGeneration : Nat) : WorkflowMessage → Prop
  | .command _ => True
  | .event event => Seen db .events event.eventId replayGeneration
  | .deadLettered letter => Seen db .deadLetters letter.eventId replayGeneration

instance (db : ControlDb) (replayGeneration : Nat) : ∀ message, Decidable (IsReceived db replayGeneration message)
  | .command _ => inferInstanceAs (Decidable True)
  | .event _ => inferInstanceAs (Decidable (∃ r ∈ db.eventReceipts, _ ∧ _ ∧ _))
  | .deadLettered _ => inferInstanceAs (Decidable (∃ r ∈ db.eventReceipts, _ ∧ _ ∧ _))

/-- Whatever the orchestrator published about its workflows was projected. -/
def AllApplied (s : Platform.State) : Prop := ∀ row ∈ s.published, IsReceived s.control.db row.replayGeneration row.message

/-- The instance of a command is free again or a live workflow has it, and the
    operation of the command has ended. -/
def Freed (s : Platform.State) (command : LifecycleCommand) : Prop :=
  ((s.instance_ command.aggregateId).bind InstanceRow.activeOperationId = none ∨
    ∃ w ∈ s.workflows, w.operationId = command.operationId ∧ w.live) ∧
  ∃ o ∈ s.control.db.operations, o.id = command.operationId ∧ Ended o.state

/-- No workflow ever has the operation of an unsound command. -/
theorem Accountable.unworked (accountable : Accountable host s) {command : LifecycleCommand}
    (accepted : Queued s.control.db command) (unsound : ¬ Sound command) :
    ∀ w ∈ s.workflows, w.operationId ≠ command.operationId := by
  intro w member same
  obtain ⟨original, queued, copies⟩ := accountable.copied w.command (.workflow w member rfl)
  have own : original.operationId = command.operationId :=
    (copies.operation.symm.trans (accountable.guarded.identified w member)).trans same
  rw [accountable.journal.unique original command queued accepted own] at copies
  exact unsound (copies.sound.mp (accountable.sound w member))

/-- A rejected command is never freed: its operation stays accepted in every run,
    whatever is applied, replayed or accepted afterwards. -/
theorem rejected_stays_accepted (host : Host) (catalog : Catalog) (now : Instant) {s : Platform.State}
    (run : Reaches (Platform.next host) Anything (Platform.initial catalog now) s) {command : LifecycleCommand}
    (accepted : Queued s.control.db command) (rejected : .lifecycle command ∈ s.rejected) :
    (∀ w ∈ s.workflows, w.operationId ≠ command.operationId) ∧
      (∃ o ∈ s.control.db.operations, o.id = command.operationId) ∧
      (∀ o ∈ s.control.db.operations, o.id = command.operationId → o.state = .accepted) ∧ ¬ Freed s command := by
  have accountable := accountable_run run
  have unworked := accountable.unworked accepted (accountable.rejected command rejected)
  have waiting : ∀ o ∈ s.control.db.operations, o.id = command.operationId → o.state = .accepted :=
    fun o member same => accountable.waiting o member fun w present => same.symm ▸ unworked w present
  refine ⟨unworked, accountable.journal.operation command accepted, waiting, ?_⟩
  rintro ⟨-, o, member, same, ended⟩
  rcases ended with ended | ended | ended <;> (rw [waiting o member same] at ended; cases ended)

/-- The requests of a sample as steps of the whole system. -/
def requests : Lifecycle.Action → List Platform.Action
  | .accept draws request requestHash => [.accept draws request requestHash]
  | _ => []

/-- A flavor that the catalog may offer and that no command may ask for. -/
def sampleOversized : Catalog :=
  { Lifecycle.sampleCatalog with
    quotas := [⟨sampleCreate.projectId, 4, 256, 8192, 100, 4, 4⟩], flavors := [⟨"small", 128, 1024, 10, true⟩] }

/-- The command of a creation with that flavor. -/
def sampleUnsound : LifecycleCommand :=
  { sampleCreate with
    data := .create
      { imageId := "debian-12", flavorId := "small", networkId := "lab", providerProfileId := "proxmox",
        hostname := "vm", resources := ⟨128, 1024, 10⟩,
        ipv4 := ⟨"10.0.0.2", 24, "10.0.0.1", ["10.0.0.1"]⟩, sshPublicKeys := none } }

/-- A creation is accepted and rejected, and the notice of it is projected. -/
def sampleRejected : List Platform.Action :=
  requests Lifecycle.acceptSample ++
    [.consume 0 0 0 (fun i => if i = 0 then "00000000-0000-4000-8000-0000000000f5" else "outbox-2") 3, .project 0 0 0 0]

theorem execute_sampleRejected : ∃ s, execute (Platform.next sampleHost) (Platform.initial sampleOversized 0) sampleRejected = some s ∧
    Queued s.control.db sampleUnsound ∧ .lifecycle sampleUnsound ∈ s.rejected ∧ AllApplied s ∧
    (s.instance_ sampleUnsound.aggregateId).bind InstanceRow.activeOperationId = some sampleUnsound.operationId := by
  have executed : ((execute (Platform.next sampleHost) (Platform.initial sampleOversized 0) sampleRejected).any fun s =>
      (s.control.db.outbox.any fun row => row.message = .lifecycle sampleUnsound) &&
        decide (.lifecycle sampleUnsound ∈ s.rejected) &&
        (s.published.all fun row => decide (IsReceived s.control.db row.replayGeneration row.message)) &&
        decide ((s.instance_ sampleUnsound.aggregateId).bind InstanceRow.activeOperationId =
          some sampleUnsound.operationId)) = true := by decide +kernel
  obtain ⟨s, ended, checked⟩ := (Option.any_eq_true _ _).mp executed
  simp only [Bool.and_eq_true, List.any_eq_true, List.all_eq_true, decide_eq_true_eq] at checked
  exact ⟨s, ended, checked.1.1.1, checked.1.1.2, checked.1.2, checked.2⟩

theorem rejected_stays_accepted_sampleRejected : ∃ s,
    execute (Platform.next sampleHost) (Platform.initial sampleOversized 0) sampleRejected = some s ∧ AllApplied s ∧
      ¬ Freed s sampleUnsound := by
  obtain ⟨s, executed, accepted, rejected, applied, -⟩ := execute_sampleRejected
  have run := reaches_execute (meets_anything _ _) executed
  exact ⟨s, executed, applied, (rejected_stays_accepted sampleHost sampleOversized 0 run accepted rejected).2.2.2⟩

/-- An accepted command was rejected and everything was applied, and its
    instance is still taken by an operation that is accepted. -/
theorem rejected_busy : ¬ ∀ (host : Host) (catalog : Catalog) (now : Instant) (s : Platform.State),
    Reaches (Platform.next host) Anything (Platform.initial catalog now) s → ∀ command, Queued s.control.db command →
      .lifecycle command ∈ s.rejected → AllApplied s → Freed s command := by
  intro frees
  obtain ⟨s, executed, accepted, rejected, applied, busy⟩ := execute_sampleRejected
  have run : Reaches (Platform.next sampleHost) Anything (Platform.initial sampleOversized 0) s :=
    reaches_execute (meets_anything _ _) executed
  have accountable := accountable_run run
  obtain ⟨holder, -⟩ := frees sampleHost sampleOversized 0 s run sampleUnsound accepted rejected applied
  rcases holder with free | ⟨w, member, same, -⟩
  · cases busy.symm.trans free
  · exact accountable.unworked accepted (accountable.rejected sampleUnsound rejected) w member same

end

end ControlPlane.Rejections
