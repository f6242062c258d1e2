import ControlPlane.Custody

/-!
Where the commands and the events of the orchestrator come from. Its tables
hold the commands that were delivered to it and what replays restored of them
(`holds_next`), and an event that it publishes is about an operation that has a
workflow, unless it resolves a replay (`explained_next`).
-/
namespace ControlPlane.Provenance
open ControlPlane.Programs.Program ControlPlane.Tables ControlPlane.Domain ControlPlane.Commands
open ControlPlane.EventValidation ControlPlane.WorkflowSchema ControlPlane.WorkflowStore ControlPlane.StoreRules
open ControlPlane.LifecycleWorkflow ControlPlane.SagaRules ControlPlane.Transitions ControlPlane.Orchestrator
open ControlPlane.Custody
open ControlPlane.Fencing (StoreCall Called called_next)

/-! ### Copies -/

/-- A command as it was accepted, or as a replay restores it. -/
def CopyOf (original copy : LifecycleCommand) : Prop :=
  ∃ correlationId causationId occurredAt,
    copy = { original with correlationId := correlationId, causationId := causationId, occurredAt := occurredAt }

section
variable {original copy : LifecycleCommand}

theorem CopyOf.refl (command : LifecycleCommand) : CopyOf command command :=
  ⟨command.correlationId, command.causationId, command.occurredAt, rfl⟩

theorem CopyOf.trans {again : LifecycleCommand} (first : CopyOf original copy) (second : CopyOf copy again) :
    CopyOf original again := by
  obtain ⟨_, _, _, rfl⟩ := first
  obtain ⟨correlationId, causationId, occurredAt, rfl⟩ := second
  exact ⟨correlationId, causationId, occurredAt, rfl⟩

theorem CopyOf.operation (copies : CopyOf original copy) : copy.operationId = original.operationId := by
  obtain ⟨_, _, _, rfl⟩ := copies
  rfl

theorem CopyOf.aggregate (copies : CopyOf original copy) : copy.aggregateId = original.aggregateId := by
  obtain ⟨_, _, _, rfl⟩ := copies
  rfl

/-- A command passes the validator of its capability. -/
def Sound (command : LifecycleCommand) : Prop := commandValidator command.data.action command = true

/-- No validator reads what a replay changes. -/
theorem CopyOf.sound (copies : CopyOf original copy) : Sound copy ↔ Sound original := by
  obtain ⟨_, _, _, rfl⟩ := copies
  unfold Sound
  cases original.data.action <;> exact Iff.rfl

end

/-! ### The tables after a call -/

section
variable {host : Host} {s : Fencing.State} {call : StoreCall} {after : WorkflowDb}

/-- A workflow has the command it had, or the one that is being admitted. -/
theorem workflows_from (called : Called host s call after) {row : WorkflowRow} (member : row ∈ after.workflows) :
    (∃ old ∈ s.db.workflows, row.command = old.command) ∨
      ∃ fresh command delivery, call = .admitCommand fresh command delivery ∧ row.command = command := by
  have rewritten {op : Uuid} (rewrite : WorkflowRow → WorkflowRow) (keeps : ∀ w, (rewrite w).command = w.command)
      (present : row ∈ (updateWorkflow s.db op rewrite).workflows) : ∃ old ∈ s.db.workflows, row.command = old.command := by
    obtain ⟨old, there, ⟨-, rfl⟩ | ⟨-, rfl⟩⟩ := mem_update.mp present
    · exact ⟨old, there, keeps old⟩
    · exact ⟨row, there, rfl⟩
  cases called with
  | nothing => exact .inl ⟨row, member, rfl⟩
  | @admitted fresh command delivery _ _ admitted =>
    cases admitted.ok.1 with
    | unchanged workflows => exact .inl ⟨row, workflows ▸ member, rfl⟩
    | started resource workflows =>
      rw [workflows] at member
      rcases List.mem_append.mp member with old | new
      · exact .inl ⟨row, old, rfl⟩
      · exact .inr ⟨fresh, command, delivery, rfl, by rw [List.mem_singleton.mp new]; rfl⟩
    | reopened _ _ _ _ workflows =>
      rw [workflows] at member
      obtain ⟨old, there, ⟨-, rfl⟩ | ⟨-, rfl⟩⟩ := mem_update.mp member
      · exact .inr ⟨fresh, command, delivery, rfl, rfl⟩
      · exact .inl ⟨row, there, rfl⟩
  | decided decided => cases decided <;> exact .inl ⟨row, member, rfl⟩
  | stored => exact .inl ⟨row, member, rfl⟩
  | claimed claim =>
    obtain ⟨leases, rfl⟩ := claim.frame
    exact .inl (rewritten (claimedRow _) (fun _ => rfl) member)
  | @checkpointed _ input => exact .inl (rewritten (checkpointRow input s.now) (fun _ => rfl) member)
  | @completed _ input => exact .inl (rewritten (completedRow input s.now) (fun _ => rfl) member)
  | @exhausted _ input => exact .inl (rewritten (deadLetteredRow input s.now) (fun _ => rfl) member)

/-- A dead letter keeps a message that one kept before, the command of a
    workflow, or the message that the consumer gave up on. -/
theorem letters_from (called : Called host s call after) {letter : DeadLetterRow} (member : letter ∈ after.deadLetters) :
    (∃ old ∈ s.db.deadLetters, letter.originalPayload = old.originalPayload) ∨
      (∃ row ∈ s.db.workflows, letter.originalPayload = .lifecycle row.command) ∨
      ∃ fresh input, call = .deadLetterCommand fresh input ∧ letter.originalPayload = input.message := by
  cases called with
  | nothing => exact .inl ⟨letter, member, rfl⟩
  | admitted admitted => exact .inl (admitted.ok.2.deadLetters letter member)
  | decided decided =>
    cases decided with
    | duplicate => exact .inl ⟨letter, member, rfl⟩
    | rejected => exact .inl ⟨letter, member, rfl⟩
    | accepted =>
      obtain ⟨old, there, ⟨-, rfl⟩ | ⟨-, rfl⟩⟩ := mem_update.mp member
      · exact .inl ⟨old, there, rfl⟩
      · exact .inl ⟨letter, there, rfl⟩
  | @stored fresh input =>
    rcases writeDeadLetter_from _ _ _ _ _ letter member with old | new
    · exact .inl old
    · exact .inr (.inr ⟨fresh, input, rfl, new⟩)
  | claimed claim =>
    obtain ⟨leases, rfl⟩ := claim.frame
    exact .inl ⟨letter, member, rfl⟩
  | checkpointed => exact .inl ⟨letter, member, rfl⟩
  | completed => exact .inl ⟨letter, member, rfl⟩
  | @exhausted fresh input row _ held =>
    rcases writeDeadLetter_from _ (fresh 1) (fresh 2) (exhaustedNote input row.command row.replayGeneration) s.now letter
      member with old | new
    · exact .inl old
    · exact .inr (.inl ⟨row, find_mem held.workflow, new⟩)

/-- An event that tells what became of a replay request. -/
def resolves : WorkflowEventData → Bool
  | .replayResolved .. => true
  | _ => false

/-- Where a row of the outbox comes from. -/
inductive PublishedBy (s : Fencing.State) (call : StoreCall) (row : OutboxRow WorkflowMessage) : Prop
  | kept (member : row ∈ s.db.outbox)
  | restored (letter : DeadLetterRow) (original copy : LifecycleCommand) (member : letter ∈ s.db.deadLetters)
      (payload : letter.originalPayload = .lifecycle original) (copies : CopyOf original copy)
      (message : row.message = .command copy)
  | resolved (event : WorkflowEvent) (resolution : resolves event.data = true) (message : row.message = .event event)
  | written (event : WorkflowEvent) (own : writtenEvent call = some event) (message : row.message = .event event)
  | lettered (letter : ProvisioningDeadLettered) (message : row.message = .deadLettered letter)

theorem outbox_from (called : Called host s call after) {row : OutboxRow WorkflowMessage} (member : row ∈ after.outbox) :
    PublishedBy s call row := by
  have appended {rows more : List (OutboxRow WorkflowMessage)} (present : row ∈ rows ++ more) (old : row ∈ rows → PublishedBy s call row)
      (new : row ∈ more → PublishedBy s call row) : PublishedBy s call row := (List.mem_append.mp present).elim old new
  cases called with
  | nothing => exact .kept member
  | @admitted _ _ delivery _ _ admitted =>
    cases admitted with
    | duplicate | noted | started => exact .kept member
    | misidentified | unauthorized | conflicting =>
      obtain ⟨records, same⟩ := rejectReplayCommand_same s.db delivery _ _ s.now
      rw [same] at member
      exact .kept member
    | reopened | introduced =>
      refine appended member .kept fun new => ?_
      rw [List.mem_singleton.mp new]
      exact .resolved _ rfl rfl
  | decided decided =>
    cases decided with
    | duplicate => exact .kept member
    | rejected =>
      refine appended member .kept fun new => ?_
      rw [List.mem_singleton.mp new]
      exact .resolved _ rfl rfl
    | accepted letter original new replayable =>
      obtain ⟨found, -, -, payload⟩ := replayableCommand_some replayable
      refine appended member .kept fun new => ?_
      rw [List.mem_singleton.mp new]
      exact .restored letter original _ (find_mem found) payload ⟨_, _, _, rfl⟩ rfl
  | stored =>
    refine appended member .kept fun new => ?_
    rw [List.mem_singleton.mp new]
    exact .lettered _ rfl
  | claimed claim =>
    obtain ⟨leases, rfl⟩ := claim.frame
    exact .kept member
  | checkpointed | completed =>
    refine appended member .kept fun new => ?_
    rw [List.mem_singleton.mp new]
    exact .written _ rfl rfl
  | exhausted =>
    refine appended member (fun before => appended before .kept fun new => ?_) fun new => ?_
    · rw [List.mem_singleton.mp new]
      exact .written _ rfl rfl
    · rw [List.mem_singleton.mp new]
      exact .lettered _ rfl

end

/-! ### The commands -/

/-- Whether the tables hold a command. -/
inductive Holds (db : WorkflowDb) (command : LifecycleCommand) : Prop
  | workflow (row : WorkflowRow) (member : row ∈ db.workflows) (same : row.command = command)
  | letter (row : DeadLetterRow) (member : row ∈ db.deadLetters) (same : row.originalPayload = .lifecycle command)
  | outbox (row : OutboxRow WorkflowMessage) (member : row ∈ db.outbox) (same : row.message = .command command)

/-- The command that a call delivers. -/
def offered : StoreCall → Option LifecycleCommand
  | .admitCommand _ command _ => some command
  | .deadLetterCommand _ input =>
    match input.message with
    | .lifecycle command => some command
    | _ => none
  | _ => none

section
variable {host : Host}

theorem holds_called {s : Fencing.State} {call : StoreCall} {after : WorkflowDb} {command : LifecycleCommand}
    (called : Called host s call after) (holds : Holds after command) :
    (∃ old, Holds s.db old ∧ CopyOf old command) ∨ offered call = some command := by
  cases holds with
  | workflow row member same =>
    rcases workflows_from called member with ⟨old, there, kept⟩ | ⟨fresh, new, delivery, rfl, carried⟩
    · exact .inl ⟨command, .workflow old there (kept.symm.trans same), .refl command⟩
    · exact .inr (congrArg some (carried.symm.trans same))
  | letter row member same =>
    rcases letters_from called member with ⟨old, there, kept⟩ | ⟨old, there, kept⟩ | ⟨fresh, input, rfl, carried⟩
    · exact .inl ⟨command, .letter old there (kept.symm.trans same), .refl command⟩
    · cases kept.symm.trans same
      exact .inl ⟨_, .workflow old there rfl, .refl _⟩
    · right
      simp only [offered, carried.symm.trans same]
  | outbox row member same =>
    cases outbox_from called member with
    | kept there => exact .inl ⟨command, .outbox row there same, .refl command⟩
    | restored letter original copy there payload copies message =>
      cases message.symm.trans same
      exact .inl ⟨original, .letter letter there payload, copies⟩
    | resolved event _ message => cases message.symm.trans same
    | written event _ message => cases message.symm.trans same
    | lettered letter message => cases message.symm.trans same

/-- The store after a step of the orchestrator: as it was, or after a call that
    is delivered, a claim, or the write of a claim in flight. -/
theorem stored_cases {s t : State} {action : Action} (taken : next host s action = some t) :
    t.store = s.store ∨ ∃ call, Fencing.next host s.store call = some t.store ∧
      (action = .outside call ∧ byWorker call = false ∨
        (∃ workerId leaseSeconds wanted locked, call = .claimNext workerId leaseSeconds wanted locked) ∨
        ∃ flight ∈ s.inFlight, ∃ write fresh, flight.program = .done write ∧ call = storeCall fresh write) := by
  cases steps_next taken with
  | outside call admission stored => exact .inr ⟨call, stored, .inl ⟨rfl, admission⟩⟩
  | claim workerId leaseSeconds wanted locked _ _ _ _ stored =>
    exact .inr ⟨_, stored, .inr (.inl ⟨workerId, leaseSeconds, wanted, locked, rfl⟩)⟩
  | send _ _ _ _ _ same => exact .inl (by rw [same])
  | receive _ _ _ _ _ _ same => exact .inl (by rw [same])
  | write flight member fresh write ends stored => exact .inr ⟨_, stored, .inr (.inr ⟨flight, member, write, fresh, ends, rfl⟩)⟩
  | crash _ same => exact .inl (by rw [same])

/-- The tables hold copies of what they held, and what was delivered. -/
theorem holds_next {s t : State} {action : Action} {command : LifecycleCommand} (taken : next host s action = some t)
    (holds : Holds t.store.db command) :
    (∃ old, Holds s.store.db old ∧ CopyOf old command) ∨
      ∃ call, action = .outside call ∧ offered call = some command := by
  rcases stored_cases taken with same | ⟨call, stored, source⟩
  · exact .inl ⟨command, same ▸ holds, .refl command⟩
  · rcases holds_called (called_next host stored).1 holds with old | new
    · exact .inl old
    · rcases source with ⟨outside, -⟩ | ⟨_, _, _, _, rfl⟩ | ⟨_, _, write, _, _, rfl⟩
      · exact .inr ⟨call, outside, new⟩
      · cases new
      · cases write <;> cases new

/-! ### The events -/

/-- Every event is about an operation with a workflow, or resolves a replay. -/
def Explained (db : WorkflowDb) : Prop :=
  ∀ row ∈ db.outbox, ∀ event, row.message = .event event →
    resolves event.data = true ∨ ∃ w ∈ db.workflows, w.operationId = event.operationId

theorem workflow_persists {s t : State} {action : Action} (guarded : Guarded host s)
    (taken : next host s action = some t) {row : WorkflowRow} (member : row ∈ s.store.db.workflows) :
    ∃ later ∈ t.store.db.workflows, later.operationId = row.operationId := by
  obtain ⟨first, found⟩ : ∃ first, s.store.db.workflow row.operationId = some first := find_isSome member rfl
  obtain ⟨later, here, -⟩ := row_step guarded taken found
  exact ⟨later, find_mem here, find_key here⟩

/-- The write of a claim in flight is about the claim's own operation, which has
    its row. -/
theorem write_about {s : State} {flight : InFlight} {write : StoreWrite} (guarded : Guarded host s)
    (member : flight ∈ s.inFlight) (ends : flight.program = .done write) :
    ∃ row ∈ s.store.db.workflows, row.operationId = write.event.operationId := by
  have custody := guarded.flights flight member
  obtain ⟨transition, -⟩ := custody.fence ends
  have about := congrArg Envelope.operationId (transition_fits transition write rfl).envelope
  obtain ⟨row, found, -⟩ := custody.row
  exact ⟨row, find_mem found, (find_key found).trans about.symm⟩

theorem explained_next {s t : State} {action : Action} (guarded : Guarded host s) (explained : Explained s.store.db)
    (taken : next host s action = some t) : Explained t.store.db := by
  intro row member event message
  have persists : (∃ w ∈ s.store.db.workflows, w.operationId = event.operationId) →
      ∃ w ∈ t.store.db.workflows, w.operationId = event.operationId := by
    rintro ⟨w, there, about⟩
    obtain ⟨later, here, same⟩ := workflow_persists guarded taken there
    exact ⟨later, here, same.trans about⟩
  rcases stored_cases taken with same | ⟨call, stored, source⟩
  · rw [same] at member ⊢
    exact explained row member event message
  · cases outbox_from (called_next host stored).1 member with
    | kept there => exact (explained row there event message).imp id persists
    | restored _ _ _ _ _ _ other => cases other.symm.trans message
    | resolved found resolution other => cases other.symm.trans message; exact .inl resolution
    | written found own other =>
      cases other.symm.trans message
      rcases source with ⟨-, admission⟩ | ⟨_, _, _, _, rfl⟩ | ⟨flight, there, write, fresh, ends, rfl⟩
      · cases call <;> first | cases own; done | cases admission
      · cases own
      · have same : write.event = event := by cases write <;> (cases own; rfl)
        exact .inr (persists (same ▸ write_about guarded there ends))
    | lettered _ other => cases other.symm.trans message

theorem explained_initial (now : Instant) : Explained (initial now).store.db :=
  fun _ impossible => absurd impossible List.not_mem_nil

end

end ControlPlane.Provenance
