import ControlPlane.WorkflowStore

/-!
What each operation of the workflow store does to the tables, stated once: a
caller of these rules never unfolds an operation.
-/
namespace ControlPlane.StoreRules
open ControlPlane.Tables ControlPlane.Domain ControlPlane.Commands ControlPlane.EventValidation
open ControlPlane.WorkflowSchema ControlPlane.WorkflowStore

variable {host : Host} {db after : WorkflowDb} {now : Instant} {fresh : Nat → Uuid}

/-! ### Frames of the shared statements -/

@[simp] theorem updateWorkflow_leases (op : Uuid) (f : WorkflowRow → WorkflowRow) :
    (updateWorkflow db op f).instanceLeases = db.instanceLeases := rfl
@[simp] theorem updateWorkflow_outbox (op : Uuid) (f : WorkflowRow → WorkflowRow) :
    (updateWorkflow db op f).outbox = db.outbox := rfl
@[simp] theorem updateWorkflow_deadLetters (op : Uuid) (f : WorkflowRow → WorkflowRow) :
    (updateWorkflow db op f).deadLetters = db.deadLetters := rfl
@[simp] theorem releaseLease_workflows (i : Uuid) (fence : Fence) :
    (releaseLease db i fence now).workflows = db.workflows := rfl
@[simp] theorem releaseLease_outbox (i : Uuid) (fence : Fence) :
    (releaseLease db i fence now).outbox = db.outbox := rfl
@[simp] theorem releaseLease_deadLetters (i : Uuid) (fence : Fence) :
    (releaseLease db i fence now).deadLetters = db.deadLetters := rfl
@[simp] theorem writeDeadLetter_workflows (e o : Uuid) (note : DeadLetterNote) :
    (writeDeadLetter db e o note now).workflows = db.workflows := rfl
@[simp] theorem writeDeadLetter_leases (e o : Uuid) (note : DeadLetterNote) :
    (writeDeadLetter db e o note now).instanceLeases = db.instanceLeases := rfl

@[simp] theorem writeDeadLetter_receipts (e o : Uuid) (note : DeadLetterNote) :
    (writeDeadLetter db e o note now).commandReceipts = db.commandReceipts := rfl
@[simp] theorem writeDeadLetter_requests (e o : Uuid) (note : DeadLetterNote) :
    (writeDeadLetter db e o note now).replayRequests = db.replayRequests := rfl

/-- The receipt that a delivery leaves. -/
def receiptOf (host : Host) (message : CommandMessage) (delivery : MessageDeliveryIdentity) (now : Instant)
    (completedAt : Option Instant) : CommandReceipt :=
  ⟨message.envelope.eventId, delivery.replayGeneration, delivery, host.canonicalSha256 message, now, completedAt⟩

def received (host : Host) (db : WorkflowDb) (message : CommandMessage) (delivery : MessageDeliveryIdentity)
    (now : Instant) (completedAt : Option Instant) : WorkflowDb :=
  { db with commandReceipts := db.commandReceipts ++ [receiptOf host message delivery now completedAt] }

/-- A receipt is inserted at most once for an event and a generation. -/
theorem insertCommandReceipt_ok {message : CommandMessage} {delivery : MessageDeliveryIdentity}
    {completedAt : Option Instant} {answer : Option WorkflowDb}
    (inserted : insertCommandReceipt host db message delivery now completedAt = .ok answer) :
    (answer = none ∧ (db.receipt message.envelope.eventId delivery.replayGeneration).isSome) ∨
    (answer = some (received host db message delivery now completedAt) ∧
      db.receipt message.envelope.eventId delivery.replayGeneration = none) := by
  simp only [insertCommandReceipt] at inserted
  split at inserted
  next receipt found => cases inserted; exact .inl ⟨rfl, by simp [found]⟩
  next absent =>
    obtain ⟨receipts, appended, rest⟩ := bind_ok inserted
    obtain ⟨rfl, -⟩ := insert_ok appended
    cases rest
    exact .inr ⟨rfl, absent⟩

/-- A delivery of an event and a generation that have no receipt leaves one. -/
theorem insertCommandReceipt_new (host : Host) (message : CommandMessage) {delivery : MessageDeliveryIdentity}
    (now : Instant) (completedAt : Option Instant) (new : db.receipt message.envelope.eventId delivery.replayGeneration = none)
    (unique : ∀ r ∈ db.commandReceipts, sameRecord r.delivery delivery = false) :
    insertCommandReceipt host db message delivery now completedAt =
      .ok (some (received host db message delivery now completedAt)) := by
  have free : db.commandReceipts.any (fun r => sameRecord r.delivery delivery) = false := by simpa using unique
  simp only [insertCommandReceipt, new, Tables.insert, free]
  rfl

theorem insertCommandReceipt_known (host : Host) (message : CommandMessage) {delivery : MessageDeliveryIdentity}
    {receipt : CommandReceipt} (now : Instant) (completedAt : Option Instant)
    (known : db.receipt message.envelope.eventId delivery.replayGeneration = some receipt) :
    insertCommandReceipt host db message delivery now completedAt = .ok none := by
  simp only [insertCommandReceipt, known]
  rfl

theorem insertWorkflow_new {row : WorkflowRow}
    (free : ∀ w ∈ db.workflows, w.operationId ≠ row.operationId ∧ w.eventId ≠ row.eventId) :
    insertWorkflow db row = .ok { db with workflows := db.workflows ++ [row] } := by
  have unused : db.workflows.any (fun w => w.operationId = row.operationId || w.eventId = row.eventId) = false := by
    simpa using free
  simp only [insertWorkflow, Tables.insert, unused]
  rfl

theorem insertWorkflow_ok {row : WorkflowRow} (inserted : insertWorkflow db row = .ok after) :
    after = { db with workflows := db.workflows ++ [row] } ∧
      ∀ w ∈ db.workflows, w.operationId ≠ row.operationId ∧ w.eventId ≠ row.eventId := by
  obtain ⟨workflows, appended, rest⟩ := bind_ok inserted
  cases rest
  obtain ⟨rfl, free⟩ := insert_ok appended
  exact ⟨rfl, fun w member => by simpa using free w member⟩

/-! ### Stage writes -/

/-- A write that passed the fence: the workflow's token, the owner and the
    token of a lease that has not expired. -/
structure Held (db : WorkflowDb) (fence : Fence) (now : Instant) (row : WorkflowRow) (lease : LeaseRow) : Prop where
  workflow : db.workflow fence.operationId = some row
  rowToken : row.fencingToken = fence.fencingToken
  leased : db.lease row.instanceId = some lease
  owner : lease.ownerId = fence.workerId
  leaseToken : lease.fencingToken = fence.fencingToken
  live : now < lease.leasedUntil

theorem assertLease_ok {fence : Fence} {row : WorkflowRow} (asserted : assertLease db fence now = .ok row) :
    ∃ lease, Held db fence now row lease := by
  simp only [assertLease] at asserted
  split at asserted
  next => cases asserted
  next found workflow =>
    split at asserted
    next => cases asserted
    next token =>
      split at asserted
      next => cases asserted
      next lease held =>
        split at asserted
        next => cases asserted
        next valid =>
          cases asserted
          simp only [not_or, not_not, Nat.not_le] at valid
          exact ⟨lease, workflow, not_not.mp token, held, valid.1, valid.2.1, valid.2.2⟩

theorem checkpoint_cases {input : CheckpointInput} (written : checkpoint db fresh input now = .ok after) :
    ∃ row lease, Held db input.toFence now row lease ∧ after = releaseLease
      (writeEvent (updateWorkflow db input.operationId (checkpointRow input now)) (fresh 0) input.event)
      row.instanceId input.toFence now := by
  obtain ⟨row, asserted, rest⟩ := bind_ok written
  obtain ⟨lease, held⟩ := assertLease_ok asserted
  cases rest
  exact ⟨row, lease, held, rfl⟩

theorem complete_cases {input : CompleteInput} (written : complete db fresh input now = .ok after) :
    ∃ row lease, Held db input.toFence now row lease ∧ after = releaseLease
      (writeEvent (completeReceipt (updateWorkflow db input.operationId (completedRow input now)) row now)
        (fresh 0) input.event)
      row.instanceId input.toFence now := by
  obtain ⟨row, asserted, rest⟩ := bind_ok written
  obtain ⟨lease, held⟩ := assertLease_ok asserted
  cases rest
  exact ⟨row, lease, held, rfl⟩

theorem deadLetterWorkflow_cases {input : DeadLetterWorkflowInput}
    (written : deadLetterWorkflow db fresh input now = .ok after) :
    ∃ row lease, Held db input.toFence now row lease ∧ after = releaseLease
      (writeDeadLetter
        (writeEvent (completeReceipt (updateWorkflow db input.operationId (deadLetteredRow input now)) row now)
          (fresh 0) input.event)
        (fresh 1) (fresh 2) (exhaustedNote input row.command row.replayGeneration) now)
      row.instanceId input.toFence now := by
  obtain ⟨row, asserted, rest⟩ := bind_ok written
  obtain ⟨lease, held⟩ := assertLease_ok asserted
  split at rest
  next => cases rest
  next command valid =>
    cases rest
    obtain ⟨same, -⟩ := lifecycleCommand_some valid
    cases same
    exact ⟨row, lease, held, rfl⟩

/-- What every stage write does: it passes the fence, rewrites its workflow row
    without touching its identity or its token, and expires its lease. -/
structure StageWrite (db after : WorkflowDb) (fence : Fence) (now : Instant) (rewrite : WorkflowRow → WorkflowRow) :
    Prop where
  held : ∃ row lease, Held db fence now row lease ∧
    after.instanceLeases = (releaseLease db row.instanceId fence now).instanceLeases
  workflows : after.workflows = (updateWorkflow db fence.operationId rewrite).workflows

theorem checkpoint_ok {input : CheckpointInput} (written : checkpoint db fresh input now = .ok after) :
    StageWrite db after input.toFence now (checkpointRow input now) ∧
      after.outbox = db.outbox ++ [⟨fresh 0, .event input.event, 0, input.event.occurredAt⟩] ∧
      after.deadLetters = db.deadLetters := by
  obtain ⟨row, lease, held, rfl⟩ := checkpoint_cases written
  exact ⟨⟨⟨row, lease, held, rfl⟩, rfl⟩, rfl, rfl⟩

theorem complete_ok {input : CompleteInput} (written : complete db fresh input now = .ok after) :
    StageWrite db after input.toFence now (completedRow input now) ∧
      after.outbox = db.outbox ++ [⟨fresh 0, .event input.event, 0, input.event.occurredAt⟩] ∧
      after.deadLetters = db.deadLetters := by
  obtain ⟨row, lease, held, rfl⟩ := complete_cases written
  exact ⟨⟨⟨row, lease, held, rfl⟩, rfl⟩, rfl, rfl⟩

/-- The dead letters after evidence about a message was written or reopened. -/
def DeadLettersFrom (db after : WorkflowDb) (original : CommandMessage) : Prop :=
  ∀ letter ∈ after.deadLetters,
    (∃ old ∈ db.deadLetters, letter.originalPayload = old.originalPayload) ∨ letter.originalPayload = original

theorem writeDeadLetter_from (db : WorkflowDb) (e o : Uuid) (note : DeadLetterNote) (now : Instant) :
    DeadLettersFrom db (writeDeadLetter db e o note now) note.original := by
  intro letter member
  simp only [writeDeadLetter, writeWorkflowOutbox] at member
  split at member
  next =>
    rcases List.mem_append.mp member with old | new
    · exact .inl ⟨letter, old, rfl⟩
    · exact .inr (by rw [List.mem_singleton.mp new])
  next =>
    obtain ⟨old, present, ⟨-, rfl⟩ | ⟨-, rfl⟩⟩ := mem_update.mp member
    · exact .inl ⟨old, present, rfl⟩
    · exact .inl ⟨letter, present, rfl⟩

theorem writeDeadLetter_outbox (db : WorkflowDb) (e o : Uuid) (note : DeadLetterNote) (now : Instant) :
    ∃ event, (writeDeadLetter db e o note now).outbox = db.outbox ++ [⟨o, .deadLettered event, 0, now⟩] :=
  ⟨_, rfl⟩

theorem deadLetterWorkflow_ok {input : DeadLetterWorkflowInput}
    (written : deadLetterWorkflow db fresh input now = .ok after) :
    ∃ row, db.workflow input.operationId = some row ∧
      StageWrite db after input.toFence now (deadLetteredRow input now) ∧
      (∃ event, after.outbox = db.outbox ++ [⟨fresh 0, .event input.event, 0, input.event.occurredAt⟩,
        ⟨fresh 2, .deadLettered event, 0, now⟩]) ∧
      DeadLettersFrom db after (.lifecycle row.command) := by
  obtain ⟨row, lease, held, rfl⟩ := deadLetterWorkflow_cases written
  let marked := writeEvent (completeReceipt (updateWorkflow db input.operationId (deadLetteredRow input now)) row now)
    (fresh 0) input.event
  let note := exhaustedNote input row.command row.replayGeneration
  refine ⟨row, held.workflow, ⟨⟨row, lease, held, rfl⟩, rfl⟩, ?_, ?_⟩
  · obtain ⟨event, published⟩ := writeDeadLetter_outbox marked (fresh 1) (fresh 2) note now
    refine ⟨event, published.trans ?_⟩
    exact List.append_assoc db.outbox [_] [_]
  · exact writeDeadLetter_from marked (fresh 1) (fresh 2) note now

/-! ### Admission -/

/-- A dead-lettered command leaves its receipt and its dead letter, unless it is
    a duplicate. -/
theorem deadLetterCommand_cases {input : DeadLetterCommandInput} {stored : Bool}
    (written : deadLetterCommand host db fresh input now = .ok (stored, after)) :
    (stored = false ∧ after = db ∧
      (db.receipt input.message.envelope.eventId input.delivery.replayGeneration).isSome) ∨
    (stored = true ∧ db.receipt input.message.envelope.eventId input.delivery.replayGeneration = none ∧
      after = writeDeadLetter (received host db input.message input.delivery now (some now)) (fresh 0) (fresh 1)
        { original := input.message, failureCategory := .permanent, failureCode := input.failureCode,
          safeMessage := input.safeMessage, attempts := input.attempts, replayAllowed := input.replayAllowed,
          replayGeneration := input.delivery.replayGeneration } now) := by
  obtain ⟨answer, inserted, rest⟩ := bind_ok written
  rcases insertCommandReceipt_ok inserted with ⟨rfl, known⟩ | ⟨rfl, new⟩
  · cases rest; exact .inl ⟨rfl, rfl, known⟩
  · cases rest; exact .inr ⟨rfl, new, rfl⟩

/-- What a dead-lettered command does. -/
theorem deadLetterCommand_ok {input : DeadLetterCommandInput} {stored : Bool}
    (written : deadLetterCommand host db fresh input now = .ok (stored, after)) :
    after.workflows = db.workflows ∧ after.instanceLeases = db.instanceLeases ∧
      (after.outbox = db.outbox ∨ ∃ event, after.outbox = db.outbox ++ [⟨fresh 1, .deadLettered event, 0, now⟩]) ∧
      DeadLettersFrom db after input.message := by
  rcases deadLetterCommand_cases written with ⟨-, rfl, -⟩ | ⟨-, -, rfl⟩
  · exact ⟨rfl, rfl, .inl rfl, fun letter member => .inl ⟨letter, member, rfl⟩⟩
  · refine ⟨rfl, rfl, .inr (writeDeadLetter_outbox (received host db _ _ _ _) _ _ _ _), ?_⟩
    exact writeDeadLetter_from (received host db input.message input.delivery now (some now)) _ _ _ _

/-- The ways in which an admission changes the tables that the workflows live
    in: not at all, with a first workflow, or with a failed one reopened. -/
inductive Admitted (db after : WorkflowDb) (command : LifecycleCommand) (replayGeneration : Nat) (now : Instant) :
    Prop
  | unchanged (workflows : after.workflows = db.workflows) (outbox : after.outbox = db.outbox)
  | started (resource : Option String)
      (workflows : after.workflows = db.workflows ++ [newWorkflow command replayGeneration resource now])
      (first : ∀ w ∈ db.workflows, w.operationId ≠ command.operationId)
      (outbox : after.outbox = db.outbox ∨ ∃ outboxId event, event.data.isTerminal = false ∧
        after.outbox = db.outbox ++ [⟨outboxId, .event event, 0, now⟩])
  | reopened (row : WorkflowRow) (found : db.workflow command.operationId = some row) (failed : row.status = .failed)
      (sameEvent : row.eventId = command.eventId)
      (workflows : after.workflows =
        (updateWorkflow db command.operationId (reopenedWorkflow command replayGeneration now)).workflows)
      (outbox : ∃ outboxId event, event.data.isTerminal = false ∧
        after.outbox = db.outbox ++ [⟨outboxId, .event event, 0, now⟩])

theorem consumeAuthorization_outbox (authorization : ReplayRequestRow) (command : LifecycleCommand)
    (delivery : MessageDeliveryIdentity) :
    ∃ outboxId event, event.data.isTerminal = false ∧
      (consumeAuthorization db fresh authorization command delivery now).outbox =
        db.outbox ++ [⟨outboxId, .event event, 0, now⟩] := ⟨_, _, rfl, rfl⟩

theorem consumeAuthorization_deadLetters (authorization : ReplayRequestRow) (command : LifecycleCommand)
    (delivery : MessageDeliveryIdentity) :
    ∀ letter ∈ (consumeAuthorization db fresh authorization command delivery now).deadLetters,
      ∃ old ∈ db.deadLetters, letter.originalPayload = old.originalPayload := by
  intro letter member
  obtain ⟨old, present, ⟨-, rfl⟩ | ⟨-, rfl⟩⟩ := mem_update.mp member
  · exact ⟨old, present, rfl⟩
  · exact ⟨letter, present, rfl⟩

theorem rejectReplayCommand_same (db : WorkflowDb) (delivery : MessageDeliveryIdentity) (payloadHash : String)
    (failureCode : CommandRejectionCode) (now : Instant) :
    ∃ records, rejectReplayCommand db delivery payloadHash failureCode now = { db with poisonRecords := records } := by
  simp only [rejectReplayCommand]
  split
  · exact ⟨_, rfl⟩
  · exact ⟨_, rfl⟩

/-- What is left alone by an admission of either kind. -/
structure AdmissionFrame (db after : WorkflowDb) : Prop where
  leases : after.instanceLeases = db.instanceLeases
  deadLetters : ∀ letter ∈ after.deadLetters, ∃ old ∈ db.deadLetters, letter.originalPayload = old.originalPayload

theorem AdmissionFrame.same {receipts : List CommandReceipt} {records : List PoisonRecord}
    {workflows : List WorkflowRow} :
    AdmissionFrame db { db with commandReceipts := receipts, poisonRecords := records, workflows := workflows } :=
  ⟨rfl, fun letter member => ⟨letter, member, rfl⟩⟩

/-- Every way in which an admission ends, with the tables that it leaves. -/
inductive CommandAdmitted (host : Host) (db : WorkflowDb) (fresh : Nat → Uuid) (command : LifecycleCommand)
    (delivery : MessageDeliveryIdentity) (now : Instant) : CommandAdmission → WorkflowDb → Prop
  | duplicate (known : (db.receipt command.eventId delivery.replayGeneration).isSome) :
      CommandAdmitted host db fresh command delivery now .duplicate db
  | noted (row : WorkflowRow) (original : delivery.replayGeneration = 0)
      (found : db.workflow command.operationId = some row)
      (new : db.receipt command.eventId delivery.replayGeneration = none) :
      CommandAdmitted host db fresh command delivery now .duplicate
        (received host db (.lifecycle command) delivery now (some now))
  | started (original : delivery.replayGeneration = 0) (absent : db.workflow command.operationId = none)
      (new : db.receipt command.eventId delivery.replayGeneration = none)
      (free : ∀ w ∈ db.workflows, w.operationId ≠ command.operationId ∧ w.eventId ≠ command.eventId) :
      CommandAdmitted host db fresh command delivery now .accepted
        { received host db (.lifecycle command) delivery now none with
          workflows := db.workflows ++
            [newWorkflow command delivery.replayGeneration (inheritedResource db command) now] }
  | misidentified (replay : delivery.replayGeneration ≠ 0)
      (known : (db.receipt command.eventId delivery.replayGeneration).isSome) :
      CommandAdmitted host db fresh command delivery now (.rejected .replayCommandIdentityConflict)
        (rejectReplayCommand db delivery (host.canonicalSha256 (.lifecycle command)) .replayCommandIdentityConflict now)
  | unauthorized (replay : delivery.replayGeneration ≠ 0)
      (refused : authorizationOf db command delivery (host.canonicalSha256 (.lifecycle command)) = none) :
      CommandAdmitted host db fresh command delivery now (.rejected .replayCommandUnauthorized)
        (rejectReplayCommand db delivery (host.canonicalSha256 (.lifecycle command)) .replayCommandUnauthorized now)
  | conflicting (authorization : ReplayRequestRow) (row : WorkflowRow) (replay : delivery.replayGeneration ≠ 0)
      (new : db.receipt command.eventId delivery.replayGeneration = none)
      (authorized :
        authorizationOf db command delivery (host.canonicalSha256 (.lifecycle command)) = some authorization)
      (found : db.workflow command.operationId = some row) (conflict : replayConflict command delivery row = true) :
      CommandAdmitted host db fresh command delivery now (.rejected .replayCommandStateConflict)
        (rejectReplayCommand db delivery (host.canonicalSha256 (.lifecycle command)) .replayCommandStateConflict now)
  | reopened (authorization : ReplayRequestRow) (row : WorkflowRow) (replay : delivery.replayGeneration ≠ 0)
      (new : db.receipt command.eventId delivery.replayGeneration = none)
      (authorized :
        authorizationOf db command delivery (host.canonicalSha256 (.lifecycle command)) = some authorization)
      (found : db.workflow command.operationId = some row) (matching : replayConflict command delivery row = false) :
      CommandAdmitted host db fresh command delivery now .accepted
        (consumeAuthorization
          (updateWorkflow (received host db (.lifecycle command) delivery now none) command.operationId
            (reopenedWorkflow command delivery.replayGeneration now))
          fresh authorization command delivery now)
  | introduced (authorization : ReplayRequestRow) (replay : delivery.replayGeneration ≠ 0)
      (new : db.receipt command.eventId delivery.replayGeneration = none)
      (authorized :
        authorizationOf db command delivery (host.canonicalSha256 (.lifecycle command)) = some authorization)
      (absent : db.workflow command.operationId = none)
      (free : ∀ w ∈ db.workflows, w.operationId ≠ command.operationId ∧ w.eventId ≠ command.eventId) :
      CommandAdmitted host db fresh command delivery now .accepted
        (consumeAuthorization
          { received host db (.lifecycle command) delivery now none with
            workflows := db.workflows ++ [newWorkflow command delivery.replayGeneration none now] }
          fresh authorization command delivery now)

theorem admitOriginalDelivery_cases {command : LifecycleCommand} {delivery : MessageDeliveryIdentity}
    {admission : CommandAdmission} (original : delivery.replayGeneration = 0)
    (admitted : admitOriginalDelivery host db command delivery now = .ok (admission, after)) :
    CommandAdmitted host db fresh command delivery now admission after := by
  simp only [admitOriginalDelivery] at admitted
  split at admitted
  next row found =>
    obtain ⟨answer, inserted, rest⟩ := bind_ok admitted
    rcases insertCommandReceipt_ok inserted with ⟨rfl, known⟩ | ⟨rfl, new⟩
    · cases rest; exact .duplicate known
    · cases rest; exact .noted row original found new
  next absent =>
    obtain ⟨answer, inserted, rest⟩ := bind_ok admitted
    rcases insertCommandReceipt_ok inserted with ⟨rfl, known⟩ | ⟨rfl, new⟩
    · cases rest; exact .duplicate known
    · obtain ⟨started, workflow, done⟩ := bind_ok rest
      obtain ⟨rfl, free⟩ := insertWorkflow_ok workflow
      cases done
      exact .started original absent new free

theorem admitAuthorizedReplayCommand_cases {command : LifecycleCommand} {delivery : MessageDeliveryIdentity}
    {admission : CommandAdmission} (replay : delivery.replayGeneration ≠ 0)
    (admitted : admitAuthorizedReplayCommand host db fresh command delivery now = .ok (admission, after)) :
    CommandAdmitted host db fresh command delivery now admission after := by
  simp only [admitAuthorizedReplayCommand] at admitted
  split at admitted
  next receipt found =>
    have known : (db.receipt command.eventId delivery.replayGeneration).isSome := by simp [found]
    split at admitted
    next => cases admitted; exact .duplicate known
    next => cases admitted; exact .misidentified replay known
  next new =>
    split at admitted
    next refused => cases admitted; exact .unauthorized replay refused
    next authorization authorized =>
      split at admitted
      next => cases admitted
      next =>
        split at admitted
        next row found =>
          split at admitted
          next conflict => cases admitted; exact .conflicting authorization row replay new authorized found conflict
          next matching =>
            obtain ⟨answer, inserted, rest⟩ := bind_ok admitted
            rcases insertCommandReceipt_ok inserted with ⟨rfl, known⟩ | ⟨rfl, -⟩
            · cases rest; exact .duplicate known
            · cases rest
              exact .reopened authorization row replay new authorized found (Bool.eq_false_iff.mpr matching)
        next absent =>
          obtain ⟨answer, inserted, rest⟩ := bind_ok admitted
          rcases insertCommandReceipt_ok inserted with ⟨rfl, known⟩ | ⟨rfl, -⟩
          · cases rest; exact .duplicate known
          · obtain ⟨started, workflow, done⟩ := bind_ok rest
            obtain ⟨rfl, free⟩ := insertWorkflow_ok workflow
            cases done
            exact .introduced authorization replay new authorized absent free

theorem admitCommand_cases {command : LifecycleCommand} {delivery : MessageDeliveryIdentity}
    {admission : CommandAdmission} (admitted : admitCommand host db fresh command delivery now = .ok (admission, after)) :
    CommandAdmitted host db fresh command delivery now admission after := by
  simp only [admitCommand] at admitted
  split at admitted
  next original => exact admitOriginalDelivery_cases original admitted
  next replay => exact admitAuthorizedReplayCommand_cases replay admitted

/-- A row that a replay may reopen. -/
theorem replayConflict_false {command : LifecycleCommand} {delivery : MessageDeliveryIdentity} {row : WorkflowRow} :
    replayConflict command delivery row = false ↔
      row.eventId = command.eventId ∧ row.status = .failed ∧ delivery.replayGeneration = row.replayGeneration + 1 := by
  simp [replayConflict, and_assoc]

theorem CommandAdmitted.ok {command : LifecycleCommand} {delivery : MessageDeliveryIdentity}
    {admission : CommandAdmission} (admitted : CommandAdmitted host db fresh command delivery now admission after) :
    Admitted db after command delivery.replayGeneration now ∧ AdmissionFrame db after := by
  have rejected : ∀ failureCode payloadHash, Admitted db
      (rejectReplayCommand db delivery payloadHash failureCode now) command delivery.replayGeneration now ∧
      AdmissionFrame db (rejectReplayCommand db delivery payloadHash failureCode now) := by
    intro failureCode payloadHash
    obtain ⟨records, same⟩ := rejectReplayCommand_same db delivery payloadHash failureCode now
    rw [same]
    exact ⟨.unchanged rfl rfl, .same⟩
  cases admitted with
  | duplicate => exact ⟨.unchanged rfl rfl, .same⟩
  | noted => exact ⟨.unchanged rfl rfl, .same⟩
  | started original absent new free => exact ⟨.started _ rfl (fun w member => (free w member).1) (.inl rfl), .same⟩
  | misidentified => exact rejected _ _
  | unauthorized => exact rejected _ _
  | conflicting => exact rejected _ _
  | reopened authorization row replay new authorized found matching =>
    obtain ⟨sameEvent, failed, -⟩ := replayConflict_false.mp matching
    exact ⟨.reopened row found failed sameEvent rfl (consumeAuthorization_outbox _ _ _),
      rfl, consumeAuthorization_deadLetters _ _ _⟩
  | introduced authorization replay new authorized absent free =>
    exact ⟨.started none rfl (fun w member => (free w member).1) (.inr (consumeAuthorization_outbox _ _ _)),
      rfl, consumeAuthorization_deadLetters _ _ _⟩

/-- A delivery that its authorization describes reopens its failed workflow. -/
theorem admitCommand_reopens {command : LifecycleCommand} {delivery : MessageDeliveryIdentity}
    {authorization : ReplayRequestRow} {row : WorkflowRow} (replay : delivery.replayGeneration ≠ 0)
    (new : db.receipt command.eventId delivery.replayGeneration = none)
    (unique : ∀ r ∈ db.commandReceipts, sameRecord r.delivery delivery = false)
    (authorized : authorizationOf db command delivery (host.canonicalSha256 (.lifecycle command)) = some authorization)
    (valid : isProvisioningReplayRequested authorization.requestPayload = true)
    (found : db.workflow command.operationId = some row) (matching : replayConflict command delivery row = false) :
    ∃ final, admitCommand host db fresh command delivery now = .ok (.accepted, final) := by
  have inserted := insertCommandReceipt_new host (.lifecycle command) now none new unique
  simp only [admitCommand, if_neg replay, admitAuthorizedReplayCommand, new, authorized, valid, found, matching, inserted]
  exact ⟨_, rfl⟩

theorem admitCommand_ok {command : LifecycleCommand} {delivery : MessageDeliveryIdentity}
    {admission : CommandAdmission} (admitted : admitCommand host db fresh command delivery now = .ok (admission, after)) :
    Admitted db after command delivery.replayGeneration now ∧ AdmissionFrame db after :=
  (admitCommand_cases admitted).ok

/-- The command that a replay restores: the original with the request's
    correlation. -/
def Restores (original replayed : LifecycleCommand) : Prop :=
  replayed.operationId = original.operationId ∧ replayed.aggregateId = original.aggregateId ∧
    replayed.eventId = original.eventId ∧ replayed.projectId = original.projectId ∧
    replayed.partitionKey = original.partitionKey ∧ replayed.data = original.data

/-- The row of a replay request that was turned down. -/
def rejectedRequest (request : ProvisioningReplayRequested) (now : Instant) : ReplayRequestRow :=
  { replayRequestId := request.replayRequestId, requestEventId := request.eventId,
    originalEventId := request.originalEventId, replayGeneration := none, status := .rejected,
    requestPayload := request, authorizedCommandHash := none, authorizedOutboxId := none,
    requestedAt := request.occurredAt, decidedAt := now, completedAt := some now }

/-- The row of a replay request that authorizes a command. -/
def authorizedRequest (host : Host) (request : ProvisioningReplayRequested) (replayed : LifecycleCommand)
    (replayGeneration : Nat) (outboxId : Uuid) (now : Instant) : ReplayRequestRow :=
  { replayRequestId := request.replayRequestId, requestEventId := request.eventId,
    originalEventId := request.originalEventId, replayGeneration := some replayGeneration, status := .authorized,
    requestPayload := request, authorizedCommandHash := some (host.canonicalSha256 (.lifecycle replayed)),
    authorizedOutboxId := some outboxId, requestedAt := request.occurredAt, decidedAt := now, completedAt := none }

/-- The unique constraints that a kept decision has met. -/
structure Undecided (db : WorkflowDb) (row : ReplayRequestRow) : Prop where
  request : ∀ r ∈ db.replayRequests, r.replayRequestId ≠ row.replayRequestId
  generation : ∀ r ∈ db.replayRequests, row.replayGeneration.isSome → r.originalEventId = row.originalEventId →
    r.replayGeneration ≠ row.replayGeneration

theorem persistReplayRequest_ok {row : ReplayRequestRow} (persisted : persistReplayRequest db row = .ok after) :
    after = { db with replayRequests := db.replayRequests ++ [row] } ∧ Undecided db row := by
  obtain ⟨rows, appended, rest⟩ := bind_ok persisted
  cases rest
  obtain ⟨rfl, free⟩ := insert_ok appended
  simp only [Bool.or_eq_false_iff, decide_eq_false_iff_not, Bool.and_eq_false_iff] at free
  refine ⟨rfl, fun r member => (free r member).1.1, fun r member numbered same equal => ?_⟩
  rcases (free r member).2 with (unnumbered | other) | different
  · exact absurd numbered (Bool.eq_false_iff.mp unnumbered)
  · exact other same
  · exact different equal

/-- Every way in which a replay request is decided, with the tables that it
    leaves. -/
inductive ReplayDecided (host : Host) (db : WorkflowDb) (fresh : Nat → Uuid) (request : ProvisioningReplayRequested)
    (delivery : MessageDeliveryIdentity) (now : Instant) : ReplayAdmission → WorkflowDb → Prop
  | duplicate (known : (db.receipt request.eventId delivery.replayGeneration).isSome) :
      ReplayDecided host db fresh request delivery now .duplicate db
  | rejected (generation : Nat) (new : db.receipt request.eventId delivery.replayGeneration = none)
      (refused : replayableCommand db request.originalEventId = none)
      (undecided : Undecided db (rejectedRequest request now)) :
      ReplayDecided host db fresh request delivery now .rejected
        (writeReplayResolution
          { received host db (.replayRequest request) delivery now (some now) with
            replayRequests := db.replayRequests ++ [rejectedRequest request now] }
          (fresh 0) (fresh 1) request .rejected generation now)
  | accepted (letter : DeadLetterRow) (original : LifecycleCommand)
      (new : db.receipt request.eventId delivery.replayGeneration = none)
      (replayable : replayableCommand db request.originalEventId = some (letter, original))
      (undecided : Undecided db (authorizedRequest host request (restoredCommand original request now)
        (letter.replayGeneration + 1) (fresh 0) now)) :
      ReplayDecided host db fresh request delivery now .accepted
        { writeWorkflowOutbox
            { received host db (.replayRequest request) delivery now (some now) with
              replayRequests := db.replayRequests ++ [authorizedRequest host request
                (restoredCommand original request now) (letter.replayGeneration + 1) (fresh 0) now] }
            (fresh 0) (.command (restoredCommand original request now)) (letter.replayGeneration + 1) now with
          deadLetters := update
            (fun d : DeadLetterRow => d.originalEventId = original.eventId ∧ d.status = .open_)
            (fun d => { d with
              replayGeneration := letter.replayGeneration + 1, status := .replayRequested, lastReplayAt := some now })
            db.deadLetters }

theorem admitReplayRequest_cases {request : ProvisioningReplayRequested} {delivery : MessageDeliveryIdentity}
    {admission : ReplayAdmission}
    (admitted : admitReplayRequest host db fresh request delivery now = .ok (admission, after)) :
    ReplayDecided host db fresh request delivery now admission after := by
  obtain ⟨answer, inserted, rest⟩ := bind_ok admitted
  rcases insertCommandReceipt_ok inserted with ⟨rfl, known⟩ | ⟨rfl, new⟩
  · cases rest; exact .duplicate known
  · simp only at rest
    split at rest
    next refused =>
      obtain ⟨decided, persisted, done⟩ := bind_ok rest
      obtain ⟨rfl, undecided⟩ := persistReplayRequest_ok persisted
      cases done
      exact .rejected _ new refused ⟨undecided.request, undecided.generation⟩
    next letter original replayable =>
      obtain ⟨decided, persisted, done⟩ := bind_ok rest
      obtain ⟨rfl, undecided⟩ := persistReplayRequest_ok persisted
      cases done
      exact .accepted letter original new replayable ⟨undecided.request, undecided.generation⟩

/-- A replayable command is the stored payload of an open dead letter that
    allows replays. -/
theorem replayableCommand_some {originalEventId : Uuid} {letter : DeadLetterRow} {original : LifecycleCommand}
    (replayable : replayableCommand db originalEventId = some (letter, original)) :
    find DeadLetterRow.originalEventId originalEventId db.deadLetters = some letter ∧ letter.replayAllowed = true ∧
      letter.status = .open_ ∧ letter.originalPayload = .lifecycle original := by
  obtain ⟨found, letterFound, chosen⟩ := Option.bind_eq_some_iff.mp replayable
  split at chosen
  next allowed =>
    obtain ⟨action, -, read⟩ := Option.bind_eq_some_iff.mp chosen
    obtain ⟨command, valid, same⟩ := Option.map_eq_some_iff.mp read
    cases same
    simp only [Bool.and_eq_true, decide_eq_true_eq] at allowed
    exact ⟨letterFound, allowed.1, allowed.2, (lifecycleCommand_some valid).1⟩
  next => cases chosen

theorem admitReplayRequest_ok {request : ProvisioningReplayRequested} {delivery : MessageDeliveryIdentity}
    {admission : ReplayAdmission}
    (admitted : admitReplayRequest host db fresh request delivery now = .ok (admission, after)) :
    after.workflows = db.workflows ∧ AdmissionFrame db after ∧
      (after.outbox = db.outbox ∨
        (∃ outboxId event, event.data.isTerminal = false ∧
          after.outbox = db.outbox ++ [⟨outboxId, .event event, 0, now⟩]) ∨
        ∃ letter ∈ db.deadLetters, ∃ original replayed outboxId generation,
          letter.originalPayload = .lifecycle original ∧ Restores original replayed ∧
          after.outbox = db.outbox ++ [⟨outboxId, .command replayed, generation, now⟩]) := by
  cases admitReplayRequest_cases admitted with
  | duplicate => exact ⟨rfl, .same, .inl rfl⟩
  | rejected => exact ⟨rfl, ⟨rfl, fun letter member => ⟨letter, member, rfl⟩⟩, .inr (.inl ⟨_, _, rfl, rfl⟩)⟩
  | accepted letter original new replayable undecided =>
    obtain ⟨found, -, -, payload⟩ := replayableCommand_some replayable
    refine ⟨rfl, ⟨rfl, fun later member => ?_⟩, .inr (.inr ?_)⟩
    · obtain ⟨old, present, ⟨-, rfl⟩ | ⟨-, rfl⟩⟩ := mem_update.mp member
      · exact ⟨old, present, rfl⟩
      · exact ⟨later, present, rfl⟩
    · exact ⟨letter, find_mem found, original, restoredCommand original request now, fresh 0, _, payload,
        ⟨rfl, rfl, rfl, rfl, rfl, rfl⟩, rfl⟩

/-! ### Claims -/

theorem readyWorkflow_ready {workerId : String} {action : WorkflowAction} {locked : Uuid → Bool} {row : WorkflowRow}
    (chosen : readyWorkflow db workerId action now locked = some row) :
    row ∈ db.workflows ∧ ready db workerId action now locked row = true := by
  -- Every round keeps what was best, or takes the row at hand.
  have among : ∀ choose : Option WorkflowRow → WorkflowRow → Option WorkflowRow,
      (∀ best w, choose best w = best ∨ choose best w = some w) → ∀ (rows : List WorkflowRow) (best : Option WorkflowRow),
      rows.foldl choose best = some row → best = some row ∨ row ∈ rows := by
    intro choose chooses rows
    induction rows with
    | nil => exact fun best same => .inl same
    | cons w rows ih =>
      intro best folded
      rcases ih _ folded with first | later
      · rcases chooses best w with kept | taken
        · exact .inl (kept ▸ first)
        · rw [taken] at first
          cases first
          exact .inr List.mem_cons_self
      · exact .inr (List.mem_cons_of_mem _ later)
  refine (among _ (fun best w => ?_) _ _ chosen).elim (fun impossible => ?_) List.mem_filter.mp
  · cases best with
    | none => exact .inr rfl
    | some b =>
      dsimp only
      split
      · exact .inr rfl
      · exact .inl rfl
  · cases impossible

theorem takeLease_rows {db leased : WorkflowDb} {i : Uuid} {workerId : String} {leasedUntil now : Instant} {token : Nat}
    (taken : takeLease db i workerId leasedUntil now = some (token, leased)) :
    leased.workflows = db.workflows ∧ leased.outbox = db.outbox := by
  simp only [takeLease] at taken
  split at taken
  · cases taken; exact ⟨rfl, rfl⟩
  · split at taken
    · cases taken; exact ⟨rfl, rfl⟩
    · cases taken

/-- What a successful claim does: it takes the lease of a ready workflow's
    instance with a new token and marks the row with it. -/
structure Claim (db after : WorkflowDb) (workerId : String) (leaseSeconds : Nat) (now : Instant) (row : WorkflowRow)
    (claimed : ClaimedWorkflow) : Prop where
  member : row ∈ db.workflows
  live : row.live
  taken : ∃ leased, takeLease db row.instanceId workerId (now + leaseSeconds * 1000) now =
      some (claimed.fencingToken, leased) ∧
    after = updateWorkflow leased row.operationId (claimedRow claimed.fencingToken)
  leaseSeconds : 5 ≤ leaseSeconds ∧ leaseSeconds ≤ 300
  command : claimed.command = row.command
  handed : ∃ stage, row.stage = .stage stage ∧
    claimed = claimedWorkflow (claimedRow claimed.fencingToken row) row.command stage

/-- A claim touches its row and the leases only. -/
theorem Claim.frame {workerId : String} {leaseSeconds : Nat} {row : WorkflowRow} {claimed : ClaimedWorkflow}
    (claim : Claim db after workerId leaseSeconds now row claimed) :
    ∃ leases, after =
      { updateWorkflow db row.operationId (claimedRow claimed.fencingToken) with instanceLeases := leases } := by
  obtain ⟨leased, taken, rfl⟩ := claim.taken
  generalize claimed.fencingToken = token at taken
  simp only [takeLease] at taken
  split at taken
  next => cases taken; exact ⟨_, rfl⟩
  next =>
    split at taken
    next => cases taken; exact ⟨_, rfl⟩
    next => cases taken

theorem claimNext_ok {workerId : String} {leaseSeconds : Nat} {action : WorkflowAction} {locked : Uuid → Bool}
    {claimed : ClaimedWorkflow}
    (ended : claimNext db workerId leaseSeconds action locked now = .ok (some (claimed, after))) :
    ∃ row, readyWorkflow db workerId action now locked = some row ∧
      Claim db after workerId leaseSeconds now row claimed := by
  simp only [claimNext] at ended
  split at ended
  next => cases ended
  next valid =>
    split at ended
    next => cases ended
    next row chosen =>
      obtain ⟨member, isReady⟩ := readyWorkflow_ready chosen
      split at ended
      next => cases ended
      next token leased taken =>
        split at ended
        all_goals cases ended
        next command stage valid reached =>
          obtain ⟨same, -⟩ := lifecycleCommand_some valid
          cases same
          simp only [ready, Bool.and_eq_true, decide_eq_true_eq] at isReady
          refine ⟨row, chosen, member, isReady.1.1.1.2, ⟨leased, taken, rfl⟩, ?_, rfl, stage, reached, rfl⟩
          omega

end ControlPlane.StoreRules
