import ControlPlane.CommandRouting
import ControlPlane.StoreRules

/-!
The Kafka ingress of the orchestrator. A record is narrowed to a command or to a
replay request and admitted in one transaction; one that cannot be handled for
its own sake is quarantined or dead-lettered. A transaction throws when it binds
a value that a column cannot hold: an `integer` from 2^31 on, or U+0000 in a
`text` or a `jsonb`. What is thrown for any other reason than the record's own
is thrown again, and the offset of the record is not committed.
-/
namespace ControlPlane.CommandConsumer
open ControlPlane.Tables ControlPlane.Runs ControlPlane.Domain ControlPlane.Commands ControlPlane.EventValidation
open ControlPlane.WorkflowSchema ControlPlane.WorkflowStore ControlPlane.StoreRules ControlPlane.KafkaConsumer
open ControlPlane.CommandRouting
open ControlPlane.ControlSchema (Draws)

def commandTopic : String := "provisioning.commands.v1"

/-! ### Messages and columns -/

/-- The greatest value of an `integer` column. -/
def maximumInteger : Nat := 2 ^ 31 - 1

/-- Whether a `text` or a `jsonb` column holds a text. -/
def isStorableText (text : String) : Bool := text.toList.all fun c => c.val ≠ 0

/-- The texts of a message that are written to columns of their own. -/
def columnTexts (message : CommandMessage) : List String :=
  [message.schemaName, message.envelope.aggregateType, message.envelope.partitionKey]

/-- A message with every key and every string of its JSON value. -/
structure DeliveredMessage where
  message : CommandMessage
  texts : List String
  carried : ∀ text ∈ columnTexts message, text ∈ texts

namespace DeliveredMessage

/-- Whether the columns hold the message, as its parts and as a whole. -/
def isStorable (delivered : DeliveredMessage) : Bool :=
  (columnTexts delivered.message).all isStorableText && delivered.texts.all isStorableText

theorem isStorable_iff {delivered : DeliveredMessage} :
    delivered.isStorable = true ↔ ∀ text ∈ delivered.texts, isStorableText text = true := by
  simp only [isStorable, Bool.and_eq_true, List.all_eq_true]
  constructor
  · intro storable
    exact storable.2
  · intro whole
    exact ⟨fun text member => whole text (delivered.carried text member), whole⟩

end DeliveredMessage

instance : Enveloped DeliveredMessage :=
  ⟨fun delivered => delivered.message.envelope, fun delivered => delivered.message.schemaName⟩

abbrev CommandRecord := IncomingKafkaRecord DeliveredMessage

/-- The value of a record as the contracts of the commands see it. -/
def contractValue : RecordValue DeliveredMessage → RecordValue CommandMessage
  | .empty => .empty
  | .notJson => .notJson
  | .notEnvelope => .notEnvelope
  | .message delivered => .message delivered.message

/-! ### Narrowing -/

/-- Narrows a governed replay request. -/
def replayRequest (value : RecordValue CommandMessage) : Except HandlerError ProvisioningReplayRequested := do
  match ← decodedCommand value with
  | .replayRequest request =>
    if isProvisioningReplayRequested request then return request else throw (.permanent "REPLAY_SCHEMA_UNSUPPORTED")
  | _ => throw (.permanent "REPLAY_SCHEMA_UNSUPPORTED")

/-- What the store is asked to admit. -/
inductive Ingress
  | command (command : LifecycleCommand)
  | replayRequest (request : ProvisioningReplayRequested)
  deriving DecidableEq, Repr

def Ingress.message : Ingress → CommandMessage
  | .command accepted => .lifecycle accepted
  | .replayRequest requested => .replayRequest requested

/-- Narrows a record by the schema that it names. -/
def ingress (value : RecordValue CommandMessage) : Except HandlerError Ingress := do
  let message ← decodedCommand value
  if isSupportedCommandSchema message.schemaName then return .command (← narrowCommand value)
  else if message.schemaName = "provisioning.replay.requested" then return .replayRequest (← replayRequest value)
  else throw (.permanent "COMMAND_SCHEMA_UNSUPPORTED")

/-! ### Handling -/

/-- The outcome of a transaction that binds the generation of a delivery and, as
    its answer tells, values of the record. -/
def bound {Answer : Type} (delivery : MessageDeliveryIdentity) (holds : Answer → Bool)
    (result : Except String (Answer × WorkflowDb)) : Except HandlerError (Answer × WorkflowDb) :=
  match result with
  | .error message => .error (.other message)
  | .ok (answer, db) =>
    if maximumInteger < delivery.replayGeneration then .error (.other "value is out of range for type integer")
    else if holds answer then .ok (answer, db)
    else .error (.other "a column does not hold the value")

/-- Whether the columns hold the JSON value of a record. -/
def isStorable (value : RecordValue DeliveredMessage) : Bool :=
  match value with
  | .message delivered => delivered.isStorable
  | _ => true

/-- The generation that the next replay of an event is authorized in. -/
def nextGeneration (db : WorkflowDb) (originalEventId : Uuid) : Nat :=
  ((find DeadLetterRow.originalEventId originalEventId db.deadLetters).map DeadLetterRow.replayGeneration).getD 0 + 1

def handle (host : Host) (record : CommandRecord) (draws : Draws) (db : WorkflowDb) :
    Except HandlerError (Outcome × WorkflowDb) := do
  match ← ingress (contractValue record.value) with
  | .command command =>
    -- Only an admitted command is written, to its workflow.
    let (admission, db) ← bound record.delivery (fun admission => admission ≠ .accepted || isStorable record.value)
      (admitCommand host db draws.fresh command record.delivery draws.now)
    match admission with
    | .accepted => return (.handled, db)
    | .duplicate => return (.duplicate, db)
    | .rejected _ => return (.quarantined, db)
  | .replayRequest request =>
    -- A decision keeps the request, and an authorization its generation.
    let (admission, db) ← bound record.delivery
      (fun admission => admission = .duplicate ||
        (isStorable record.value &&
          (admission = .rejected || nextGeneration db request.originalEventId ≤ maximumInteger)))
      (admitReplayRequest host db draws.fresh request record.delivery draws.now)
    return (if admission = .duplicate then .duplicate else .handled, db)

def quarantined (record : CommandRecord) (failureCode : String) (draws : Draws) (db : WorkflowDb) : Outcome × WorkflowDb :=
  let (inserted, db) := quarantineRecord db record.delivery record.sha256 failureCode
    "The Kafka record could not be decoded as a versioned event envelope." draws.now
  (if inserted then .quarantined else .duplicate, db)

/-- What is kept about a record that is refused for good. -/
def evidence (record : CommandRecord) (delivered : DeliveredMessage) (attempts : Nat) (failureCode : String) :
    DeadLetterCommandInput where
  message := delivered.message
  delivery := record.delivery
  attempts := attempts
  failureCode := failureCode
  safeMessage := "The command schema is not supported by this consumer deployment."
  replayAllowed := failureCode = "COMMAND_SCHEMA_UNSUPPORTED" &&
    delivered.message.schemaName = "instance.create.requested"

def exhausted (host : Host) (record : CommandRecord) (error : HandlerError) (attempts : Nat) (draws : Draws)
    (db : WorkflowDb) : Except HandlerError (Outcome × WorkflowDb) :=
  match error with
  | .other message => .error (.other message)
  | .decode code => .ok (quarantined record code.text draws db)
  | .permanent code =>
    match record.envelope with
    | none => .ok (quarantined record code draws db)
    | some delivered => do
      let (stored, db) ← bound record.delivery
        (fun stored => !stored ||
          (delivered.isStorable && delivered.message.envelope.schemaVersion ≤ maximumInteger))
        (deadLetterCommand host db draws.fresh (evidence record delivered attempts code) draws.now)
      return (if stored then .deadLettered else .duplicate, db)

/-! ### Beside the workers -/

/-- A transaction of a workflow worker. -/
inductive WorkerCall
  | claimNext (workerId : String) (leaseSeconds : Nat) (action : WorkflowAction) (locked : Uuid → Bool) (now : Instant)
  | checkpoint (draws : Draws) (input : CheckpointInput)
  | complete (draws : Draws) (input : CompleteInput)
  | deadLetterWorkflow (draws : Draws) (input : DeadLetterWorkflowInput)

/-- A transaction that throws changes nothing. -/
def performCall : WorkerCall → WorkflowDb → WorkflowDb
  | .claimNext workerId leaseSeconds action locked now, db =>
    match claimNext db workerId leaseSeconds action locked now with
    | .ok (some (_, after)) => after
    | _ => db
  | .checkpoint draws input, db => (checkpoint db draws.fresh input draws.now).toOption.getD db
  | .complete draws input, db => (complete db draws.fresh input draws.now).toOption.getD db
  | .deadLetterWorkflow draws input, db => (deadLetterWorkflow db draws.fresh input draws.now).toOption.getD db

/-- The consumer of the orchestrator, beside its workers. -/
def consumer (host : Host) (maximumAttempts : Nat) (log : Position → Option (KafkaMessage DeliveredMessage)) :
    Setting DeliveredMessage WorkflowDb WorkerCall where
  options := ⟨maximumAttempts, handle host, exhausted host⟩
  log := log
  perform := performCall

/-! ### What a record needs of the columns -/

/-- A delivery that starts a workflow, or reopens one, unless a column refuses. -/
def Opens (host : Host) (db : WorkflowDb) (command : LifecycleCommand) (delivery : MessageDeliveryIdentity) : Prop :=
  db.receipt command.eventId delivery.replayGeneration = none ∧
    ((delivery.replayGeneration = 0 ∧ db.workflow command.operationId = none) ∨
      (delivery.replayGeneration ≠ 0 ∧
        (authorizationOf db command delivery (host.canonicalSha256 (.lifecycle command))).isSome = true ∧
        ∀ row, db.workflow command.operationId = some row → replayConflict command delivery row = false))

/-- What the columns need of a record that is narrowed, or refused. -/
def Writable (host : Host) (db : WorkflowDb) (record : CommandRecord) : Except HandlerError Ingress → Prop
  | .ok (.command command) =>
    Opens host db command record.delivery → isStorable record.value = true ∧
      -- No workflow of another operation has its event.
      (db.workflow command.operationId = none → ∀ w ∈ db.workflows, w.eventId ≠ command.eventId)
  | .ok (.replayRequest request) =>
    db.receipt request.eventId record.delivery.replayGeneration = none → isStorable record.value = true ∧
      -- Neither the request nor the generation that it asks for was decided before.
      (∀ r ∈ db.replayRequests, r.replayRequestId ≠ request.replayRequestId ∧ r.requestEventId ≠ request.eventId) ∧
      ∀ letter original, replayableCommand db request.originalEventId = some (letter, original) →
        letter.replayGeneration < maximumInteger ∧ ∀ r ∈ db.replayRequests,
          r.originalEventId = request.originalEventId → r.replayGeneration ≠ some (letter.replayGeneration + 1)
  | .error _ =>
    ∀ delivered, record.envelope = some delivered →
      db.receipt delivered.message.envelope.eventId record.delivery.replayGeneration = none →
        isStorable record.value = true ∧ delivered.message.envelope.schemaVersion ≤ maximumInteger

/-- What the columns need of a record. One that was not decoded leaves no value. -/
def Fits (host : Host) (db : WorkflowDb) (record : CommandRecord) : Prop :=
  record.decodeError = none → record.delivery.replayGeneration ≤ maximumInteger ∧
    Writable host db record (ingress (contractValue record.value))

/-! ### What is narrowed -/

section
variable {value : RecordValue CommandMessage} {message : CommandMessage}

theorem narrowedCommand_cases {action : WorkflowAction} (read : decodedCommand value = .ok message) :
    (∃ command, narrowedCommand action value = .ok command ∧ message = .lifecycle command) ∨
      ∃ code, narrowedCommand action value = .error (.permanent code) := by
  simp only [narrowedCommand, read, bind, Except.bind]
  split
  next => exact .inr ⟨_, rfl⟩
  next =>
    cases accepted : lifecycleCommand message action with
    | some command => exact .inl ⟨command, rfl, (lifecycleCommand_some accepted).1⟩
    | none => exact .inr ⟨_, rfl⟩

theorem narrowCommand_cases (read : decodedCommand value = .ok message) :
    (∃ command, narrowCommand value = .ok command ∧ message = .lifecycle command) ∨
      ∃ code, narrowCommand value = .error (.permanent code) := by
  simp only [narrowCommand, read, bind, Except.bind]
  split
  all_goals first | exact narrowedCommand_cases read | exact .inr ⟨_, rfl⟩

theorem replayRequest_cases (read : decodedCommand value = .ok message) :
    (∃ request, replayRequest value = .ok request ∧ message = .replayRequest request ∧
      isProvisioningReplayRequested request = true) ∨
      ∃ code, replayRequest value = .error (.permanent code) := by
  simp only [replayRequest, read, bind, Except.bind]
  cases message with
  | lifecycle command => exact .inr ⟨_, rfl⟩
  | replayRequest request =>
    dsimp only
    split
    next valid => exact .inl ⟨request, rfl, rfl, valid⟩
    next => exact .inr ⟨_, rfl⟩
  | unsupported name envelope => exact .inr ⟨_, rfl⟩

/-- A decoded message is narrowed to itself, or refused for good. -/
theorem ingress_cases (read : decodedCommand value = .ok message) :
    (∃ narrowed, ingress value = .ok narrowed ∧ message = narrowed.message ∧
      ∀ request, narrowed = .replayRequest request → isProvisioningReplayRequested request = true) ∨
      ∃ code, ingress value = .error (.permanent code) := by
  simp only [ingress, read, bind, Except.bind]
  split
  next =>
    rcases narrowCommand_cases read with ⟨command, narrowed, same⟩ | ⟨code, refused⟩
    · exact .inl ⟨.command command, by rw [narrowed]; rfl, same, fun _ impossible => by cases impossible⟩
    · exact .inr ⟨code, by rw [refused]⟩
  next =>
    split
    next =>
      rcases replayRequest_cases read with ⟨request, narrowed, same, valid⟩ | ⟨code, refused⟩
      · exact .inl ⟨.replayRequest request, by rw [narrowed]; rfl, same, fun _ same => by cases same; exact valid⟩
      · exact .inr ⟨code, by rw [refused]⟩
    next => exact .inr ⟨_, rfl⟩

end

section
variable {position : Position} {source : KafkaMessage DeliveredMessage} {delivered : DeliveredMessage}

/-- The value of a record with an envelope. -/
theorem record_value (enveloped : (record position source).envelope = some delivered) :
    (record position source).value = .message delivered := by
  have decoded : (decodeEventEnvelope source.value).toOption = some delivered := enveloped
  show source.value = .message delivered
  cases named : source.value with
  | empty => rw [named] at decoded; cases decoded
  | notJson => rw [named] at decoded; cases decoded
  | notEnvelope => rw [named] at decoded; cases decoded
  | message found =>
    rw [named] at decoded
    simp only [decodeEventEnvelope] at decoded
    split at decoded
    next => cases decoded; rfl
    next => cases decoded

/-- The contracts see the envelope of a record as its codec does. -/
theorem decodedCommand_record (enveloped : (record position source).envelope = some delivered) :
    decodedCommand (contractValue (record position source).value) = .ok delivered.message := by
  have valid := record_envelope enveloped
  have same : isEventEnvelope (Enveloped.schemaName delivered.message) (Enveloped.envelope delivered.message) = true := valid
  rw [record_value enveloped]
  simp only [contractValue, decodedCommand, decodeEventEnvelope, if_pos same]
  rfl

/-- A record without a failure at the trust boundary has an envelope. -/
theorem record_enveloped (sound : (record position source).decodeError = none) :
    ∃ delivered, (record position source).envelope = some delivered := by
  simp only [record] at sound ⊢
  cases decoded : decodeEventEnvelope source.value with
  | ok delivered => exact ⟨delivered, rfl⟩
  | error code =>
    rw [decoded] at sound
    cases sound

end

/-! ### What the store answers -/

/-- The coordinates of a delivery are free, unless its event has a receipt. -/
def Placed (db : WorkflowDb) (eventId : Uuid) (delivery : MessageDeliveryIdentity) : Prop :=
  db.receipt eventId delivery.replayGeneration = none → ∀ r ∈ db.commandReceipts, sameRecord r.delivery delivery = false

/-- The requests that the store keeps passed their validator. -/
def Validated (db : WorkflowDb) : Prop := ∀ r ∈ db.replayRequests, isProvisioningReplayRequested r.requestPayload = true

section
variable {host : Host} {db : WorkflowDb} {command : LifecycleCommand} {request : ProvisioningReplayRequested}
  {delivery : MessageDeliveryIdentity} {fresh : Nat → Uuid} {now : Instant}

theorem authorizationOf_mem {payloadHash : String} {authorization : ReplayRequestRow}
    (authorized : authorizationOf db command delivery payloadHash = some authorization) :
    authorization ∈ db.replayRequests := by
  obtain ⟨found, -⟩ := Option.filter_eq_some_iff.mp authorized
  exact List.mem_of_find?_eq_some found

/-- An admitted command opened its workflow, and no other one has its event. -/
theorem admitCommand_unused {admission : CommandAdmission} {after : WorkflowDb} (opens : Opens host db command delivery)
    (admitted : admitCommand host db fresh command delivery now = .ok (admission, after)) :
    admission = .accepted ∧ (db.workflow command.operationId = none → ∀ w ∈ db.workflows, w.eventId ≠ command.eventId) := by
  obtain ⟨new, opens⟩ := opens
  cases admitCommand_cases admitted with
  | duplicate known => simp [new] at known
  | noted row original found =>
    rcases opens with ⟨-, absent⟩ | ⟨replay, -⟩
    · simp [absent] at found
    · exact absurd original replay
  | started original absent _ free => exact ⟨rfl, fun _ w member => (free w member).2⟩
  | misidentified replay known => simp [new] at known
  | unauthorized replay refused =>
    rcases opens with ⟨original, -⟩ | ⟨-, authorized, -⟩
    · exact absurd original replay
    · simp [refused] at authorized
  | conflicting authorization row replay _ authorized found conflict =>
    rcases opens with ⟨original, -⟩ | ⟨-, -, matching⟩
    · exact absurd original replay
    · simp [matching row found] at conflict
  | reopened authorization row replay _ authorized found => exact ⟨rfl, fun absent => by simp [found] at absent⟩
  | introduced authorization replay _ authorized absent free => exact ⟨rfl, fun _ w member => (free w member).2⟩

/-- A command that opens a workflow is admitted when no other one has its event. -/
theorem admitCommand_opens (fresh : Nat → Uuid) (now : Instant) (opens : Opens host db command delivery) (placed : Placed db command.eventId delivery)
    (validated : Validated db)
    (unused : db.workflow command.operationId = none → ∀ w ∈ db.workflows, w.eventId ≠ command.eventId) :
    ∃ after, admitCommand host db fresh command delivery now = .ok (.accepted, after) := by
  obtain ⟨new, opens⟩ := opens
  have inserted := insertCommandReceipt_new host (.lifecycle command) now none new (placed new)
  have introduced (absent : db.workflow command.operationId = none) (resource : Option String) :
      insertWorkflow (received host db (.lifecycle command) delivery now none)
        (newWorkflow command delivery.replayGeneration resource now) =
      .ok { received host db (.lifecycle command) delivery now none with
        workflows := db.workflows ++ [newWorkflow command delivery.replayGeneration resource now] } :=
    insertWorkflow_new fun w member => ⟨find_none absent w member, unused absent w member⟩
  rcases opens with ⟨original, absent⟩ | ⟨replay, authorized, matching⟩
  · simp only [admitCommand, if_pos original, admitOriginalDelivery, absent, inserted, bind, Except.bind,
      introduced absent]
    exact ⟨_, rfl⟩
  · obtain ⟨authorization, authorized⟩ := Option.isSome_iff_exists.mp authorized
    have valid := validated authorization (authorizationOf_mem authorized)
    cases found : db.workflow command.operationId with
    | some row => exact admitCommand_reopens replay new (placed new) authorized valid found (matching row found)
    | none =>
      simp only [admitCommand, if_neg replay, admitAuthorizedReplayCommand, new, authorized, valid, found, inserted, bind,
        Except.bind, introduced found]
      exact ⟨_, rfl⟩

/-- A command that opens no workflow is a duplicate, or it is rejected. -/
theorem admitCommand_closed (fresh : Nat → Uuid) (now : Instant) (closed : ¬ Opens host db command delivery) (placed : Placed db command.eventId delivery)
    (validated : Validated db) :
    ∃ admission after, admitCommand host db fresh command delivery now = .ok (admission, after) ∧
      admission ≠ .accepted := by
  cases seen : db.receipt command.eventId delivery.replayGeneration with
  | some receipt =>
    have inserted (completedAt : Option Instant) :=
      insertCommandReceipt_known host (.lifecycle command) now completedAt seen
    by_cases original : delivery.replayGeneration = 0
    · cases found : db.workflow command.operationId with
      | some row =>
        refine ⟨.duplicate, db, ?_, by rintro ⟨⟩⟩
        simp only [admitCommand, if_pos original, admitOriginalDelivery, found, inserted, bind, Except.bind]
        rfl
      | none =>
        refine ⟨.duplicate, db, ?_, by rintro ⟨⟩⟩
        simp only [admitCommand, if_pos original, admitOriginalDelivery, found, inserted, bind, Except.bind]
        rfl
    · simp only [admitCommand, if_neg original, admitAuthorizedReplayCommand, seen]
      split
      next => exact ⟨_, _, rfl, by rintro ⟨⟩⟩
      next => exact ⟨_, _, rfl, by rintro ⟨⟩⟩
  | none =>
    by_cases original : delivery.replayGeneration = 0
    · cases found : db.workflow command.operationId with
      | some row =>
        have inserted := insertCommandReceipt_new host (.lifecycle command) now (some now) seen (placed seen)
        refine ⟨.duplicate, received host db (.lifecycle command) delivery now (some now), ?_, by rintro ⟨⟩⟩
        simp only [admitCommand, if_pos original, admitOriginalDelivery, found, inserted, bind, Except.bind]
        rfl
      | none => exact absurd ⟨seen, .inl ⟨original, found⟩⟩ closed
    · cases authorized : authorizationOf db command delivery (host.canonicalSha256 (.lifecycle command)) with
      | none =>
        refine ⟨.rejected .replayCommandUnauthorized, rejectReplayCommand db delivery
          (host.canonicalSha256 (.lifecycle command)) .replayCommandUnauthorized now, ?_, by rintro ⟨⟩⟩
        simp only [admitCommand, if_neg original, admitAuthorizedReplayCommand, seen, authorized]
        rfl
      | some authorization =>
        have valid := validated authorization (authorizationOf_mem authorized)
        cases found : db.workflow command.operationId with
        | none =>
          refine absurd ⟨seen, .inr ⟨original, ?_, fun row impossible => ?_⟩⟩ closed
          · rw [authorized]; rfl
          · rw [found] at impossible; cases impossible
        | some row =>
          cases conflict : replayConflict command delivery row with
          | true =>
            refine ⟨.rejected .replayCommandStateConflict, rejectReplayCommand db delivery
          (host.canonicalSha256 (.lifecycle command)) .replayCommandStateConflict now, ?_, by rintro ⟨⟩⟩
            simp only [admitCommand, if_neg original, admitAuthorizedReplayCommand, seen, authorized, valid, found, conflict]
            rfl
          | false =>
            refine absurd ⟨seen, .inr ⟨original, ?_, fun other same => ?_⟩⟩ closed
            · rw [authorized]; rfl
            · rw [found] at same; cases same; exact conflict

/-- A decision is kept when no other one has its identity or its generation. -/
theorem persistReplayRequest_ok_iff {row : ReplayRequestRow} :
    (∃ after, persistReplayRequest db row = .ok after) ↔
      (∀ r ∈ db.replayRequests, r.replayRequestId ≠ row.replayRequestId ∧ r.requestEventId ≠ row.requestEventId) ∧
        (row.replayGeneration.isSome = true → ∀ r ∈ db.replayRequests, r.originalEventId = row.originalEventId →
          r.replayGeneration ≠ row.replayGeneration) := by
  let clashes (r : ReplayRequestRow) : Bool :=
    r.replayRequestId = row.replayRequestId || r.requestEventId = row.requestEventId ||
      (row.replayGeneration.isSome && r.originalEventId = row.originalEventId &&
        r.replayGeneration = row.replayGeneration)
  have kept : (∃ after, persistReplayRequest db row = .ok after) ↔ db.replayRequests.any clashes = false := by
    cases clash : db.replayRequests.any clashes with
    | true => simp [persistReplayRequest, Tables.insert, clashes, clash, bind, Except.bind]
    | false => simp [persistReplayRequest, Tables.insert, clashes, clash, bind, Except.bind, pure, Except.pure]
  rw [kept, List.any_eq_false]
  constructor
  · intro free
    refine ⟨fun r member => ?_, fun numbered r member same equal => ?_⟩
    · have unlike := free r member
      simp only [clashes, Bool.or_eq_true, not_or, decide_eq_true_eq] at unlike
      exact unlike.1
    · have unlike := free r member
      simp [clashes, same, equal] at unlike
      simp [unlike.2] at numbered
  · rintro ⟨identities, generations⟩ r member clash
    obtain ⟨request, event⟩ := identities r member
    simp only [clashes, Bool.or_eq_true, Bool.and_eq_true, decide_eq_true_eq, request, event, false_or] at clash
    exact generations clash.1.1 r member clash.1.2 clash.2

theorem admitReplayRequest_known {receipt : CommandReceipt}
    (known : db.receipt request.eventId delivery.replayGeneration = some receipt) :
    admitReplayRequest host db fresh request delivery now = .ok (.duplicate, db) := by
  simp only [admitReplayRequest, insertCommandReceipt_known host (.replayRequest request) now (some now) known, bind,
    Except.bind]
  rfl

/-- A request with a fresh receipt is decided, when its decision can be kept. -/
theorem admitReplayRequest_new (host : Host) (fresh : Nat → Uuid) (now : Instant)
    (new : db.receipt request.eventId delivery.replayGeneration = none)
    (placed : Placed db request.eventId delivery) :
    (∃ admission after, admitReplayRequest host db fresh request delivery now = .ok (admission, after)) ↔
      (∀ r ∈ db.replayRequests, r.replayRequestId ≠ request.replayRequestId ∧ r.requestEventId ≠ request.eventId) ∧
        ∀ letter original, replayableCommand db request.originalEventId = some (letter, original) →
          ∀ r ∈ db.replayRequests, r.originalEventId = request.originalEventId →
            r.replayGeneration ≠ some (letter.replayGeneration + 1) := by
  have inserted := insertCommandReceipt_new host (.replayRequest request) now (some now) new (placed new)
  have decided (row : ReplayRequestRow) {answer : WorkflowDb → ReplayAdmission × WorkflowDb}
      (decides : admitReplayRequest host db fresh request delivery now =
        (persistReplayRequest (received host db (.replayRequest request) delivery now (some now)) row).map answer) :
      (∃ admission after, admitReplayRequest host db fresh request delivery now = .ok (admission, after)) ↔
        ∃ after, persistReplayRequest (received host db (.replayRequest request) delivery now (some now)) row = .ok after := by
    rw [decides]
    cases persistReplayRequest (received host db (.replayRequest request) delivery now (some now)) row with
    | ok kept => exact ⟨fun _ => ⟨kept, rfl⟩, fun _ => ⟨_, _, rfl⟩⟩
    | error message =>
      constructor
      · rintro ⟨admission, after, impossible⟩
        cases impossible
      · rintro ⟨after, impossible⟩
        cases impossible
  cases found : replayableCommand db request.originalEventId with
  | none =>
    have same : replayableCommand (received host db (.replayRequest request) delivery now (some now))
      request.originalEventId = none := found
    rw [decided (rejectedRequest request now)
      (by simp only [admitReplayRequest, inserted, bind, Except.bind, same]; rfl), persistReplayRequest_ok_iff]
    exact ⟨fun free => ⟨free.1, fun _ _ impossible => by cases impossible⟩,
      fun free => ⟨free.1, fun impossible => by cases impossible⟩⟩
  | some pair =>
    obtain ⟨letter, original⟩ := pair
    have same : replayableCommand (received host db (.replayRequest request) delivery now (some now))
      request.originalEventId = some (letter, original) := found
    rw [decided (authorizedRequest host request (restoredCommand original request now)
        (letter.replayGeneration + 1) (fresh 0) now)
      (by simp only [admitReplayRequest, inserted, bind, Except.bind, same]; rfl), persistReplayRequest_ok_iff]
    exact ⟨fun free => ⟨free.1, fun _ _ chosen => by cases chosen; exact free.2 rfl⟩,
      fun free => ⟨free.1, fun _ => free.2 letter original rfl⟩⟩

theorem nextGeneration_letter {letter : DeadLetterRow} {original : LifecycleCommand}
    (replayable : replayableCommand db request.originalEventId = some (letter, original)) :
    nextGeneration db request.originalEventId = letter.replayGeneration + 1 := by
  rw [nextGeneration, (replayableCommand_some replayable).1]
  rfl

/-- The evidence about a command is stored once. -/
theorem deadLetterCommand_new (host : Host) (fresh : Nat → Uuid) (now : Instant) (input : DeadLetterCommandInput)
    (new : db.receipt input.message.envelope.eventId input.delivery.replayGeneration = none)
    (placed : Placed db input.message.envelope.eventId input.delivery) :
    ∃ after, deadLetterCommand host db fresh input now = .ok (true, after) := by
  simp only [deadLetterCommand, insertCommandReceipt_new host input.message now (some now) new (placed new), bind,
    Except.bind]
  exact ⟨_, rfl⟩

theorem deadLetterCommand_known {input : DeadLetterCommandInput} {receipt : CommandReceipt}
    (known : db.receipt input.message.envelope.eventId input.delivery.replayGeneration = some receipt) :
    deadLetterCommand host db fresh input now = .ok (false, db) := by
  simp only [deadLetterCommand, insertCommandReceipt_known host input.message now (some now) known, bind, Except.bind]
  rfl

theorem bound_ok_iff {Answer : Type} {holds : Answer → Bool} {result : Except String (Answer × WorkflowDb)} {answer : Answer}
    {after : WorkflowDb} :
    bound delivery holds result = .ok (answer, after) ↔
      result = .ok (answer, after) ∧ delivery.replayGeneration ≤ maximumInteger ∧ holds answer = true := by
  cases result with
  | error message => simp [bound]
  | ok pair =>
    obtain ⟨given, db⟩ := pair
    by_cases out : maximumInteger < delivery.replayGeneration
    · simp [bound, out, Nat.not_le.mpr out]
    · cases held : holds given with
      | true =>
        simp only [bound, if_neg out, held, if_pos, Except.ok.injEq, Prod.mk.injEq]
        constructor
        · rintro ⟨rfl, rfl⟩
          exact ⟨⟨rfl, rfl⟩, Nat.not_lt.mp out, held⟩
        · exact fun same => same.1
      | false =>
        simp only [bound, if_neg out, held, Bool.false_eq_true, if_false, Except.ok.injEq, Prod.mk.injEq]
        constructor
        · intro impossible
          cases impossible
        · rintro ⟨⟨rfl, rfl⟩, -, impossible⟩
          rw [held] at impossible
          cases impossible

/-- A transaction ends well when its values are held. -/
theorem bound_bind_ok {Answer : Type} {holds : Answer → Bool} {result : Except String (Answer × WorkflowDb)}
    {rest : Answer × WorkflowDb → Except HandlerError (Outcome × WorkflowDb)}
    (total : ∀ pair, ∃ settled, rest pair = .ok settled) :
    (∃ settled, (bound delivery holds result >>= rest) = .ok settled) ↔
      ∃ answer after, result = .ok (answer, after) ∧ delivery.replayGeneration ≤ maximumInteger ∧
        holds answer = true := by
  constructor
  · rintro ⟨settled, ended⟩
    obtain ⟨⟨answer, after⟩, passed, -⟩ := bind_ok ended
    exact ⟨answer, after, bound_ok_iff.mp passed⟩
  · rintro ⟨answer, after, passed⟩
    rw [bound_ok_iff.mpr passed]
    exact total (answer, after)

end

/-! ### What the consumer does with a record -/

section
variable {host : Host} {db : WorkflowDb} {record : CommandRecord} {draws : Draws} {command : LifecycleCommand}
  {request : ProvisioningReplayRequested}

/-- A command is disposed of, exactly when the columns hold what it writes. -/
theorem handle_command (narrowed : ingress (contractValue record.value) = .ok (.command command))
    (placed : Placed db command.eventId record.delivery) (validated : Validated db) :
    (∃ settled, handle host record draws db = .ok settled) ↔
      record.delivery.replayGeneration ≤ maximumInteger ∧ Writable host db record (.ok (.command command)) := by
  have admits : (∃ settled, handle host record draws db = .ok settled) ↔
      ∃ admission after, admitCommand host db draws.fresh command record.delivery draws.now = .ok (admission, after) ∧
        record.delivery.replayGeneration ≤ maximumInteger ∧
        (decide (admission ≠ .accepted) || isStorable record.value) = true := by
    simp only [handle, narrowed]
    refine bound_bind_ok fun pair => ?_
    obtain ⟨admission, after⟩ := pair
    cases admission with
    | accepted => exact ⟨_, rfl⟩
    | duplicate => exact ⟨_, rfl⟩
    | rejected => exact ⟨_, rfl⟩
  rw [admits]
  by_cases opens : Opens host db command record.delivery
  · constructor
    · rintro ⟨admission, after, admitted, fits, holds⟩
      obtain ⟨rfl, unused⟩ := admitCommand_unused opens admitted
      exact ⟨fits, fun _ => ⟨by simpa using holds, unused⟩⟩
    · rintro ⟨fits, writable⟩
      obtain ⟨storable, unused⟩ := writable opens
      obtain ⟨after, admitted⟩ := admitCommand_opens draws.fresh draws.now opens placed validated unused
      exact ⟨.accepted, after, admitted, fits, by simp [storable]⟩
  · obtain ⟨admission, after, admitted, other⟩ := admitCommand_closed draws.fresh draws.now opens placed validated
    constructor
    · rintro ⟨_, _, _, fits, _⟩
      exact ⟨fits, fun impossible => absurd impossible opens⟩
    · rintro ⟨fits, -⟩
      exact ⟨admission, after, admitted, fits, by simp [other]⟩

/-- A replay request is disposed of, exactly when its decision can be kept. -/
theorem handle_replayRequest (narrowed : ingress (contractValue record.value) = .ok (.replayRequest request))
    (placed : Placed db request.eventId record.delivery) :
    (∃ settled, handle host record draws db = .ok settled) ↔
      record.delivery.replayGeneration ≤ maximumInteger ∧ Writable host db record (.ok (.replayRequest request)) := by
  have admits : (∃ settled, handle host record draws db = .ok settled) ↔
      ∃ admission after,
        admitReplayRequest host db draws.fresh request record.delivery draws.now = .ok (admission, after) ∧
        record.delivery.replayGeneration ≤ maximumInteger ∧
        (decide (admission = .duplicate) || (isStorable record.value &&
          (decide (admission = .rejected) || decide (nextGeneration db request.originalEventId ≤ maximumInteger)))) =
            true := by
    simp only [handle, narrowed]
    exact bound_bind_ok fun pair => ⟨_, rfl⟩
  rw [admits]
  cases seen : db.receipt request.eventId record.delivery.replayGeneration with
  | some receipt =>
    constructor
    · rintro ⟨_, _, _, fits, _⟩
      exact ⟨fits, fun new => by rw [seen] at new; cases new⟩
    · rintro ⟨fits, -⟩
      exact ⟨.duplicate, db, admitReplayRequest_known seen, fits, rfl⟩
  | none =>
    have decides := admitReplayRequest_new host draws.fresh draws.now seen placed
    constructor
    · rintro ⟨admission, after, admitted, fits, holds⟩
      obtain ⟨identities, generations⟩ := decides.mp ⟨admission, after, admitted⟩
      refine ⟨fits, fun _ => ?_⟩
      cases admitReplayRequest_cases admitted with
      | duplicate known => simp [seen] at known
      | rejected generation _ refused =>
        exact ⟨by simpa using holds, identities, fun _ _ impossible => by rw [refused] at impossible; cases impossible⟩
      | accepted letter original _ replayable =>
        simp only [Bool.or_eq_true, Bool.and_eq_true, decide_eq_true_eq, reduceCtorEq, false_or] at holds
        refine ⟨holds.1, identities, fun other command chosen => ⟨?_, generations other command chosen⟩⟩
        have next := holds.2
        rw [nextGeneration_letter chosen] at next
        exact next
    · rintro ⟨fits, writable⟩
      obtain ⟨storable, identities, generations⟩ := writable seen
      obtain ⟨admission, after, admitted⟩ :=
        decides.mpr ⟨identities, fun letter original chosen => (generations letter original chosen).2⟩
      refine ⟨admission, after, admitted, fits, ?_⟩
      cases admitReplayRequest_cases admitted with
      | duplicate => rfl
      | rejected => simp [storable]
      | accepted letter original _ replayable =>
        have next := (generations letter original replayable).1
        simp only [storable, nextGeneration_letter replayable, Bool.true_and, Bool.or_eq_true, decide_eq_true_eq]
        exact .inr (.inr next)

/-- A refused record is disposed of, exactly when the columns hold its evidence. -/
theorem exhausted_permanent {delivered : DeliveredMessage} {code : String} {attempts : Nat}
    (enveloped : record.envelope = some delivered) (same : isStorable record.value = delivered.isStorable)
    (placed : Placed db delivered.message.envelope.eventId record.delivery) {refused : HandlerError} :
    (∃ settled, exhausted host record (.permanent code) attempts draws db = .ok settled) ↔
      record.delivery.replayGeneration ≤ maximumInteger ∧ Writable host db record (.error refused) := by
  simp only [exhausted, enveloped]
  refine (bound_bind_ok fun pair => ⟨_, rfl⟩).trans ?_
  cases seen : db.receipt delivered.message.envelope.eventId record.delivery.replayGeneration with
  | some receipt =>
    constructor
    · rintro ⟨_, _, _, fits, _⟩
      refine ⟨fits, fun other chosen new => ?_⟩
      rw [enveloped] at chosen
      cases chosen
      rw [seen] at new
      cases new
    · rintro ⟨fits, -⟩
      exact ⟨false, db, deadLetterCommand_known seen, fits, rfl⟩
  | none =>
    constructor
    · rintro ⟨stored, after, written, fits, holds⟩
      obtain ⟨last, again⟩ := deadLetterCommand_new host draws.fresh draws.now (evidence record delivered attempts code) seen placed
      rw [again] at written
      cases written
      simp only [Bool.not_true, Bool.false_or, Bool.and_eq_true, decide_eq_true_eq] at holds
      refine ⟨fits, fun other chosen _ => ?_⟩
      rw [enveloped] at chosen
      cases chosen
      exact ⟨same.trans holds.1, holds.2⟩
    · rintro ⟨fits, writable⟩
      obtain ⟨storable, version⟩ := writable delivered enveloped seen
      obtain ⟨after, written⟩ := deadLetterCommand_new host draws.fresh draws.now (evidence record delivered attempts code) seen placed
      refine ⟨true, after, written, fits, ?_⟩
      simp [same.symm.trans storable, version]

/-- A narrowed record fails for the sake of the database only. -/
theorem handle_other {narrowed : Ingress} {error : HandlerError} (read : ingress (contractValue record.value) = .ok narrowed)
    (failed : handle host record draws db = .error error) : ∃ message, error = .other message := by
  have others {Answer : Type} {holds : Answer → Bool} {result : Except String (Answer × WorkflowDb)}
      {rest : Answer × WorkflowDb → Except HandlerError (Outcome × WorkflowDb)}
      (total : ∀ pair, ∃ settled, rest pair = .ok settled)
      (refused : (bound record.delivery holds result >>= rest) = .error error) : ∃ message, error = .other message := by
    cases ended : bound record.delivery holds result with
    | ok pair =>
      obtain ⟨settled, same⟩ := total pair
      rw [ended] at refused
      cases same.symm.trans refused
    | error thrown =>
      rw [ended] at refused
      cases refused
      unfold bound at ended
      split at ended
      next => cases ended; exact ⟨_, rfl⟩
      next =>
        split at ended
        next => cases ended; exact ⟨_, rfl⟩
        next =>
          split at ended
          next => cases ended
          next => cases ended; exact ⟨_, rfl⟩
  simp only [handle, read] at failed
  cases narrowed with
  | command command =>
    refine others (fun pair => ?_) failed
    obtain ⟨admission, after⟩ := pair
    cases admission with
    | accepted => exact ⟨_, rfl⟩
    | duplicate => exact ⟨_, rfl⟩
    | rejected => exact ⟨_, rfl⟩
  | replayRequest request => exact others (fun pair => ⟨_, rfl⟩) failed

end

/-! ### A record in any state -/

section
variable {host : Host} {db : WorkflowDb} {maximumAttempts : Nat} {log : Position → Option (KafkaMessage DeliveredMessage)}
  {position : Position} {source : KafkaMessage DeliveredMessage}

/-- The tables have room for the receipt of a record. -/
def Receivable (db : WorkflowDb) (record : CommandRecord) : Prop :=
  ∀ delivered, record.envelope = some delivered → Placed db delivered.message.envelope.eventId record.delivery

/-- A record that the columns hold has an outcome for every failure. -/
theorem recovers_of_fits (receivable : Receivable db (record position source)) (validated : Validated db)
    (fits : Fits host db (record position source)) :
    Recovers (consumer host maximumAttempts log).options (record position source) db := by
  intro error draws later refused
  cases sound : (record position source).decodeError with
  | some code =>
    simp only [attempt, sound] at refused
    cases refused
    exact ⟨_, rfl⟩
  | none =>
    simp only [attempt, sound] at refused
    obtain ⟨delivered, enveloped⟩ := record_enveloped sound
    obtain ⟨generation, writable⟩ := fits sound
    have placed := receivable delivered enveloped
    rcases ingress_cases (decodedCommand_record enveloped) with ⟨narrowed, read, same, -⟩ | ⟨code, read⟩
    · rw [read] at writable
      rw [same] at placed
      have handled : ∃ settled, handle host (record position source) draws db = .ok settled := by
        cases narrowed with
        | command command => exact (handle_command read placed validated).mpr ⟨generation, writable⟩
        | replayRequest request => exact (handle_replayRequest read placed).mpr ⟨generation, writable⟩
      obtain ⟨settled, handled⟩ := handled
      cases handled.symm.trans refused
    · have failed : handle host (record position source) draws db = .error (.permanent code) := by
        simp only [handle, read]
        rfl
      cases failed.symm.trans refused
      rw [read] at writable
      have same : isStorable (record position source).value = delivered.isStorable := by rw [record_value enveloped]; rfl
      exact (exhausted_permanent enveloped same placed).mpr ⟨generation, writable⟩

/-- A record that ends with an outcome is held by the columns. -/
theorem fits_of_ends (receivable : Receivable db (record position source)) (validated : Validated db)
    (ends : Ends (consumer host maximumAttempts log).options (record position source) db) :
    Fits host db (record position source) := by
  intro sound
  obtain ⟨delivered, enveloped⟩ := record_enveloped sound
  have placed := receivable delivered enveloped
  simp only [Ends, attempt, sound] at ends
  rcases ingress_cases (decodedCommand_record enveloped) with ⟨narrowed, read, same, -⟩ | ⟨code, read⟩
  · rw [read]
    rw [same] at placed
    have handled : ∃ draws settled, handle host (record position source) draws db = .ok settled := by
      rcases ends with handled | ⟨error, draws, later, settled, refused, ended⟩
      · exact handled
      · obtain ⟨message, rfl⟩ := handle_other read refused
        cases ended
    obtain ⟨draws, handled⟩ := handled
    cases narrowed with
    | command command => exact (handle_command read placed validated).mp handled
    | replayRequest request => exact (handle_replayRequest read placed).mp handled
  · have failed (draws : Draws) : handle host (record position source) draws db = .error (.permanent code) := by
      simp only [handle, read]
      rfl
    have same : isStorable (record position source).value = delivered.isStorable := by rw [record_value enveloped]; rfl
    rw [read]
    rcases ends with ⟨draws, settled, handled⟩ | ⟨error, draws, later, settled, refused, ended⟩
    · cases (failed draws).symm.trans handled
    · cases (failed draws).symm.trans refused
      exact (exhausted_permanent enveloped same placed).mp ⟨settled, ended⟩

end

/-! ### Runs -/

/-- What a transaction adds to the receipts and to the replay requests: a receipt
    of the message that it was given, and a request that passed its validator. -/
structure Adds (db after : WorkflowDb) (message : CommandMessage) (delivery : MessageDeliveryIdentity) : Prop where
  receipts : ∀ r ∈ after.commandReceipts,
    (∃ old ∈ db.commandReceipts,
      r.delivery = old.delivery ∧ r.eventId = old.eventId ∧ r.replayGeneration = old.replayGeneration) ∨
      (r.delivery = delivery ∧ r.eventId = message.envelope.eventId ∧ r.replayGeneration = delivery.replayGeneration)
  requests : ∀ r ∈ after.replayRequests, (∃ old ∈ db.replayRequests, r.requestPayload = old.requestPayload) ∨
    isProvisioningReplayRequested r.requestPayload = true

section
variable {host : Host} {db after : WorkflowDb} {command : LifecycleCommand} {request : ProvisioningReplayRequested}
  {message : CommandMessage} {delivery : MessageDeliveryIdentity} {fresh : Nat → Uuid} {now : Instant}

theorem Adds.receipt {completedAt : Option Instant}
    (receipts : after.commandReceipts = db.commandReceipts ++ [receiptOf host message delivery now completedAt])
    (requests : ∀ r ∈ after.replayRequests, (∃ old ∈ db.replayRequests, r.requestPayload = old.requestPayload) ∨
      isProvisioningReplayRequested r.requestPayload = true) : Adds db after message delivery where
  receipts r member := by
    rw [receipts] at member
    rcases List.mem_append.mp member with old | new
    · exact .inl ⟨r, old, rfl, rfl, rfl⟩
    · rw [List.mem_singleton.mp new]
      exact .inr ⟨rfl, rfl, rfl⟩
  requests := requests

theorem sameRequests (same : after.replayRequests = db.replayRequests) :
    ∀ r ∈ after.replayRequests, (∃ old ∈ db.replayRequests, r.requestPayload = old.requestPayload) ∨
      isProvisioningReplayRequested r.requestPayload = true :=
  fun r member => .inl ⟨r, same ▸ member, rfl⟩

theorem Adds.same (receipts : after.commandReceipts = db.commandReceipts)
    (requests : after.replayRequests = db.replayRequests) : Adds db after message delivery :=
  ⟨fun r member => .inl ⟨r, receipts ▸ member, rfl, rfl, rfl⟩, sameRequests requests⟩

theorem adds_admitCommand {admission : CommandAdmission}
    (admitted : admitCommand host db fresh command delivery now = .ok (admission, after)) :
    Adds db after (.lifecycle command) delivery := by
  have rejected (payloadHash : String) (failureCode : CommandRejectionCode) :
      Adds db (rejectReplayCommand db delivery payloadHash failureCode now) (.lifecycle command) delivery := by
    obtain ⟨records, same⟩ := rejectReplayCommand_same db delivery payloadHash failureCode now
    rw [same]
    exact .same rfl rfl
  have consumed {inbox : WorkflowDb} (authorization : ReplayRequestRow) (requests : inbox.replayRequests = db.replayRequests) :
      ∀ r ∈ (consumeAuthorization inbox fresh authorization command delivery now).replayRequests,
        (∃ old ∈ db.replayRequests, r.requestPayload = old.requestPayload) ∨
          isProvisioningReplayRequested r.requestPayload = true := by
    intro r member
    obtain ⟨old, present, ⟨-, rfl⟩ | ⟨-, rfl⟩⟩ := mem_update.mp member
    · exact .inl ⟨old, requests ▸ present, rfl⟩
    · exact .inl ⟨r, requests ▸ present, rfl⟩
  cases admitCommand_cases admitted with
  | duplicate => exact .same rfl rfl
  | noted => exact .receipt rfl (sameRequests rfl)
  | started => exact .receipt rfl (sameRequests rfl)
  | misidentified => exact rejected _ _
  | unauthorized => exact rejected _ _
  | conflicting => exact rejected _ _
  | reopened authorization => exact .receipt rfl (consumed authorization rfl)
  | introduced authorization => exact .receipt rfl (consumed authorization rfl)

theorem adds_admitReplayRequest {admission : ReplayAdmission} (valid : isProvisioningReplayRequested request = true)
    (admitted : admitReplayRequest host db fresh request delivery now = .ok (admission, after)) :
    Adds db after (.replayRequest request) delivery := by
  have kept {row : ReplayRequestRow} (payload : row.requestPayload = request) :
      ∀ r ∈ db.replayRequests ++ [row], (∃ old ∈ db.replayRequests, r.requestPayload = old.requestPayload) ∨
        isProvisioningReplayRequested r.requestPayload = true := by
    intro r member
    rcases List.mem_append.mp member with old | new
    · exact .inl ⟨r, old, rfl⟩
    · rw [List.mem_singleton.mp new, payload]
      exact .inr valid
  cases admitReplayRequest_cases admitted with
  | duplicate => exact .same rfl rfl
  | rejected => exact .receipt rfl (kept rfl)
  | accepted => exact .receipt rfl (kept rfl)

theorem adds_deadLetterCommand {input : DeadLetterCommandInput} {stored : Bool}
    (written : deadLetterCommand host db fresh input now = .ok (stored, after)) :
    Adds db after input.message input.delivery := by
  rcases deadLetterCommand_cases written with ⟨-, rfl, -⟩ | ⟨-, -, rfl⟩
  · exact .same rfl rfl
  · exact .receipt (writeDeadLetter_receipts _ _ _) (sameRequests (writeDeadLetter_requests _ _ _))

/-- Receipts that at most were completed, and the same replay requests. -/
structure Completes (db after : WorkflowDb) : Prop where
  receipts : ∀ r ∈ after.commandReceipts, ∃ old ∈ db.commandReceipts,
    r.delivery = old.delivery ∧ r.eventId = old.eventId ∧ r.replayGeneration = old.replayGeneration
  requests : after.replayRequests = db.replayRequests

theorem Completes.same (receipts : after.commandReceipts = db.commandReceipts)
    (requests : after.replayRequests = db.replayRequests) : Completes db after :=
  ⟨fun r member => ⟨r, receipts ▸ member, rfl, rfl, rfl⟩, requests⟩

theorem completeReceipt_completes (row : WorkflowRow) : Completes db (completeReceipt db row now) := by
  refine ⟨fun r member => ?_, rfl⟩
  obtain ⟨old, present, ⟨-, rfl⟩ | ⟨-, rfl⟩⟩ := mem_update.mp member
  · exact ⟨old, present, rfl, rfl, rfl⟩
  · exact ⟨r, present, rfl, rfl, rfl⟩

theorem performCall_completes (call : WorkerCall) : Completes db (performCall call db) := by
  cases call with
  | claimNext workerId leaseSeconds action locked now =>
    simp only [performCall]
    split
    next claimed after ended =>
      obtain ⟨row, -, claim⟩ := claimNext_ok ended
      obtain ⟨leases, rfl⟩ := claim.frame
      exact .same rfl rfl
    next => exact .same rfl rfl
  | checkpoint draws input =>
    cases ended : checkpoint db draws.fresh input draws.now with
    | error => simp only [performCall, ended]; exact .same rfl rfl
    | ok after =>
      obtain ⟨row, lease, -, rfl⟩ := checkpoint_cases ended
      simp only [performCall, ended]
      exact .same rfl rfl
  | complete draws input =>
    cases ended : complete db draws.fresh input draws.now with
    | error => simp only [performCall, ended]; exact .same rfl rfl
    | ok after =>
      obtain ⟨row, lease, -, rfl⟩ := complete_cases ended
      simp only [performCall, ended]
      exact ⟨(completeReceipt_completes row).receipts, rfl⟩
  | deadLetterWorkflow draws input =>
    cases ended : deadLetterWorkflow db draws.fresh input draws.now with
    | error => simp only [performCall, ended]; exact .same rfl rfl
    | ok after =>
      obtain ⟨row, lease, -, rfl⟩ := deadLetterWorkflow_cases ended
      simp only [performCall, ended]
      exact ⟨(completeReceipt_completes row).receipts, rfl⟩

end

/-- Every receipt is one of a record of the log, and every replay request passed
    its validator. -/
structure Kept (log : Position → Option (KafkaMessage DeliveredMessage)) (db : WorkflowDb) : Prop where
  receipts : ∀ r ∈ db.commandReceipts, ∃ position source delivered, log position = some source ∧
    (record position source).envelope = some delivered ∧ r.delivery = (record position source).delivery ∧
    r.eventId = delivered.message.envelope.eventId ∧
    r.replayGeneration = (record position source).delivery.replayGeneration
  validated : Validated db

section
variable {host : Host} {db after : WorkflowDb} {maximumAttempts : Nat}
  {log : Position → Option (KafkaMessage DeliveredMessage)} {position : Position} {source : KafkaMessage DeliveredMessage}
  {delivered : DeliveredMessage} {outcome : Outcome} {draws : Draws}

theorem Kept.adds (kept : Kept log db) (logged : log position = some source)
    (enveloped : (record position source).envelope = some delivered)
    (adds : Adds db after delivered.message (record position source).delivery) : Kept log after where
  receipts r member := by
    rcases adds.receipts r member with ⟨old, present, delivery, event, generation⟩ | ⟨delivery, event, generation⟩
    · rw [delivery, event, generation]
      exact kept.receipts old present
    · exact ⟨position, source, delivered, logged, enveloped, delivery, event, generation⟩
  validated r member := by
    rcases adds.requests r member with ⟨old, present, same⟩ | valid
    · rw [same]
      exact kept.validated old present
    · exact valid

/-- A change that adds nothing. -/
theorem Kept.completes (kept : Kept log db) (completes : Completes db after) : Kept log after where
  receipts r member := by
    obtain ⟨old, present, delivery, event, generation⟩ := completes.receipts r member
    rw [delivery, event, generation]
    exact kept.receipts old present
  validated r member := kept.validated r (completes.requests ▸ member)

theorem quarantined_completes {record : CommandRecord} {failureCode : String} :
    Completes db (quarantined record failureCode draws db).2 := by
  simp only [quarantined, quarantineRecord]
  by_cases seen : (db.poisonRecords.any fun p => sameRecord p.delivery record.delivery) = true
  · rw [if_pos seen]
    exact .same rfl rfl
  · rw [if_neg seen]
    exact .same rfl rfl

theorem kept_handle (kept : Kept log db) (logged : log position = some source)
    (enveloped : (record position source).envelope = some delivered)
    (handled : handle host (record position source) draws db = .ok (outcome, after)) : Kept log after := by
  obtain ⟨narrowed, read, rest⟩ := bind_ok handled
  rcases ingress_cases (decodedCommand_record enveloped) with ⟨same, again, message, valid⟩ | ⟨code, refused⟩
  · cases read.symm.trans again
    cases narrowed with
    | command command =>
      obtain ⟨⟨admission, stored⟩, passed, done⟩ := bind_ok rest
      obtain ⟨admitted, -, -⟩ := bound_ok_iff.mp passed
      have last : stored = after := by cases admission <;> cases done <;> rfl
      rw [last] at admitted
      exact kept.adds logged enveloped (message ▸ adds_admitCommand admitted)
    | replayRequest request =>
      obtain ⟨⟨admission, stored⟩, passed, done⟩ := bind_ok rest
      obtain ⟨admitted, -, -⟩ := bound_ok_iff.mp passed
      cases done
      exact kept.adds logged enveloped (message ▸ adds_admitReplayRequest (valid request rfl) admitted)
  · cases read.symm.trans refused

theorem kept_exhausted {error : HandlerError} {attempts : Nat} (kept : Kept log db) (logged : log position = some source)
    (ended : exhausted host (record position source) error attempts draws db = .ok (outcome, after)) : Kept log after := by
  cases error with
  | other message => cases ended
  | decode code =>
    cases ended
    exact kept.completes quarantined_completes
  | permanent code =>
    cases enveloped : (record position source).envelope with
    | none =>
      simp only [exhausted, enveloped] at ended
      cases ended
      exact kept.completes quarantined_completes
    | some delivered =>
      simp only [exhausted, enveloped] at ended
      obtain ⟨⟨stored, last⟩, passed, done⟩ := bind_ok ended
      obtain ⟨written, -, -⟩ := bound_ok_iff.mp passed
      cases done
      exact kept.adds logged enveloped (adds_deadLetterCommand written)

theorem kept_run {allowed : State WorkflowDb WorkerCall → Action WorkerCall → Prop} {s : State WorkflowDb WorkerCall}
    (run : Reaches (next (consumer host maximumAttempts log)) allowed (initial {}) s) : Kept log s.db := by
  refine reaches_invariant (fun s => Kept log s.db) (fun s action t kept _ taken => ?_) run ⟨nofun, nofun⟩
  cases steps_next taken with
  | settled _ worker draws outcome _ settles =>
    cases settles with
    | handled source logged result =>
      cases sound : (record worker.position source).decodeError with
      | some code => simp only [attempt, sound] at result; cases result
      | none =>
        simp only [attempt, sound] at result
        obtain ⟨delivered, enveloped⟩ := record_enveloped sound
        exact kept_handle kept logged enveloped result
    | exhausted source error logged _ result => exact kept_exhausted kept logged result
  | requested call db =>
    rw [db]
    exact kept.completes (performCall_completes call)
  | committed _ _ _ db => rw [db]; exact kept
  | moved _ db => rw [db]; exact kept

/-- The coordinates of a record of the log are those of its own receipt. -/
theorem Kept.receivable (kept : Kept log db) (logged : log position = some source) :
    Receivable db (record position source) := by
  intro delivered enveloped new r member
  rw [Bool.eq_false_iff]
  intro clash
  obtain ⟨other, also, original, found, decoded, delivery, event, generation⟩ := kept.receipts r member
  have coordinates : other = position := by
    rw [delivery] at clash
    simp only [sameRecord, record, Bool.and_eq_true] at clash
    obtain ⟨topic, partition, offset⟩ := other
    obtain ⟨topic', partition', offset'⟩ := position
    simp only [Position.mk.injEq]
    exact ⟨of_decide_eq_true clash.1.1, of_decide_eq_true clash.1.2, of_decide_eq_true clash.2⟩
  subst coordinates
  cases found.symm.trans logged
  cases decoded.symm.trans enveloped
  exact find_none new r member (Prod.ext event generation)

/-- The record of a create command as the outbox publishes it. -/
def sampleSource (replayGeneration : Option String) : KafkaMessage DeliveredMessage where
  key := some sampleCreate.partitionKey
  value := .message ⟨.lifecycle sampleCreate, columnTexts (.lifecycle sampleCreate), fun _ member => member⟩
  sha256 := "hash"
  headers name :=
    if name = "replay-generation" then replayGeneration
    else [("event-id", sampleCreate.eventId), ("schema-name", "instance.create.requested"), ("schema-version", "1"),
      ("outbox-id", "00000000-0000-4000-8000-000000000009")].lookup name

/-- A topic with one record. -/
def sampleLog (source : KafkaMessage DeliveredMessage) (position : Position) : Option (KafkaMessage DeliveredMessage) :=
  if position = ⟨commandTopic, 0, 0⟩ then some source else none

/-- A record whose generation is no `integer` has no outcome, in any run. -/
theorem generation_unsettled {allowed : State WorkflowDb WorkerCall → Action WorkerCall → Prop}
    {s : State WorkflowDb WorkerCall} (run : Reaches (next (consumer host maximumAttempts log)) allowed (initial {}) s)
    (logged : log position = some source) (sound : (record position source).decodeError = none)
    (large : maximumInteger < (record position source).delivery.replayGeneration) : ¬ Settled s.history position := by
  obtain ⟨delivered, enveloped⟩ := record_enveloped sound
  have handles {draws : Draws} {db after : WorkflowDb} {outcome : Outcome} :
      handle host (record position source) draws db ≠ .ok (outcome, after) := by
    intro handled
    obtain ⟨narrowed, read, rest⟩ := bind_ok handled
    cases narrowed with
    | command command =>
      obtain ⟨pair, passed, -⟩ := bind_ok rest
      exact absurd (bound_ok_iff.mp passed).2.1 (Nat.not_le.mpr large)
    | replayRequest request =>
      obtain ⟨pair, passed, -⟩ := bind_ok rest
      exact absurd (bound_ok_iff.mp passed).2.1 (Nat.not_le.mpr large)
  have undecided {code : MessageDecodeErrorCode} {draws : Draws} {db : WorkflowDb} :
      handle host (record position source) draws db ≠ .error (.decode code) := by
    intro refused
    rcases ingress_cases (decodedCommand_record enveloped) with ⟨narrowed, read, -⟩ | ⟨other, read⟩
    · obtain ⟨message, impossible⟩ := handle_other read refused
      cases impossible
    · simp only [handle, read] at refused
      cases refused
  induction run with
  | refl => exact fun ⟨draws, outcome, member⟩ => absurd member List.not_mem_nil
  | tail prior last ih =>
    obtain ⟨action, -, taken⟩ := last
    have blamed := blamed_run prior
    rintro ⟨draws, outcome, member⟩
    cases steps_next taken with
    | settled _ worker draws' outcome' held settles history =>
      rw [history] at member
      rcases List.mem_append.mp member with old | new
      · exact ih ⟨draws, outcome, old⟩
      · cases List.mem_singleton.mp new
        cases settles with
        | handled also found result =>
          cases logged.symm.trans found
          simp only [attempt, sound] at result
          exact handles result
        | exhausted also error found spent result =>
          cases logged.symm.trans found
          cases error with
          | other message => cases result
          | decode code =>
            -- The attempts at a sound record do not fail in the codec.
            rcases blamed worker held (.decode code) spent with impossible | ⟨again, draws, db, also, refused⟩
            · cases impossible
            · cases logged.symm.trans also
              simp only [attempt, sound] at refused
              exact undecided refused
          | permanent code =>
            simp only [consumer, exhausted, enveloped] at result
            obtain ⟨pair, passed, -⟩ := bind_ok result
            exact absurd (bound_ok_iff.mp passed).2.1 (Nat.not_le.mpr large)
    | requested _ _ history =>
      rw [history] at member
      rcases List.mem_append.mp member with old | new
      · exact ih ⟨draws, outcome, old⟩
      · cases List.mem_singleton.mp new
    | committed _ _ _ _ history => rw [history] at member; exact ih ⟨draws, outcome, member⟩
    | moved _ _ history => rw [history] at member; exact ih ⟨draws, outcome, member⟩

end

end ControlPlane.CommandConsumer
