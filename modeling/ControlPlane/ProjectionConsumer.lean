import ControlPlane.AcceptanceRules
import ControlPlane.Acceptance
import ControlPlane.KafkaConsumer

/-!
The consumer that projects the events topic, the dead-letter topic and the
reconciliation topic. A record is narrowed to the contract of its topic and
applied with its receipt in one transaction; one that cannot be is quarantined,
with a receipt of the event that it carries.
-/
namespace ControlPlane.ProjectionConsumer
open ControlPlane.Tables ControlPlane.Domain ControlPlane.Commands ControlPlane.EventValidation ControlPlane.WorkflowSchema
open ControlPlane.ControlSchema ControlPlane.Transactions ControlPlane.Acceptance ControlPlane.ProjectionStore
open ControlPlane.AcceptanceRules ControlPlane.KafkaConsumer

def eventTopic : String := "provisioning.events.v1"

def dlqTopic : String := "provisioning.dlq.v1"

def reconciliationTopic : String := "reconciliation.events.v1"

/-- A message that has the envelope of an event: one with the data of a workflow
    event or of a dead letter, or any other, with the classification that its
    data may name. -/
inductive ProjectionMessage
  | workflow (event : WorkflowEvent)
  | deadLettered (event : ProvisioningDeadLettered)
  | other (schemaName : String) (envelope : Envelope) (classification : Option String)

namespace ProjectionMessage

def envelope : ProjectionMessage → Envelope
  | .workflow event => event.toEnvelope
  | .deadLettered event => event.toEnvelope
  | .other _ envelope _ => envelope

def schemaName : ProjectionMessage → String
  | .workflow event =>
    match event.data with
    | .progressed .. => "workflow.progressed"
    | .completed .. => "instance.mutation.completed"
    | .failed .. => "instance.mutation.failed"
    | .replayResolved .. => "provisioning.replay.resolved"
  | .deadLettered _ => "provisioning.dead_lettered"
  | .other schemaName _ _ => schemaName

def classification : ProjectionMessage → Option String
  | .other _ _ classification => classification
  | _ => none

end ProjectionMessage

instance : Enveloped ProjectionMessage := ⟨ProjectionMessage.envelope, ProjectionMessage.schemaName⟩

abbrev ProjectionRecord := IncomingKafkaRecord ProjectionMessage

/-! ### Narrowing -/

def decoded (value : RecordValue ProjectionMessage) : Except HandlerError ProjectionMessage :=
  match decodeEventEnvelope value with
  | .ok message => .ok message
  | .error code => .error (.decode code)

/-- Whether the projection accepts a workflow event. -/
def isSupported (event : WorkflowEvent) : Bool :=
  isWorkflowProgressed event || isInstanceMutationCompleted event || isInstanceMutationFailed event ||
    isProvisioningReplayResolved event

/-- Narrows the workflow event variants that the projection accepts. -/
def workflowEvent (record : ProjectionRecord) : Except HandlerError WorkflowEvent := do
  match ← decoded record.value with
  | .workflow event => if isSupported event then return event else throw (.permanent "PROJECTION_SCHEMA_UNSUPPORTED")
  | _ => throw (.permanent "PROJECTION_SCHEMA_UNSUPPORTED")

/-- Narrows the dead letter that is projected for administrators. -/
def deadLetterEvent (record : ProjectionRecord) : Except HandlerError ProvisioningDeadLettered := do
  match ← decoded record.value with
  | .deadLettered event =>
    if isProvisioningDeadLettered event then return event else throw (.permanent "DLQ_SCHEMA_UNSUPPORTED")
  | _ => throw (.permanent "DLQ_SCHEMA_UNSUPPORTED")

/-! ### Handling -/

/-- The outcome of a transaction of the store, whose errors are no fault of the record. -/
def stored (result : Except String (Bool × ControlDb)) : Except HandlerError (Outcome × ControlDb) :=
  match result with
  | .ok (fresh, db) => .ok (if fresh then .handled else .duplicate, db)
  | .error message => .error (.other message)

def handle (record : ProjectionRecord) (draws : Draws) (db : ControlDb) : Except HandlerError (Outcome × ControlDb) :=
  if record.delivery.topic = reconciliationTopic then do
    let message ← decoded record.value
    stored (applyDriftEvent db message.envelope message.classification record.delivery draws.now)
  else if record.delivery.topic = eventTopic then do
    let event ← workflowEvent record
    stored (applyWorkflowEvent db event record.delivery draws.now)
  else do
    let event ← deadLetterEvent record
    stored (applyDeadLetterEvent db event record.delivery draws.now)

/-- The code under which a record is quarantined, when its failure is its own. -/
def quarantineCode : HandlerError → Option String
  | .decode code => some code.text
  | .permanent code => some code
  | .other _ => none

def exhausted (record : ProjectionRecord) (error : HandlerError) (_attempts : Nat) (draws : Draws) (db : ControlDb) :
    Except HandlerError (Outcome × ControlDb) :=
  match quarantineCode error with
  | none => .error error
  | some failureCode =>
    match quarantineRecord db
        { delivery := record.delivery, eventId := record.envelope.map fun message => message.envelope.eventId,
          payloadHash := record.sha256, failureCode := failureCode,
          safeMessage := "The projection record could not be handled by this contract version." } draws.now with
    | .ok (inserted, db) => .ok (if inserted then .quarantined else .duplicate, db)
    | .error message => .error (.other message)

/-- A request to the API that the consumers run beside. -/
inductive ControlRequest
  | accept (draws : Draws) (request : Request) (requestHash : String)
  | administer (catalog : Catalog)

/-- A transaction that throws changes nothing. -/
def performRequest (host : Host) : ControlRequest → ControlDb → ControlDb
  | .accept draws request requestHash, db =>
    match atomically (accept host draws requestHash request) db with
    | .ok (_, after) => after
    | .error _ => db
  | .administer catalog, db => { db with toCatalog := catalog }

/-- The consumers of the control API. -/
def consumers (host : Host) (maximumAttempts : Nat) (log : Position → Option (KafkaMessage ProjectionMessage)) :
    Setting ProjectionMessage ControlDb ControlRequest where
  options := ⟨maximumAttempts, handle, exhausted⟩
  log := log
  perform := performRequest host

/-! ### What a record does -/

/-- The event that a record of a topic carries. -/
inductive ProjectedEvent
  | workflow (event : WorkflowEvent)
  | deadLettered (event : ProvisioningDeadLettered)
  | drift (event : Envelope) (classification : Option String)

namespace ProjectedEvent

def consumer : ProjectedEvent → ControlSchema.ProjectionConsumer
  | .workflow _ => .events
  | .deadLettered _ => .deadLetters
  | .drift _ _ => .reconciliation

def eventId : ProjectedEvent → Uuid
  | .workflow event => event.eventId
  | .deadLettered event => event.eventId
  | .drift event _ => event.eventId

end ProjectedEvent

/-- Narrows a record to the contract of its topic. -/
def narrowed (record : ProjectionRecord) : Except HandlerError ProjectedEvent :=
  if record.delivery.topic = reconciliationTopic then do
    let message ← decoded record.value
    return .drift message.envelope message.classification
  else if record.delivery.topic = eventTopic then do return .workflow (← workflowEvent record)
  else do return .deadLettered (← deadLetterEvent record)

/-- What an event makes of the tables, whatever was received before. -/
def project (db : ControlDb) : ProjectedEvent → Except String ControlDb
  | .workflow event => applyEvent db event
  | .deadLettered event => .ok { db with deadLetterDocuments := lettered event db.deadLetterDocuments }
  | .drift event classification =>
    .ok (match classification.filter (· ≠ "") with
      | none => db
      | some drift =>
        { db with
          instanceDocuments := update (fun d : InstanceView => d.id = event.aggregateId)
            (fun d => { d with drift := drift, lastReconciledAt := some event.occurredAt, updatedAt := event.occurredAt })
            db.instanceDocuments })

/-- The tables with the receipt of an event. -/
def received (db : ControlDb) (event : ProjectedEvent) (delivery : MessageDeliveryIdentity) (now : Instant) : ControlDb :=
  { db with eventReceipts := db.eventReceipts ++ [⟨event.consumer, event.eventId, delivery, now⟩] }

section
variable {record : ProjectionRecord} {draws : Draws} {db after : ControlDb} {outcome : Outcome} {event : ProjectedEvent}

/-- A message is decoded to itself. -/
theorem decoded_ok {message found : ProjectionMessage} (read : decoded (.message message) = .ok found) : found = message := by
  simp only [decoded, decodeEventEnvelope] at read
  split at read
  next valid sound =>
    cases read
    split at sound <;> cases sound
    rfl
  next => cases read

theorem workflowEvent_ok {found narrowed : WorkflowEvent} (carried : record.value = .message (.workflow found))
    (read : workflowEvent record = .ok narrowed) : narrowed = found := by
  obtain ⟨message, value, rest⟩ := bind_ok read
  rw [carried] at value
  rw [decoded_ok value] at rest
  dsimp only at rest
  split at rest <;> cases rest
  rfl

/-- The projection is given supported workflow events only. -/
theorem narrowed_supported {narrowedTo : WorkflowEvent} (narrows : narrowed record = .ok (.workflow narrowedTo)) :
    isSupported narrowedTo = true := by
  simp only [narrowed] at narrows
  split at narrows
  next => obtain ⟨_, -, done⟩ := bind_ok narrows; cases done
  next =>
    split at narrows
    next =>
      obtain ⟨event, read, done⟩ := bind_ok narrows
      cases done
      obtain ⟨message, -, rest⟩ := bind_ok read
      cases message with
      | workflow found =>
        by_cases supported : isSupported found = true
        · simp only [supported, if_true] at rest
          cases rest
          exact supported
        · simp only [supported] at rest
          cases rest
      | deadLettered _ => cases rest
      | other _ _ _ => cases rest
    next => obtain ⟨_, -, done⟩ := bind_ok narrows; cases done

theorem deadLetterEvent_ok {found narrowed : ProvisioningDeadLettered}
    (carried : record.value = .message (.deadLettered found)) (read : deadLetterEvent record = .ok narrowed) :
    narrowed = found := by
  obtain ⟨message, value, rest⟩ := bind_ok read
  rw [carried] at value
  rw [decoded_ok value] at rest
  dsimp only at rest
  split at rest <;> cases rest
  rfl

theorem stored_ok {result : Except String (Bool × ControlDb)} (ended : stored result = .ok (outcome, after)) :
    ∃ fresh, result = .ok (fresh, after) ∧ outcome = if fresh then .handled else .duplicate := by
  cases result with
  | error => cases ended
  | ok pair => cases ended; exact ⟨pair.1, rfl, rfl⟩

/-- A finding is a duplicate, or is projected with its receipt. -/
theorem applyDriftEvent_cases {drift : Envelope} {classification : Option String} {delivery : MessageDeliveryIdentity}
    {now : Instant} {fresh : Bool}
    (applied : applyDriftEvent db drift classification delivery now = .ok (fresh, after)) :
    (fresh = false ∧ after = db ∧ Seen db .reconciliation drift.eventId delivery.replayGeneration) ∨
      (fresh = true ∧ ¬ Seen db .reconciliation drift.eventId delivery.replayGeneration ∧
        project (received db (.drift drift classification) delivery now) (.drift drift classification) = .ok after) := by
  obtain ⟨inbox, inserted, rest⟩ := bind_ok applied
  rcases insertReceipt_ok inserted with ⟨rfl, seen⟩ | ⟨unseen, rfl⟩
  · cases rest; exact .inl ⟨rfl, rfl, seen⟩
  · refine .inr ?_
    simp only [project, received]
    cases found : classification.filter (· ≠ "") with
    | none => simp only [found] at rest; cases rest; exact ⟨rfl, unseen, rfl⟩
    | some drift => simp only [found] at rest; cases rest; exact ⟨rfl, unseen, rfl⟩

/-- A record that is handled is a duplicate, or its event is projected with its receipt. -/
theorem handle_cases (handled : handle record draws db = .ok (outcome, after)) :
    ∃ event, narrowed record = .ok event ∧
      ((outcome = .duplicate ∧ after = db ∧ Seen db event.consumer event.eventId record.delivery.replayGeneration) ∨
        (outcome = .handled ∧ ¬ Seen db event.consumer event.eventId record.delivery.replayGeneration ∧
          project (received db event record.delivery draws.now) event = .ok after)) := by
  simp only [handle, narrowed] at handled ⊢
  split at handled
  next reconciles =>
    obtain ⟨message, read, rest⟩ := bind_ok handled
    obtain ⟨fresh, applied, rfl⟩ := stored_ok rest
    refine ⟨.drift message.envelope message.classification, by rw [if_pos reconciles, read]; rfl, ?_⟩
    rcases applyDriftEvent_cases applied with ⟨rfl, same, seen⟩ | ⟨rfl, unseen, projected⟩
    · exact .inl ⟨rfl, same, seen⟩
    · exact .inr ⟨rfl, unseen, projected⟩
  next other =>
    split at handled
    next events =>
      obtain ⟨event, read, rest⟩ := bind_ok handled
      obtain ⟨fresh, applied, rfl⟩ := stored_ok rest
      refine ⟨.workflow event, by rw [if_neg other, if_pos events, read]; rfl, ?_⟩
      rcases applyWorkflowEvent_cases applied with ⟨rfl, same, seen⟩ | ⟨rfl, unseen, projected⟩
      · exact .inl ⟨rfl, same, seen⟩
      · exact .inr ⟨rfl, unseen, projected⟩
    next letters =>
      obtain ⟨event, read, rest⟩ := bind_ok handled
      obtain ⟨fresh, applied, rfl⟩ := stored_ok rest
      refine ⟨.deadLettered event, by rw [if_neg other, if_neg letters, read]; rfl, ?_⟩
      rcases applyDeadLetterEvent_cases applied with ⟨rfl, same, seen⟩ | ⟨rfl, unseen, same⟩
      · exact .inl ⟨rfl, same, seen⟩
      · exact .inr ⟨rfl, unseen, by rw [same]; rfl⟩

/-- Narrowing is all of a record that can be refused for its own sake. -/
theorem handle_refused {error : HandlerError} (refused : handle record draws db = .error error)
    (own : quarantineCode error ≠ none) : narrowed record = .error error := by
  have storing {result : Except String (Bool × ControlDb)} (failed : stored result = .error error) : False := by
    cases result with
    | ok _ => cases failed
    | error _ => cases failed; exact own rfl
  simp only [handle, narrowed] at refused ⊢
  split at refused
  next reconciles =>
    rw [if_pos reconciles]
    cases read : decoded record.value with
    | error code => rw [read] at refused; cases refused; rfl
    | ok message => rw [read] at refused; exact (storing refused).elim
  next other =>
    rw [if_neg other]
    split at refused
    next events =>
      rw [if_pos events]
      cases read : workflowEvent record with
      | error code => rw [read] at refused; cases refused; rfl
      | ok event => rw [read] at refused; exact (storing refused).elim
    next letters =>
      rw [if_neg letters]
      cases read : deadLetterEvent record with
      | error code => rw [read] at refused; cases refused; rfl
      | ok event => rw [read] at refused; exact (storing refused).elim

/-- An event that has a receipt is passed over. -/
theorem handle_seen (read : narrowed record = .ok event)
    (seen : Seen db event.consumer event.eventId record.delivery.replayGeneration) (draws : Draws) :
    handle record draws db = .ok (.duplicate, db) := by
  have inserted {consumerName : ControlSchema.ProjectionConsumer} {eventId : Uuid}
      (seen : Seen db consumerName eventId record.delivery.replayGeneration) :
      insertReceipt db consumerName eventId record.delivery draws.now = .ok none := by
    obtain ⟨r, member, consumer, id, generation⟩ := seen
    rw [insertReceipt, if_pos (List.any_eq_true.mpr ⟨r, member, by simp [consumer, id, generation]⟩)]
    rfl
  simp only [handle, narrowed] at read ⊢
  split at read
  next reconciles =>
    obtain ⟨message, decodes, rest⟩ := bind_ok read
    cases rest
    have passed : insertReceipt db .reconciliation message.envelope.eventId record.delivery draws.now = .ok none :=
      inserted seen
    rw [if_pos reconciles, decodes]
    simp only [bind, Except.bind, applyDriftEvent, passed]
    rfl
  next other =>
    rw [if_neg other]
    split at read
    next events =>
      obtain ⟨event, decodes, rest⟩ := bind_ok read
      cases rest
      have passed : insertReceipt db .events event.eventId record.delivery draws.now = .ok none := inserted seen
      rw [if_pos events, decodes]
      simp only [bind, Except.bind, applyWorkflowEvent, passed]
      rfl
    next letters =>
      obtain ⟨event, decodes, rest⟩ := bind_ok read
      cases rest
      have passed : insertReceipt db .deadLetters event.eventId record.delivery draws.now = .ok none := inserted seen
      rw [if_neg letters, decodes]
      simp only [bind, Except.bind, applyDeadLetterEvent, passed]
      rfl

/-- The projection of an event leaves the receipts. -/
theorem project_receipts (projected : project db event = .ok after) : after.eventReceipts = db.eventReceipts := by
  cases event with
  | workflow event =>
    cases applyEvent_applied projected with
    | documented _ _ _ _ _ _ same => rw [same]
    | resolved _ _ _ _ _ _ _ _ same => rw [same]
  | deadLettered event => cases projected; rfl
  | drift event classification =>
    simp only [project] at projected
    cases projected
    split <;> rfl

end

/-! ### What a quarantine does -/

section
variable {record : ProjectionRecord} {draws : Draws} {db after : ControlDb} {outcome : Outcome} {error : HandlerError}
  {attempts : Nat}

/-- A quarantined record leaves a receipt of the event that its envelope names. -/
theorem quarantineRecord_receipts {input : QuarantineInput} {now : Instant} {inserted : Bool}
    (quarantined : quarantineRecord db input now = .ok (inserted, after)) :
    match input.eventId.filter (· ≠ "") with
    | none => after.eventReceipts = db.eventReceipts
    | some eventId =>
      let consumerName := quarantineConsumer input.delivery
      (Seen db consumerName eventId input.delivery.replayGeneration ∧ after.eventReceipts = db.eventReceipts) ∨
        after.eventReceipts = db.eventReceipts ++ [⟨consumerName, eventId, input.delivery, now⟩] := by
  have receipts : ((insertPoison db (quarantineConsumer input.delivery) input now).getD db).eventReceipts =
      db.eventReceipts := by
    unfold insertPoison
    split <;> rfl
  simp only [quarantineRecord] at quarantined
  cases named : input.eventId.filter (· ≠ "") with
  | none =>
    simp only [named] at quarantined
    cases quarantined
    exact receipts
  | some eventId =>
    simp only [named] at quarantined
    obtain ⟨inbox, received, rest⟩ := bind_ok quarantined
    cases rest
    rcases insertReceipt_ok received with ⟨rfl, seen⟩ | ⟨-, rfl⟩
    · rw [Seen, receipts] at seen
      exact .inl ⟨seen, receipts⟩
    · exact .inr (by rw [← receipts]; rfl)

/-- An exhausted record is quarantined for its own failure. -/
theorem exhausted_cases (ended : exhausted record error attempts draws db = .ok (outcome, after)) :
    quarantineCode error ≠ none ∧ outcome ≠ .handled ∧ ∃ input inserted, input.delivery = record.delivery ∧
      input.eventId = (record.envelope.map fun message => message.envelope.eventId) ∧
      quarantineRecord db input draws.now = .ok (inserted, after) := by
  unfold exhausted at ended
  split at ended
  next => cases ended
  next failureCode own =>
    refine ⟨by rw [own]; exact Option.some_ne_none failureCode, ?_⟩
    split at ended
    next inserted db quarantined =>
      cases ended
      refine ⟨?_, _, inserted, rfl, rfl, quarantined⟩
      cases inserted <;> decide
    next => cases ended

end

/-! ### Sample records -/

/-- The record of a message as the outbox publishes it. -/
def sampleMessage (message : ProjectionMessage) : KafkaMessage ProjectionMessage where
  key := some message.envelope.partitionKey
  value := .message message
  sha256 := "hash"
  headers name := [("event-id", message.envelope.eventId), ("schema-name", message.schemaName),
    ("schema-version", toString message.envelope.schemaVersion),
    ("outbox-id", "00000000-0000-4000-8000-000000000009")].lookup name

/-- The first partition of the events topic. -/
def sampleTopic (messages : List (KafkaMessage ProjectionMessage)) (position : Position) :
    Option (KafkaMessage ProjectionMessage) :=
  if position.topic = eventTopic ∧ position.partition = 0 then messages[position.offset]? else none

end ControlPlane.ProjectionConsumer
