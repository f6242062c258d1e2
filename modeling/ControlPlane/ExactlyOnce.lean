import ControlPlane.Deduplication
import ControlPlane.Lifecycle
import ControlPlane.ProjectionConsumer

/-!
Projection over topics that are delivered at least once. Whatever is redelivered,
and wherever a consumer crashes, the tables are those that the first delivery of
each event makes, in the order in which the first deliveries were committed.
-/
namespace ControlPlane.ExactlyOnce
open ControlPlane.Runs ControlPlane.Deduplication ControlPlane.Domain ControlPlane.Commands ControlPlane.ControlSchema
open ControlPlane.Transactions ControlPlane.Acceptance ControlPlane.AcceptanceRules ControlPlane.KafkaConsumer
open ControlPlane.ProjectionConsumer ControlPlane.EventValidation

abbrev Log := Position → Option (KafkaMessage ProjectionMessage)

abbrev Committed := Entry ControlRequest

/-- The event at a position of the topics. -/
def eventAt (log : Log) (position : Position) : Option ProjectedEvent :=
  (log position).bind fun message => (narrowed (record position message)).toOption

/-- The identity of a delivery. -/
def deliveryAt (log : Log) (position : Position) : Option MessageDeliveryIdentity :=
  (log position).map fun message => (record position message).delivery

/-- Every record of the topics carries an event of its topic. -/
def Streams (log : Log) : Prop :=
  ∀ position message, log position = some message →
    (record position message).decodeError = none ∧ ∃ event, narrowed (record position message) = .ok event

/-- What the inbox knows an event by. -/
structure ReceiptKey where
  consumerName : ControlSchema.ProjectionConsumer
  eventId : Uuid
  replayGeneration : Nat
  deriving DecidableEq

/-- The key of an event that a transaction is about. -/
def keyOf (log : Log) : Committed → Option ReceiptKey
  | .settled position _ _ => do
    let event ← eventAt log position
    let delivery ← deliveryAt log position
    return ⟨event.consumer, event.eventId, delivery.replayGeneration⟩
  | .requested _ => none

/-- Applies a transaction, whatever was received before. -/
def apply (host : Host) (log : Log) (db : ControlDb) : Committed → Except String ControlDb
  | .settled position draws _ =>
    match eventAt log position, deliveryAt log position with
    | some event, some delivery => project (received db event delivery draws.now) event
    | _, _ => .error "no event"
  | .requested request => .ok (performRequest host request db)

/-- The inbox knows exactly the events that were received. -/
def Inbox (log : Log) (db : ControlDb) (history : List Committed) : Prop :=
  ∀ k : ReceiptKey, Seen db k.consumerName k.eventId k.replayGeneration ↔ some k ∈ history.map (keyOf log)

/-- The tables are made of the first deliveries. -/
structure Projects (host : Host) (log : Log) (start : ControlDb) (s : State ControlDb ControlRequest) : Prop where
  tables : (once (keyOf log) s.history).foldlM (apply host log) start = .ok s.db
  inbox : Inbox log s.db s.history

section
variable {host : Host} {log : Log} {start db after : ControlDb} {s t : State ControlDb ControlRequest}
  {history : List Committed} {maximumAttempts : Nat}

theorem performRequest_receipts (request : ControlRequest) (db : ControlDb) :
    (performRequest host request db).eventReceipts = db.eventReceipts := by
  cases request with
  | administer catalog => rfl
  | accept draws request requestHash =>
    simp only [performRequest]
    split
    next answer after ended =>
      cases accept_ok ended with
      | replayed _ same => rw [same]
      | create _ _ _ _ _ _ _ _ _ _ _ _ _ _ _ _ _ _ _ frame => exact frame.receipts
      | tenant _ _ _ _ _ _ _ _ _ _ frame => exact frame.receipts
      | retention _ _ _ _ _ _ _ _ _ _ _ frame => exact frame.receipts
      | purge _ _ _ _ _ _ _ frame => exact frame.receipts
      | replay _ _ _ _ _ _ _ frame => exact frame.receipts
    next => rfl

/-- A receipt more is a key more. -/
theorem seen_received {k : ReceiptKey} (k' : ReceiptKey) {delivery : MessageDeliveryIdentity} {now : Instant}
    (receipts : after.eventReceipts = db.eventReceipts ++ [⟨k'.consumerName, k'.eventId, delivery, now⟩])
    (generation : delivery.replayGeneration = k'.replayGeneration) :
    Seen after k.consumerName k.eventId k.replayGeneration ↔
      Seen db k.consumerName k.eventId k.replayGeneration ∨ k = k' := by
  obtain ⟨consumerName, eventId, replayGeneration⟩ := k
  obtain ⟨consumerName', eventId', replayGeneration'⟩ := k'
  simp only [Seen, receipts, List.mem_append, List.mem_singleton, ReceiptKey.mk.injEq]
  constructor
  · rintro ⟨r, old | rfl, consumer, id, same⟩
    · exact .inl ⟨r, old, consumer, id, same⟩
    · exact .inr ⟨consumer.symm, id.symm, same.symm.trans generation⟩
  · rintro (⟨r, old, same⟩ | ⟨rfl, rfl, rfl⟩)
    · exact ⟨r, .inl old, same⟩
    · exact ⟨_, .inr rfl, rfl, rfl, generation⟩

theorem Inbox.receive {event : ProjectedEvent} {delivery : MessageDeliveryIdentity} {now : Instant} {entry : Committed}
    (inbox : Inbox log db history) (key : keyOf log entry = some ⟨event.consumer, event.eventId, delivery.replayGeneration⟩)
    (receipts : after.eventReceipts = (received db event delivery now).eventReceipts) :
    Inbox log after (history ++ [entry]) := by
  intro k
  rw [seen_received ⟨event.consumer, event.eventId, delivery.replayGeneration⟩ receipts rfl, inbox k,
    List.map_append, List.mem_append, List.map_singleton, List.mem_singleton, key, Option.some.injEq]

/-- No receipt more is no key more. -/
theorem Inbox.keep {entry : Committed} (inbox : Inbox log db history) (receipts : after.eventReceipts = db.eventReceipts)
    (known : ∀ k, keyOf log entry = some k → some k ∈ history.map (keyOf log)) : Inbox log after (history ++ [entry]) := by
  intro k
  rw [List.map_append, List.mem_append, Seen, receipts, ← Seen, inbox k]
  refine ⟨.inl, fun either => either.elim id fun last => ?_⟩
  exact known k (List.mem_singleton.mp last).symm

theorem projects_request (projects : Projects host log start s) (request : ControlRequest)
    (db : t.db = performRequest host request s.db) (grown : t.history = s.history ++ [.requested request]) :
    Projects host log start t := by
  have new : repeats (keyOf log) s.history (.requested request) = false := by
    rw [Bool.eq_false_iff, Ne, repeats_iff]
    rintro ⟨_, impossible, -⟩
    cases impossible
  refine ⟨?_, ?_⟩
  · rw [grown, db]
    exact foldlM_new projects.tables new rfl
  · rw [grown]
    exact projects.inbox.keep (by rw [db, performRequest_receipts]) fun _ impossible => by cases impossible

/-- In a stream the outcome of a record is that of its event. -/
theorem settles_handled (streams : Streams log) (blamed : Blamed (consumers host maximumAttempts log) s) {worker : Worker}
    (held : worker ∈ s.workers) {draws : Draws} {outcome : Outcome}
    (settles : Settles (consumers host maximumAttempts log) db after worker draws outcome) :
    ∃ message, log worker.position = some message ∧
      handle (record worker.position message) draws db = .ok (outcome, after) := by
  cases settles with
  | handled message found result =>
    refine ⟨message, found, ?_⟩
    rw [attempt, (streams worker.position message found).1] at result
    exact result
  | exhausted message error found spent result =>
    -- No attempt at an event fails for the record's own sake.
    have other : quarantineCode error = none := by
      rcases blamed worker held error spent with rfl | ⟨message', draws', db', found', failed⟩
      · rfl
      · by_contra own
        rw [attempt, (streams worker.position message' found').1] at failed
        obtain ⟨event, read⟩ := (streams worker.position message' found').2
        cases (handle_refused failed own).symm.trans read
    have thrown : exhausted (record worker.position message) error maximumAttempts draws db = .error error := by
      rw [exhausted, other]
    cases thrown.symm.trans result

theorem projects_settled (projects : Projects host log start s) {position : Position}
    {message : KafkaMessage ProjectionMessage} (found : log position = some message) {draws : Draws} {outcome : Outcome}
    (handled : handle (record position message) draws s.db = .ok (outcome, t.db))
    (grown : t.history = s.history ++ [.settled position draws outcome]) : Projects host log start t := by
  obtain ⟨event, read, result⟩ := handle_cases handled
  have here : eventAt log position = some event := by rw [eventAt, found, Option.bind_some, read]; rfl
  have delivered : deliveryAt log position = some (record position message).delivery := by rw [deliveryAt, found]; rfl
  have key : keyOf log (.settled position draws outcome) =
      some ⟨event.consumer, event.eventId, (record position message).delivery.replayGeneration⟩ := by
    simp only [keyOf, here, delivered]
    rfl
  rcases result with ⟨-, same, seen⟩ | ⟨-, unseen, projected⟩
  · have known := (projects.inbox ⟨_, _, _⟩).mp seen
    refine ⟨?_, ?_⟩
    · rw [grown, same]
      exact foldlM_repeated projects.tables (repeats_iff.mpr ⟨_, key, known⟩)
    · rw [grown]
      refine projects.inbox.keep (by rw [same]) fun k last => ?_
      cases key.symm.trans last
      exact known
  · have new : repeats (keyOf log) s.history (.settled position draws outcome) = false := by
      rw [Bool.eq_false_iff, Ne, repeats_iff]
      rintro ⟨k, same, known⟩
      cases key.symm.trans same
      exact unseen ((projects.inbox _).mpr known)
    refine ⟨?_, ?_⟩
    · rw [grown]
      refine foldlM_new projects.tables new ?_
      simp only [apply, here, delivered]
      exact projected
    · rw [grown]
      exact projects.inbox.receive key (project_receipts projected)

theorem projects_next (streams : Streams log) (blamed : Blamed (consumers host maximumAttempts log) s)
    (projects : Projects host log start s) {action : Action ControlRequest}
    (taken : next (consumers host maximumAttempts log) s action = some t) : Projects host log start t := by
  cases steps_next taken with
  | settled _ worker draws outcome held settles grown =>
    obtain ⟨message, found, handled⟩ := settles_handled streams blamed held settles
    exact projects_settled projects found handled grown
  | requested request db grown => exact projects_request projects request db grown
  | committed _ _ _ same unchanged => exact ⟨unchanged ▸ same ▸ projects.tables, unchanged ▸ same ▸ projects.inbox⟩
  | moved _ same unchanged => exact ⟨unchanged ▸ same ▸ projects.tables, unchanged ▸ same ▸ projects.inbox⟩

/-- In every run the tables are those that the first delivery of each event makes,
    in the order of their commits; and an offset is committed only when the
    outcomes of all records before it are, which were committed in their order. -/
theorem exactly_once (streams : Streams log) (blank : start.eventReceipts = [])
    (run : Reaches (next (consumers host maximumAttempts log)) Anything (initial start) s) :
    (once (keyOf log) s.history).foldlM (apply host log) start = .ok s.db ∧
      ((once (keyOf log) s.history).filterMap (keyOf log)).Nodup ∧
      (∀ position, position.offset < s.committedAt position → (log position).isSome = true →
        Settled s.history position) ∧
      Ordered (consumers host maximumAttempts log) s.history := by
  have first : Projects host log start (initial start) :=
    ⟨rfl, fun k => ⟨fun ⟨r, member, _⟩ => absurd (blank ▸ member) List.not_mem_nil, fun impossible => by cases impossible⟩⟩
  have both : Projects host log start s ∧ Blamed (consumers host maximumAttempts log) s := by
    refine ⟨?_, blamed_run run⟩
    clear blank
    induction run with
    | refl => exact first
    | tail earlier last ih =>
      obtain ⟨action, -, taken⟩ := last
      exact projects_next streams (blamed_run earlier) ih taken
  have safe := safe_run run
  exact ⟨both.1.tables, once_nodup s.history, safe.committed, safe.ordered⟩

end

/-! ### A redelivered completion -/

/-- A control plane that accepted a creation. -/
def sampleAccepted : ControlDb := 
  (Lifecycle.next sampleHost (Lifecycle.initial Lifecycle.sampleCatalog) Lifecycle.acceptSample).elim {} (·.db)

/-- The completion of the creation. -/
def sampleCompleted : WorkflowEvent :=
  { sampleCreate.toEnvelope with
    eventId := "00000000-0000-4000-8000-0000000000f2",
    data := .completed .createInstance .active (some "910000") "00000000-0000-4000-8000-0000000000f3" none }

def sampleLog : Log := sampleTopic [sampleMessage (.workflow sampleCompleted)]

theorem streams_sampleLog : Streams sampleLog := by
  rintro ⟨topic, partition, offset⟩ message found
  simp only [sampleLog, sampleTopic] at found
  split at found
  next first =>
    obtain ⟨rfl, rfl⟩ := first
    cases offset with
    | zero => cases found; exact ⟨by decide +kernel, .workflow sampleCompleted, rfl⟩
    | succ => cases found
  next => cases found

def sampleRedelivery : List (Action ControlRequest) :=
  [.fetch ⟨eventTopic, 0, 0⟩, .attempt 0 ⟨0, fun _ => ""⟩ .answer, .crash 0, .fetch ⟨eventTopic, 0, 0⟩,
   .attempt 0 ⟨1, fun _ => ""⟩ .nothing, .commit 0]

theorem exactly_once_sampleRedelivery : ∃ s,
    execute (next (consumers sampleHost 3 sampleLog)) (initial sampleAccepted) sampleRedelivery = some s ∧
      s.history.length = 2 ∧ (once (keyOf sampleLog) s.history).length = 1 ∧
      (once (keyOf sampleLog) s.history).foldlM (apply sampleHost sampleLog) sampleAccepted = .ok s.db := by
  have executed : execute (next (consumers sampleHost 3 sampleLog)) (initial sampleAccepted) sampleRedelivery = some _ := rfl
  exact ⟨_, executed, rfl, rfl, (exactly_once streams_sampleLog rfl (reaches_execute (meets_anything _ _) executed)).1⟩

end ControlPlane.ExactlyOnce
