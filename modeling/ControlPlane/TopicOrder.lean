import ControlPlane.AcceptanceRules
import ControlPlane.Replays

/-!
The document of a dead letter is written from two topics: the dead letters, which
replace it, and the resolutions of its replays, which mark it as replayed. The
order of the two topics does not matter as long as no replay was completed.
-/
namespace ControlPlane.TopicOrder
open ControlPlane.Tables ControlPlane.Domain ControlPlane.Commands ControlPlane.WorkflowSchema ControlPlane.ControlSchema
open ControlPlane.ProjectionStore ControlPlane.AcceptanceRules
open ControlPlane.Runs ControlPlane.EventValidation ControlPlane.Fencing ControlPlane.Replays

/-- A record of a topic that the projection receives. -/
structure Received (Event : Type) where
  event : Event
  delivery : MessageDeliveryIdentity
  now : Instant

abbrev Letter := Received ProvisioningDeadLettered

abbrev Resolution := Received WorkflowEvent

/-- Applies a record of either topic. -/
def deliver (db : ControlDb) : Letter ⊕ Resolution → Except String ControlDb
  | .inl letter => do
    let (_, db) ← applyDeadLetterEvent db letter.event letter.delivery letter.now
    return db
  | .inr resolution => do
    let (_, db) ← applyWorkflowEvent db resolution.event resolution.delivery resolution.now
    return db

def lettersOf (records : List (Letter ⊕ Resolution)) : List Letter := records.filterMap Sum.getLeft?

def resolutionsOf (records : List (Letter ⊕ Resolution)) : List Resolution := records.filterMap Sum.getRight?

section
variable (letter : Letter) (resolution : Resolution) (records : List (Letter ⊕ Resolution))

@[simp] theorem lettersOf_inl : lettersOf (.inl letter :: records) = letter :: lettersOf records := rfl

@[simp] theorem lettersOf_inr : lettersOf (.inr resolution :: records) = lettersOf records := rfl

@[simp] theorem resolutionsOf_inl : resolutionsOf (.inl letter :: records) = resolutionsOf records := rfl

@[simp] theorem resolutionsOf_inr : resolutionsOf (.inr resolution :: records) = resolution :: resolutionsOf records := rfl

end

/-- The records are those of the two topics, in the order of each. -/
def Interleaves (letters : List Letter) (resolutions : List Resolution) (records : List (Letter ⊕ Resolution)) : Prop :=
  lettersOf records = letters ∧ resolutionsOf records = resolutions

/-- What the projection shows of a dead letter and of the replay requests. -/
structure Shown where
  letter : Option (Bool × Option Instant × Nat)
  requests : List (Uuid × ReplayRequestStatus)
  deriving DecidableEq

def shown (originalEventId : Uuid) (db : ControlDb) : Shown where
  letter := (find DeadLetterView.eventId originalEventId db.deadLetterDocuments).map fun d =>
    (d.replayAllowed, d.lastReplayAt, d.attempts)
  requests := db.replayRequests.map fun r => (r.id, r.status)

/-- Every interleaving is applied without an error, to one outcome. -/
def OrderIndependent (db : ControlDb) (originalEventId : Uuid) (letters : List Letter) (resolutions : List Resolution) :
    Prop :=
  ∃ outcome, ∀ records, Interleaves letters resolutions records →
    ∃ after, records.foldlM deliver db = .ok after ∧ shown originalEventId after = outcome

/-! ### The records of one dead letter -/

/-- Two deliveries that are not of one event in one generation, nor one record. -/
def Apart (a b : Uuid × MessageDeliveryIdentity) : Prop :=
  ¬ (a.1 = b.1 ∧ a.2.replayGeneration = b.2.replayGeneration) ∧
    ¬ (a.2.topic = b.2.topic ∧ a.2.partition = b.2.partition ∧ a.2.offset = b.2.offset)

/-- Deliveries that a consumer has no receipts of. -/
structure Unreceived (db : ControlDb) (consumerName : ProjectionConsumer)
    (deliveries : List (Uuid × MessageDeliveryIdentity)) : Prop where
  apart : deliveries.Pairwise Apart
  unseen : ∀ r ∈ db.eventReceipts, r.consumerName = consumerName → ∀ d ∈ deliveries, Apart (r.eventId, r.delivery) d

def Letter.received (letter : Letter) : Uuid × MessageDeliveryIdentity := (letter.event.eventId, letter.delivery)

def Resolution.received (resolution : Resolution) : Uuid × MessageDeliveryIdentity :=
  (resolution.event.eventId, resolution.delivery)

/-- An event resolves a replay request of a dead letter. -/
def Resolves (originalEventId : Uuid) (requests : List ControlReplayRequest) (event : WorkflowEvent) : Prop :=
  ∃ replayRequestId outcome replayGeneration resolvedAt,
    event.data = .replayResolved replayRequestId originalEventId outcome replayGeneration resolvedAt ∧
      ∃ r ∈ requests, r.id = replayRequestId ∧ r.originalEventId = originalEventId

/-- What the workflow of a dead letter emits for it, and what the projection has
    not received of it: notices of the dead letter, and resolutions of replays
    that were requested. -/
structure Emitted (db : ControlDb) (originalEventId : Uuid) (letters : List Letter) (resolutions : List Resolution) :
    Prop where
  about : ∀ l ∈ letters, l.event.originalEventId = originalEventId
  resolves : ∀ r ∈ resolutions, Resolves originalEventId db.replayRequests r.event
  unlettered : Unreceived db .deadLetters (letters.map Letter.received)
  unresolved : Unreceived db .events (resolutions.map Resolution.received)

/-- An event tells that a replay was completed. -/
def completesReplay (event : WorkflowEvent) : Bool :=
  match event.data with
  | .replayResolved _ _ .completed _ _ => true
  | _ => false

/-- The projection knows a dead letter. -/
def IsLettered (db : ControlDb) (originalEventId : Uuid) : Prop :=
  ∃ document, find DeadLetterView.eventId originalEventId db.deadLetterDocuments = some document

section
variable {db after : ControlDb} {originalEventId : Uuid} {letters : List Letter} {resolutions : List Resolution}
  {consumerName other : ProjectionConsumer} {d : Uuid × MessageDeliveryIdentity}
  {ds : List (Uuid × MessageDeliveryIdentity)}

/-! ### Receipts -/

/-- The database with a receipt more. -/
def receive (db : ControlDb) (consumerName : ProjectionConsumer) (d : Uuid × MessageDeliveryIdentity) (now : Instant) :
    ControlDb :=
  { db with eventReceipts := db.eventReceipts ++ [⟨consumerName, d.1, d.2, now⟩] }

/-- A delivery without a receipt gets one. -/
theorem insertReceipt_unreceived (unreceived : Unreceived db consumerName (d :: ds)) (now : Instant) :
    insertReceipt db consumerName d.1 d.2 now = .ok (some (receive db consumerName d now)) := by
  have apart (r) (member : r ∈ db.eventReceipts) (same : r.consumerName = consumerName) :=
    unreceived.unseen r member same d List.mem_cons_self
  have unknown : ¬ (db.eventReceipts.any fun r => r.consumerName = consumerName && r.eventId = d.1 &&
      r.delivery.replayGeneration = d.2.replayGeneration) = true := by
    simp only [List.any_eq_true, Bool.and_eq_true, decide_eq_true_eq]
    rintro ⟨r, member, ⟨same, event⟩, generation⟩
    exact (apart r member same).1 ⟨event, generation⟩
  have free : ¬ (db.eventReceipts.any fun r => r.consumerName = consumerName && r.delivery.topic = d.2.topic &&
      r.delivery.partition = d.2.partition && r.delivery.offset = d.2.offset) = true := by
    simp only [List.any_eq_true, Bool.and_eq_true, decide_eq_true_eq]
    rintro ⟨r, member, ⟨⟨same, topic⟩, partition⟩, offset⟩
    exact (apart r member same).2 ⟨topic, partition, offset⟩
  simp only [insertReceipt, if_neg unknown, Tables.insert, if_neg free]
  rfl

theorem Unreceived.tail (unreceived : Unreceived db consumerName (d :: ds)) : Unreceived db consumerName ds where
  apart := (List.pairwise_cons.mp unreceived.apart).2
  unseen r member same e later := unreceived.unseen r member same e (List.mem_cons_of_mem d later)

/-- A receipt is no receipt of the later deliveries. -/
theorem Unreceived.received (unreceived : Unreceived db consumerName (d :: ds)) {now : Instant}
    (receipts : after.eventReceipts = db.eventReceipts ++ [⟨consumerName, d.1, d.2, now⟩]) :
    Unreceived after consumerName ds where
  apart := unreceived.tail.apart
  unseen r member same e later := by
    rw [receipts] at member
    rcases List.mem_append.mp member with old | new
    · exact unreceived.tail.unseen r old same e later
    · rw [List.mem_singleton.mp new]
      exact (List.pairwise_cons.mp unreceived.apart).1 e later

/-- Nor of the deliveries to another consumer. -/
theorem Unreceived.otherwise (unreceived : Unreceived db consumerName ds) {eventId : Uuid}
    {delivery : MessageDeliveryIdentity} {now : Instant}
    (receipts : after.eventReceipts = db.eventReceipts ++ [⟨other, eventId, delivery, now⟩]) (differs : other ≠ consumerName) :
    Unreceived after consumerName ds where
  apart := unreceived.apart
  unseen r member same e later := by
    rw [receipts] at member
    rcases List.mem_append.mp member with old | new
    · exact unreceived.unseen r old same e later
    · rw [List.mem_singleton.mp new] at same
      exact absurd same differs

/-! ### One record -/

/-- The replay requests after a resolution of one of them. -/
def settled (event : WorkflowEvent) (requests : List ControlReplayRequest) : List ControlReplayRequest :=
  match event.data with
  | .replayResolved replayRequestId originalEventId outcome _ _ =>
    update (fun r : ControlReplayRequest => r.id = replayRequestId ∧ r.originalEventId = originalEventId)
      (fun r => { r with status := ReplayOutcome.requestStatus outcome }) requests
  | _ => requests

/-- The documents after a resolution. -/
def marked (event : WorkflowEvent) (documents : List DeadLetterView) : List DeadLetterView :=
  match event.data with
  | .replayResolved _ originalEventId .completed _ resolvedAt =>
    update (fun d : DeadLetterView => d.eventId = originalEventId)
      (fun d => { d with replayAllowed := false, lastReplayAt := some resolvedAt }) documents
  | _ => documents

theorem deliver_letter (letter : Letter) (unreceived : Unreceived db .deadLetters (letter.received :: ds)) :
    deliver db (.inl letter) = .ok { receive db .deadLetters letter.received letter.now with
      deadLetterDocuments := lettered letter.event db.deadLetterDocuments } := by
  have inserted := insertReceipt_unreceived unreceived letter.now
  simp only [Letter.received] at inserted
  simp only [deliver, applyDeadLetterEvent, inserted]
  rfl

/-- A resolution is applied exactly when it needs no document that is missing. -/
theorem deliver_resolution {resolution : Resolution} (unreceived : Unreceived db .events (resolution.received :: ds))
    (resolves : Resolves originalEventId db.replayRequests resolution.event) :
    deliver db (.inr resolution) = .ok after ↔
      (completesReplay resolution.event = true → IsLettered db originalEventId) ∧
        after = { receive db .events resolution.received resolution.now with
          replayRequests := settled resolution.event db.replayRequests,
          deadLetterDocuments := marked resolution.event db.deadLetterDocuments } := by
  have inserted := insertReceipt_unreceived unreceived resolution.now
  simp only [Resolution.received] at inserted
  obtain ⟨replayRequestId, outcome, replayGeneration, resolvedAt, data, r, member, about, original⟩ := resolves
  have owned : ((receive db .events resolution.received resolution.now).replayRequests.any fun r =>
      r.id = replayRequestId && r.originalEventId = originalEventId) = true :=
    List.any_eq_true.mpr ⟨r, member, by simp [about, original]⟩
  simp only [Resolution.received] at owned
  simp only [deliver, applyWorkflowEvent, inserted, applyEvent, data, applyReplayResolved, bind, Except.bind, pure,
    Except.pure, completesReplay, settled, marked]
  rw [if_pos owned]
  cases outcome with
  | rejected =>
    constructor
    · rintro ⟨⟩
      exact ⟨by rintro ⟨⟩, rfl⟩
    · rintro ⟨-, rfl⟩
      rfl
  | completed =>
    have same : find DeadLetterView.eventId originalEventId
        (receive db .events (resolution.event.eventId, resolution.delivery) resolution.now).deadLetterDocuments =
          find DeadLetterView.eventId originalEventId db.deadLetterDocuments := rfl
    cases found : find DeadLetterView.eventId originalEventId db.deadLetterDocuments with
    | none =>
      simp only [ne_eq, not_true_eq_false, if_false, same, found]
      constructor
      · rintro ⟨⟩
      · rintro ⟨known, -⟩
        obtain ⟨_, there⟩ := known trivial
        cases found.symm.trans there
    | some document =>
      simp only [ne_eq, not_true_eq_false, if_false, same, found]
      constructor
      · rintro ⟨⟩
        exact ⟨fun _ => ⟨document, found⟩, rfl⟩
      · rintro ⟨-, rfl⟩
        rfl

theorem Resolves.settled {requests : List ControlReplayRequest} {event : WorkflowEvent}
    (resolves : Resolves originalEventId requests event) (other : WorkflowEvent) :
    Resolves originalEventId (settled other requests) event := by
  obtain ⟨replayRequestId, outcome, replayGeneration, resolvedAt, data, r, member, about, original⟩ := resolves
  refine ⟨replayRequestId, outcome, replayGeneration, resolvedAt, data, ?_⟩
  unfold TopicOrder.settled
  split
  next id event outcome _ _ _ =>
    by_cases selected : r.id = id ∧ r.originalEventId = event
    · exact ⟨_, mem_update.mpr ⟨r, member, .inl ⟨selected, rfl⟩⟩, about, original⟩
    · exact ⟨r, mem_update.mpr ⟨r, member, .inr ⟨selected, rfl⟩⟩, about, original⟩
  next => exact ⟨r, member, about, original⟩

/-- After a notice of a dead letter the rest is still to be received. -/
theorem Emitted.letter {letter : Letter} (emitted : Emitted db originalEventId (letter :: letters) resolutions)
    (delivered : deliver db (.inl letter) = .ok after) :
    Emitted after originalEventId letters resolutions ∧ after.replayRequests = db.replayRequests ∧
      after.deadLetterDocuments = lettered letter.event db.deadLetterDocuments := by
  rw [deliver_letter letter emitted.unlettered] at delivered
  cases delivered
  exact ⟨⟨fun l member => emitted.about l (List.mem_cons_of_mem letter member), emitted.resolves,
    emitted.unlettered.received rfl, emitted.unresolved.otherwise rfl nofun⟩, rfl, rfl⟩

theorem Emitted.resolution {resolution : Resolution}
    (emitted : Emitted db originalEventId letters (resolution :: resolutions))
    (delivered : deliver db (.inr resolution) = .ok after) :
    Emitted after originalEventId letters resolutions ∧
      (completesReplay resolution.event = true → IsLettered db originalEventId) ∧
      after.replayRequests = settled resolution.event db.replayRequests ∧
      after.deadLetterDocuments = marked resolution.event db.deadLetterDocuments := by
  have resolves := emitted.resolves resolution List.mem_cons_self
  obtain ⟨known, rfl⟩ := (deliver_resolution emitted.unresolved resolves).mp delivered
  refine ⟨⟨emitted.about, fun r member => ?_, emitted.unlettered.otherwise rfl nofun, emitted.unresolved.received rfl⟩,
    known, rfl, rfl⟩
  exact (emitted.resolves r (List.mem_cons_of_mem resolution member)).settled resolution.event

/-! ### All records -/

/-- A document tells of a replay of its dead letter, or of none. -/
def Tells (replayed : Bool) (originalEventId : Uuid) (db : ControlDb) : Prop :=
  ∃ d, find DeadLetterView.eventId originalEventId db.deadLetterDocuments = some d ∧ d.lastReplayAt.isSome = replayed

/-- A document that tells of a replay is shown as another than one that tells
    of none. -/
theorem tells_shown (replayed : Tells true originalEventId db) (unreplayed : Tells false originalEventId after) :
    shown originalEventId db ≠ shown originalEventId after := by
  obtain ⟨d, found, some⟩ := replayed
  obtain ⟨d', found', none⟩ := unreplayed
  intro same
  have letters := congrArg Shown.letter same
  simp only [shown, found, found', Option.map_some, Option.some.injEq, Prod.mk.injEq] at letters
  rw [letters.2.1, none] at some
  exact absurd some Bool.false_ne_true

/-- The events and notices that are applied without a document that only the
    others bring. -/
def Harmless (db : ControlDb) (originalEventId : Uuid) (letters : List Letter) (resolutions : List Resolution) : Prop :=
  (∀ r ∈ resolutions, completesReplay r.event = false) ∨ (letters = [] ∧ IsLettered db originalEventId)

theorem marked_unreplayed {event : WorkflowEvent} (unreplayed : completesReplay event = false)
    (documents : List DeadLetterView) : marked event documents = documents := by
  unfold marked
  split
  next data => simp [completesReplay, data] at unreplayed
  next => rfl

/-- A resolution keeps the documents, and what they say of their letters. -/
theorem find_marked (originalEventId : Uuid) (event : WorkflowEvent) (documents : List DeadLetterView) :
    ∃ rewrite : DeadLetterView → DeadLetterView, (∀ d, (d.lastReplayAt.isSome = true → (rewrite d).lastReplayAt.isSome = true)) ∧
      find DeadLetterView.eventId originalEventId (marked event documents) =
        (find DeadLetterView.eventId originalEventId documents).map rewrite := by
  unfold marked
  split
  next => 
    refine ⟨_, ?_, find_update fun _ => rfl⟩
    intro d replayed
    split
    · rfl
    · exact replayed
  next => exact ⟨id, fun _ replayed => replayed, by simp⟩

theorem Harmless.letter {letter : Letter} (harmless : Harmless db originalEventId (letter :: letters) resolutions) :
    Harmless after originalEventId letters resolutions :=
  .inl (harmless.resolve_right nofun)

theorem Harmless.resolution {resolution : Resolution}
    (harmless : Harmless db originalEventId letters (resolution :: resolutions))
    (documents : after.deadLetterDocuments = marked resolution.event db.deadLetterDocuments) :
    Harmless after originalEventId letters resolutions := by
  rcases harmless with unreplayed | ⟨none, document, found⟩
  · exact .inl fun r member => unreplayed r (List.mem_cons_of_mem resolution member)
  · obtain ⟨rewrite, -, same⟩ := find_marked originalEventId resolution.event db.deadLetterDocuments
    rw [found] at same
    exact .inr ⟨none, _, documents ▸ same⟩

/-- Harmless records are applied, to what either topic makes of its own part. -/
theorem harmless_delivered {records : List (Letter ⊕ Resolution)}
    (emitted : Emitted db originalEventId (lettersOf records) (resolutionsOf records))
    (harmless : Harmless db originalEventId (lettersOf records) (resolutionsOf records)) :
    ∃ after, records.foldlM deliver db = .ok after ∧
      after.replayRequests = (resolutionsOf records).foldl (fun requests r => settled r.event requests) db.replayRequests ∧
      after.deadLetterDocuments = (resolutionsOf records).foldl (fun documents r => marked r.event documents)
        ((lettersOf records).foldl (fun documents l => lettered l.event documents) db.deadLetterDocuments) := by
  induction records generalizing db with
  | nil => exact ⟨db, rfl, rfl, rfl⟩
  | cons record records ih =>
    cases record with
    | inl letter =>
      obtain ⟨middle, delivered⟩ : ∃ middle, deliver db (.inl letter) = .ok middle :=
        ⟨_, deliver_letter letter emitted.unlettered⟩
      obtain ⟨rest, requests, documents⟩ := emitted.letter delivered
      obtain ⟨after, applied, settles, shows_⟩ := ih rest harmless.letter
      rw [requests] at settles
      rw [documents] at shows_
      exact ⟨after, by rw [List.foldlM_cons, delivered]; exact applied, settles, shows_⟩
    | inr resolution =>
      have known : completesReplay resolution.event = true → IsLettered db originalEventId := by
        intro completed
        rcases harmless with unreplayed | ⟨-, known⟩
        · exact absurd completed (Bool.eq_false_iff.mp (unreplayed resolution List.mem_cons_self))
        · exact known
      obtain ⟨middle, delivered⟩ : ∃ middle, deliver db (.inr resolution) = .ok middle :=
        ⟨_, (deliver_resolution emitted.unresolved (emitted.resolves resolution List.mem_cons_self)).mpr ⟨known, rfl⟩⟩
      obtain ⟨rest, -, requests, documents⟩ := emitted.resolution delivered
      obtain ⟨after, applied, settles, shows_⟩ := ih rest (harmless.resolution documents)
      rw [requests] at settles
      rw [documents] at shows_
      refine ⟨after, by rw [List.foldlM_cons, delivered]; exact applied, settles, shows_.trans ?_⟩
      simp only [lettersOf_inr, resolutionsOf_inr, List.foldl_cons]
      rcases harmless with unreplayed | ⟨none, -⟩
      · have same := marked_unreplayed (unreplayed resolution List.mem_cons_self)
        rw [same, same]
      · simp only [lettersOf_inr] at none
        rw [none]
        rfl

/-- A completion is told. -/
theorem completed_tells {event : WorkflowEvent} {requests : List ControlReplayRequest}
    (resolves : Resolves originalEventId requests event) (completed : completesReplay event = true)
    (known : IsLettered db originalEventId)
    (documents : after.deadLetterDocuments = marked event db.deadLetterDocuments) : Tells true originalEventId after := by
  obtain ⟨_, outcome, _, resolvedAt, data, -⟩ := resolves
  obtain ⟨document, found⟩ := known
  cases outcome with
  | rejected => simp [completesReplay, data] at completed
  | completed =>
    refine ⟨{ document with replayAllowed := false, lastReplayAt := some resolvedAt }, ?_, rfl⟩
    simp only [documents, marked, data]
    have keeps (d : DeadLetterView) :
        ({ d with replayAllowed := false, lastReplayAt := some resolvedAt } : DeadLetterView).eventId = d.eventId := rfl
    rw [find_update keeps, found, Option.map_some, if_pos (find_key found)]

theorem Tells.marked {event : WorkflowEvent} (told : Tells true originalEventId db)
    (documents : after.deadLetterDocuments = marked event db.deadLetterDocuments) : Tells true originalEventId after := by
  obtain ⟨d, found, replayed⟩ := told
  obtain ⟨rewrite, keeps, same⟩ := find_marked originalEventId event db.deadLetterDocuments
  rw [found] at same
  exact ⟨rewrite d, documents ▸ same, keeps d replayed⟩

/-- After notices of a dead letter its document tells of no replay. -/
theorem letters_delivered (emitted : Emitted db originalEventId letters resolutions)
    (delivered : (letters.map Sum.inl).foldlM deliver db = .ok after) :
    Emitted after originalEventId [] resolutions ∧
      (letters ≠ [] ∨ Tells false originalEventId db → Tells false originalEventId after) := by
  induction letters generalizing db with
  | nil =>
    cases delivered
    exact ⟨emitted, fun told => told.resolve_left (absurd rfl)⟩
  | cons letter letters ih =>
    rw [List.map_cons, List.foldlM_cons] at delivered
    obtain ⟨middle, first, delivered⟩ := bind_ok delivered
    obtain ⟨rest, -, documents⟩ := emitted.letter first
    obtain ⟨last, told⟩ := ih rest delivered
    refine ⟨last, fun _ => told (.inr ⟨letterDocument letter.event, ?_, rfl⟩)⟩
    rw [documents, ← emitted.about letter List.mem_cons_self]
    exact find_lettered letter.event db.deadLetterDocuments

/-- After resolutions, one of which completes a replay, the document tells of it;
    and there was one. -/
theorem resolutions_delivered (emitted : Emitted db originalEventId letters resolutions)
    (delivered : (resolutions.map Sum.inr).foldlM deliver db = .ok after) :
    Emitted after originalEventId letters [] ∧
      ((∃ r ∈ resolutions, completesReplay r.event = true) → IsLettered db originalEventId) ∧
      ((∃ r ∈ resolutions, completesReplay r.event = true) ∨ Tells true originalEventId db →
        Tells true originalEventId after) := by
  induction resolutions generalizing db with
  | nil =>
    cases delivered
    have none : ¬ ∃ r ∈ ([] : List Resolution), completesReplay r.event = true :=
      fun ⟨_, member, _⟩ => absurd member List.not_mem_nil
    exact ⟨emitted, fun some => absurd some none, fun told => told.resolve_left none⟩
  | cons resolution resolutions ih =>
    rw [List.map_cons, List.foldlM_cons] at delivered
    obtain ⟨middle, first, delivered⟩ := bind_ok delivered
    obtain ⟨rest, known, -, documents⟩ := emitted.resolution first
    obtain ⟨last, lettered, told⟩ := ih rest delivered
    refine ⟨last, ?_, fun before => told ?_⟩
    · rintro ⟨r, member, completed⟩
      by_cases here : completesReplay resolution.event = true
      · exact known here
      · have later : r ∈ resolutions :=
          (List.mem_cons.mp member).resolve_left fun same => here (same ▸ completed)
        obtain ⟨d, found⟩ := lettered ⟨r, later, completed⟩
        rw [documents, marked_unreplayed (Bool.eq_false_iff.mpr here)] at found
        exact ⟨d, found⟩
    · rcases before with ⟨r, member, completed⟩ | before
      · rcases List.mem_cons.mp member with rfl | later
        · exact .inr (completed_tells (emitted.resolves r List.mem_cons_self) completed (known completed) documents)
        · exact .inl ⟨r, later, completed⟩
      · exact .inr (before.marked documents)

/-- Each topic may come first. -/
theorem interleaves_lettersFirst : Interleaves letters resolutions (letters.map Sum.inl ++ resolutions.map Sum.inr) := by
  constructor
  · induction letters with
    | nil => induction resolutions <;> simp_all [lettersOf]
    | cons letter letters ih => simpa using ih
  · induction letters with
    | nil => induction resolutions <;> simp_all [resolutionsOf]
    | cons letter letters ih => simpa using ih

theorem interleaves_resolutionsFirst : Interleaves letters resolutions (resolutions.map Sum.inr ++ letters.map Sum.inl) := by
  constructor
  · induction resolutions with
    | nil => induction letters <;> simp_all [lettersOf]
    | cons resolution resolutions ih => simpa using ih
  · induction resolutions with
    | nil => induction letters <;> simp_all [resolutionsOf]
    | cons resolution resolutions ih => simpa using ih

/-- Where the order does not matter the records are harmless. -/
theorem harmless_of_independent (emitted : Emitted db originalEventId letters resolutions)
    (independent : OrderIndependent db originalEventId letters resolutions) :
    Harmless db originalEventId letters resolutions := by
  obtain ⟨outcome, every⟩ := independent
  by_contra harmful
  obtain ⟨replayed, open_⟩ := not_or.mp harmful
  have completed : ∃ r ∈ resolutions, completesReplay r.event = true := by
    simpa only [not_forall, Bool.not_eq_false, exists_prop] using replayed
  obtain ⟨early, delivered, shownEarly⟩ := every _ interleaves_resolutionsFirst
  obtain ⟨late, delivered', shownLate⟩ := every _ interleaves_lettersFirst
  rw [List.foldlM_append] at delivered delivered'
  obtain ⟨_, first, second⟩ := bind_ok delivered
  obtain ⟨_, first', second'⟩ := bind_ok delivered'
  -- No resolution can come first unless the dead letter is known, and then the
  -- notices that come last tell of no replay.
  obtain ⟨rest, known, -⟩ := resolutions_delivered emitted first
  have noticed : letters ≠ [] := fun none => open_ ⟨none, known completed⟩
  have unreplayed : Tells false originalEventId early := (letters_delivered rest second).2 (.inl noticed)
  have told : Tells true originalEventId late :=
    (resolutions_delivered (letters_delivered emitted first').1 second').2.2 (.inl completed)
  exact tells_shown told unreplayed (shownLate.trans shownEarly.symm)

theorem independent_of_harmless (emitted : Emitted db originalEventId letters resolutions)
    (harmless : Harmless db originalEventId letters resolutions) :
    OrderIndependent db originalEventId letters resolutions := by
  refine ⟨shown originalEventId { db with
    replayRequests := resolutions.foldl (fun requests r => settled r.event requests) db.replayRequests,
    deadLetterDocuments := resolutions.foldl (fun documents r => marked r.event documents)
      (letters.foldl (fun documents l => lettered l.event documents) db.deadLetterDocuments) }, ?_⟩
  rintro records ⟨rfl, rfl⟩
  obtain ⟨after, delivered, requests, documents⟩ := harmless_delivered emitted harmless
  exact ⟨after, delivered, by rw [shown, requests, documents]; rfl⟩

/-- The order of the topics does not matter exactly when no replay was
    completed, or when all notices of the dead letter were received. -/
theorem order_independent_iff (emitted : Emitted db originalEventId letters resolutions) :
    OrderIndependent db originalEventId letters resolutions ↔
      (∀ r ∈ resolutions, completesReplay r.event = false) ∨ (letters = [] ∧ IsLettered db originalEventId) :=
  ⟨harmless_of_independent emitted, independent_of_harmless emitted⟩

end

/-! ### A creation that is replayed once and fails again -/

/-- The notices of a dead letter that the orchestrator published. -/
def noticesOf (originalEventId : Uuid) (outbox : List (OutboxRow WorkflowMessage)) : List ProvisioningDeadLettered :=
  outbox.filterMap fun row =>
    match row.message with
    | .deadLettered event => if event.originalEventId = originalEventId then some event else none
    | _ => none

/-- The resolutions of its replays. -/
def replaysOf (originalEventId : Uuid) (outbox : List (OutboxRow WorkflowMessage)) : List WorkflowEvent :=
  outbox.filterMap fun row =>
    match row.message with
    | .event event =>
      match event.data with
      | .replayResolved _ original _ _ _ => if original = originalEventId then some event else none
      | _ => none
    | _ => none

/-- A claim that exhausts the retries of the creation. -/
def exhaustion (fencingToken : Nat) (deadLetterEventId : Uuid) : List StoreCall :=
  [.claimNext "worker" 30 .createInstance fun _ => false,
   .deadLetterWorkflow (fun n => if n = 1 then deadLetterEventId else "")
     { operationId := sampleCreate.operationId, workerId := "worker", fencingToken := fencingToken, attempts := 8,
       failureCode := "RETRY_EXHAUSTED", safeMessage := "The provider stayed unavailable.",
       lastErrorCategory := "transient", lastErrorCode := "unavailable", envelope := sampleCreate.toEnvelope,
       action := .createInstance, failure := ⟨.transient, "unavailable", "The provider stayed unavailable.", none⟩,
       compensationState := .notRequired }]

def exhaustedTwice : List StoreCall :=
  .admitCommand (fun _ => "") sampleCreate ⟨"provisioning.commands.v1", 0, 0, 0, none⟩ ::
    exhaustion 1 "00000000-0000-4000-8000-000000000001" ++
    (replayedOnce.drop exhaustedOnce.length ++ exhaustion 2 "00000000-0000-4000-8000-000000000002")

/-- The notice of one of the exhaustions, as it is received. -/
def sampleLetter (deadLetterEventId correlationId : Uuid) (offset : Nat) : Letter where
  event :=
    { sampleCreate.toEnvelope with
      eventId := deadLetterEventId, correlationId := correlationId, causationId := sampleCreate.eventId, originalEventId := sampleCreate.eventId,
      originalSchemaName := "instance.create.requested", originalSchemaVersion := 1,
      failure := ⟨.transient, "RETRY_EXHAUSTED", "The provider stayed unavailable.", none⟩, attempts := 8,
      replayAllowed := true, deadLetteredAt := 0 }
  delivery := ⟨"provisioning.dlq.v1", 0, offset, 0, none⟩
  now := 0

def sampleLetters : List Letter :=
  [sampleLetter "00000000-0000-4000-8000-000000000001" sampleCreate.correlationId 0,
   sampleLetter "00000000-0000-4000-8000-000000000002" sampleReplay.correlationId 1]

/-- The resolution of the replay between them. -/
def sampleResolution : Resolution where
  event :=
    { sampleReplay.toEnvelope with
      eventId := "", causationId := sampleReplay.eventId,
      data := .replayResolved sampleReplay.replayRequestId sampleCreate.eventId .completed 1 0 }
  delivery := ⟨"provisioning.events.v1", 0, 0, 0, none⟩
  now := 0

/-- A control plane that asked for the replay. -/
def sampleRequested : ControlDb :=
  { replayRequests := [⟨sampleReplay.replayRequestId, sampleCreate.eventId, "operator", "replay", "hash", "recovered",
      sampleReplay.correlationId, .accepted, 0⟩] }

theorem emitted_sampleLetters : Emitted sampleRequested sampleCreate.eventId sampleLetters [sampleResolution] where
  about := by simp [sampleLetters, sampleLetter]
  resolves := List.forall_mem_singleton.mpr
    ⟨_, _, _, _, rfl, _, List.mem_singleton_self _, rfl, rfl⟩
  unlettered :=
    ⟨List.pairwise_cons.mpr ⟨List.forall_mem_singleton.mpr ⟨by decide, by decide⟩, List.pairwise_singleton _ _⟩, nofun⟩
  unresolved := ⟨List.pairwise_singleton _ _, nofun⟩

theorem order_independent_iff_sampleLetters :
    OrderIndependent sampleRequested sampleCreate.eventId sampleLetters [sampleResolution] ↔
      (∀ r ∈ [sampleResolution], completesReplay r.event = false) ∨
        (sampleLetters = [] ∧ IsLettered sampleRequested sampleCreate.eventId) :=
  order_independent_iff emitted_sampleLetters

/-- The order of the topics matters for a dead letter that was replayed. -/
theorem order_matters : ¬ ∀ (host : Host) (now : Instant) (calls : List StoreCall) (s : State) (db : ControlDb)
    (originalEventId : Uuid) (letters : List Letter) (resolutions : List Resolution),
    execute (next host) (initial now) calls = some s →
    letters.map Received.event = noticesOf originalEventId s.db.outbox →
    resolutions.map Received.event = replaysOf originalEventId s.db.outbox →
    Emitted db originalEventId letters resolutions → OrderIndependent db originalEventId letters resolutions := by
  intro all
  have executed : execute (next sampleHost) (initial 0) exhaustedTwice = some _ := rfl
  have independent := all sampleHost 0 exhaustedTwice _ sampleRequested sampleCreate.eventId sampleLetters
    [sampleResolution] executed (by decide +kernel) (by decide +kernel) emitted_sampleLetters
  rcases harmless_of_independent emitted_sampleLetters independent with unreplayed | ⟨none, -⟩
  · exact absurd (unreplayed sampleResolution List.mem_cons_self) (by decide)
  · cases none

end ControlPlane.TopicOrder
