import ControlPlane.ControlSchema
import ControlPlane.EventValidation
import ControlPlane.Runs

/-!
The consumers of the Kafka topics. A record is decoded and checked at the trust
boundary, handled in a bounded number of attempts, and its offset is committed
once its outcome is stored. Any number of workers may hold records of one
partition, since one that lost it to a rebalance goes on for a while; each of
them started at the committed offset.
-/
namespace ControlPlane.KafkaConsumer
open ControlPlane.Runs ControlPlane.Texts ControlPlane.Domain ControlPlane.Commands ControlPlane.EventValidation
open ControlPlane.ControlSchema

/-! ### The codec -/

inductive MessageDecodeErrorCode
  | emptyValue
  | invalidJson
  | invalidEnvelope
  | invalidTransportMetadata
  | invalidReplayGeneration
  deriving DecidableEq, Repr

namespace MessageDecodeErrorCode

def text : MessageDecodeErrorCode → String
  | .emptyValue => "EMPTY_VALUE"
  | .invalidJson => "INVALID_JSON"
  | .invalidEnvelope => "INVALID_ENVELOPE"
  | .invalidTransportMetadata => "INVALID_TRANSPORT_METADATA"
  | .invalidReplayGeneration => "INVALID_REPLAY_GENERATION"

end MessageDecodeErrorCode

/-- The value of a record: nothing, no JSON, JSON without the fields of an
    envelope, or a message. -/
inductive RecordValue (Message : Type)
  | empty
  | notJson
  | notEnvelope
  | message (message : Message)

class Enveloped (Message : Type) where
  envelope : Message → Envelope
  schemaName : Message → String

/-- A record of a partition. A header without a value is absent. -/
structure KafkaMessage (Message : Type) where
  key : Option String
  value : RecordValue Message
  sha256 : String
  headers : String → Option String

section
variable {Message : Type} [Enveloped Message]

/-- Parses the envelope at the messaging trust boundary. -/
def decodeEventEnvelope : RecordValue Message → Except MessageDecodeErrorCode Message
  | .empty => .error .emptyValue
  | .notJson => .error .invalidJson
  | .notEnvelope => .error .invalidEnvelope
  | .message message =>
    if isEventEnvelope (Enveloped.schemaName message) (Enveloped.envelope message) then .ok message
    else .error .invalidEnvelope

/-- Parses the delivery generation in the headers. -/
def decodeReplayGeneration : Option String → Except MessageDecodeErrorCode Nat
  | none => .ok 0
  | some value =>
    if !isNaturalText value || 16 < utf16Length value then .error .invalidReplayGeneration
    else if digitsValue value.toList ≤ maximumSafeInteger then .ok (digitsValue value.toList)
    else .error .invalidReplayGeneration

/-- Parses the identity of the outbox row in the headers. -/
def decodeOutboxId : Option String → Except MessageDecodeErrorCode Uuid
  | none => .error .invalidTransportMetadata
  | some value => if isUuidText value then .ok value else .error .invalidTransportMetadata

/-- Whether the key and the identity headers describe the event of the value. -/
def validateEventTransport (message : Message) (key : Option String) (headers : String → Option String) : Bool :=
  let envelope := Enveloped.envelope message
  key = some envelope.partitionKey && headers "event-id" = some envelope.eventId &&
    headers "schema-name" = some (Enveloped.schemaName message) &&
    headers "schema-version" = some (toString envelope.schemaVersion) && (headers "outbox-id").any isUuidText

/-! ### Records -/

structure Position where
  topic : String
  partition : Nat
  offset : Nat
  deriving DecidableEq, Repr

structure IncomingKafkaRecord (Message : Type) where
  delivery : MessageDeliveryIdentity
  value : RecordValue Message
  sha256 : String
  envelope : Option Message
  /-- A failure at the trust boundary, which is quarantined after the attempts. -/
  decodeError : Option MessageDecodeErrorCode

def errorOf {α : Type} : Except MessageDecodeErrorCode α → Option MessageDecodeErrorCode
  | .error code => some code
  | .ok _ => none

/-- The first failure counts, and the transport is compared when there is none. -/
def record (position : Position) (message : KafkaMessage Message) : IncomingKafkaRecord Message :=
  let envelope := decodeEventEnvelope message.value
  let replayGeneration := decodeReplayGeneration (message.headers "replay-generation")
  let outboxId := decodeOutboxId (message.headers "outbox-id")
  let decodeError := ((errorOf envelope).or (errorOf replayGeneration)).or (errorOf outboxId)
  { delivery := ⟨position.topic, position.partition, position.offset, replayGeneration.toOption.getD 0, outboxId.toOption⟩,
    value := message.value, sha256 := message.sha256, envelope := envelope.toOption,
    decodeError := decodeError.or
      (match envelope with
        | .ok decoded =>
          if validateEventTransport decoded message.key message.headers then none else some .invalidTransportMetadata
        | .error _ => none) }

/-- The envelope of a record passed its checks. -/
theorem record_envelope {position : Position} {source : KafkaMessage Message} {message : Message}
    (enveloped : (record position source).envelope = some message) :
    isEventEnvelope (Enveloped.schemaName message) (Enveloped.envelope message) = true := by
  simp only [record, decodeEventEnvelope] at enveloped
  split at enveloped
  all_goals try cases enveloped
  split at enveloped
  next valid => cases enveloped; exact valid
  next => cases enveloped

end

/-! ### Handling -/

/-- What ends an attempt: a refused value, a record that no attempt can handle,
    or any other failure. -/
inductive HandlerError
  | decode (code : MessageDecodeErrorCode)
  | permanent (code : String)
  | other (message : String)
  deriving DecidableEq, Repr

inductive Outcome
  | handled
  | duplicate
  | deadLettered
  | quarantined
  deriving DecidableEq, Repr

/-- What a consumer does with a record: the transaction of an attempt, and that
    of the exhaustion. -/
structure KafkaConsumerRunnerOptions (Message Db : Type) where
  maximumAttempts : Nat
  handle : IncomingKafkaRecord Message → Draws → Db → Except HandlerError (Outcome × Db)
  exhausted : IncomingKafkaRecord Message → HandlerError → Nat → Draws → Db → Except HandlerError (Outcome × Db)

section
variable {Message Db : Type} (options : KafkaConsumerRunnerOptions Message Db)

/-- One attempt at a record. -/
def attempt (record : IncomingKafkaRecord Message) (draws : Draws) (db : Db) : Except HandlerError (Outcome × Db) :=
  match record.decodeError with
  | some code => .error (.decode code)
  | none => options.handle record draws db

/-- Where a worker is with its record. -/
inductive Progress
  | handling (attempt : Nat)
  | exhausted (error : HandlerError)
  | durable
  deriving DecidableEq, Repr

/-- Where it is after a failed attempt. -/
def failed (attempt : Nat) (error : HandlerError) : Progress :=
  if attempt < options.maximumAttempts then .handling (attempt + 1) else .exhausted error

end

/-! ### Runs -/

structure Worker where
  position : Position
  progress : Progress
  deriving DecidableEq, Repr

/-- A transaction that was committed: the outcome of a record, or a request to
    the service that owns the database. -/
inductive Entry (Request : Type)
  | settled (position : Position) (draws : Draws) (outcome : Outcome)
  | requested (request : Request)

structure State (Db Request : Type) where
  db : Db
  committed : String → Nat → Nat
  workers : List Worker
  history : List (Entry Request)

/-- Consumers with the records that their topics ever have, beside a service. -/
structure Setting (Message Db Request : Type) where
  options : KafkaConsumerRunnerOptions Message Db
  log : Position → Option (KafkaMessage Message)
  perform : Request → Db → Db

/-- What an outage of the database takes: nothing, the transaction, or only the
    answer to its commit. -/
inductive Outage
  | nothing
  | transaction
  | answer
  deriving DecidableEq, Repr

inductive Action (Request : Type)
  | fetch (position : Position)
  | attempt (worker : Nat) (draws : Draws) (outage : Outage)
  | exhaust (worker : Nat) (draws : Draws) (outage : Outage)
  | commit (worker : Nat)
  | crash (worker : Nat)
  | request (request : Request)

section
variable {Message Db Request : Type} [Enveloped Message] (setting : Setting Message Db Request)

/-- The committed offset of the partition of a position. -/
def State.committedAt (s : State Db Request) (position : Position) : Nat := s.committed position.topic position.partition

/-- A partition is read from its committed offset on, without passing over a record. -/
def fetchable (s : State Db Request) (position : Position) : Bool :=
  s.committedAt position ≤ position.offset && (setting.log position).isSome &&
    (List.range position.offset).all fun offset =>
      offset < s.committedAt position || (setting.log { position with offset := offset }).isNone

/-- Performs a transaction for a worker, which goes on as `fail` says unless it
    learns that the transaction was committed. -/
def transact (s : State Db Request) (index : Nat) (position : Position) (draws : Draws) (outage : Outage)
    (result : Except HandlerError (Outcome × Db)) (fail : HandlerError → List Worker) : State Db Request :=
  match outage, result with
  | .nothing, .ok (outcome, db) =>
    { s with db := db, workers := s.workers.set index ⟨position, .durable⟩,
             history := s.history ++ [.settled position draws outcome] }
  | .nothing, .error error => { s with workers := fail error }
  | .answer, .ok (outcome, db) =>
    { s with db := db, workers := fail (.other "connection lost"),
             history := s.history ++ [.settled position draws outcome] }
  | .answer, .error _ | .transaction, _ => { s with workers := fail (.other "connection lost") }

def next (s : State Db Request) : Action Request → Option (State Db Request)
  | .fetch position =>
    if fetchable setting s position then some { s with workers := s.workers ++ [⟨position, .handling 1⟩] } else none
  | .attempt index draws outage =>
    match s.workers[index]? with
    | some ⟨position, .handling n⟩ =>
      (setting.log position).map fun message =>
        transact s index position draws outage (attempt setting.options (record position message) draws s.db)
          fun error => s.workers.set index ⟨position, failed setting.options n error⟩
    | _ => none
  | .exhaust index draws outage =>
    match s.workers[index]? with
    | some ⟨position, .exhausted error⟩ =>
      -- An error of the exhaustion is thrown, and the worker stops.
      (setting.log position).map fun message =>
        transact s index position draws outage
          (setting.options.exhausted (record position message) error setting.options.maximumAttempts draws s.db)
          fun _ => s.workers.eraseIdx index
    | _ => none
  | .commit index =>
    match s.workers[index]? with
    | some ⟨position, .durable⟩ =>
      some { s with
        committed := fun topic partition =>
          if topic = position.topic ∧ partition = position.partition then position.offset + 1
          else s.committed topic partition,
        workers := s.workers.eraseIdx index }
    | _ => none
  | .crash index => some { s with workers := s.workers.eraseIdx index }
  | .request request =>
    some { s with db := setting.perform request s.db, history := s.history ++ [.requested request] }

/-- A service that has not consumed anything yet. -/
def initial (db : Db) : State Db Request := ⟨db, fun _ _ => 0, [], []⟩

/-! ### What a step does -/

/-- The outcome of a record was committed. -/
def Settled (history : List (Entry Request)) (position : Position) : Prop :=
  ∃ draws outcome, .settled position draws outcome ∈ history

/-- The outcomes of all records before a position of its partition were committed. -/
def SettledBefore (history : List (Entry Request)) (position : Position) : Prop :=
  ∀ offset < position.offset, (setting.log { position with offset := offset }).isSome = true →
    Settled history { position with offset := offset }

/-- A transaction of a worker ends with an outcome. -/
inductive Settles (db after : Db) (worker : Worker) (draws : Draws) (outcome : Outcome) : Prop
  | handled (message : KafkaMessage Message) (found : setting.log worker.position = some message)
      (result : attempt setting.options (record worker.position message) draws db = .ok (outcome, after))
  | exhausted (message : KafkaMessage Message) (error : HandlerError) (found : setting.log worker.position = some message)
      (spent : worker.progress = .exhausted error)
      (result : setting.options.exhausted (record worker.position message) error setting.options.maximumAttempts draws
        db = .ok (outcome, after))

/-- An attempt at a record may fail with an error. -/
def FailsWith (position : Position) (error : HandlerError) : Prop :=
  error = .other "connection lost" ∨ ∃ message draws db, setting.log position = some message ∧
    attempt setting.options (record position message) draws db = .error error

/-- What a step does to the workers: each of them had its record before or fetched
    it, a durable one learned of an outcome, and an exhausted one of a failure. -/
structure Holds (s : State Db Request) (history : List (Entry Request)) (workers : List Worker) : Prop where
  held : ∀ w ∈ workers, (∃ v ∈ s.workers, v.position = w.position) ∨ fetchable setting s w.position = true
  durable : ∀ w ∈ workers, w.progress = .durable → w ∈ s.workers ∨ Settled history w.position
  spent : ∀ w ∈ workers, ∀ error, w.progress = .exhausted error → w ∈ s.workers ∨ FailsWith setting w.position error

inductive Steps (s t : State Db Request) : Action Request → Prop
  | settled (action : Action Request) (worker : Worker) (draws : Draws) (outcome : Outcome) (held : worker ∈ s.workers)
      (settles : Settles setting s.db t.db worker draws outcome)
      (history : t.history = s.history ++ [.settled worker.position draws outcome])
      (holds : Holds setting s t.history t.workers) (committed : t.committed = s.committed) : Steps s t action
  | requested (request : Request) (db : t.db = setting.perform request s.db)
      (history : t.history = s.history ++ [.requested request]) (workers : t.workers = s.workers)
      (committed : t.committed = s.committed) : Steps s t (.request request)
  | committed (index : Nat) (position : Position) (durable : (⟨position, .durable⟩ : Worker) ∈ s.workers)
      (db : t.db = s.db) (history : t.history = s.history) (workers : ∀ w ∈ t.workers, w ∈ s.workers)
      (offsets : ∀ topic partition, t.committed topic partition =
        if topic = position.topic ∧ partition = position.partition then position.offset + 1
        else s.committed topic partition) : Steps s t (.commit index)
  | moved (action : Action Request) (db : t.db = s.db) (history : t.history = s.history)
      (holds : Holds setting s t.history t.workers) (committed : t.committed = s.committed) : Steps s t action

variable {setting}

/-- Workers that were there, and one that goes on with a record it holds. -/
theorem holds_set {s : State Db Request} {history : List (Entry Request)} {index : Nat} {worker : Worker}
    {progress : Progress} (held : worker ∈ s.workers) (durable : progress = .durable → Settled history worker.position)
    (spent : ∀ error, progress = .exhausted error → FailsWith setting worker.position error) :
    Holds setting s history (s.workers.set index ⟨worker.position, progress⟩) where
  held w member := by
    rcases List.mem_or_eq_of_mem_set member with old | rfl
    · exact .inl ⟨w, old, rfl⟩
    · exact .inl ⟨worker, held, rfl⟩
  durable w member ended := by
    rcases List.mem_or_eq_of_mem_set member with old | rfl
    · exact .inl old
    · exact .inr (durable ended)
  spent w member error ended := by
    rcases List.mem_or_eq_of_mem_set member with old | rfl
    · exact .inl old
    · exact .inr (spent error ended)

theorem holds_sub {s : State Db Request} {history : List (Entry Request)} {workers : List Worker}
    (sub : ∀ w ∈ workers, w ∈ s.workers) : Holds setting s history workers where
  held w member := .inl ⟨w, sub w member, rfl⟩
  durable w member _ := .inl (sub w member)
  spent w member _ _ := .inl (sub w member)

/-- A transaction is committed with an outcome, or changes nothing but workers. -/
theorem transact_steps {s : State Db Request} {action : Action Request} {index : Nat} {worker : Worker} {draws : Draws}
    {outage : Outage} {result : Except HandlerError (Outcome × Db)} {fail : HandlerError → List Worker}
    (held : worker ∈ s.workers)
    (fails : ∀ error history, error = .other "connection lost" ∨ result = .error error →
      Holds setting s history (fail error))
    (settles : ∀ outcome after, result = .ok (outcome, after) → Settles setting s.db after worker draws outcome) :
    Steps setting s (transact s index worker.position draws outage result fail) action := by
  have settled {outcome : Outcome} : Settled (s.history ++ [.settled worker.position draws outcome]) worker.position :=
    ⟨draws, outcome, List.mem_append_right _ (List.mem_singleton_self _)⟩
  cases outage with
  | nothing =>
    cases result with
    | ok ended =>
      exact .settled action worker draws ended.1 held (settles _ _ rfl) rfl
        (holds_set held (fun _ => settled) fun _ impossible => by cases impossible) rfl
    | error error => exact .moved action rfl rfl (fails error _ (.inr rfl)) rfl
  | transaction => exact .moved action rfl rfl (fails _ _ (.inl rfl)) rfl
  | answer =>
    cases result with
    | ok ended => exact .settled action worker draws ended.1 held (settles _ _ rfl) rfl (fails _ _ (.inl rfl)) rfl
    | error error => exact .moved action rfl rfl (fails _ _ (.inl rfl)) rfl

omit [Enveloped Message] in
/-- A failed attempt leads to another one, or exhausts them. -/
theorem failed_cases (options : KafkaConsumerRunnerOptions Message Db) (n : Nat) (error : HandlerError) :
    failed options n error = .handling (n + 1) ∨ failed options n error = .exhausted error := by
  unfold failed
  split
  · exact .inl rfl
  · exact .inr rfl

theorem steps_next {s t : State Db Request} {action : Action Request} (taken : next setting s action = some t) :
    Steps setting s t action := by
  cases action with
  | fetch position =>
    simp only [next] at taken
    split at taken
    next open_ =>
      cases taken
      refine .moved _ rfl rfl ⟨fun w member => ?_, fun w member durable => ?_, fun w member error spent => ?_⟩ rfl
      · rcases List.mem_append.mp member with old | new
        · exact .inl ⟨w, old, rfl⟩
        · exact .inr (List.mem_singleton.mp new ▸ open_)
      · rcases List.mem_append.mp member with old | new
        · exact .inl old
        · rw [List.mem_singleton.mp new] at durable
          cases durable
      · rcases List.mem_append.mp member with old | new
        · exact .inl old
        · rw [List.mem_singleton.mp new] at spent
          cases spent
    next => cases taken
  | attempt index draws outage =>
    simp only [next] at taken
    split at taken
    next position n found =>
      obtain ⟨message, logged, rfl⟩ := Option.map_eq_some_iff.mp taken
      have held : (⟨position, .handling n⟩ : Worker) ∈ s.workers := List.mem_of_getElem? found
      refine transact_steps held (fun error history blamed => ?_) fun outcome after result => .handled message logged result
      refine holds_set held (fun impossible => ?_) fun last spent => ?_
      · rcases failed_cases setting.options n error with same | same <;> cases same.symm.trans impossible
      · rcases failed_cases setting.options n error with same | same
        · cases same.symm.trans spent
        · cases same.symm.trans spent
          exact blamed.imp_right fun result => ⟨message, draws, s.db, logged, result⟩
    next => cases taken
  | exhaust index draws outage =>
    simp only [next] at taken
    split at taken
    next position error found =>
      obtain ⟨message, logged, rfl⟩ := Option.map_eq_some_iff.mp taken
      have held : (⟨position, .exhausted error⟩ : Worker) ∈ s.workers := List.mem_of_getElem? found
      exact transact_steps held (fun _ history _ => holds_sub fun w member => List.mem_of_mem_eraseIdx member)
        fun outcome after result => .exhausted message error logged rfl result
    next => cases taken
  | commit index =>
    simp only [next] at taken
    split at taken
    next position found =>
      cases taken
      exact .committed index position (List.mem_of_getElem? found) rfl rfl (fun w member => List.mem_of_mem_eraseIdx member)
        fun _ _ => rfl
    next => cases taken
  | crash index =>
    cases taken
    exact .moved _ rfl rfl (holds_sub fun w member => List.mem_of_mem_eraseIdx member) rfl
  | request request => cases taken; exact .requested request rfl rfl rfl rfl

/-! ### No record is lost -/

/-- Every outcome comes after those of the records before it. -/
def Ordered (setting : Setting Message Db Request) (history : List (Entry Request)) : Prop :=
  ∀ before position draws outcome after, history = before ++ .settled position draws outcome :: after →
    SettledBefore setting before position

/-- An offset that is committed or that a worker started at is behind outcomes
    that were committed, in the order of the partition. -/
structure Safe (setting : Setting Message Db Request) (s : State Db Request) : Prop where
  durable : ∀ w ∈ s.workers, w.progress = .durable → Settled s.history w.position
  before : ∀ w ∈ s.workers, SettledBefore setting s.history w.position
  committed : ∀ position, position.offset < s.committedAt position → (setting.log position).isSome = true →
    Settled s.history position
  ordered : Ordered setting s.history

theorem Settled.later {history : List (Entry Request)} {position : Position} (settled : Settled history position)
    (more : List (Entry Request)) : Settled (history ++ more) position := by
  obtain ⟨draws, outcome, member⟩ := settled
  exact ⟨draws, outcome, List.mem_append_left more member⟩

omit [Enveloped Message] in
theorem SettledBefore.later {history : List (Entry Request)} {position : Position}
    (settled : SettledBefore setting history position) (more : List (Entry Request)) :
    SettledBefore setting (history ++ more) position :=
  fun offset below logged => (settled offset below logged).later more

omit [Enveloped Message] in
/-- Behind a position that can be fetched everything is settled. -/
theorem Safe.fetchable {s : State Db Request} (safe : Safe setting s) {position : Position}
    (open_ : fetchable setting s position = true) : SettledBefore setting s.history position := by
  intro offset below logged
  simp only [KafkaConsumer.fetchable, Bool.and_eq_true, List.all_eq_true, Bool.or_eq_true, decide_eq_true_eq] at open_
  rcases open_.2 offset (List.mem_range.mpr below) with passed | gap
  · exact safe.committed { position with offset := offset } passed logged
  · rw [Option.isNone_iff_eq_none.mp gap] at logged
    cases logged

omit [Enveloped Message] in
/-- An entry that is added after the outcomes behind it keeps the order. -/
theorem Ordered.concat {history : List (Entry Request)} {entry : Entry Request} (ordered : Ordered setting history)
    (last : ∀ position draws outcome, entry = .settled position draws outcome → SettledBefore setting history position) :
    Ordered setting (history ++ [entry]) := by
  intro before position draws outcome after same
  rcases List.eq_nil_or_concat after with rfl | ⟨rest, final, rfl⟩
  · obtain ⟨rfl, entry⟩ := List.append_inj' same rfl
    exact last position draws outcome (List.cons.inj entry).1
  · have split : history ++ [entry] = (before ++ .settled position draws outcome :: rest) ++ [final] := by
      rw [same]; simp
    exact ordered before position draws outcome rest (List.append_inj' split rfl).1

omit [Enveloped Message] in
/-- A committed offset is behind outcomes only, when the record at it is settled. -/
theorem Safe.commit {s : State Db Request} (safe : Safe setting s) {position : Position}
    (held : (⟨position, .durable⟩ : Worker) ∈ s.workers) {other : Position} (same : other.topic = position.topic)
    (partition : other.partition = position.partition) (below : other.offset < position.offset + 1)
    (logged : (setting.log other).isSome = true) : Settled s.history other := by
  obtain ⟨topic, number, offset⟩ := other
  obtain rfl : topic = position.topic := same
  obtain rfl : number = position.partition := partition
  rcases Nat.lt_or_eq_of_le (Nat.le_of_lt_succ below) with earlier | rfl
  · exact safe.before _ held offset earlier logged
  · exact safe.durable _ held rfl

theorem safe_next {s t : State Db Request} {action : Action Request} (safe : Safe setting s)
    (taken : next setting s action = some t) : Safe setting t := by
  have kept {history : List (Entry Request)} {workers : List Worker} (more : List (Entry Request))
      (grown : history = s.history ++ more) (holds : Holds setting s history workers) :
      (∀ w ∈ workers, w.progress = .durable → Settled history w.position) ∧
        ∀ w ∈ workers, SettledBefore setting history w.position := by
    subst grown
    refine ⟨fun w member ended => ?_, fun w member => ?_⟩
    · rcases holds.durable w member ended with old | settled
      · exact (safe.durable w old ended).later more
      · exact settled
    · rcases holds.held w member with ⟨v, old, same⟩ | open_
      · exact same ▸ (safe.before v old).later more
      · exact (safe.fetchable open_).later more
  cases steps_next taken with
  | settled _ worker draws outcome held settles history holds committed =>
    obtain ⟨durable, before⟩ := kept _ history holds
    refine ⟨durable, before, fun position below logged => ?_, ?_⟩
    · rw [State.committedAt, committed] at below
      exact history ▸ (safe.committed position below logged).later _
    · rw [history]
      exact safe.ordered.concat fun position draws outcome same => by cases same; exact safe.before worker held
  | requested request db history workers committed =>
    obtain ⟨durable, before⟩ := kept _ history (holds_sub fun w member => workers ▸ member)
    refine ⟨durable, before, fun position below logged => ?_, ?_⟩
    · rw [State.committedAt, committed] at below
      exact history ▸ (safe.committed position below logged).later _
    · rw [history]
      exact safe.ordered.concat fun _ _ _ same => by cases same
  | committed index position durable db history workers offsets =>
    refine ⟨fun w member => ?_, fun w member => ?_, fun other below logged => ?_, ?_⟩
    · rw [history]; exact safe.durable w (workers w member)
    · rw [history]; exact safe.before w (workers w member)
    · rw [history]
      rw [State.committedAt, offsets] at below
      split at below
      next same => exact safe.commit durable same.1 same.2 below logged
      next => exact safe.committed other below logged
    · rw [history]; exact safe.ordered
  | moved _ db history holds committed =>
    obtain ⟨durable, before⟩ := kept [] (history.trans (List.append_nil _).symm) holds
    refine ⟨durable, before, fun position below logged => ?_, ?_⟩
    · rw [State.committedAt, committed] at below
      exact history ▸ safe.committed position below logged
    · rw [history]; exact safe.ordered

omit [Enveloped Message] in
theorem safe_initial (db : Db) : Safe setting (initial db : State Db Request) where
  durable _ member := absurd member List.not_mem_nil
  before _ member := absurd member List.not_mem_nil
  committed _ below := absurd below (Nat.not_lt_zero _)
  ordered before position draws outcome after same := by
    cases before <;> cases same

theorem safe_run {allowed : State Db Request → Action Request → Prop} {db : Db} {s : State Db Request}
    (run : Reaches (next setting) allowed (initial db) s) : Safe setting s :=
  reaches_invariant (Safe setting) (fun _ _ _ safe _ taken => safe_next safe taken) run (safe_initial db)

/-! ### No failure is invented -/

/-- The failure that exhausted the attempts of a worker is one of its record. -/
def Blamed (setting : Setting Message Db Request) (s : State Db Request) : Prop :=
  ∀ w ∈ s.workers, ∀ error, w.progress = .exhausted error → FailsWith setting w.position error

theorem Blamed.holds {s : State Db Request} {history : List (Entry Request)} {workers : List Worker}
    (blamed : Blamed setting s) (holds : Holds setting s history workers) :
    ∀ w ∈ workers, ∀ error, w.progress = .exhausted error → FailsWith setting w.position error := by
  intro w member error spent
  rcases holds.spent w member error spent with old | fails
  · exact blamed w old error spent
  · exact fails

theorem blamed_run {allowed : State Db Request → Action Request → Prop} {db : Db} {s : State Db Request}
    (run : Reaches (next setting) allowed (initial db) s) : Blamed setting s := by
  refine reaches_invariant (Blamed setting) (fun s action t blamed _ taken => ?_) run
    fun _ member => absurd member List.not_mem_nil
  cases steps_next taken with
  | settled _ _ _ _ _ _ _ holds => exact blamed.holds holds
  | requested _ _ _ workers => exact fun w member => blamed w (workers ▸ member)
  | committed _ _ _ _ _ workers => exact fun w member => blamed w (workers w member)
  | moved _ _ _ holds => exact blamed.holds holds

/-! ### A worker that is left alone -/

/-- What a worker does that meets no outage. -/
def Undisturbed (index : Nat) (_ : State Db Request) : Action Request → Prop
  | .attempt worker _ outage => worker = index ∧ outage = .nothing
  | .exhaust worker _ outage => worker = index ∧ outage = .nothing
  | .commit worker => worker = index
  | _ => False

/-- The outcome of a record and then its offset were committed. -/
def Passed (s : State Db Request) (position : Position) : Prop :=
  Settled s.history position ∧ s.committedAt position = position.offset + 1

/-- The state with another worker. -/
def State.with (s : State Db Request) (position : Position) (progress : Progress) : State Db Request :=
  { s with workers := s.workers ++ [⟨position, progress⟩] }

variable (setting) in
/-- A worker that fetches a record comes past it, whatever it draws, unless an
    outage or a crash meets it. -/
def Disposes (s : State Db Request) (position : Position) : Prop :=
  ∀ t, Reaches (next setting) (Undisturbed s.workers.length) (s.with position (.handling 1)) t →
    ∃ u, Reaches (next setting) (Undisturbed s.workers.length) t u ∧ Passed u position

/-- A record ends with an outcome in an attempt, or in the exhaustion of its attempts. -/
def Ends (options : KafkaConsumerRunnerOptions Message Db) (record : IncomingKafkaRecord Message) (db : Db) : Prop :=
  (∃ draws settled, attempt options record draws db = .ok settled) ∨
    ∃ error draws later settled, attempt options record draws db = .error error ∧
      options.exhausted record error options.maximumAttempts later db = .ok settled

/-- Where a worker can be that was left alone with a record. -/
inductive Alone (setting : Setting Message Db Request) (s : State Db Request) (position : Position)
    (source : KafkaMessage Message) : State Db Request → Prop
  | handling (n : Nat) : Alone setting s position source (s.with position (.handling n))
  | exhausted (error : HandlerError) (draws : Draws)
      (refused : attempt setting.options (record position source) draws s.db = .error error) :
      Alone setting s position source (s.with position (.exhausted error))
  | rethrown (error thrown : HandlerError) (draws later : Draws)
      (refused : attempt setting.options (record position source) draws s.db = .error error)
      (rethrown : setting.options.exhausted (record position source) error setting.options.maximumAttempts later s.db =
        .error thrown) :
      Alone setting s position source s
  | durable (t : State Db Request) (ends : Ends setting.options (record position source) s.db)
      (workers : t.workers = s.workers ++ [⟨position, .durable⟩]) (settled : Settled t.history position) :
      Alone setting s position source t
  | passed (t : State Db Request) (ends : Ends setting.options (record position source) s.db)
      (workers : t.workers = s.workers) (passed : Passed t position) : Alone setting s position source t

section
variable {s t u : State Db Request} {position : Position} {source : KafkaMessage Message} {progress : Progress}

omit [Enveloped Message] in
theorem with_worker : (s.with position progress).workers[s.workers.length]? = some ⟨position, progress⟩ := by
  simp [State.with]

omit [Enveloped Message] in
/-- The worker that came last goes on. -/
theorem set_last (workers : List Worker) (before after : Worker) :
    (workers ++ [before]).set workers.length after = workers ++ [after] := by
  simp

omit [Enveloped Message] in
theorem erase_last (workers : List Worker) (worker : Worker) :
    (workers ++ [worker]).eraseIdx workers.length = workers := by
  rw [List.eraseIdx_append_of_length_le (Nat.le_refl _), Nat.sub_self]
  exact List.append_nil workers

/-- One attempt of the worker. -/
theorem next_attempt (logged : setting.log position = some source) (n : Nat) (draws : Draws) :
    next setting (s.with position (.handling n)) (.attempt s.workers.length draws .nothing) =
      some (match attempt setting.options (record position source) draws s.db with
        | .ok (outcome, db) =>
          { s.with position .durable with db := db, history := s.history ++ [.settled position draws outcome] }
        | .error error => s.with position (failed setting.options n error)) := by
  simp only [next, with_worker, logged, Option.map_some]
  have same : (s.with position (.handling n)).db = s.db := rfl
  rw [same]
  cases attempt setting.options (record position source) draws s.db with
  | ok settled => simp only [transact, State.with, set_last]
  | error error => simp only [transact, State.with, set_last]

/-- The exhaustion of its attempts. -/
theorem next_exhaust (logged : setting.log position = some source) (error : HandlerError) (draws : Draws) :
    next setting (s.with position (.exhausted error)) (.exhaust s.workers.length draws .nothing) =
      some (match setting.options.exhausted (record position source) error setting.options.maximumAttempts draws s.db with
        | .ok (outcome, db) =>
          { s.with position .durable with db := db, history := s.history ++ [.settled position draws outcome] }
        | .error _ => s) := by
  simp only [next, with_worker, logged, Option.map_some]
  have same : (s.with position (.exhausted error)).db = s.db := rfl
  rw [same]
  cases setting.options.exhausted (record position source) error setting.options.maximumAttempts draws s.db with
  | ok settled => simp only [transact, State.with, set_last]
  | error error => simp only [transact, State.with, erase_last]

variable (setting) in
/-- The commit of its offset. -/
theorem next_commit (workers : t.workers = s.workers ++ [⟨position, .durable⟩]) (settled : Settled t.history position) :
    ∃ u, next setting t (.commit s.workers.length) = some u ∧ u.workers = s.workers ∧ Passed u position := by
  have held : t.workers[s.workers.length]? = some ⟨position, .durable⟩ := by simp [workers]
  refine ⟨{ t with
    committed := fun topic partition =>
      if topic = position.topic ∧ partition = position.partition then position.offset + 1
      else t.committed topic partition,
    workers := t.workers.eraseIdx s.workers.length }, by simp only [next, held], ?_, settled, ?_⟩
  · simp only [workers, erase_last]
  · simp [State.committedAt]

theorem Alone.attempt (logged : setting.log position = some source) {n : Nat} {draws : Draws}
    (taken : next setting (s.with position (.handling n)) (.attempt s.workers.length draws .nothing) = some t) :
    Alone setting s position source t := by
  rw [next_attempt logged] at taken
  cases ended : KafkaConsumer.attempt setting.options (record position source) draws s.db with
  | ok settled =>
    simp only [ended] at taken
    cases taken
    exact .durable _ (.inl ⟨draws, settled, ended⟩) rfl ⟨draws, settled.1, List.mem_append_right _ (List.mem_singleton_self _)⟩
  | error error =>
    simp only [ended] at taken
    cases taken
    unfold failed
    split
    next => exact .handling (n + 1)
    next => exact .exhausted error draws ended

theorem Alone.exhaust (logged : setting.log position = some source) {error : HandlerError} {draws later : Draws}
    (refused : KafkaConsumer.attempt setting.options (record position source) draws s.db = .error error)
    (taken : next setting (s.with position (.exhausted error)) (.exhaust s.workers.length later .nothing) = some t) :
    Alone setting s position source t := by
  rw [next_exhaust logged] at taken
  cases ended : setting.options.exhausted (record position source) error setting.options.maximumAttempts later s.db with
  | ok settled =>
    simp only [ended] at taken
    cases taken
    exact .durable _ (.inr ⟨error, draws, later, settled, refused, ended⟩) rfl
      ⟨later, settled.1, List.mem_append_right _ (List.mem_singleton_self _)⟩
  | error thrown =>
    simp only [ended] at taken
    cases taken
    exact .rethrown error thrown draws later refused ended

/-- The only step of a worker is the one that its progress asks for. -/
theorem undisturbed_cases {index : Nat} {worker : Worker} {action : Action Request}
    (held : s.workers[index]? = some worker) (undisturbed : Undisturbed index s action)
    (taken : next setting s action = some t) :
    (∃ n draws, worker.progress = .handling n ∧ action = .attempt index draws .nothing) ∨
      (∃ error draws, worker.progress = .exhausted error ∧ action = .exhaust index draws .nothing) ∨
        (worker.progress = .durable ∧ action = .commit index) := by
  obtain ⟨position, progress⟩ := worker
  cases action with
  | attempt number draws outage =>
    obtain ⟨rfl, rfl⟩ := undisturbed
    cases progress with
    | handling n => exact .inl ⟨n, draws, rfl, rfl⟩
    | exhausted error => simp [next, held] at taken
    | durable => simp [next, held] at taken
  | exhaust number draws outage =>
    obtain ⟨rfl, rfl⟩ := undisturbed
    cases progress with
    | handling n => simp [next, held] at taken
    | exhausted error => exact .inr (.inl ⟨error, draws, rfl, rfl⟩)
    | durable => simp [next, held] at taken
  | commit number =>
    obtain rfl : number = index := undisturbed
    cases progress with
    | handling n => simp [next, held] at taken
    | exhausted error => simp [next, held] at taken
    | durable => exact .inr (.inr ⟨rfl, rfl⟩)
  | fetch => exact undisturbed.elim
  | crash => exact undisturbed.elim
  | request => exact undisturbed.elim

/-- A worker that is gone takes no step. -/
theorem undisturbed_gone {index : Nat} {action : Action Request} (gone : s.workers[index]? = none)
    (undisturbed : Undisturbed index s action) : next setting s action = none := by
  cases action with
  | attempt number draws outage => obtain ⟨rfl, rfl⟩ := undisturbed; simp [next, gone]
  | exhaust number draws outage => obtain ⟨rfl, rfl⟩ := undisturbed; simp [next, gone]
  | commit number => obtain rfl : number = index := undisturbed; simp [next, gone]
  | fetch => exact undisturbed.elim
  | crash => exact undisturbed.elim
  | request => exact undisturbed.elim

theorem alone_next (logged : setting.log position = some source) {action : Action Request}
    (alone : Alone setting s position source t) (undisturbed : Undisturbed s.workers.length t action)
    (taken : next setting t action = some u) : Alone setting s position source u := by
  cases alone with
  | handling n =>
    rcases undisturbed_cases with_worker undisturbed taken with ⟨m, draws, same, rfl⟩ | ⟨_, _, same, -⟩ | ⟨same, -⟩
    · exact .attempt logged taken
    · cases same
    · cases same
  | exhausted error draws refused =>
    rcases undisturbed_cases with_worker undisturbed taken with ⟨_, _, same, -⟩ | ⟨_, later, same, rfl⟩ | ⟨same, -⟩
    · cases same
    · exact .exhaust logged refused taken
    · cases same
  | rethrown =>
    rw [undisturbed_gone (List.getElem?_eq_none (Nat.le_refl _)) undisturbed] at taken
    cases taken
  | durable _ ends workers settled =>
    have held : t.workers[s.workers.length]? = some ⟨position, .durable⟩ := by simp [workers]
    rcases undisturbed_cases held undisturbed taken with ⟨_, _, same, -⟩ | ⟨_, _, same, -⟩ | ⟨-, rfl⟩
    · cases same
    · cases same
    · obtain ⟨committed, done, gone, passed⟩ := next_commit setting workers settled
      rw [done] at taken
      cases taken
      exact .passed _ ends gone passed
  | passed _ _ workers =>
    rw [undisturbed_gone (by rw [workers]; exact List.getElem?_eq_none (Nat.le_refl _)) undisturbed] at taken
    cases taken

/-- A record that a worker comes past ends with an outcome. -/
theorem Disposes.ends (logged : setting.log position = some source) (before : s.committedAt position ≤ position.offset)
    (disposes : Disposes setting s position) : Ends setting.options (record position source) s.db := by
  obtain ⟨u, run, settled, offset⟩ := disposes _ .refl
  have alone : Alone setting s position source u :=
    reaches_invariant (Alone setting s position source)
      (fun _ _ _ alone undisturbed taken => alone_next logged alone undisturbed taken) run (.handling 1)
  have behind {progress : Progress} (same : (s.with position progress).committedAt position = position.offset + 1) :
      False := by
    have kept : (s.with position progress).committedAt position = s.committedAt position := rfl
    omega
  cases alone with
  | handling n => exact (behind offset).elim
  | exhausted error => exact (behind offset).elim
  | rethrown => omega
  | durable _ ends => exact ends
  | passed _ ends => exact ends

/-- Whatever an attempt at a record fails with, its exhaustion has an outcome for. -/
def Recovers (options : KafkaConsumerRunnerOptions Message Db) (record : IncomingKafkaRecord Message) (db : Db) : Prop :=
  ∀ error draws later, attempt options record draws db = .error error →
    ∃ settled, options.exhausted record error options.maximumAttempts later db = .ok settled

variable (setting) in
theorem passes_durable (workers : t.workers = s.workers ++ [⟨position, .durable⟩]) (settled : Settled t.history position) :
    ∃ u, Reaches (next setting) (Undisturbed s.workers.length) t u ∧ Passed u position := by
  obtain ⟨u, taken, -, passed⟩ := next_commit setting workers settled
  exact ⟨u, .single ⟨.commit s.workers.length, rfl, taken⟩, passed⟩

/-- A transaction that was committed leads past its record. -/
theorem passes_settled {action : Action Request} {db : Db} {draws : Draws} {outcome : Outcome}
    (undisturbed : Undisturbed s.workers.length t action)
    (taken : next setting t action = some
      { s.with position .durable with db := db, history := s.history ++ [.settled position draws outcome] }) :
    ∃ u, Reaches (next setting) (Undisturbed s.workers.length) t u ∧ Passed u position := by
  have settled : Settled (s.history ++ [.settled position draws outcome]) position :=
    ⟨draws, outcome, List.mem_append_right _ (List.mem_singleton_self _)⟩
  obtain ⟨u, run, passed⟩ := passes_durable setting (s := s)
    (t := { s.with position .durable with db := db, history := s.history ++ [.settled position draws outcome] }) rfl settled
  exact ⟨u, .head ⟨action, undisturbed, taken⟩ run, passed⟩

theorem passes_exhausted (logged : setting.log position = some source)
    (recovers : Recovers setting.options (record position source) s.db) {error : HandlerError} {draws : Draws}
    (refused : KafkaConsumer.attempt setting.options (record position source) draws s.db = .error error) :
    ∃ u, Reaches (next setting) (Undisturbed s.workers.length) (s.with position (.exhausted error)) u ∧
      Passed u position := by
  obtain ⟨settled, ended⟩ := recovers error draws draws refused
  have taken := next_exhaust (s := s) logged error draws
  rw [ended] at taken
  have undisturbed : Undisturbed s.workers.length (s.with position (.exhausted error))
      (.exhaust s.workers.length draws .nothing) := ⟨rfl, rfl⟩
  exact passes_settled undisturbed taken

/-- An attempt ends with an outcome, with another attempt or with the exhaustion. -/
theorem passes_attempt (logged : setting.log position = some source)
    (recovers : Recovers setting.options (record position source) s.db) {n : Nat}
    (more : n < setting.options.maximumAttempts →
      ∃ u, Reaches (next setting) (Undisturbed s.workers.length) (s.with position (.handling (n + 1))) u ∧
        Passed u position) :
    ∃ u, Reaches (next setting) (Undisturbed s.workers.length) (s.with position (.handling n)) u ∧ Passed u position := by
  let draws : Draws := ⟨0, fun _ => ""⟩
  have taken := next_attempt (s := s) logged n draws
  have undisturbed : Undisturbed s.workers.length (s.with position (.handling n))
      (.attempt s.workers.length draws .nothing) := ⟨rfl, rfl⟩
  cases ended : KafkaConsumer.attempt setting.options (record position source) draws s.db with
  | ok settled =>
    rw [ended] at taken
    exact passes_settled undisturbed taken
  | error error =>
    rw [ended] at taken
    have first : Step (next setting) (Undisturbed s.workers.length) (s.with position (.handling n))
        (s.with position (failed setting.options n error)) := ⟨_, undisturbed, taken⟩
    obtain ⟨u, run, passed⟩ : ∃ u, Reaches (next setting) (Undisturbed s.workers.length)
        (s.with position (failed setting.options n error)) u ∧ Passed u position := by
      unfold failed
      split
      next again => exact more again
      next => exact passes_exhausted logged recovers ended
    exact ⟨u, .head first run, passed⟩

/-- The attempts that are left end with an outcome. -/
theorem passes_handling (logged : setting.log position = some source)
    (recovers : Recovers setting.options (record position source) s.db) (n : Nat) :
    ∃ u, Reaches (next setting) (Undisturbed s.workers.length) (s.with position (.handling n)) u ∧ Passed u position := by
  induction left : setting.options.maximumAttempts - n generalizing n with
  | zero => exact passes_attempt logged recovers fun again => by omega
  | succ left ih => exact passes_attempt logged recovers fun _ => ih (n + 1) (by omega)

/-- A worker comes past a record that recovers from every failure. -/
theorem disposes_of_recovers (logged : setting.log position = some source)
    (recovers : Recovers setting.options (record position source) s.db) : Disposes setting s position := by
  intro t run
  have alone : Alone setting s position source t :=
    reaches_invariant (Alone setting s position source)
      (fun _ _ _ alone undisturbed taken => alone_next logged alone undisturbed taken) run (.handling 1)
  cases alone with
  | handling n => exact passes_handling logged recovers n
  | exhausted error draws refused => exact passes_exhausted logged recovers refused
  | rethrown error thrown draws later refused rethrown =>
    obtain ⟨settled, ended⟩ := recovers error draws later refused
    cases rethrown.symm.trans ended
  | durable _ _ workers settled => exact passes_durable setting workers settled
  | passed _ _ _ passed => exact ⟨t, .refl, passed⟩

end

end

end ControlPlane.KafkaConsumer
