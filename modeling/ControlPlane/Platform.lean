import ControlPlane.CommandConsumer
import ControlPlane.Custody
import ControlPlane.Lifecycle
import ControlPlane.ProjectionConsumer

/-!
The control plane and the orchestrator as one system. What either of them
publishes reaches the other as records of a topic, which may be delivered in
any order and any number of times. Between the deliveries requests are
accepted, operators edit the catalog, and workers claim and execute workflows.
-/
namespace ControlPlane.Platform
open ControlPlane.Tables ControlPlane.Runs ControlPlane.Domain ControlPlane.Commands ControlPlane.EventValidation
open ControlPlane.WorkflowSchema ControlPlane.ControlSchema ControlPlane.AcceptanceRules
open ControlPlane.CommandConsumer ControlPlane.ProjectionConsumer
open ControlPlane.Fencing (StoreCall)

structure State where
  control : Lifecycle.State
  orchestrator : Orchestrator.State
  /-- The messages that the consumer of the commands dead-lettered. -/
  rejected : List CommandMessage

def initial (catalog : Catalog) (now : Instant) : State := ⟨Lifecycle.initial catalog, Orchestrator.initial now, []⟩

def State.instance_ (s : State) (instanceId : Uuid) : Option InstanceRow := s.control.db.instance_ instanceId

/-- The workflows of the orchestrator. -/
def State.workflows (s : State) : List WorkflowRow := s.orchestrator.store.db.workflows

/-- What the orchestrator publishes. -/
def State.published (s : State) : List (OutboxRow WorkflowMessage) := s.orchestrator.store.db.outbox

/-- A row that the orchestrator publishes on the topic of the commands. -/
def restoredRow (row : OutboxRow WorkflowMessage) : Option (OutboxRow CommandMessage) :=
  match row.message with
  | .command command => some ⟨row.outboxId, .lifecycle command, row.replayGeneration, row.occurredAt⟩
  | _ => none

/-- What the topic of the commands carries: accepted commands and replay
    requests, and the commands that an authorized replay restores. -/
def State.commands (s : State) : List (OutboxRow CommandMessage) :=
  s.control.db.outbox ++ s.published.filterMap restoredRow

def deliveryOf {Message : Type} (row : OutboxRow Message) (topic : String) (partition offset : Nat) :
    MessageDeliveryIdentity := ⟨topic, partition, offset, row.replayGeneration, some row.outboxId⟩

def delivered (message : CommandMessage) : DeliveredMessage := ⟨message, columnTexts message, fun _ member => member⟩

/-- The record of a published command, whose transport describes it. Only a
    quarantined record keeps its hash. -/
def commandRecord (row : OutboxRow CommandMessage) (partition offset : Nat) : CommandRecord :=
  ⟨deliveryOf row commandTopic partition offset, .message (delivered row.message), "", some (delivered row.message), none⟩

/-- The record of a published event or dead letter, whose transport describes it. -/
def eventRecord (row : OutboxRow WorkflowMessage) (partition offset : Nat) : Option ProjectionRecord :=
  match row.message with
  | .command _ => none
  | .event event =>
    some ⟨deliveryOf row eventTopic partition offset, .message (.workflow event), "", some (.workflow event), none⟩
  | .deadLettered letter =>
    some ⟨deliveryOf row dlqTopic partition offset, .message (.deadLettered letter), "", some (.deadLettered letter), none⟩

section
variable (host : Host)

inductive Action
  | accept (draws : Draws) (request : Request) (requestHash : String)
  | administer (catalog : Catalog)
  /-- A delivery of a row of the topic of the commands. -/
  | consume (index partition offset : Nat) (fresh : Nat → Uuid) (attempts : Nat)
  /-- A delivery of a row that the orchestrator published about its workflows. -/
  | project (index partition offset : Nat) (now : Instant)
  /-- A step of a worker, or time passing. -/
  | work (action : Orchestrator.Action)

/-- A step of the control plane. -/
def controlled (s : State) (action : Lifecycle.Action) : Option State :=
  (Lifecycle.next host s.control action).map fun control => { s with control := control }

/-- A step of the orchestrator. -/
def orchestrated (s : State) (action : Orchestrator.Action) : Option State :=
  (Orchestrator.next host s.orchestrator action).map fun orchestrator => { s with orchestrator := orchestrator }

/-- Whether a dead letter of the consumer is a new one. -/
def stores (s : State) (fresh : Nat → Uuid) (input : DeadLetterCommandInput) : Bool :=
  match WorkflowStore.deadLetterCommand host s.orchestrator.store.db fresh input s.orchestrator.store.now with
  | .ok (stored, _) => stored
  | .error _ => false

/-- The consumer admits what it can narrow, and dead-letters what it rejects for
    good. -/
def consume (s : State) (row : OutboxRow CommandMessage) (record : CommandRecord) (fresh : Nat → Uuid)
    (attempts : Nat) : Option State :=
  match ingress (contractValue record.value) with
  | .ok (.command command) => orchestrated host s (.outside (.admitCommand fresh command record.delivery))
  | .ok (.replayRequest request) => orchestrated host s (.outside (.admitReplayRequest fresh request record.delivery))
  | .error (.permanent code) =>
    let input := evidence record (delivered row.message) attempts code
    (orchestrated host s (.outside (.deadLetterCommand fresh input))).map fun t =>
      if stores host s fresh input then { t with rejected := t.rejected ++ [row.message] } else t
  -- A record without an envelope is quarantined, which nothing here reads.
  | .error _ => some s

/-- The projection applies what it can narrow, and quarantines the rest. -/
def project (s : State) (record : ProjectionRecord) (now : Instant) : Option State :=
  match narrowed record with
  | .ok (.workflow event) => controlled host s (.project event record.delivery now)
  | .ok (.deadLettered letter) => controlled host s (.projectDeadLetter letter record.delivery now)
  | _ => some s

def ofWorker : Orchestrator.Action → Bool
  | .outside (.pass _) => true
  | .outside _ => false
  | _ => true

def next (s : State) : Action → Option State
  | .accept draws request requestHash => controlled host s (.accept draws request requestHash)
  | .administer catalog => controlled host s (.administer catalog)
  | .consume index partition offset fresh attempts =>
    s.commands[index]?.bind fun row => consume host s row (commandRecord row partition offset) fresh attempts
  | .project index partition offset now =>
    (s.published[index]?.bind fun row => eventRecord row partition offset).bind fun record => project host s record now
  | .work action => if ofWorker action then orchestrated host s action else none

/-! ### What a step does -/

/-- What is delivered to the store of the orchestrator. -/
inductive Brings (s : State) : StoreCall → Prop
  | command (row : OutboxRow CommandMessage) (member : row ∈ s.commands) (fresh : Nat → Uuid)
      (command : LifecycleCommand) (delivery : MessageDeliveryIdentity)
      (narrowed : ingress (.message row.message) = .ok (.command command)) :
      Brings s (.admitCommand fresh command delivery)
  | replayRequest (row : OutboxRow CommandMessage) (member : row ∈ s.commands) (fresh : Nat → Uuid)
      (request : ProvisioningReplayRequested) (delivery : MessageDeliveryIdentity)
      (narrowed : ingress (.message row.message) = .ok (.replayRequest request)) :
      Brings s (.admitReplayRequest fresh request delivery)
  | letter (row : OutboxRow CommandMessage) (member : row ∈ s.commands) (fresh : Nat → Uuid)
      (input : DeadLetterCommandInput) (same : input.message = row.message) : Brings s (.deadLetterCommand fresh input)
  | time (elapsed : Nat) : Brings s (.pass elapsed)

/-- What is delivered to the control plane. -/
inductive Carries (s : State) : Lifecycle.Action → Prop
  | request (draws : Draws) (request : Request) (requestHash : String) : Carries s (.accept draws request requestHash)
  | catalog (catalog : Catalog) : Carries s (.administer catalog)
  | event (row : OutboxRow WorkflowMessage) (member : row ∈ s.published) (event : WorkflowEvent)
      (delivery : MessageDeliveryIdentity) (now : Instant) (message : row.message = .event event) :
      Carries s (.project event delivery now)
  | letter (row : OutboxRow WorkflowMessage) (member : row ∈ s.published) (letter : ProvisioningDeadLettered)
      (delivery : MessageDeliveryIdentity) (now : Instant) (message : row.message = .deadLettered letter) :
      Carries s (.projectDeadLetter letter delivery now)

/-- A step is one of the control plane or of the orchestrator, with what the
    other published. -/
inductive Steps (s t : State) : Prop
  | controlled (action : Lifecycle.Action) (carries : Carries s action)
      (taken : Lifecycle.next host s.control action = some t.control) (orchestrator : t.orchestrator = s.orchestrator)
      (rejected : t.rejected = s.rejected)
  | orchestrated (action : Orchestrator.Action) (brings : ∀ call, action = .outside call → Brings s call)
      (taken : Orchestrator.next host s.orchestrator action = some t.orchestrator) (control : t.control = s.control)
      (rejected : t.rejected = s.rejected ∨ ∃ message code, ingress (.message message) = .error (.permanent code) ∧
        t.rejected = s.rejected ++ [message])
  | nothing (same : t = s)

end

section
variable {host : Host} {s t : State}

theorem controlled_steps {action : Lifecycle.Action} (carries : Carries s action)
    (taken : controlled host s action = some t) : Steps host s t := by
  obtain ⟨control, stepped, rfl⟩ := Option.map_eq_some_iff.mp taken
  exact .controlled action carries stepped rfl rfl

theorem orchestrated_steps {action : Orchestrator.Action} (brings : ∀ call, action = .outside call → Brings s call)
    (taken : orchestrated host s action = some t) : Steps host s t := by
  obtain ⟨orchestrator, stepped, rfl⟩ := Option.map_eq_some_iff.mp taken
  exact .orchestrated action brings stepped rfl (.inl rfl)

theorem consume_steps {row : OutboxRow CommandMessage} {partition offset attempts : Nat} {fresh : Nat → Uuid}
    (member : row ∈ s.commands)
    (taken : consume host s row (commandRecord row partition offset) fresh attempts = some t) : Steps host s t := by
  have brought {call : StoreCall} (brings : Brings s call) (other : StoreCall)
      (same : Orchestrator.Action.outside call = .outside other) : Brings s other := by cases same; exact brings
  simp only [consume] at taken
  split at taken
  next command narrowed => exact orchestrated_steps (brought (.command row member fresh command _ narrowed)) taken
  next request narrowed => exact orchestrated_steps (brought (.replayRequest row member fresh request _ narrowed)) taken
  next code refused =>
    obtain ⟨u, stepped, done⟩ := Option.map_eq_some_iff.mp taken
    obtain ⟨orchestrator, stored, rfl⟩ := Option.map_eq_some_iff.mp stepped
    refine .orchestrated _ (brought (.letter row member fresh (evidence (commandRecord row partition offset)
      (delivered row.message) attempts code) rfl)) ?_ ?_ ?_
    · split at done <;> (cases done; exact stored)
    · split at done <;> (cases done; rfl)
    · split at done
      · cases done
        exact .inr ⟨row.message, code, refused, rfl⟩
      · cases done
        exact .inl rfl
  next => cases taken; exact .nothing rfl

/-- What the projection narrows is what was published. -/
theorem narrowed_published {row : OutboxRow WorkflowMessage} {partition offset : Nat} {record : ProjectionRecord}
    {event : ProjectedEvent} (read : eventRecord row partition offset = some record)
    (narrows : narrowed record = .ok event) :
    (∃ found, row.message = .event found ∧ event = .workflow found) ∨
      ∃ found, row.message = .deadLettered found ∧ event = .deadLettered found := by
  cases message : row.message with
  | command command => simp only [eventRecord, message] at read; cases read
  | event found =>
    simp only [eventRecord, message] at read
    cases read
    have reconciles : eventTopic ≠ reconciliationTopic := by decide
    simp only [narrowed, deliveryOf, reconciles, if_false, if_true] at narrows
    obtain ⟨event, narrowed, done⟩ := bind_ok narrows
    cases done
    exact .inl ⟨found, rfl, congrArg ProjectedEvent.workflow (workflowEvent_ok rfl narrowed)⟩
  | deadLettered found =>
    simp only [eventRecord, message] at read
    cases read
    have reconciles : dlqTopic ≠ reconciliationTopic := by decide
    have reports : dlqTopic ≠ eventTopic := by decide
    simp only [narrowed, deliveryOf, reconciles, reports, if_false] at narrows
    obtain ⟨event, narrowed, done⟩ := bind_ok narrows
    cases done
    exact .inr ⟨found, rfl, congrArg ProjectedEvent.deadLettered (deadLetterEvent_ok rfl narrowed)⟩

theorem steps_next {action : Action} (taken : next host s action = some t) : Steps host s t := by
  cases action with
  | accept draws request requestHash => exact controlled_steps (.request draws request requestHash) taken
  | administer catalog => exact controlled_steps (.catalog catalog) taken
  | consume index partition offset fresh attempts =>
    obtain ⟨row, found, consumed⟩ := Option.bind_eq_some_iff.mp taken
    exact consume_steps (List.mem_of_getElem? found) consumed
  | project index partition offset now =>
    obtain ⟨record, read, projected⟩ := Option.bind_eq_some_iff.mp taken
    obtain ⟨row, found, read⟩ := Option.bind_eq_some_iff.mp read
    have member := List.mem_of_getElem? found
    simp only [project] at projected
    split at projected
    next event narrows =>
      rcases narrowed_published read narrows with ⟨found, message, same⟩ | ⟨found, message, same⟩
      · cases same
        exact controlled_steps (.event row member event _ now message) projected
      · cases same
    next letter narrows =>
      rcases narrowed_published read narrows with ⟨found, message, same⟩ | ⟨found, message, same⟩
      · cases same
      · cases same
        exact controlled_steps (.letter row member letter _ now message) projected
    next => cases projected; exact .nothing rfl
  | work action =>
    simp only [next] at taken
    split at taken
    next own =>
      refine orchestrated_steps (fun call same => ?_) taken
      subst same
      cases call <;> first | exact .time _ | cases own
    next => cases taken

/-! ### The control plane's part of a step -/

/-- What an action of the system asks of the control plane. -/
inductive Controls (s : State) : Action → Lifecycle.Action → Prop
  | request (draws : Draws) (request : Request) (requestHash : String) :
      Controls s (.accept draws request requestHash) (.accept draws request requestHash)
  | catalog (catalog : Catalog) : Controls s (.administer catalog) (.administer catalog)
  | event (index partition offset : Nat) (now : Instant) (row : OutboxRow WorkflowMessage)
      (found : s.published[index]? = some row) (event : WorkflowEvent) (message : row.message = .event event)
      (supported : isSupported event = true) :
      Controls s (.project index partition offset now) (.project event (deliveryOf row eventTopic partition offset) now)
  | letter (index partition offset : Nat) (now : Instant) (row : OutboxRow WorkflowMessage)
      (found : s.published[index]? = some row) (letter : ProvisioningDeadLettered)
      (message : row.message = .deadLettered letter) :
      Controls s (.project index partition offset now)
        (.projectDeadLetter letter (deliveryOf row dlqTopic partition offset) now)

theorem controlled_control {action : Lifecycle.Action} (taken : controlled host s action = some t) :
    Lifecycle.next host s.control action = some t.control := by
  obtain ⟨control, stepped, rfl⟩ := Option.map_eq_some_iff.mp taken
  exact stepped

theorem orchestrated_control {action : Orchestrator.Action} (taken : orchestrated host s action = some t) :
    t.control = s.control := by
  obtain ⟨orchestrator, -, rfl⟩ := Option.map_eq_some_iff.mp taken
  rfl

theorem consume_control {row : OutboxRow CommandMessage} {record : CommandRecord} {fresh : Nat → Uuid} {attempts : Nat}
    (taken : consume host s row record fresh attempts = some t) : t.control = s.control := by
  simp only [consume] at taken
  split at taken
  next => exact orchestrated_control taken
  next => exact orchestrated_control taken
  next =>
    obtain ⟨u, stepped, done⟩ := Option.map_eq_some_iff.mp taken
    have same := orchestrated_control stepped
    split at done <;> (cases done; exact same)
  next => cases taken; rfl

theorem project_control {index partition offset : Nat} {now : Instant} {row : OutboxRow WorkflowMessage}
    {record : ProjectionRecord} (found : s.published[index]? = some row)
    (read : eventRecord row partition offset = some record) (taken : project host s record now = some t) :
    t.control = s.control ∨ ∃ act, Controls s (.project index partition offset now) act ∧
      Lifecycle.next host s.control act = some t.control := by
  simp only [project] at taken
  split at taken
  next event narrows =>
    rcases narrowed_published read narrows with ⟨carried, message, same⟩ | ⟨carried, message, same⟩
    · cases same
      simp only [eventRecord, message] at read
      cases read
      exact .inr ⟨_, .event index partition offset now row found event message (narrowed_supported narrows),
        controlled_control taken⟩
    · cases same
  next letter narrows =>
    rcases narrowed_published read narrows with ⟨carried, message, same⟩ | ⟨carried, message, same⟩
    · cases same
    · cases same
      simp only [eventRecord, message] at read
      cases read
      exact .inr ⟨_, .letter index partition offset now row found letter message, controlled_control taken⟩
  next => cases taken; exact .inl rfl

theorem control_next {action : Action} (taken : next host s action = some t) :
    t.control = s.control ∨ ∃ act, Controls s action act ∧ Lifecycle.next host s.control act = some t.control := by
  cases action with
  | accept draws request requestHash => exact .inr ⟨_, .request draws request requestHash, controlled_control taken⟩
  | administer catalog => exact .inr ⟨_, .catalog catalog, controlled_control taken⟩
  | consume index partition offset fresh attempts =>
    obtain ⟨row, -, consumed⟩ := Option.bind_eq_some_iff.mp taken
    exact .inl (consume_control consumed)
  | project index partition offset now =>
    obtain ⟨record, read, projected⟩ := Option.bind_eq_some_iff.mp taken
    obtain ⟨row, found, read⟩ := Option.bind_eq_some_iff.mp read
    exact project_control found read projected
  | work action =>
    simp only [next] at taken
    split at taken
    next => exact .inl (orchestrated_control taken)
    next => cases taken

/-! ### The orchestrator's part of a step -/

/-- What an action of the system asks of the orchestrator. Only a delivery of the
    topic of the commands admits a command. -/
inductive Works (s : State) : Action → Orchestrator.Action → Prop
  | command (index partition offset : Nat) (fresh : Nat → Uuid) (attempts : Nat) (row : OutboxRow CommandMessage)
      (found : s.commands[index]? = some row) (command : LifecycleCommand)
      (narrowed : ingress (.message row.message) = .ok (.command command)) :
      Works s (.consume index partition offset fresh attempts)
        (.outside (.admitCommand fresh command (deliveryOf row commandTopic partition offset)))
  | other (action : Action) (act : Orchestrator.Action)
      (noCommand : ∀ fresh command delivery, act ≠ .outside (.admitCommand fresh command delivery)) : Works s action act

theorem controlled_orchestrator {action : Lifecycle.Action} (taken : controlled host s action = some t) :
    t.orchestrator = s.orchestrator := by
  obtain ⟨control, -, rfl⟩ := Option.map_eq_some_iff.mp taken
  rfl

theorem orchestrated_orchestrator {action : Orchestrator.Action} (taken : orchestrated host s action = some t) :
    Orchestrator.next host s.orchestrator action = some t.orchestrator := by
  obtain ⟨orchestrator, stepped, rfl⟩ := Option.map_eq_some_iff.mp taken
  exact stepped

theorem orchestrator_next {action : Action} (taken : next host s action = some t) :
    t.orchestrator = s.orchestrator ∨ t.control = s.control ∧ ∃ act, Works s action act ∧
      Orchestrator.next host s.orchestrator act = some t.orchestrator := by
  cases action with
  | accept draws request requestHash => exact .inl (controlled_orchestrator taken)
  | administer catalog => exact .inl (controlled_orchestrator taken)
  | consume index partition offset fresh attempts =>
    obtain ⟨row, found, consumed⟩ := Option.bind_eq_some_iff.mp taken
    simp only [consume] at consumed
    split at consumed
    next command narrowed =>
      exact .inr ⟨orchestrated_control consumed, _, .command index partition offset fresh attempts row found command narrowed,
        orchestrated_orchestrator consumed⟩
    next request narrowed =>
      refine .inr ⟨orchestrated_control consumed, _, .other _ _ ?_, orchestrated_orchestrator consumed⟩
      intro fresh command delivery same
      cases same
    next code refused =>
      obtain ⟨u, stepped, done⟩ := Option.map_eq_some_iff.mp consumed
      have same : t.orchestrator = u.orchestrator ∧ t.control = u.control := by
        split at done <;> (cases done; exact ⟨rfl, rfl⟩)
      rw [same.1, same.2]
      refine .inr ⟨orchestrated_control stepped, _, .other _ _ ?_, orchestrated_orchestrator stepped⟩
      intro fresh command delivery same
      cases same
    next => cases consumed; exact .inl rfl
  | project index partition offset now =>
    obtain ⟨record, read, projected⟩ := Option.bind_eq_some_iff.mp taken
    simp only [project] at projected
    split at projected
    next => exact .inl (controlled_orchestrator projected)
    next => exact .inl (controlled_orchestrator projected)
    next => cases projected; exact .inl rfl
  | work action =>
    simp only [next] at taken
    split at taken
    next own =>
      refine .inr ⟨orchestrated_control taken, _, .other _ _ ?_, orchestrated_orchestrator taken⟩
      rintro fresh command delivery rfl
      cases own
    next => cases taken

end

end ControlPlane.Platform
