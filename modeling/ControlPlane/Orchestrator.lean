import ControlPlane.Transitions
import ControlPlane.Fencing

/-!
The orchestrator: any number of workers that claim workflows, talk to the
provider and write to the store, in any interleaving. A claim in flight is the
rest of its program. A worker may crash at any moment, also after a call was
sent and before its answer came. The log keeps every call and every answer in
order; claims are numbered as they are handed out.
-/
namespace ControlPlane.Orchestrator
open ControlPlane.Programs ControlPlane.Programs.Program ControlPlane.Tables ControlPlane.Runs
open ControlPlane.Domain ControlPlane.Commands ControlPlane.WorkflowSchema ControlPlane.WorkflowStore
open ControlPlane.ProviderPort ControlPlane.LifecycleWorkflow ControlPlane.StoreRules
open ControlPlane.EventValidation
open ControlPlane.Fencing (StoreCall committed written claimedState)

/-- A claim that a worker executes: what is left of its program, what was said
    so far, and whether an answer is awaited. -/
structure InFlight where
  claim : Nat
  around : Surroundings
  workflow : ClaimedWorkflow
  program : Saga StoreWrite
  past : List ProviderExchange
  waiting : Bool

inductive Entry
  | called (claim : Nat) (operationId : Uuid) (call : ProviderCall)
  | received (claim : Nat) (operationId : Uuid) (exchange : ProviderExchange)

structure State where
  store : Fencing.State
  inFlight : List InFlight
  claims : Nat
  log : List Entry

def initial (now : Instant) : State := ⟨Fencing.initial now, [], 0, []⟩

/-- Whether a call of the store is made with a claim. -/
def byWorker : StoreCall → Bool
  | .claimNext .. | .checkpoint .. | .complete .. | .deadLetterWorkflow .. => true
  | _ => false

inductive Action
  /-- An admission, a dead letter of the consumer, or time passing. -/
  | outside (call : StoreCall)
  | claim (workerId : String) (leaseSeconds : Nat) (action : WorkflowAction) (locked : Uuid → Bool)
      (around : Surroundings)
  | send (claim : Nat)
  | receive (claim : Nat) (answers : (call : ProviderCall) → call.Answer)
  | write (claim : Nat) (fresh : Nat → Uuid)
  | crash (claim : Nat)

/-- The write of a claim as a call of the store. -/
def storeCall (fresh : Nat → Uuid) : StoreWrite → StoreCall
  | .checkpoint input => .checkpoint fresh input
  | .complete input => .complete fresh input
  | .deadLetterWorkflow input => .deadLetterWorkflow fresh input

section
variable (host : Host)

/-- A new claim, at the start of its program. -/
def started (claim : Nat) (workerId : String) (around : Surroundings) (workflow : ClaimedWorkflow) : InFlight :=
  let around := { around with workerId := workerId }
  ⟨claim, around, workflow, runClaimed host around workflow, [], false⟩

/-- A claim after an answer. -/
def answered (flight : InFlight) (exchange : ProviderExchange) (program : Saga StoreWrite) : InFlight :=
  { flight with program := program, past := flight.past ++ [exchange], waiting := false }

def replace (flight : InFlight) (inFlight : List InFlight) : List InFlight :=
  update (fun f : InFlight => f.claim = flight.claim) (fun _ => flight) inFlight

def without (claim : Nat) (inFlight : List InFlight) : List InFlight := inFlight.filter fun f => f.claim ≠ claim

def next (s : State) : Action → Option State
  | .outside call =>
    if byWorker call then none else (Fencing.next host s.store call).map fun store => { s with store := store }
  | .claim workerId leaseSeconds action locked around =>
    match claimNext s.store.db workerId leaseSeconds action locked s.store.now with
    | .ok (some (workflow, _)) =>
      (Fencing.next host s.store (.claimNext workerId leaseSeconds action locked)).map fun store =>
        { s with
          store := store, inFlight := s.inFlight ++ [started host s.claims workerId around workflow],
          claims := s.claims + 1 }
    | _ => none
  | .send claim =>
    (find InFlight.claim claim s.inFlight).bind fun flight =>
      match flight.waiting, flight.program with
      | false, .ask call _ =>
        some { s with
          inFlight := replace { flight with waiting := true } s.inFlight,
          log := s.log ++ [.called flight.claim flight.workflow.command.operationId call] }
      | _, _ => none
  | .receive claim answers =>
    (find InFlight.claim claim s.inFlight).bind fun flight =>
      match flight.waiting, flight.program with
      | true, .ask call resume =>
        some { s with
          inFlight := replace (answered flight ⟨call, answers call⟩ (resume (answers call))) s.inFlight,
          log := s.log ++ [.received flight.claim flight.workflow.command.operationId ⟨call, answers call⟩] }
      | _, _ => none
  | .write claim fresh =>
    (find InFlight.claim claim s.inFlight).bind fun flight =>
      match flight.program with
      | .done write =>
        (Fencing.next host s.store (storeCall fresh write)).map fun store =>
          { s with store := store, inFlight := without claim s.inFlight }
      | _ => none
  | .crash claim => some { s with inFlight := without claim s.inFlight }

/-- What a step of the orchestrator does, by action. -/
inductive Steps (s t : State) : Action → Prop
  | outside (call : StoreCall) (admission : byWorker call = false)
      (stored : Fencing.next host s.store call = some t.store) (same : t = { s with store := t.store }) :
      Steps s t (.outside call)
  | claim (workerId : String) (leaseSeconds : Nat) (action : WorkflowAction) (locked : Uuid → Bool)
      (around : Surroundings) (workflow : ClaimedWorkflow) (after : WorkflowDb)
      (claimed : claimNext s.store.db workerId leaseSeconds action locked s.store.now = .ok (some (workflow, after)))
      (stored : Fencing.next host s.store (.claimNext workerId leaseSeconds action locked) = some t.store)
      (same : t = { s with
        store := t.store, inFlight := s.inFlight ++ [started host s.claims workerId around workflow],
        claims := s.claims + 1 }) :
      Steps s t (.claim workerId leaseSeconds action locked around)
  | send (flight : InFlight) (member : flight ∈ s.inFlight) (call : ProviderCall)
      (resume : call.Answer → Saga StoreWrite) (asks : flight.program = .ask call resume)
      (same : t = { s with
        inFlight := replace { flight with waiting := true } s.inFlight,
        log := s.log ++ [.called flight.claim flight.workflow.command.operationId call] }) :
      Steps s t (.send flight.claim)
  | receive (flight : InFlight) (member : flight ∈ s.inFlight) (answers : (call : ProviderCall) → call.Answer)
      (call : ProviderCall) (resume : call.Answer → Saga StoreWrite) (asks : flight.program = .ask call resume)
      (same : t = { s with
        inFlight := replace (answered flight ⟨call, answers call⟩ (resume (answers call))) s.inFlight,
        log := s.log ++ [.received flight.claim flight.workflow.command.operationId ⟨call, answers call⟩] }) :
      Steps s t (.receive flight.claim answers)
  | write (flight : InFlight) (member : flight ∈ s.inFlight) (fresh : Nat → Uuid) (write : StoreWrite)
      (ends : flight.program = .done write)
      (stored : Fencing.next host s.store (storeCall fresh write) = some t.store)
      (same : t = { s with store := t.store, inFlight := without flight.claim s.inFlight }) :
      Steps s t (.write flight.claim fresh)
  | crash (claim : Nat) (same : t = { s with inFlight := without claim s.inFlight }) : Steps s t (.crash claim)

variable {host}

theorem steps_next {s t : State} {action : Action} (taken : next host s action = some t) : Steps host s t action := by
  cases action with
  | outside call =>
    simp only [next] at taken
    split at taken
    next => cases taken
    next admission =>
      obtain ⟨store, stored, rfl⟩ := Option.map_eq_some_iff.mp taken
      exact .outside call (by simpa using admission) stored rfl
  | claim workerId leaseSeconds action locked around =>
    simp only [next] at taken
    split at taken
    next workflow after claimed =>
      obtain ⟨store, stored, rfl⟩ := Option.map_eq_some_iff.mp taken
      exact .claim workerId leaseSeconds action locked around workflow after claimed stored rfl
    next => cases taken
  | send claim =>
    obtain ⟨flight, found, sent⟩ := Option.bind_eq_some_iff.mp taken
    obtain rfl := find_key found
    split at sent
    next call resume _ asks =>
      cases sent
      exact .send flight (find_mem found) call resume asks rfl
    next => cases sent
  | receive claim answers =>
    obtain ⟨flight, found, received⟩ := Option.bind_eq_some_iff.mp taken
    obtain rfl := find_key found
    split at received
    next call resume _ asks =>
      cases received
      exact .receive flight (find_mem found) answers call resume asks rfl
    next => cases received
  | write claim fresh =>
    obtain ⟨flight, found, written⟩ := Option.bind_eq_some_iff.mp taken
    obtain rfl := find_key found
    split at written
    next write ends =>
      obtain ⟨store, stored, rfl⟩ := Option.map_eq_some_iff.mp written
      exact .write flight (find_mem found) fresh write ends stored rfl
    next => cases written
  | crash claim => cases taken; exact .crash claim rfl

/-- The store of the orchestrator runs as the store does under any callers. -/
theorem store_run {allowed : State → Action → Prop} {s t : State} (run : Reaches (next host) allowed s t) :
    Reaches (Fencing.next host) Anything s.store t.store := by
  refine reaches_part State.store (fun s action t _ taken => ?_) run
  cases steps_next taken with
  | outside call _ stored => exact .single ⟨call, trivial, stored⟩
  | claim _ _ _ _ _ _ _ _ stored => exact .single ⟨_, trivial, stored⟩
  | send _ _ _ _ _ same => rw [same]
  | receive _ _ _ _ _ _ same => rw [same]
  | write _ _ _ _ _ stored => exact .single ⟨_, trivial, stored⟩
  | crash _ same => rw [same]

theorem mem_replace {flight out : InFlight} {inFlight : List InFlight} (member : out ∈ replace flight inFlight) :
    out = flight ∨ out ∈ inFlight := by
  obtain ⟨old, present, ⟨-, rfl⟩ | ⟨-, rfl⟩⟩ := mem_update.mp member
  · exact .inl rfl
  · exact .inr present

theorem mem_without {claim : Nat} {out : InFlight} {inFlight : List InFlight} (member : out ∈ without claim inFlight) :
    out ∈ inFlight := (List.mem_filter.mp member).1

/-! ### What a call of the store leaves behind -/

/-- A row that a call left at its stage, took to its end, or moved; and a row at
    the beginning. Only the beginning gives a row its command. -/
inductive RowFrom (rows : List WorkflowRow) (call : StoreCall) (row : WorkflowRow) : Prop
  | kept (old : WorkflowRow) (member : old ∈ rows) (operation : row.operationId = old.operationId)
      (command : row.command = old.command) (stage : row.stage = old.stage)
  | accepted (stage : row.stage = .stage .accepted) (identity : row.command.operationId = row.operationId)
  | ended (old : WorkflowRow) (member : old ∈ rows) (operation : row.operationId = old.operationId)
      (command : row.command = old.command) (status : FinalStatus) (stage : row.stage = status.stage)
  | moved (old : WorkflowRow) (member : old ∈ rows) (operation : row.operationId = old.operationId)
      (command : row.command = old.command) (fresh : Nat → Uuid) (input : CheckpointInput)
      (same : call = .checkpoint fresh input) (chosen : row.operationId = input.operationId)
      (stage : row.stage = .stage input.stage)

theorem rowFrom_same {rows : List WorkflowRow} {call : StoreCall} : ∀ row ∈ rows, RowFrom rows call row :=
  fun row member => .kept row member rfl rfl rfl

theorem rowFrom_update {db : WorkflowDb} {call : StoreCall} {op : Uuid} {rewrite : WorkflowRow → WorkflowRow}
    (rewritten : ∀ row ∈ db.workflows, row.operationId = op → RowFrom db.workflows call (rewrite row)) :
    ∀ row ∈ (updateWorkflow db op rewrite).workflows, RowFrom db.workflows call row := by
  intro row member
  obtain ⟨old, present, ⟨chosen, rfl⟩ | ⟨-, rfl⟩⟩ := mem_update.mp member
  · exact rewritten old present chosen
  · exact .kept row present rfl rfl rfl

theorem admitted_rows {db after : WorkflowDb} {command : LifecycleCommand} {generation : Nat} {now : Instant}
    {call : StoreCall} (admitted : Admitted db after command generation now) :
    ∀ row ∈ after.workflows, RowFrom db.workflows call row := by
  cases admitted with
  | unchanged workflows => rw [workflows]; exact rowFrom_same
  | started resource workflows =>
    rw [workflows]
    intro row member
    rcases List.mem_append.mp member with old | new
    · exact rowFrom_same row old
    · rw [List.mem_singleton.mp new]; exact .accepted rfl rfl
  | reopened _ _ _ _ workflows =>
    rw [workflows]
    exact rowFrom_update fun _ _ same => .accepted rfl same.symm

/-- Every call of the store leaves rows that come from somewhere. -/
theorem rows_next {s t : Fencing.State} {call : StoreCall} (called : Fencing.next host s call = some t) :
    ∀ row ∈ t.db.workflows, RowFrom s.db.workflows call row := by
  cases call with
  | admitCommand fresh command delivery =>
    cases called
    cases ended : admitCommand host s.db fresh command delivery s.now with
    | error _ => exact rowFrom_same
    | ok result =>
      obtain ⟨admission, after⟩ := result
      exact admitted_rows (admitCommand_ok ended).1
  | admitReplayRequest fresh request delivery =>
    cases called
    cases ended : admitReplayRequest host s.db fresh request delivery s.now with
    | error _ => exact rowFrom_same
    | ok result =>
      obtain ⟨admission, after⟩ := result
      simp only [committed, (admitReplayRequest_ok ended).1]
      exact rowFrom_same
  | deadLetterCommand fresh input =>
    cases called
    cases ended : deadLetterCommand host s.db fresh input s.now with
    | error _ => exact rowFrom_same
    | ok result =>
      obtain ⟨stored, after⟩ := result
      simp only [committed, (deadLetterCommand_ok ended).1]
      exact rowFrom_same
  | claimNext workerId leaseSeconds action locked =>
    cases called
    simp only [claimedState]
    split
    next workflow after ended =>
      obtain ⟨row, -, claim⟩ := claimNext_ok ended
      obtain ⟨leased, taken, rfl⟩ := claim.taken
      rw [← (takeLease_rows taken).1]
      exact rowFrom_update fun old member _ => .kept old member rfl rfl rfl
    next => exact rowFrom_same
  | checkpoint fresh input =>
    cases called
    cases ended : checkpoint s.db fresh input s.now with
    | error _ => exact rowFrom_same
    | ok after =>
      simp only [written, (checkpoint_ok ended).1.workflows]
      exact rowFrom_update fun old member same => .moved old member rfl rfl fresh input rfl same rfl
  | complete fresh input =>
    cases called
    cases ended : complete s.db fresh input s.now with
    | error _ => exact rowFrom_same
    | ok after =>
      simp only [written, (complete_ok ended).1.workflows]
      exact rowFrom_update fun old member _ => .ended old member rfl rfl input.status rfl
  | deadLetterWorkflow fresh input =>
    cases called
    cases ended : deadLetterWorkflow s.db fresh input s.now with
    | error _ => exact rowFrom_same
    | ok after =>
      obtain ⟨_, -, write, -⟩ := deadLetterWorkflow_ok ended
      simp only [written, write.workflows]
      exact rowFrom_update fun old member _ => .ended old member rfl rfl .failed rfl
  | pass elapsed => cases called; exact rowFrom_same

/-- Every row carries a command of its own operation. -/
def Identified (rows : List WorkflowRow) : Prop := ∀ row ∈ rows, row.command.operationId = row.operationId

theorem identified_next {s t : Fencing.State} {call : StoreCall} (identified : Identified s.db.workflows)
    (called : Fencing.next host s call = some t) : Identified t.db.workflows := by
  intro row member
  cases rows_next called row member with
  | kept old present operation command => rw [operation, command]; exact identified old present
  | accepted _ identity => exact identity
  | ended old present operation command => rw [operation, command]; exact identified old present
  | moved old present operation command => rw [operation, command]; exact identified old present

/-- The event that a call of the store publishes about its workflow. -/
def writtenEvent : StoreCall → Option WorkflowEvent
  | .checkpoint _ input => some input.event
  | .complete _ input => some input.event
  | .deadLetterWorkflow _ input => some input.event
  | _ => none

/-- A terminal event in the outbox after a call was there before, or was written
    by the call. -/
def Published (before after : WorkflowDb) (written : Option WorkflowEvent) : Prop :=
  ∀ row ∈ after.outbox, ∀ event, row.message = .event event → event.data.isTerminal = true →
    row ∈ before.outbox ∨ written = some event

theorem published_same {before after : WorkflowDb} {written : Option WorkflowEvent}
    (same : after.outbox = before.outbox) : Published before after written :=
  fun _ member _ _ _ => .inl (same ▸ member)

theorem published_append {before after : WorkflowDb} {written : Option WorkflowEvent}
    {more : List (OutboxRow WorkflowMessage)} (appended : after.outbox = before.outbox ++ more)
    (all : ∀ row ∈ more, ∀ event, row.message = .event event → event.data.isTerminal = true → written = some event) :
    Published before after written := by
  intro row member event message terminal
  rw [appended] at member
  rcases List.mem_append.mp member with old | new
  · exact .inl old
  · exact .inr (all row new event message terminal)

theorem published_quiet {before after : WorkflowDb} {written : Option WorkflowEvent} {outboxId : Uuid}
    {quiet : WorkflowEvent} {occurredAt : Instant} (progressed : quiet.data.isTerminal = false)
    (appended : after.outbox = before.outbox ++ [⟨outboxId, .event quiet, 0, occurredAt⟩]) :
    Published before after written := by
  refine published_append appended fun _ member event message terminal => ?_
  obtain rfl := List.mem_singleton.mp member
  cases message
  exact absurd terminal (by rw [progressed]; exact Bool.false_ne_true)

theorem admitted_published {db after : WorkflowDb} {command : LifecycleCommand} {generation : Nat} {now : Instant}
    {written : Option WorkflowEvent} (admitted : Admitted db after command generation now) :
    Published db after written := by
  cases admitted with
  | unchanged _ outbox => exact published_same outbox
  | started _ _ _ outbox =>
    rcases outbox with same | ⟨_, _, quiet, appended⟩
    · exact published_same same
    · exact published_quiet quiet appended
  | reopened _ _ _ _ _ outbox =>
    obtain ⟨_, _, quiet, appended⟩ := outbox
    exact published_quiet quiet appended

/-- Every call of the store publishes at most its own terminal event. -/
theorem outbox_next {s t : Fencing.State} {call : StoreCall} (called : Fencing.next host s call = some t) :
    Published s.db t.db (writtenEvent call) := by
  have one : ∀ {after : WorkflowDb} {outboxId : Uuid} {event : WorkflowEvent} {occurredAt : Instant},
      after.outbox = s.db.outbox ++ [⟨outboxId, .event event, 0, occurredAt⟩] →
      Published s.db after (some event) := by
    intro after outboxId event occurredAt appended
    refine published_append appended fun row member found message _ => ?_
    obtain rfl := List.mem_singleton.mp member
    cases message
    rfl
  cases call with
  | admitCommand fresh command delivery =>
    cases called
    cases ended : admitCommand host s.db fresh command delivery s.now with
    | error _ => exact published_same rfl
    | ok result =>
      obtain ⟨admission, after⟩ := result
      exact admitted_published (admitCommand_ok ended).1
  | admitReplayRequest fresh request delivery =>
    cases called
    cases ended : admitReplayRequest host s.db fresh request delivery s.now with
    | error _ => exact published_same rfl
    | ok result =>
      obtain ⟨admission, after⟩ := result
      obtain ⟨-, -, outbox⟩ := admitReplayRequest_ok ended
      rcases outbox with same | ⟨_, _, quiet, appended⟩ | ⟨_, _, _, _, _, _, _, _, appended⟩
      · exact published_same same
      · exact published_quiet quiet appended
      · refine published_append appended fun row member event message _ => ?_
        obtain rfl := List.mem_singleton.mp member
        cases message
  | deadLetterCommand fresh input =>
    cases called
    cases ended : deadLetterCommand host s.db fresh input s.now with
    | error _ => exact published_same rfl
    | ok result =>
      obtain ⟨stored, after⟩ := result
      obtain ⟨-, -, outbox, -⟩ := deadLetterCommand_ok ended
      rcases outbox with same | ⟨_, appended⟩
      · exact published_same same
      · refine published_append appended fun row member event message _ => ?_
        obtain rfl := List.mem_singleton.mp member
        cases message
  | claimNext workerId leaseSeconds action locked =>
    cases called
    simp only [claimedState]
    split
    next workflow after ended =>
      obtain ⟨row, -, claim⟩ := claimNext_ok ended
      obtain ⟨leased, taken, rfl⟩ := claim.taken
      exact published_same (takeLease_rows taken).2
    next => exact published_same rfl
  | checkpoint fresh input =>
    cases called
    cases ended : checkpoint s.db fresh input s.now with
    | error _ => exact published_same rfl
    | ok after => exact one (checkpoint_ok ended).2.1
  | complete fresh input =>
    cases called
    cases ended : complete s.db fresh input s.now with
    | error _ => exact published_same rfl
    | ok after => exact one (complete_ok ended).2.1
  | deadLetterWorkflow fresh input =>
    cases called
    cases ended : deadLetterWorkflow s.db fresh input s.now with
    | error _ => exact published_same rfl
    | ok after =>
      obtain ⟨row, -, -, ⟨event, appended⟩, -⟩ := deadLetterWorkflow_ok ended
      refine published_append appended fun row member found message _ => ?_
      rcases List.mem_cons.mp member with rfl | last
      · cases message; rfl
      · obtain rfl := List.mem_singleton.mp last
        cases message
  | pass elapsed => cases called; exact published_same rfl

end

/-! ### Sample runs -/

/-- A provider that answers every mutation and every observation in one way. -/
def sampleProvider (mutation : Option ProviderMutationResult) (observation : Option InstanceObservation) :
    (call : ProviderCall) → call.Answer
  | .getTask _ => .ok {}
  | .observeInstance _ => .ok observation
  | .listSnapshots _ => .ok none
  | .submitCreateInstance _ | .applyInstanceConfiguration _ | .startInstance _ | .shutdownInstance _
  | .stopInstance _ | .rebootInstance _ | .resizeInstance _ | .createSnapshot _ | .rollbackSnapshot _
  | .deleteSnapshot _ | .markInstanceRetained _ | .purgeInstance _ => .ok mutation

def sampleResult : ProviderMutationResult := { state := some .succeeded, providerResourceId := some "910000" }

/-- The instance, running and with exactly its markers. -/
def sampleObservation : InstanceObservation :=
  { existing := some true, powerState := some .running,
    ownership := some { complete := some true, matching := some true } }

def sampleAdmission (offset : Nat) (command : LifecycleCommand) : Action :=
  .outside (.admitCommand (fun _ => "") command ⟨"provisioning.commands.v1", 0, offset, 0, none⟩)

def sampleClaim (action : WorkflowAction) : Action :=
  .claim "worker" 30 action (fun _ => false) ⟨"worker", 0, 0, 0, 0, fun _ => ""⟩

/-- A claim that asks the provider nothing. -/
def silentClaim (claim : Nat) (action : WorkflowAction) : List Action :=
  [sampleClaim action, .write claim fun _ => ""]

/-- A claim that makes one call. -/
def answeredClaim (claim : Nat) (action : WorkflowAction) (observation : Option InstanceObservation) : List Action :=
  [sampleClaim action, .send claim, .receive claim (sampleProvider (some sampleResult) observation),
   .write claim fun _ => ""]

/-- The creation and the retention of an instance, step by step. -/
def sampleRetained : List Action :=
  sampleAdmission 0 sampleCreate :: silentClaim 0 .createInstance ++
    (answeredClaim 1 .createInstance sampleObservation ++ (answeredClaim 2 .createInstance sampleObservation ++
    (answeredClaim 3 .createInstance sampleObservation ++ (answeredClaim 4 .createInstance sampleObservation ++
    sampleAdmission 1 sampleRetention :: (silentClaim 5 .retainInstance ++
    (answeredClaim 6 .retainInstance sampleObservation ++ answeredClaim 7 .retainInstance sampleObservation))))))

end ControlPlane.Orchestrator
