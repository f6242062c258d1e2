import ControlPlane.FailureClassification
import ControlPlane.Lifecycle
import Mathlib.Data.List.TakeWhile

/-!
The lifecycle of an active instance while an operation on it runs that is to
leave it alone. A success sets the lifecycle that the event carries, which is
active for these operations. A progress event sets `provisioning`, whatever the
operation is.
-/
namespace ControlPlane.ActiveLifecycle
open ControlPlane.Programs ControlPlane.Programs.Program ControlPlane.Runs ControlPlane.Domain ControlPlane.Tables
open ControlPlane.Commands ControlPlane.WorkflowSchema ControlPlane.ControlSchema ControlPlane.Acceptance
open ControlPlane.ProjectionStore ControlPlane.AcceptanceRules ControlPlane.EventValidation
open ControlPlane.ProviderPort ControlPlane.LifecycleWorkflow ControlPlane.SagaRules ControlPlane.Transitions
open ControlPlane.FailureClassification ControlPlane.Lifecycle

/-! ### The events of an operation -/

/-- An event that some claim of the workflow of a command may write. -/
def Emits (command : LifecycleCommand) (event : WorkflowEvent) : Prop :=
  ∃ (host : Host) (around : Surroundings) (workflow : ClaimedWorkflow) (provider : Oracle ProviderCall.Answer)
    (write : StoreWrite), workflow.command = command ∧ workflow.action = command.data.action ∧
      ((runClaimed host around workflow).run provider []).2 = .ok write ∧ event = write.event

def progresses : WorkflowEventData → Bool
  | .progressed .. => true
  | _ => false

def fails : WorkflowEventData → Bool
  | .failed .. => true
  | _ => false

/-- The events before the first failure. -/
def untilFailure (events : List WorkflowEvent) : List WorkflowEvent := events.takeWhile fun event => !fails event.data

/-- Applies events in their order. -/
def applyAll (db : ControlDb) (events : List WorkflowEvent) : Except String ControlDb := events.foldlM applyEvent db

def IsActive (db : ControlDb) (instanceId : Uuid) : Prop :=
  ∃ row, db.instance_ instanceId = some row ∧ row.lifecycleState = .active

/-- The events can be applied one after another, and the instance is active
    after each of them up to a failure. -/
def StaysActive (db : ControlDb) (instanceId : Uuid) (events : List WorkflowEvent) : Prop :=
  ∀ applied, applied <+: untilFailure events → ∃ after, applyAll db applied = .ok after ∧ IsActive after instanceId

/-- The requests that are to leave the lifecycle of their instance alone. -/
def leavesLifecycle : Request → Bool
  | .power _ | .resize _ | .snapshotCreate _ | .snapshotAction .. => true
  | .create _ | .retention _ | .purge _ | .replay _ => false

/-- A workflow event of such an operation progresses, fails, or leaves the
    instance active. -/
theorem emits_cases {command : LifecycleCommand} {event : WorkflowEvent} (emits : Emits command event)
    (leaves : finalLifecycle command.data.action = .active) :
    event.aggregateId = command.aggregateId ∧ event.operationId = command.operationId ∧
      (progresses event.data = true ∨ fails event.data = true ∨
        ∃ action resource evidence observed, event.data = .completed action .active resource evidence observed) := by
  obtain ⟨host, around, workflow, provider, write, rfl, -, ends, rfl⟩ := emits
  have transition : Transition host around workflow _ _ := runClaimed_transition.run_post provider
  have fits := transition_fits transition write ends
  have explained := transition_explained transition
  rw [ends] at explained
  have about := congrArg Envelope.aggregateId fits.envelope
  have journaled := congrArg Envelope.operationId fits.envelope
  refine ⟨about, journaled, ?_⟩
  cases fits.outcome with
  | @moved input =>
    obtain ⟨_, _, _, _, data⟩ := explained input rfl
    exact .inl (by rw [StoreWrite.event, data]; rfl)
  | failed failure status event => exact .inr (.inl (by rw [StoreWrite.event, event]; rfl))
  | succeeded resource evidenceId observed status event =>
    rw [leaves] at event
    exact .inr (.inr ⟨_, _, _, _, event⟩)
  | exhausted => exact .inr (.inl rfl)

/-! ### Instances have documents -/

/-- Every instance has a document. -/
def Documented (db : ControlDb) : Prop :=
  ∀ row ∈ db.instances, ∃ document, find InstanceView.id row.id db.instanceDocuments = some document

section
variable {host : Host} {s t : State} {action : Action} {db after : ControlDb}

/-- Rewriting documents loses none. -/
theorem updated_documented {documents : List InstanceView} {selected : InstanceView → Prop} [DecidablePred selected]
    {rewrite : InstanceView → InstanceView} {id : Uuid} {document : InstanceView}
    (keeps : ∀ d, selected d → (rewrite d).id = d.id) (found : find InstanceView.id id documents = some document) :
    ∃ document, find InstanceView.id id (update selected rewrite documents) = some document := by
  rw [find_update_of keeps, found]
  exact ⟨_, rfl⟩

theorem mutates_documented {now : Instant} {m : Mutation} (documented : Documented db) (mutates : Mutates db after now m)
    (keeps : ∀ row, (m.rewrite row).id = row.id) : Documented after := by
  intro row member
  rw [mutates.instances] at member
  rw [mutates.instanceDocuments]
  obtain ⟨old, there, ⟨-, rfl⟩ | ⟨-, rfl⟩⟩ := mem_update.mp member
  · obtain ⟨document, found⟩ := documented old there
    exact updated_documented (fun _ _ => rfl) ((keeps old).symm ▸ found)
  · obtain ⟨document, found⟩ := documented row there
    exact updated_documented (fun _ _ => rfl) found

theorem effects_documented {draws : Draws} {answer : AcceptedMutation} {request : Request} (documented : Documented db)
    (effects : Effects host draws db after answer request) : Documented after := by
  cases effects with
  | replayed _ same => rw [same]; exact documented
  | create _ _ _ records _ _ built creates =>
    intro row member
    rw [creates.instances] at member
    rw [creates.instanceDocuments, find_append]
    rcases List.mem_append.mp member with old | new
    · obtain ⟨document, found⟩ := documented row old
      exact ⟨document, by rw [found]; rfl⟩
    · rw [List.mem_singleton.mp new]
      have same : records.document.id = records.row.id := by
        obtain ⟨_, -, built⟩ := bind_ok built
        obtain ⟨_, -, built⟩ := bind_ok built
        cases built
        rfl
      rw [← find_append]
      exact find_isSome (List.mem_append_right db.instanceDocuments (List.mem_singleton_self records.document)) same
  | power _ _ _ mutates => exact mutates_documented documented mutates fun _ => rfl
  | resize _ _ _ _ _ _ mutates => exact mutates_documented documented mutates fun _ => rfl
  | snapshotCreate _ _ _ _ mutates => exact mutates_documented documented mutates fun _ => rfl
  | snapshotAction _ _ _ _ _ _ _ _ mutates => exact mutates_documented documented mutates fun _ => rfl
  | retention _ _ _ _ _ mutates => exact mutates_documented documented mutates fun _ => rfl
  | purge _ _ _ _ _ _ _ _ _ mutates => exact mutates_documented documented mutates fun _ => rfl
  | replay _ _ _ _ _ _ _ written => subst written; exact documented

theorem applied_documented {event : WorkflowEvent} (documented : Documented db) (applied : Applied db after event) :
    Documented after := by
  cases applied with
  | documented was operation views found journaled present same =>
    subst same
    intro row member
    obtain ⟨old, there, ⟨-, rfl⟩ | ⟨-, rfl⟩⟩ := mem_update.mp member
    · obtain ⟨document, found⟩ := documented old there
      rw [projectedInstance_id]
      exact updated_documented (fun d same => by rw [projectedDocument_id, same]) found
    · obtain ⟨document, found⟩ := documented row there
      exact updated_documented (fun d same => by rw [projectedDocument_id, same]) found
  | resolved _ _ _ _ _ _ _ _ same => subst same; exact documented

theorem documented_next (documented : Documented s.db) (does : Does host s t action) : Documented t.db := by
  cases does with
  | accepted _ _ _ _ _ effects => exact effects_documented documented effects
  | projected event delivery now _ applied =>
    have received : Documented
        { s.db with eventReceipts := s.db.eventReceipts ++ [⟨.events, event.eventId, delivery, now⟩] } := documented
    exact applied_documented received applied
  | lettered _ _ _ _ written => subst written; exact documented
  | administered _ written => subst written; exact documented
  | nothing _ same => rw [same]; exact documented

theorem documented_run {catalog : Catalog} {allowed : State → Action → Prop}
    (run : Reaches (next host) allowed (initial catalog) s) : Documented s.db :=
  reaches_invariant (fun s => Documented s.db) (fun _ _ _ documented _ taken => documented_next documented (does_next taken))
    run fun _ impossible => absurd impossible List.not_mem_nil

/-! ### Events of an active instance -/

/-- The events of an operation on an active instance can be applied. -/
structure Ready (db : ControlDb) (instanceId operationId : Uuid) : Prop where
  active : IsActive db instanceId
  document : ∃ document, find InstanceView.id instanceId db.instanceDocuments = some document
  journaled : ∃ operation, find OperationView.id operationId db.operationDocuments = some operation

/-- An event that is applied to a ready instance leaves its documents. -/
theorem applied_ready {event : WorkflowEvent} (ready : Ready db event.aggregateId event.operationId)
    (applied : Applied db after event)
    (completed : ∃ action resource evidence observed, event.data = .completed action .active resource evidence observed) :
    Ready after event.aggregateId event.operationId := by
  obtain ⟨action, resource, evidence, observed, data⟩ := completed
  cases applied with
  | documented document operation views found journaled present same =>
    subst same
    obtain ⟨row, rowed, -⟩ := ready.active
    have later := updated_row event.aggregateId (projectedInstance_id event) rowed
    rw [if_pos rfl] at later
    refine ⟨⟨_, later, by simp [projectedInstance, data, completedInstance]⟩, ?_, ?_⟩
    · exact updated_documented (fun d same => by rw [projectedDocument_id, same]) found
    · rw [find_update_of fun o same => by rw [projectedOperation_id, same], journaled]
      exact ⟨_, rfl⟩
  | resolved _ _ _ _ _ other => rw [data] at other; cases other

/-- The completion of an operation is applied to a ready instance. -/
theorem completed_applies {event : WorkflowEvent} (ready : Ready db event.aggregateId event.operationId)
    (completed : ∃ action resource evidence observed, event.data = .completed action .active resource evidence observed) :
    ∃ after, applyEvent db event = .ok after ∧ Ready after event.aggregateId event.operationId := by
  obtain ⟨row, rowed, -⟩ := ready.active
  obtain ⟨document, found⟩ := ready.document
  obtain ⟨operation, journaled⟩ := ready.journaled
  have applies : ∃ after, applyEvent db event = .ok after := by
    obtain ⟨action, resource, evidence, observed, data⟩ := completed
    simp only [applyEvent, data, applyCompleted, lockDocuments, found, journaled, bind, Except.bind, rowed]
    exact ⟨_, rfl⟩
  obtain ⟨after, applied⟩ := applies
  exact ⟨after, applied, applied_ready ready (applyEvent_applied applied) completed⟩

/-- Completions keep a ready instance ready. -/
theorem completions_apply {instanceId operationId : Uuid} {events : List WorkflowEvent}
    (completions : ∀ event ∈ events, event.aggregateId = instanceId ∧ event.operationId = operationId ∧
      ∃ action resource evidence observed, event.data = .completed action .active resource evidence observed)
    (ready : Ready db instanceId operationId) :
    ∃ after, applyAll db events = .ok after ∧ Ready after instanceId operationId := by
  induction events generalizing db with
  | nil => exact ⟨db, rfl, ready⟩
  | cons event events ih =>
    obtain ⟨rfl, rfl, completed⟩ := completions event List.mem_cons_self
    obtain ⟨middle, applied, still⟩ := completed_applies ready completed
    obtain ⟨after, rest, last⟩ := ih (fun other member => completions other (List.mem_cons_of_mem event member)) still
    refine ⟨after, ?_, last⟩
    simp only [applyAll, List.foldlM_cons, applied, bind, Except.bind]
    exact rest

/-- After progress an instance is not active. -/
theorem progressed_inactive {event : WorkflowEvent} (applied : applyEvent db event = .ok after)
    (progressed : progresses event.data = true) : ¬ IsActive after event.aggregateId := by
  rintro ⟨row, rowed, active⟩
  cases applyEvent_applied applied with
  | documented _ _ _ _ _ _ same =>
    subst same
    have moved : row ∈ update (fun r : InstanceRow => r.id = event.aggregateId) (projectedInstance event) db.instances :=
      find_mem rowed
    obtain ⟨old, -, ⟨-, rfl⟩ | ⟨other, rfl⟩⟩ := mem_update.mp moved
    · revert active progressed
      cases data : event.data <;> simp [projectedInstance, data, progresses]
    · exact other (find_key rowed)
  | resolved _ _ _ _ _ data => rw [data] at progressed; cases progressed

/-! ### The acceptance -/

/-- A mutation that keeps the lifecycle of a documented instance leaves it ready
    for its own events. -/
theorem mutates_ready {now : Instant} {m : Mutation} {instanceId : Uuid} (documented : Documented db)
    (mutates : Mutates db after now m) (keeps : ∀ row, (m.rewrite row).id = row.id)
    (alone : ∀ row, (m.rewrite row).lifecycleState = row.lifecycleState) (active : IsActive db instanceId) :
    Ready after instanceId m.operation.id := by
  obtain ⟨row, rowed, live⟩ := active
  have about : row.id = instanceId := find_key rowed
  obtain ⟨document, found⟩ := documented row (find_mem rowed)
  have taken : ∀ row, ({ m.rewrite row with activeOperationId := some m.operation.id } : InstanceRow).id = row.id := keeps
  have later := updated_row m.row.id taken rowed
  rw [ControlDb.instance_, ← mutates.instances] at later
  refine ⟨⟨_, later, ?_⟩, ?_, ?_⟩
  · split
    · exact (alone row).trans live
    · exact live
  · rw [mutates.instanceDocuments]
    exact updated_documented (fun _ _ => rfl) (about ▸ found)
  · rw [mutates.operationDocuments]
    exact find_isSome (List.mem_append_right _ (List.mem_singleton_self m.operation)) rfl

/-- The command that a mutation queues is its own. -/
theorem mutates_queued {now : Instant} {m : Mutation} {outboxId : Uuid} {command : LifecycleCommand}
    (mutates : Mutates db after now m) (queued : after.outbox = db.outbox ++ [⟨outboxId, .lifecycle command, 0, now⟩]) :
    m.event = command := by
  obtain ⟨other, appended⟩ := mutates.outbox
  rw [appended] at queued
  have same := List.append_cancel_left queued
  simp only [List.cons.injEq, OutboxRow.mk.injEq, CommandMessage.lifecycle.injEq, and_true] at same
  exact same.2

/-- An accepted operation that is to leave the lifecycle alone commands a
    workflow that ends active, and finds an active instance ready. -/
theorem accepted_ready {draws : Draws} {answer : AcceptedMutation} {request : Request} {command : LifecycleCommand}
    {outboxId : Uuid} (documented : Documented db) (effects : Effects host draws db after answer request)
    (leaves : leavesLifecycle request = true)
    (queued : after.outbox = db.outbox ++ [⟨outboxId, .lifecycle command, 0, draws.now⟩])
    (active : IsActive db command.aggregateId) :
    finalLifecycle command.data.action = .active ∧ Ready after command.aggregateId command.operationId := by
  cases effects with
  | replayed _ same _ =>
    rw [same] at queued
    exact absurd (congrArg List.length queued) (by simp)
  | power command row idle mutates =>
    obtain rfl := mutates_queued mutates queued
    exact ⟨rfl, mutates_ready documented mutates (fun _ => rfl) (fun _ => rfl) active⟩
  | resize command row flavor idle offered valid mutates =>
    obtain rfl := mutates_queued mutates queued
    exact ⟨rfl, mutates_ready documented mutates (fun _ => rfl) (fun _ => rfl) active⟩
  | snapshotCreate command row idle fresh mutates =>
    obtain rfl := mutates_queued mutates queued
    exact ⟨rfl, mutates_ready documented mutates (fun _ => rfl) (fun _ => rfl) active⟩
  | snapshotAction action command row snapshot idle found own available mutates =>
    obtain rfl := mutates_queued mutates queued
    exact ⟨by cases action <;> rfl, mutates_ready documented mutates (fun _ => rfl) (fun _ => rfl) active⟩
  | _ => cases leaves

/-- An operation leaves an active instance active, at every point up to a
    failure, exactly when it reports no progress. -/
theorem stays_active_iff {catalog : Catalog} {draws : Draws} {request : Request} {requestHash : String}
    {command : LifecycleCommand} {outboxId : Uuid} {events : List WorkflowEvent}
    (reached : Reaches (next host) Anything (initial catalog) s)
    (taken : next host s (.accept draws request requestHash) = some t) (leaves : leavesLifecycle request = true)
    (queued : t.db.outbox = s.db.outbox ++ [⟨outboxId, .lifecycle command, 0, draws.now⟩])
    (active : IsActive s.db command.aggregateId) (emitted : ∀ event ∈ events, Emits command event) :
    StaysActive t.db command.aggregateId events ↔ ∀ event ∈ untilFailure events, progresses event.data = false := by
  have ⟨final, ready⟩ : finalLifecycle command.data.action = .active ∧
      Ready t.db command.aggregateId command.operationId := by
    cases does_next taken with
    | accepted _ _ _ _ _ effects => exact accepted_ready (documented_run reached) effects leaves queued active
    | nothing _ same =>
      rw [same] at queued
      exact absurd (congrArg List.length queued) (by simp)
  have cases_of (event : WorkflowEvent) (member : event ∈ untilFailure events) :=
    emits_cases (emitted event ((List.takeWhile_prefix _).subset member)) final
  constructor
  · intro stays event member
    obtain ⟨before, rest, split⟩ := List.append_of_mem member
    obtain ⟨after, applied, still⟩ := stays (before ++ [event]) ⟨rest, by rw [split]; simp⟩
    rw [applyAll, List.foldlM_append] at applied
    obtain ⟨middle, -, applied⟩ := bind_ok applied
    obtain ⟨last, applied, done⟩ := bind_ok applied
    cases done
    rw [← (cases_of event member).1] at still
    exact Bool.eq_false_iff.mpr fun progressed => progressed_inactive applied progressed still
  · intro quiet applied isPrefix
    have completions : ∀ event ∈ applied, event.aggregateId = command.aggregateId ∧
        event.operationId = command.operationId ∧
        ∃ action resource evidence observed, event.data = .completed action .active resource evidence observed := by
      intro event member
      have within : event ∈ untilFailure events := isPrefix.subset member
      obtain ⟨about, journaled, progressed | failed | completed⟩ := cases_of event within
      · exact absurd progressed (Bool.eq_false_iff.mp (quiet event within))
      · have clean := List.mem_takeWhile_imp within
        simp [failed] at clean
      · exact ⟨about, journaled, completed⟩
    obtain ⟨after, applies, still⟩ := completions_apply completions ready
    exact ⟨after, applies, still.active⟩

end

/-! ### A power action -/

/-- A created instance, before a power action on it is accepted. -/
def sampleCreated : List Action :=
  [acceptSample, projectSample 0 sampleCreate "created" (sampleCompletion .createInstance .active)]

def acceptSamplePower : Action := acceptSampleMutation 0 samplePower fun request => .power { request with action := .stop }

/-- The event of the first claim of the power action. -/
def sampleProgress : WorkflowEvent :=
  { envelope sampleAround (claimedAt samplePower .accepted) with
    data := .progressed .submittingPower 1 .running none none }

theorem emits_sampleProgress : Emits samplePower sampleProgress := by
  refine ⟨sampleHost, sampleAround, claimedAt samplePower .accepted, answering {}, _, rfl, rfl, rfl, ?_⟩
  rfl

theorem stays_active_iff_sampleProgress : ∃ s t,
    execute (next sampleHost) (initial sampleCatalog) sampleCreated = some s ∧
    next sampleHost s acceptSamplePower = some t ∧
    (StaysActive t.db samplePower.aggregateId [sampleProgress] ↔
      ∀ event ∈ untilFailure [sampleProgress], progresses event.data = false) := by
  have executed : execute (next sampleHost) (initial sampleCatalog) sampleCreated = some _ := rfl
  refine ⟨_, _, executed, rfl, ?_⟩
  exact stays_active_iff (reaches_execute (meets_anything _ _) executed)
    (rfl : next sampleHost _ acceptSamplePower = some _) rfl rfl ⟨_, rfl, rfl⟩
    (List.forall_mem_singleton.mpr emits_sampleProgress)

/-- Stopping an instance sets it provisioning before it is stopped. -/
theorem power_provisions : ¬ ∀ (host : Host) (catalog : Catalog) (s t : State) (draws : Draws) (request : Request)
    (requestHash : String) (command : LifecycleCommand) (outboxId : Uuid) (events : List WorkflowEvent),
    Reaches (next host) Anything (initial catalog) s → next host s (.accept draws request requestHash) = some t →
      leavesLifecycle request = true → t.db.outbox = s.db.outbox ++ [⟨outboxId, .lifecycle command, 0, draws.now⟩] →
      IsActive s.db command.aggregateId → (∀ event ∈ events, Emits command event) →
      StaysActive t.db command.aggregateId events := by
  intro all
  have executed : execute (next sampleHost) (initial sampleCatalog) sampleCreated = some _ := rfl
  have stays : StaysActive _ samplePower.aggregateId [sampleProgress] :=
    all sampleHost sampleCatalog _ _ _ _ _ samplePower "outbox" [sampleProgress]
      (reaches_execute (meets_anything _ _) executed) (rfl : next sampleHost _ acceptSamplePower = some _) rfl rfl
      ⟨_, rfl, rfl⟩ (List.forall_mem_singleton.mpr emits_sampleProgress)
  obtain ⟨after, applied, still⟩ := stays [sampleProgress] (List.prefix_refl _)
  obtain ⟨last, applied, done⟩ := bind_ok applied
  cases done
  exact progressed_inactive applied rfl still

end ControlPlane.ActiveLifecycle
