import ControlPlane.AcceptanceRules
import ControlPlane.EventValidation
import ControlPlane.Runs

/-!
The control plane as a state machine: requests are accepted, operators edit the
catalog, and the outcomes of workflows are projected, in any order and any
number of times. The history keeps what was newly accepted and what was
projected.
-/
namespace ControlPlane.Lifecycle
open ControlPlane.Tables ControlPlane.Runs ControlPlane.Domain ControlPlane.Commands ControlPlane.WorkflowSchema
open ControlPlane.ControlSchema ControlPlane.Transactions ControlPlane.Acceptance ControlPlane.ProjectionStore
open ControlPlane.AcceptanceRules ControlPlane.EventValidation

inductive Entry
  | accepted (request : Request) (operationId : Uuid)
  | projected (event : WorkflowEvent)

structure State where
  db : ControlDb
  history : List Entry

/-- A control plane with a catalog and nothing else. -/
def initial (catalog : Catalog) : State := ⟨{ toCatalog := catalog }, []⟩

inductive Action
  | accept (draws : Draws) (request : Request) (requestHash : String)
  | project (event : WorkflowEvent) (delivery : MessageDeliveryIdentity) (now : Instant)
  | projectDeadLetter (event : ProvisioningDeadLettered) (delivery : MessageDeliveryIdentity) (now : Instant)
  | administer (catalog : Catalog)

/-- A transaction that throws changes nothing. -/
def next (host : Host) (s : State) : Action → Option State
  | .accept draws request requestHash =>
    match atomically (accept host draws requestHash request) s.db with
    | .ok (answer, after) =>
      some ⟨after, if answer.replayed then s.history else s.history ++ [.accepted request answer.operationId]⟩
    | .error _ => some s
  | .project event delivery now =>
    match applyWorkflowEvent s.db event delivery now with
    | .ok (fresh, after) => some ⟨after, if fresh then s.history ++ [.projected event] else s.history⟩
    | .error _ => some s
  | .projectDeadLetter event delivery now =>
    match applyDeadLetterEvent s.db event delivery now with
    | .ok (_, after) => some { s with db := after }
    | .error _ => some s
  | .administer catalog => some { s with db := { s.db with toCatalog := catalog } }

/-- What a step does, by action. -/
inductive Steps (s t : State) : Action → Prop
  | accepted (draws : Draws) (request : Request) (requestHash : String) (answer : AcceptedMutation)
      (accepted : Accepted s.db t.db answer request)
      (history : t.history = if answer.replayed then s.history else s.history ++ [.accepted request answer.operationId]) :
      Steps s t (.accept draws request requestHash)
  | projected (event : WorkflowEvent) (delivery : MessageDeliveryIdentity) (now : Instant)
      (projected : Projected s.db t.db event) (history : t.history = s.history ++ [.projected event]) :
      Steps s t (.project event delivery now)
  | quiet (action : Action) (instances : t.db.instances = s.db.instances) (leases : t.db.ipv4Leases = s.db.ipv4Leases)
      (history : t.history = s.history) : Steps s t action

theorem steps_next {host : Host} {s t : State} {action : Action} (taken : next host s action = some t) :
    Steps s t action := by
  cases action with
  | accept draws request requestHash =>
    simp only [next] at taken
    split at taken
    next answer after ended => cases taken; exact .accepted draws request requestHash answer (accept_ok ended) rfl
    next => cases taken; exact .quiet _ rfl rfl rfl
  | project event delivery now =>
    simp only [next] at taken
    split at taken
    next fresh after applied =>
      cases taken
      rcases applyWorkflowEvent_ok applied with ⟨rfl, rfl⟩ | ⟨rfl, projected⟩
      · exact .quiet _ rfl rfl rfl
      · exact .projected event delivery now projected rfl
    next => cases taken; exact .quiet _ rfl rfl rfl
  | projectDeadLetter event delivery now =>
    simp only [next] at taken
    split at taken
    next applied =>
      cases taken
      rcases applyDeadLetterEvent_cases applied with ⟨-, rfl, -⟩ | ⟨-, -, rfl⟩
      · exact .quiet _ rfl rfl rfl
      · exact .quiet _ rfl rfl rfl
    next => cases taken; exact .quiet _ rfl rfl rfl
  | administer catalog => cases taken; exact .quiet _ rfl rfl rfl

/-- What a step does to all tables. -/
inductive Does (host : Host) (s t : State) : Action → Prop
  | accepted (draws : Draws) (request : Request) (requestHash : String) (answer : AcceptedMutation)
      (ended : atomically (accept host draws requestHash request) s.db = .ok (answer, t.db))
      (effects : Effects host draws s.db t.db answer request)
      (history : t.history = if answer.replayed then s.history else s.history ++ [.accepted request answer.operationId]) :
      Does host s t (.accept draws request requestHash)
  | projected (event : WorkflowEvent) (delivery : MessageDeliveryIdentity) (now : Instant)
      (unseen : ¬ Seen s.db .events event.eventId delivery.replayGeneration)
      (applied : Applied
        { s.db with eventReceipts := s.db.eventReceipts ++ [⟨.events, event.eventId, delivery, now⟩] } t.db event)
      (history : t.history = s.history ++ [.projected event]) : Does host s t (.project event delivery now)
  | lettered (letter : ProvisioningDeadLettered) (delivery : MessageDeliveryIdentity) (now : Instant)
      (unseen : ¬ Seen s.db .deadLetters letter.eventId delivery.replayGeneration)
      (written : t = { s with db := { s.db with
        eventReceipts := s.db.eventReceipts ++ [⟨.deadLetters, letter.eventId, delivery, now⟩],
        deadLetterDocuments := lettered letter s.db.deadLetterDocuments } }) :
      Does host s t (.projectDeadLetter letter delivery now)
  | administered (catalog : Catalog) (written : t = { s with db := { s.db with toCatalog := catalog } }) :
      Does host s t (.administer catalog)
  | nothing (action : Action) (same : t = s) : Does host s t action

theorem does_next {host : Host} {s t : State} {action : Action} (taken : next host s action = some t) :
    Does host s t action := by
  cases action with
  | accept draws request requestHash =>
    simp only [next] at taken
    split at taken
    next answer after ended => cases taken; exact .accepted draws request requestHash answer ended (accept_effects ended) rfl
    next => cases taken; exact .nothing _ rfl
  | project event delivery now =>
    simp only [next] at taken
    split at taken
    next fresh after applied =>
      cases taken
      rcases applyWorkflowEvent_cases applied with ⟨rfl, rfl, -⟩ | ⟨rfl, unseen, projected⟩
      · exact .nothing _ rfl
      · exact .projected event delivery now unseen (applyEvent_applied projected) rfl
    next => cases taken; exact .nothing _ rfl
  | projectDeadLetter letter delivery now =>
    simp only [next] at taken
    split at taken
    next applied =>
      cases taken
      rcases applyDeadLetterEvent_cases applied with ⟨-, rfl, -⟩ | ⟨-, unseen, rfl⟩
      · exact .nothing _ rfl
      · exact .lettered letter delivery now unseen rfl
    next => cases taken; exact .nothing _ rfl
  | administer catalog => cases taken; exact .administered catalog rfl

/-! ### What a step makes of the instances -/

/-- Where a row of the instances comes from. -/
inductive RowFrom (s : State) (row : InstanceRow) : Action → Prop
  | kept (action : Action) (member : row ∈ s.db.instances) : RowFrom s row action
  | created (draws : Draws) (command : CreateInstanceCommand) (requestHash : String)
      (pending : row.lifecycleState = .pending) (undue : row.retentionDeadline = none)
      (busy : row.activeOperationId ≠ none) : RowFrom s row (.accept draws (.create command) requestHash)
  | taken (draws : Draws) (request : Request) (requestHash : String) (old : InstanceRow) (member : old ∈ s.db.instances)
      (same : row.id = old.id) (asks : request.mutates = some row.id)
      (open_ : mutableLifecycleState old.lifecycleState = true) (lifecycle : row.lifecycleState = old.lifecycleState)
      (deadline : row.retentionDeadline = old.retentionDeadline) (busy : row.activeOperationId ≠ none) :
      RowFrom s row (.accept draws request requestHash)
  | retiring (draws : Draws) (command : RetainInstanceCommand) (requestHash : String) (old : InstanceRow)
      (member : old ∈ s.db.instances) (same : row.id = old.id) (asks : command.instanceId = row.id)
      (open_ : mutableLifecycleState old.lifecycleState = true) (lifecycle : row.lifecycleState = .deleting)
      (due : row.retentionDeadline ≠ none) : RowFrom s row (.accept draws (.retention command) requestHash)
  | purging (draws : Draws) (command : PurgeInstanceCommand) (requestHash : String) (old : InstanceRow)
      (member : old ∈ s.db.instances) (same : row.id = old.id) (retained : old.lifecycleState = .retained)
      (lifecycle : row.lifecycleState = .purgePending) (deadline : row.retentionDeadline = old.retentionDeadline) :
      RowFrom s row (.accept draws (.purge command) requestHash)
  | projected (event : WorkflowEvent) (delivery : MessageDeliveryIdentity) (now : Instant) (old : InstanceRow)
      (member : old ∈ s.db.instances) (about : old.id = event.aggregateId) (same : row = projectedInstance event old) :
      RowFrom s row (.project event delivery now)

/-- A row of an instance that was taken is the row that was read, rewritten. -/
theorem taken_row {db after : ControlDb} {taken row : InstanceRow} {rewrite : InstanceRow → InstanceRow}
    {event : LifecycleCommand} (keyed : Keyed InstanceRow.id db.instances) (was : Taken db after taken rewrite event)
    (member : row ∈ after.instances) :
    row ∈ db.instances ∧ row.id ≠ taken.id ∨ taken ∈ db.instances ∧
      row = { rewrite taken with activeOperationId := some event.operationId } := by
  rw [was.instances] at member
  obtain ⟨old, present, ⟨same, rfl⟩ | ⟨other, rfl⟩⟩ := mem_update.mp member
  · have found := find_mem was.found
    rw [keyed.eq_of_key present found same]
    exact .inr ⟨found, rfl⟩
  · exact .inl ⟨present, other⟩

theorem instances_next {s t : State} {action : Action} (keyed : Keyed InstanceRow.id s.db.instances)
    (steps : Steps s t action) : ∀ row ∈ t.db.instances, RowFrom s row action := by
  intro row member
  cases steps with
  | accepted draws request requestHash answer accepted =>
    cases accepted with
    | replayed _ same => exact .kept _ (same ▸ member)
    | create command new lease operation event _ _ pending undue held _ _ _ _ _ instances =>
      rw [instances] at member
      rcases List.mem_append.mp member with old | fresh
      · exact .kept _ old
      · obtain rfl := List.mem_singleton.mp fresh
        exact .created draws command requestHash pending undue (by rw [held]; exact Option.some_ne_none _)
    | tenant _ old rewrite event _ asks open_ taken keeps =>
      rcases taken_row keyed taken member with ⟨kept, -⟩ | ⟨present, rfl⟩
      · exact .kept _ kept
      · exact .taken draws request requestHash old present (taken.keeps old) (asks.trans (congrArg some (taken.keeps old).symm))
          open_ (keeps old).1 (keeps old).2 (Option.some_ne_none _)
    | retention command old deadline policy event _ asks open_ _ taken =>
      rcases taken_row keyed taken member with ⟨kept, -⟩ | ⟨present, rfl⟩
      · exact .kept _ kept
      · exact .retiring draws command requestHash old present rfl asks open_ rfl (Option.some_ne_none _)
    | purge command old event _ retained taken =>
      rcases taken_row keyed taken member with ⟨kept, -⟩ | ⟨present, rfl⟩
      · exact .kept _ kept
      · exact .purging draws command requestHash old present rfl retained rfl rfl
    | replay command event _ instances => exact .kept _ (instances ▸ member)
  | projected event delivery now projected =>
    rw [projected.instances] at member
    obtain ⟨old, present, ⟨about, rfl⟩ | ⟨-, rfl⟩⟩ := mem_update.mp member
    · exact .projected event delivery now old present about rfl
    · exact .kept _ present
  | quiet _ instances => exact .kept _ (instances ▸ member)

/-- A row is new, or the instance was there, and no retention is taken back. -/
theorem RowFrom.before {s : State} {row : InstanceRow} {action : Action} (comes : RowFrom s row action) :
    (∃ draws command requestHash, action = .accept draws (.create command) requestHash) ∨
      ∃ old ∈ s.db.instances, row.id = old.id ∧ (row.retentionDeadline = none → old.retentionDeadline = none) := by
  cases comes with
  | kept _ member => exact .inr ⟨row, member, rfl, id⟩
  | created draws command requestHash => exact .inl ⟨draws, command, requestHash, rfl⟩
  | taken _ _ _ old member same _ _ _ deadline => exact .inr ⟨old, member, same, fun none => deadline ▸ none⟩
  | retiring _ _ _ old member same _ _ _ due => exact .inr ⟨old, member, same, fun none => absurd none due⟩
  | purging _ _ _ old member same _ _ deadline => exact .inr ⟨old, member, same, fun none => deadline ▸ none⟩
  | projected event _ _ old member about same =>
    subst same
    exact .inr ⟨old, member, projectedInstance_id event old, fun none => projectedInstance_retentionDeadline event old ▸ none⟩

/-- Instances stay keyed by their identifier. -/
theorem keyed_next {s t : State} {action : Action} (keyed : Keyed InstanceRow.id s.db.instances)
    (steps : Steps s t action) : Keyed InstanceRow.id t.db.instances := by
  have taken : ∀ {row : InstanceRow} {rewrite : InstanceRow → InstanceRow} {event : LifecycleCommand},
      Taken s.db t.db row rewrite event → Keyed InstanceRow.id t.db.instances := by
    intro row rewrite event was
    rw [was.instances]
    exact keyed_update keyed fun old _ => was.keeps old
  cases steps with
  | accepted draws request requestHash answer accepted =>
    cases accepted with
    | replayed _ same => rw [same]; exact keyed
    | create command row lease operation event _ fresh _ _ _ _ _ _ _ _ instances =>
      rw [instances]; exact keyed_append keyed fresh
    | tenant _ _ _ _ _ _ _ was => exact taken was
    | retention _ _ _ _ _ _ _ _ _ was => exact taken was
    | purge _ _ _ _ _ was => exact taken was
    | replay _ _ _ instances => rw [instances]; exact keyed
  | projected event delivery now projected =>
    rw [projected.instances]
    exact keyed_update keyed fun old _ => projectedInstance_id event old
  | quiet _ instances => rw [instances]; exact keyed

/-! ### Events that end an operation -/

/-- A terminal event that leaves its instance open to further mutations. -/
def reopens : WorkflowEventData → Bool
  | .completed _ lifecycleState _ _ _ => mutableLifecycleState lifecycleState
  | .failed _ failure compensationState => !manual failure compensationState
  | _ => false

/-- A projected event makes no instance mutable, unless it reopens it. -/
theorem projectedInstance_mutable {event : WorkflowEvent} {row : InstanceRow}
    (open_ : mutableLifecycleState (projectedInstance event row).lifecycleState = true) :
    reopens event.data = true ∨ mutableLifecycleState row.lifecycleState = true := by
  unfold projectedInstance at open_
  split at open_
  next => exact absurd open_ Bool.false_ne_true
  next data => left; rw [data]; exact open_
  next failure compensationState data =>
    left
    rw [data]
    simp only [failedInstance] at open_
    split at open_
    next => exact absurd open_ Bool.false_ne_true
    next clean => simpa [reopens] using clean
  next => exact .inr open_

/-! ### Sample requests and events -/

/-- A catalog with one of everything, that quarantines addresses for a day. -/
def sampleCatalog : Catalog :=
  { projects := [⟨sampleCreate.projectId, true⟩], quotas := [⟨sampleCreate.projectId, 4, 8, 8192, 100, 4, 4⟩],
    networks := [⟨"lab", "10.0.0.0/24", "10.0.0.1", ["10.0.0.1"], [], true⟩],
    providerProfiles := [⟨"proxmox", .active, "lab"⟩], images := [⟨"debian-12", "proxmox", true⟩],
    flavors := [⟨"small", 1, 1024, 10, true⟩], retentionPolicy := some ⟨24, .quarantineUntilPurge⟩ }

def sampleDraws (now : Instant) (drawn : List Uuid) : Draws := ⟨now, fun i => drawn.getD i ""⟩

def sampleIdentity (idempotencyKey : String) : MutationIdentity := ⟨"alice", sampleCreate.projectId, idempotencyKey⟩

/-- Accepts the creation that `sampleCreate` is the command of. -/
def acceptSample : Action :=
  .accept (sampleDraws 0 [sampleCreate.operationId, sampleCreate.eventId, "outbox-1", sampleCreate.aggregateId, "lease-1"])
    (.create
      { sampleIdentity "create" with
        correlationId := sampleCreate.correlationId, imageId := "debian-12", flavorId := "small", networkId := "lab",
        hostname := "vm", sshPublicKeys := [] }) "hash-1"

/-- Accepts a request for the instance of `sampleCreate` as the command given. -/
def acceptSampleMutation (now : Instant) (command : LifecycleCommand) (request : InstanceRequest → Request) : Action :=
  .accept (sampleDraws now [command.operationId, command.eventId, "outbox", "00000000-0000-4000-8000-0000000000f1"])
    (request
      { sampleIdentity command.eventId with instanceId := command.aggregateId, correlationId := command.correlationId })
    "hash"

/-- Projects an event about a command. -/
def projectSample (offset : Nat) (command : LifecycleCommand) (eventId : Uuid) (data : WorkflowEventData) : Action :=
  .project { command.toEnvelope with eventId := eventId, data := data }
    ⟨"provisioning.events.v1", 0, offset, 0, none⟩ 0

def sampleCompletion (action : WorkflowAction) (lifecycleState : LifecycleState) : WorkflowEventData :=
  .completed action lifecycleState (some "910000") "evidence" none

/-- A failure that the provider answered with: nothing was changed. -/
def sampleFailure (action : WorkflowAction) : WorkflowEventData :=
  .failed action
    { category := .transient, code := "PROVIDER_RESOURCE_LOCKED",
      safeMessage := "Another provider operation currently holds this instance." } .notRequired

end ControlPlane.Lifecycle
