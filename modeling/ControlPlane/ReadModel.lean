import ControlPlane.Lifecycle

/-!
The documents of the instances against the rows that they are copies of. A
document is patched by the projection of events, which keeps it equal to its
row, and by the acceptance of a mutation, which copies the holder of the
instance and nothing else that it writes to the row.
-/
namespace ControlPlane.ReadModel
open ControlPlane.Runs ControlPlane.Domain ControlPlane.Tables ControlPlane.Commands ControlPlane.WorkflowSchema
open ControlPlane.ControlSchema ControlPlane.Transactions ControlPlane.Acceptance ControlPlane.ProjectionStore
open ControlPlane.AcceptanceRules ControlPlane.Lifecycle ControlPlane.EventValidation

/-- A retention of the instance was accepted. -/
def RetentionAccepted (operations : List OperationView) (instanceId : Uuid) : Prop :=
  ∃ operation ∈ operations, operation.action = .retainInstance ∧ operation.targetId = instanceId

/-- A document says of its instance what the rows say. -/
structure Agrees (operations : List OperationView) (document : InstanceView) (row : InstanceRow)
    (lease : Ipv4LeaseRow) : Prop where
  flavor : document.desired.flavorId = row.flavorId
  power : document.desired.powerState = row.desiredPowerState
  retention : document.desired.retentionRequested = true ↔ RetentionAccepted operations document.id
  lease : document.ipv4Lease.state = lease.state
  lifecycle : document.lifecycleState = row.lifecycleState
  holder : document.activeOperationId = row.activeOperationId
  deadline : document.retentionDeadline = row.retentionDeadline
  eligible : document.purgeEligible = row.purgeEligible

/-- Every document agrees with the rows of its instance. -/
def DocumentsAgree (db : ControlDb) : Prop :=
  ∀ document ∈ db.instanceDocuments, ∃ row lease, db.instance_ document.id = some row ∧
    find Ipv4LeaseRow.instanceId document.id db.ipv4Leases = some lease ∧ Agrees db.operations document row lease

/-- A request is accepted, and was not before. -/
def NewlyAccepted (host : Host) (db : ControlDb) (draws : Draws) (request : Request) (requestHash : String) : Prop :=
  ∃ answer after, atomically (accept host draws requestHash request) db = .ok (answer, after) ∧ answer.replayed = false

/-- The power state that an action asks for. -/
def desiredPower (action : PowerAction) : DesiredPower :=
  if action = .start ∨ action = .reboot then .running else .stopped

/-- What is newly accepted asks for nothing that a document shows, other than
    for the instance itself. -/
def Undisplayed (host : Host) (s : State) : Action → Prop
  | .accept draws request requestHash =>
    NewlyAccepted host s.db draws request requestHash →
      match request with
      | .power command => ∀ row, s.db.instance_ command.instanceId = some row →
          desiredPower command.action = row.desiredPowerState
      | .resize command => ∀ row, s.db.instance_ command.instanceId = some row → command.flavorId = row.flavorId
      | .retention _ | .purge _ => False
      | .create _ | .snapshotCreate _ | .snapshotAction .. | .replay _ => True
  | _ => True

/-- What every step keeps that accepts nothing that is displayed. -/
structure Kept (db : ControlDb) : Prop where
  documents : DocumentsAgree db
  retentions : ∀ operation ∈ db.operations, operation.action ≠ .retainInstance

theorem not_retentionAccepted {operations : List OperationView}
    (none : ∀ operation ∈ operations, operation.action ≠ .retainInstance) (instanceId : Uuid) :
    ¬ RetentionAccepted operations instanceId := by
  rintro ⟨operation, member, retains, -⟩
  exact none operation member retains

section
variable {db after : ControlDb} {operations : List OperationView} {document : InstanceView} {row : InstanceRow}
  {lease : Ipv4LeaseRow}

/-- Where no retention was accepted, none is after operations were added or
    rewritten. -/
theorem Agrees.later (agrees : Agrees db.operations document row lease)
    (before : ∀ o ∈ db.operations, o.action ≠ .retainInstance) (after : ∀ o ∈ operations, o.action ≠ .retainInstance) :
    Agrees operations document row lease := by
  have ⟨flavor, power, requested, leased, lifecycle, holder, deadline, eligible⟩ := agrees
  have none := iff_of_false (not_retentionAccepted before document.id) (not_retentionAccepted after document.id)
  exact ⟨flavor, power, requested.trans none, leased, lifecycle, holder, deadline, eligible⟩

/-! ### What an event makes of a document and its row -/

/-- The projection of an event does to a document what it does to the row. -/
theorem projected_agrees {event : WorkflowEvent} (agrees : Agrees operations document row lease) :
    Agrees operations (projectedDocument event (some row) document) (projectedInstance event row) lease := by
  have ⟨flavor, power, requested, leased, lifecycle, holder, deadline, eligible⟩ := agrees
  unfold projectedDocument projectedInstance
  split
  · exact ⟨flavor, power, requested, leased, rfl, holder, deadline, eligible⟩
  · exact ⟨flavor, power, requested, leased, rfl, rfl, rfl, rfl⟩
  · exact ⟨flavor, power, requested, leased, rfl, rfl, deadline, eligible⟩
  · exact agrees

theorem applied_kept {event : WorkflowEvent} (kept : Kept db) (applied : Applied db after event) : Kept after := by
  cases applied with
  | documented was operation views found journaled present same =>
    subst same
    have retentions : ∀ o ∈ update (fun o : OperationView => o.id = event.operationId)
        (projectedOperation event operation) db.operations, o.action ≠ .retainInstance := by
      intro o member
      obtain ⟨old, there, ⟨-, rfl⟩ | ⟨-, rfl⟩⟩ := mem_update.mp member
      · rw [(projectedOperation_same event operation old).2.1]
        exact kept.retentions old there
      · exact kept.retentions o there
    refine ⟨fun document member => ?_, retentions⟩
    have about : was.id = event.aggregateId := find_key found
    obtain ⟨old, there, ⟨here, rfl⟩ | ⟨other, rfl⟩⟩ := mem_update.mp member
    · obtain ⟨row, lease, rowed, leased, agrees⟩ := kept.documents was (find_mem found)
      have later := updated_row event.aggregateId (projectedInstance_id event) rowed
      rw [if_pos about] at later
      rw [← about, rowed, projectedDocument_id]
      exact ⟨_, lease, about ▸ later, leased, projected_agrees (agrees.later kept.retentions retentions)⟩
    · obtain ⟨row, lease, rowed, leased, agrees⟩ := kept.documents document there
      have later := updated_row event.aggregateId (projectedInstance_id event) rowed
      rw [if_neg fun same => other (same.trans about.symm)] at later
      exact ⟨row, lease, later, leased, agrees.later kept.retentions retentions⟩
  | resolved _ _ _ _ _ _ _ _ same => subst same; exact ⟨kept.documents, kept.retentions⟩

/-! ### What a request makes of them -/

theorem mem_concat_retentions {operation : OperationView} (none : ∀ o ∈ operations, o.action ≠ .retainInstance)
    (other : operation.action ≠ .retainInstance) : ∀ o ∈ operations ++ [operation], o.action ≠ .retainInstance := by
  intro o member
  rcases List.mem_append.mp member with old | new
  · exact none o old
  · exact List.mem_singleton.mp new ▸ other

/-- A mutation that writes to the row of its instance nothing that a document
    shows, but that it holds the instance, keeps the documents. -/
theorem mutates_kept {now : Instant} {m : Mutation} (kept : Kept db) (mutates : Mutates db after now m)
    (found : db.instance_ m.row.id = some m.row) (keeps : ∀ row, (m.rewrite row).id = row.id)
    (action : m.operation.action ≠ .retainInstance) (leases : m.leases db.ipv4Leases = db.ipv4Leases)
    (shown : ∀ document lease, Agrees db.operations document m.row lease →
      Agrees db.operations document (m.rewrite m.row) lease) : Kept after := by
  have retentions : ∀ o ∈ after.operations, o.action ≠ .retainInstance := by
    rw [mutates.operations]
    exact mem_concat_retentions kept.retentions action
  have taken (row : InstanceRow) : ({ m.rewrite row with activeOperationId := some m.operation.id } : InstanceRow).id = row.id :=
    keeps row
  refine ⟨fun document member => ?_, retentions⟩
  rw [mutates.instanceDocuments] at member
  rw [mutates.leases, leases, ControlDb.instance_, mutates.instances]
  obtain ⟨old, there, ⟨here, rfl⟩ | ⟨other, rfl⟩⟩ := mem_update.mp member
  · obtain ⟨row, lease, rowed, leased, agrees⟩ := kept.documents old there
    obtain rfl : row = m.row := Option.some.inj (rowed.symm.trans (here ▸ found))
    have later := updated_row m.row.id taken rowed
    rw [if_pos here] at later
    obtain ⟨flavor, power, requested, leasedState, lifecycle, holder, deadline, eligible⟩ :=
      (shown old lease agrees).later kept.retentions retentions
    exact ⟨_, lease, later, leased, flavor, power, requested, leasedState, lifecycle, rfl, deadline, eligible⟩
  · obtain ⟨row, lease, rowed, leased, agrees⟩ := kept.documents document there
    have later := updated_row m.row.id taken rowed
    rw [if_neg other] at later
    exact ⟨row, lease, later, leased, agrees.later kept.retentions retentions⟩

/-- A new instance comes with a document that agrees with it. -/
theorem creates_kept {host : Host} {draws : Draws} {command : CreateInstanceCommand} {context : AcceptanceContext}
    {address : String} {records : AcceptanceRecords} {now : Instant} (kept : Kept db)
    (built : buildAcceptanceRecords host draws command context address = .ok records)
    (creates : Creates db after now records) : Kept after := by
  obtain ⟨dnsServers, -, built⟩ := bind_ok built
  obtain ⟨sshPublicKeys, -, built⟩ := bind_ok built
  cases built
  have retentions : ∀ o ∈ after.operations, o.action ≠ .retainInstance := by
    rw [creates.operations]
    exact mem_concat_retentions kept.retentions (by simp [acceptedOperation])
  refine ⟨fun document member => ?_, retentions⟩
  rw [creates.instanceDocuments] at member
  rw [creates.leases, ControlDb.instance_, creates.instances]
  simp only [find_append]
  rcases List.mem_append.mp member with old | new
  · obtain ⟨row, lease, rowed, leased, agrees⟩ := kept.documents document old
    have rowed : find InstanceRow.id document.id db.instances = some row := rowed
    rw [rowed, leased]
    exact ⟨row, lease, rfl, rfl, agrees.later kept.retentions retentions⟩
  · obtain rfl := List.mem_singleton.mp new
    have unrowed : find InstanceRow.id (draws.fresh 3) db.instances = none :=
      List.find?_eq_none.mpr fun other there => by simpa using creates.fresh other there
    have unleased : find Ipv4LeaseRow.instanceId (draws.fresh 3) db.ipv4Leases = none :=
      List.find?_eq_none.mpr fun other there => by simpa using (creates.free other there).1
    rw [unrowed, unleased]
    refine ⟨_, _, by simp [find]; rfl, by simp [find]; rfl, rfl, rfl, ?_, rfl, rfl, rfl, rfl, rfl⟩
    exact iff_of_false Bool.false_ne_true (not_retentionAccepted retentions _)

theorem effects_kept {host : Host} {draws : Draws} {answer : AcceptedMutation} {request : Request} {requestHash : String}
    {s : State} (kept : Kept s.db) (ended : atomically (accept host draws requestHash request) s.db = .ok (answer, after))
    (undisplayed : Undisplayed host s (.accept draws request requestHash))
    (effects : Effects host draws s.db after answer request) : Kept after := by
  have asked (first : answer.replayed = false) := undisplayed ⟨answer, after, ended, first⟩
  cases effects with
  | replayed _ same => rw [same]; exact kept
  | create _ _ _ _ _ _ built creates => exact creates_kept kept built creates
  | power command row idle mutates first =>
    refine mutates_kept kept mutates idle.found (fun _ => rfl) (by simp [powerMutation, acceptedOperation]) rfl ?_
    intro document lease agrees
    have same : desiredPower command.action = row.desiredPowerState := asked first row (idle.id ▸ idle.found)
    have ⟨flavor, power, requested, leased, lifecycle, holder, deadline, eligible⟩ := agrees
    exact ⟨flavor, power.trans same.symm, requested, leased, lifecycle, holder, deadline, eligible⟩
  | resize command row _ idle _ _ mutates first =>
    refine mutates_kept kept mutates idle.found (fun _ => rfl) (by simp [resizeMutation, acceptedOperation]) rfl ?_
    intro document lease agrees
    have same : command.flavorId = row.flavorId := asked first row (idle.id ▸ idle.found)
    have ⟨flavor, power, requested, leased, lifecycle, holder, deadline, eligible⟩ := agrees
    exact ⟨flavor.trans same.symm, power, requested, leased, lifecycle, holder, deadline, eligible⟩
  | snapshotCreate _ _ idle _ mutates =>
    exact mutates_kept kept mutates idle.found (fun _ => rfl) (by simp [snapshotCreateMutation, acceptedOperation]) rfl
      fun _ _ agrees => agrees
  | snapshotAction action _ _ _ idle _ _ _ mutates =>
    refine mutates_kept kept mutates idle.found (fun _ => rfl) ?_ rfl fun _ _ agrees => agrees
    cases action <;> simp [snapshotActionMutation, acceptedOperation, SnapshotAction.action]
  | retention _ _ _ _ _ _ first => exact (asked first).elim
  | purge _ _ _ _ _ _ _ _ _ _ first => exact (asked first).elim
  | replay _ _ _ _ _ _ _ written => subst written; exact ⟨kept.documents, kept.retentions⟩

end

/-! ### Steps and runs -/

section
variable {host : Host} {s t : State} {action : Action}

theorem kept_next (kept : Kept s.db) (undisplayed : Undisplayed host s action) (does : Does host s t action) :
    Kept t.db := by
  cases does with
  | accepted _ _ _ _ ended effects => exact effects_kept kept ended undisplayed effects
  | projected _ _ _ _ applied =>
    refine applied_kept ?_ applied
    exact ⟨kept.documents, kept.retentions⟩
  | lettered _ _ _ _ written => subst written; exact ⟨kept.documents, kept.retentions⟩
  | administered _ written => subst written; exact ⟨kept.documents, kept.retentions⟩
  | nothing _ same => rw [same]; exact kept

theorem kept_initial (catalog : Catalog) : Kept (initial catalog).db :=
  ⟨fun _ impossible => absurd impossible List.not_mem_nil, fun _ impossible => absurd impossible List.not_mem_nil⟩

/-- In every run that accepts nothing that a document shows, other than for the
    instance itself, every document agrees with the rows of its instance. -/
theorem documents_agree {catalog : Catalog} (run : Reaches (next host) (Undisplayed host) (initial catalog) s) :
    DocumentsAgree s.db :=
  (reaches_invariant (fun s => Kept s.db)
    (fun _ _ _ kept undisplayed taken => kept_next kept undisplayed (does_next taken)) run (kept_initial catalog)).documents

end

/-- An instance is created, and a power action on it is accepted. -/
def samplePowered (action : PowerAction) : List Action :=
  [acceptSample, projectSample 0 sampleCreate "created" (sampleCompletion .createInstance .active),
   acceptSampleMutation 1000 samplePower fun request => .power { request with action := action }]

theorem undisplayed_power {s : State} {draws : Draws} {command : PowerInstanceCommand} {requestHash : String}
    (same : (s.db.instance_ command.instanceId).all (fun row => desiredPower command.action = row.desiredPowerState) = true) :
    Undisplayed sampleHost s (.accept draws (.power command) requestHash) := by
  intro _ row found
  rw [found] at same
  exact of_decide_eq_true same

theorem undisplayed_samplePowered :
    Meets (next sampleHost) (Undisplayed sampleHost) (initial sampleCatalog) (samplePowered .start) :=
  .cons (fun _ => trivial) rfl (.cons trivial rfl (.cons (undisplayed_power rfl) rfl trivial))

theorem documents_agree_samplePowered : ∃ s,
    execute (next sampleHost) (initial sampleCatalog) (samplePowered .start) = some s ∧
      s.db.instanceDocuments.map InstanceView.activeOperationId = [some samplePower.operationId] ∧ DocumentsAgree s.db := by
  have executed : execute (next sampleHost) (initial sampleCatalog) (samplePowered .start) = some _ := rfl
  exact ⟨_, executed, rfl, documents_agree (reaches_execute undisplayed_samplePowered executed)⟩

/-- Whether a document shows another power state than the row asks for. -/
def powerDiffers (db : ControlDb) : Bool :=
  db.instanceDocuments.any fun document =>
    (db.instance_ document.id).any fun row => document.desired.powerState ≠ row.desiredPowerState

theorem not_documentsAgree {db : ControlDb} (differs : powerDiffers db = true) : ¬ DocumentsAgree db := by
  intro agree
  obtain ⟨document, member, differs⟩ := List.any_eq_true.mp differs
  obtain ⟨row, found, differs⟩ := (Option.any_eq_true _ _).mp differs
  obtain ⟨_, _, same, -, agrees⟩ := agree document member
  cases found.symm.trans same
  exact of_decide_eq_true differs agrees.power

/-- The document of an instance that is to be stopped says that it is to run. -/
theorem power_differs : ¬ ∀ (host : Host) (catalog : Catalog) (s : State),
    Reaches (next host) Anything (initial catalog) s → DocumentsAgree s.db := by
  intro all
  have executed : execute (next sampleHost) (initial sampleCatalog) (samplePowered .stop) = some _ := rfl
  exact not_documentsAgree rfl (all _ _ _ (reaches_execute (meets_anything _ _) executed))

end ControlPlane.ReadModel
