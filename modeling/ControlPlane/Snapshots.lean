import ControlPlane.Lifecycle

/-!
Snapshots over every run of the control plane. An acceptance puts a snapshot in
between two states and takes its instance; the success of the operation settles
the snapshot when it releases the instance. A failure releases the instance and
leaves the snapshot in between.
-/
namespace ControlPlane.Snapshots
open ControlPlane.Runs ControlPlane.Domain ControlPlane.Tables ControlPlane.Commands ControlPlane.WorkflowSchema
open ControlPlane.ControlSchema ControlPlane.Acceptance ControlPlane.ProjectionStore ControlPlane.AcceptanceRules
open ControlPlane.Lifecycle ControlPlane.EventValidation

/-- A snapshot that is being created, rolled back or deleted. -/
def inBetween (snapshot : SnapshotRow) : Bool :=
  snapshot.state = .creating || snapshot.state = .rollingBack || snapshot.state = .deleting

/-- No snapshot of an instance without an operation is in between. -/
def SnapshotsSettled (db : ControlDb) : Prop :=
  ∀ row ∈ db.instances, row.activeOperationId = none →
    ∀ snapshot ∈ db.snapshots, snapshot.instanceId = row.id → inBetween snapshot = false

/-- The success of an operation on a snapshot. -/
structure SettledBy (db : ControlDb) (event : WorkflowEvent) (snapshotId : Uuid) : Prop where
  completed : ∃ action lifecycleState resource evidence observed,
    event.data = .completed action lifecycleState resource evidence observed
  about : ∃ operation, find OperationView.id event.operationId db.operationDocuments = some operation ∧
    operation.targetType = .snapshot ∧ operation.targetId = snapshotId

/-- Whatever ends an operation on an instance is the success of the operation on
    each of its snapshots that are in between. -/
def Settles (s : State) : Action → Prop
  | .project event delivery _ =>
    event.data.isTerminal = true → ¬ Seen s.db .events event.eventId delivery.replayGeneration →
      ∀ snapshot ∈ s.db.snapshots, snapshot.instanceId = event.aggregateId → inBetween snapshot = true →
        SettledBy s.db event snapshot.id
  | _ => True

/-- What every step keeps that settles its snapshots. -/
structure Kept (db : ControlDb) : Prop where
  keyed : Keyed SnapshotRow.id db.snapshots
  settled : SnapshotsSettled db

/-! ### What an event makes of the snapshots -/

section
variable {event : WorkflowEvent} {operation : OperationView} {snapshots : List SnapshotRow}

/-- A snapshot after an event is one that was there, and none that the event
    settles, or is available. -/
theorem projectedSnapshots_from {snapshot : SnapshotRow} (member : snapshot ∈ projectedSnapshots event operation snapshots) :
    (snapshot ∈ snapshots ∧
      ((∃ action lifecycleState resource evidence observed,
          event.data = .completed action lifecycleState resource evidence observed) →
        operation.targetType = .snapshot → snapshot.id ≠ operation.targetId)) ∨
      snapshot.state = .available := by
  unfold projectedSnapshots at member
  split at member
  next action lifecycleState resource evidence observed data =>
    unfold settleSnapshot at member
    split at member
    next other => exact .inl ⟨member, fun _ same => absurd same other⟩
    next =>
      split at member
      next =>
        obtain ⟨old, apart⟩ := List.mem_filter.mp member
        exact .inl ⟨old, fun _ _ => of_decide_eq_true apart⟩
      next =>
        split at member
        next absent => exact .inl ⟨member, fun _ _ => find_none absent snapshot member⟩
        next =>
          obtain ⟨old, present, ⟨-, rfl⟩ | ⟨apart, rfl⟩⟩ := mem_update.mp member
          · exact .inr rfl
          · exact .inl ⟨present, fun _ _ => apart⟩
  next running =>
    refine .inl ⟨member, fun completed => ?_⟩
    obtain ⟨_, _, _, _, _, data⟩ := completed
    exact absurd data (running _ _ _ _ _)

theorem projectedSnapshots_keyed (keyed : Keyed SnapshotRow.id snapshots) :
    Keyed SnapshotRow.id (projectedSnapshots event operation snapshots) := by
  unfold projectedSnapshots
  split
  next =>
    unfold settleSnapshot
    split
    next => exact keyed
    next =>
      split
      next => exact List.Nodup.sublist (List.filter_sublist.map _) keyed
      next =>
        split
        next => exact keyed
        next => exact keyed_update keyed fun _ _ => rfl
  next => exact keyed

end

/-! ### Steps and runs -/

section
variable {host : Host} {s t : State} {action : Action}

/-- A mutation leaves the instances that it does not take. -/
theorem mutates_idle {db after : ControlDb} {now : Instant} {m : Mutation} (mutates : Mutates db after now m)
    {row : InstanceRow} (member : row ∈ after.instances)
    (idle : row.activeOperationId = none) : row ∈ db.instances ∧ row.id ≠ m.row.id := by
  rw [mutates.instances] at member
  obtain ⟨old, present, ⟨-, rfl⟩ | ⟨other, rfl⟩⟩ := mem_update.mp member
  · cases idle
  · exact ⟨present, other⟩

/-- A mutation that changes no snapshot keeps the snapshots settled. -/
theorem mutates_kept {db after : ControlDb} {now : Instant} {m : Mutation} (kept : Kept db)
    (mutates : Mutates db after now m) (same : m.snapshots db.snapshots = db.snapshots) : Kept after := by
  constructor
  · rw [mutates.snapshots, same]
    exact kept.keyed
  · intro row member idle snapshot there own
    rw [mutates.snapshots, same] at there
    exact kept.settled row (mutates_idle mutates member idle).1 idle snapshot there own

/-- A snapshot may be in between while its instance is taken. -/
theorem snapshotted_kept {db after : ControlDb} {now : Instant} {m : Mutation} (kept : Kept db)
    (mutates : Mutates db after now m) (keyed : Keyed SnapshotRow.id (m.snapshots db.snapshots))
    (own : ∀ snapshot ∈ m.snapshots db.snapshots, snapshot ∈ db.snapshots ∨ snapshot.instanceId = m.row.id) :
    Kept after := by
  constructor
  · rw [mutates.snapshots]
    exact keyed
  · intro row member idle snapshot there same
    obtain ⟨present, other⟩ := mutates_idle mutates member idle
    rw [mutates.snapshots] at there
    rcases own snapshot there with old | taken
    · exact kept.settled row present idle snapshot old same
    · exact absurd (same.symm.trans taken) other

theorem effects_kept {draws : Draws} {db after : ControlDb} {answer : AcceptedMutation} {request : Request}
    (kept : Kept db) (effects : Effects host draws db after answer request) : Kept after := by
  cases effects with
  | replayed _ same => rw [same]; exact kept
  | create command context address records _ _ built creates =>
    constructor
    · rw [creates.snapshots]
      exact kept.keyed
    · intro row member idle snapshot there own
      rw [creates.instances] at member
      rw [creates.snapshots] at there
      rcases List.mem_append.mp member with old | new
      · exact kept.settled row old idle snapshot there own
      · obtain ⟨-, -, -, -, held, -⟩ := buildAcceptanceRecords_ok built
        rw [List.mem_singleton.mp new, held] at idle
        cases idle
  | power _ _ _ mutates => exact mutates_kept kept mutates rfl
  | resize _ _ _ _ _ _ mutates => exact mutates_kept kept mutates rfl
  | retention _ _ _ _ _ mutates => exact mutates_kept kept mutates rfl
  | purge _ _ _ _ _ _ _ _ _ mutates => exact mutates_kept kept mutates rfl
  | snapshotCreate command row _ fresh mutates =>
    refine snapshotted_kept kept mutates (keyed_append kept.keyed fun other member => (fresh other member).1) ?_
    intro snapshot member
    rcases List.mem_append.mp member with old | new
    · exact .inl old
    · exact .inr (by rw [List.mem_singleton.mp new]; rfl)
  | snapshotAction action command row snapshot _ found own _ mutates =>
    refine snapshotted_kept kept mutates (keyed_update kept.keyed fun _ _ => rfl) ?_
    intro other member
    obtain ⟨old, present, ⟨same, rfl⟩ | ⟨-, rfl⟩⟩ := mem_update.mp member
    · have here := kept.keyed.eq_of_key present (find_mem found) same
      exact .inr (by subst here; exact own)
    · exact .inl present
  | replay _ _ _ _ _ _ _ written => subst written; exact ⟨kept.keyed, kept.settled⟩

theorem applied_kept {db after : ControlDb} {event : WorkflowEvent} (kept : Kept db) (applied : Applied db after event)
    (settles : event.data.isTerminal = true → ∀ snapshot ∈ db.snapshots, snapshot.instanceId = event.aggregateId →
      inBetween snapshot = true → SettledBy db event snapshot.id) : Kept after := by
  cases applied with
  | documented document operation views found journaled present same =>
    subst same
    refine ⟨projectedSnapshots_keyed kept.keyed, fun row member idle snapshot there own => ?_⟩
    rcases projectedSnapshots_from there with ⟨old, unsettled⟩ | available
    · obtain ⟨before, was, ⟨about, rfl⟩ | ⟨-, rfl⟩⟩ := mem_update.mp member
      · rw [projectedInstance_activeOperationId] at idle
        rw [projectedInstance_id] at own
        split at idle
        next terminal =>
          by_contra between
          obtain ⟨completed, target, shown, type, id⟩ :=
            settles terminal snapshot old (own.trans about) (by simpa using between)
          cases journaled.symm.trans shown
          exact unsettled completed type id.symm
        next => exact kept.settled before was idle snapshot old own
      · exact kept.settled row was idle snapshot old own
    · simp [inBetween, available]
  | resolved _ _ _ _ _ _ _ _ same => subst same; exact ⟨kept.keyed, kept.settled⟩

theorem kept_next (kept : Kept s.db) (settles : Settles s action) (does : Does host s t action) : Kept t.db := by
  cases does with
  | accepted _ _ _ _ _ effects => exact effects_kept kept effects
  | projected event delivery now unseen applied =>
    refine applied_kept ?_ applied fun terminal snapshot there own between => ?_
    · exact ⟨kept.keyed, kept.settled⟩
    · have settled := settles terminal unseen snapshot there own between
      exact ⟨settled.completed, settled.about⟩
  | lettered _ _ _ _ written => subst written; exact ⟨kept.keyed, kept.settled⟩
  | administered _ written => subst written; exact ⟨kept.keyed, kept.settled⟩
  | nothing _ same => rw [same]; exact kept

theorem kept_initial (catalog : Catalog) : Kept (initial catalog).db :=
  ⟨List.nodup_nil, fun _ impossible => absurd impossible List.not_mem_nil⟩

/-- In every run in which whatever ends an operation settles the snapshots that
    are in between, an instance without an operation has none in between. -/
theorem snapshots_settled {catalog : Catalog} (run : Reaches (next host) Settles (initial catalog) s) :
    SnapshotsSettled s.db :=
  (reaches_invariant (fun s => Kept s.db) (fun _ _ _ kept settles taken => kept_next kept settles (does_next taken)) run
    (kept_initial catalog)).settled

end

/-- A command to take a snapshot of the instance that `sampleCreate` created. -/
def sampleSnapshot : LifecycleCommand :=
  { sampleCreate with
    eventId := "00000000-0000-4000-8000-00000000000e", operationId := "00000000-0000-4000-8000-00000000000f",
    data := .snapshotCreate ⟨"00000000-0000-4000-8000-0000000000f1", "nightly", none, "proxmox", sampleCreate.operationId⟩ }

/-- An instance is created, and a snapshot of it is accepted. -/
def sampleSnapshotted : List Action :=
  [acceptSample, projectSample 0 sampleCreate "created" (sampleCompletion .createInstance .active),
   acceptSampleMutation 1000 sampleSnapshot fun request =>
     .snapshotCreate { request with name := "nightly", description := none }]

/-- Whether an event is the success of the operation on every snapshot. -/
def settlesAll (db : ControlDb) (event : WorkflowEvent) : Bool :=
  db.snapshots.all fun snapshot =>
    (match event.data with
    | .completed .. => true
    | _ => false) &&
    (find OperationView.id event.operationId db.operationDocuments).any fun operation =>
      operation.targetType = .snapshot && operation.targetId = snapshot.id

theorem settles_checked {event : WorkflowEvent} {delivery : MessageDeliveryIdentity} {now : Instant} {s : State}
    (checked : settlesAll s.db event = true) : Settles s (.project event delivery now) := by
  intro _ _ snapshot member _ _
  obtain ⟨completed, about⟩ := (Bool.and_eq_true _ _).mp (List.all_eq_true.mp checked snapshot member)
  obtain ⟨operation, shown, target⟩ := (Option.any_eq_true _ _).mp about
  simp only [Bool.and_eq_true, decide_eq_true_eq] at target
  refine ⟨?_, operation, shown, target⟩
  split at completed
  next data => exact ⟨_, _, _, _, _, data⟩
  next => cases completed

/-- An instance is created, and a snapshot of it is taken. -/
def sampleTaken : List Action :=
  sampleSnapshotted ++ [projectSample 1 sampleSnapshot "taken" (sampleCompletion .createSnapshot .active)]

theorem settles_sampleTaken : Meets (next sampleHost) Settles (initial sampleCatalog) sampleTaken :=
  .cons trivial rfl (.cons (settles_checked rfl) rfl (.cons trivial rfl (.cons (settles_checked rfl) rfl trivial)))

theorem snapshots_settled_sampleTaken : ∃ s, execute (next sampleHost) (initial sampleCatalog) sampleTaken = some s ∧
    s.db.snapshots.map SnapshotRow.state = [.available] ∧ SnapshotsSettled s.db := by
  have executed : execute (next sampleHost) (initial sampleCatalog) sampleTaken = some _ := rfl
  exact ⟨_, executed, rfl, snapshots_settled (reaches_execute settles_sampleTaken executed)⟩

/-- Whether a snapshot of an instance without an operation is in between. -/
def snapshotLeft (db : ControlDb) : Bool :=
  db.instances.any fun row => row.activeOperationId.isNone &&
    db.snapshots.any fun snapshot => snapshot.instanceId = row.id && inBetween snapshot

theorem not_snapshotsSettled {db : ControlDb} (left : snapshotLeft db = true) : ¬ SnapshotsSettled db := by
  intro settled
  obtain ⟨row, member, left⟩ := List.any_eq_true.mp left
  obtain ⟨idle, left⟩ := (Bool.and_eq_true _ _).mp left
  obtain ⟨snapshot, there, left⟩ := List.any_eq_true.mp left
  obtain ⟨own, between⟩ := (Bool.and_eq_true _ _).mp left
  rw [settled row member (Option.isNone_iff_eq_none.mp idle) snapshot there (of_decide_eq_true own)] at between
  cases between

/-- A snapshot whose creation failed is being created for ever. -/
theorem snapshot_left : ¬ ∀ (host : Host) (catalog : Catalog) (s : State),
    Reaches (next host) Anything (initial catalog) s → SnapshotsSettled s.db := by
  intro all
  have executed : execute (next sampleHost) (initial sampleCatalog) (sampleSnapshotted ++
    [projectSample 1 sampleSnapshot "failed" (sampleFailure .createSnapshot)]) = some _ := rfl
  exact not_snapshotsSettled rfl (all _ _ _ (reaches_execute (meets_anything _ _) executed))

end ControlPlane.Snapshots
