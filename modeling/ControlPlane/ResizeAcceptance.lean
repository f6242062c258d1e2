import ControlPlane.Lifecycle

/-!
The acceptance of a resize: what is validated is the disk that was asked for, what is
committed is the largest of three. The sizing that a resize commits is what the next
one is compared with, whether or not the first one was ever applied.
-/
namespace ControlPlane.ResizeAcceptance
open ControlPlane.Programs ControlPlane.Programs.Program ControlPlane.Runs ControlPlane.Tables ControlPlane.Domain
open ControlPlane.Commands ControlPlane.EventValidation ControlPlane.WorkflowSchema ControlPlane.ControlSchema
open ControlPlane.Transactions ControlPlane.Acceptance ControlPlane.AcceptanceRules ControlPlane.ProjectionStore
open ControlPlane.Lifecycle

/-- What a resize of a row to a flavor comes to: the flavor's, and of the disk the
    largest of the current one, the flavor's minimum and the one asked for. -/
abbrev effective (flavor : FlavorRow) (row : InstanceRow) (command : ResizeInstanceCommand) : Resources :=
  resizeTarget flavor row.sizing command.diskGiB

/-- The sizing that is validated. -/
def requested (flavor : FlavorRow) (row : InstanceRow) (command : ResizeInstanceCommand) : Resources :=
  { effective flavor row command with diskGiB := command.diskGiB.getD (effective flavor row command).diskGiB }

/-- A resize of a row to an enabled flavor, within the quota, that was not accepted before. -/
structure Asked (draws : Draws) (command : ResizeInstanceCommand) (requestHash : String) (db : ControlDb)
    (row : InstanceRow) (flavor : FlavorRow) : Prop where
  keyed : Keyed InstanceRow.id db.instances
  new : Reading.on (findReplayedResponse command.toMutationIdentity .resizeInstance requestHash) db = .ok none
  locked : Reading.on (lockInstanceForMutation command.projectId command.instanceId) db = .ok row
  offered : enabledFlavor db command.flavorId = some flavor
  headroom : Reading.on (assertResizeQuotaHeadroom command.projectId row.sizing (effective flavor row command)) db = .ok ()
  unused : ∀ o ∈ db.operations, o.id ≠ draws.fresh 0
  undocumented : ∀ o ∈ db.operationDocuments, o.id ≠ draws.fresh 0

/-- Every instance stays, and asks for no smaller disk than before. -/
def Grows (instances later : List InstanceRow) : Prop :=
  ∀ row ∈ instances, ∃ after ∈ later, after.id = row.id ∧ row.desiredDiskGib ≤ after.desiredDiskGib

/-- What the acceptance of a resize is to do. -/
structure Resizes (host : Host) (draws : Draws) (command : ResizeInstanceCommand) (requestHash : String) (db : ControlDb)
    (row : InstanceRow) (flavor : FlavorRow) : Prop where
  commits : (∃ answer after, atomically (acceptResize draws command requestHash) db = .ok (answer, after)) ↔
    effective flavor row command ≠ row.sizing ∧ ∀ disk, command.diskGiB = some disk → row.desiredDiskGib ≤ disk
  written : ∀ answer after, atomically (acceptResize draws command requestHash) db = .ok (answer, after) →
    (after.instance_ row.id).map InstanceRow.sizing = some (effective flavor row command) ∧
      ∃ outboxId event data, after.outbox = db.outbox ++ [⟨outboxId, .lifecycle event, 0, draws.now⟩] ∧
        event.data = .resize data ∧ data.targetResources = effective flavor row command
  shrinking : ∀ disk, command.diskGiB = some disk → disk < row.desiredDiskGib →
    ∃ message, atomically (acceptResize draws command requestHash) db = .error (.domain ⟨.diskShrinkForbidden, message⟩)
  changeless : effective flavor row command = row.sizing →
    ∃ error, atomically (acceptResize draws command requestHash) db = .error (.domain error)
  grows : ∀ history t, Reaches (Lifecycle.next host) Anything ⟨db, history⟩ t → Grows db.instances t.db.instances

/-- The current disk is asked for by its size, and only the flavor's minimum makes a difference. -/
def Masked (command : ResizeInstanceCommand) (row : InstanceRow) (flavor : FlavorRow) : Prop :=
  command.diskGiB = some row.desiredDiskGib ∧ flavor.cpuCount = row.desiredCpuCount ∧
    flavor.memoryMib = row.desiredMemoryMib ∧ row.desiredDiskGib < flavor.minimumDiskGib

/-! ### Sizes -/

section
variable {command : ResizeInstanceCommand} {row : InstanceRow} {flavor : FlavorRow}

theorem validateResize_ok {current target : Resources} :
    validateResize current target = .ok () ↔ current.diskGiB ≤ target.diskGiB ∧ target ≠ current := by
  unfold validateResize
  by_cases less : target.diskGiB < current.diskGiB
  · rw [if_pos less]
    exact iff_of_false nofun fun within => absurd within.1 (Nat.not_le.mpr less)
  · by_cases same : target = current
    · simp [same]
    · simp [less, same]
      omega

theorem effective_disk (flavor : FlavorRow) (row : InstanceRow) (command : ResizeInstanceCommand) :
    row.desiredDiskGib ≤ (effective flavor row command).diskGiB := by
  simp only [resizeTarget, InstanceRow.sizing]
  omega

theorem effective_eq :
    effective flavor row command = row.sizing ↔ flavor.cpuCount = row.desiredCpuCount ∧
      flavor.memoryMib = row.desiredMemoryMib ∧ flavor.minimumDiskGib ≤ row.desiredDiskGib ∧
        command.diskGiB.getD 0 ≤ row.desiredDiskGib := by
  simp only [resizeTarget, InstanceRow.sizing, Resources.mk.injEq]
  omega

theorem requested_eq :
    requested flavor row command = row.sizing ↔ flavor.cpuCount = row.desiredCpuCount ∧
      flavor.memoryMib = row.desiredMemoryMib ∧
        match command.diskGiB with
        | none => flavor.minimumDiskGib ≤ row.desiredDiskGib
        | some disk => disk = row.desiredDiskGib := by
  simp only [requested, resizeTarget, InstanceRow.sizing, Resources.mk.injEq]
  cases command.diskGiB with
  | none =>
    simp only [Option.getD_none]
    omega
  | some disk => simp only [Option.getD_some]

/-- What is validated passes exactly when what is committed is a change that shrinks
    nothing, unless the minimum of the flavor is masked. -/
theorem requested_agrees :
    (validateResize row.sizing (requested flavor row command) = .ok () ↔
      effective flavor row command ≠ row.sizing ∧ ∀ disk, command.diskGiB = some disk → row.desiredDiskGib ≤ disk) ↔
        ¬ Masked command row flavor := by
  rw [validateResize_ok, ne_eq, ne_eq, effective_eq, requested_eq, Masked]
  cases asked : command.diskGiB with
  | none =>
    have floor : row.sizing.diskGiB ≤ (requested flavor row command).diskGiB := by
      simp only [requested, asked, Option.getD_none]
      exact effective_disk flavor row command
    simp [floor]
  | some disk =>
    have size : (requested flavor row command).diskGiB = disk := by simp [requested, asked]
    simp only [size, Option.some.injEq, forall_eq', Option.getD_some]
    show (row.desiredDiskGib ≤ disk ∧ _ ↔ _) ↔ _
    omega

end

/-! ### One resize -/

section
variable {host : Host} {draws : Draws} {command : ResizeInstanceCommand} {requestHash : String} {db after : ControlDb}
  {row : InstanceRow} {flavor : FlavorRow}

theorem insertRow_fresh {Row : Type} {clashes : Row → Bool} {row : Row} {rows : List Row}
    (fresh : ∀ other ∈ rows, clashes other = false) : insertRow clashes row rows = .ok (rows ++ [row]) := by
  have free : rows.any clashes = false := by simpa using fresh
  simp only [insertRow, Tables.insert, free]
  rfl

/-- A request that was not accepted before has no record of its key. -/
theorem unrecorded {identity : MutationIdentity} {action : WorkflowAction}
    (new : Reading.on (findReplayedResponse identity action requestHash) db = .ok none) :
    ∀ record ∈ db.idempotencyRecords,
      IdempotencyRecord.key record ≠ (identity.actor, identity.projectId, action, identity.idempotencyKey) := by
  obtain ⟨_, read, new⟩ := answered_bind_ok new
  cases read
  split at new
  next absent => exact find_none absent
  next =>
    split at new
    · cases new
    · cases new

/-- Nothing stands in the way of writing a new operation. -/
theorem writeMutation_writes {identity : MutationIdentity} {accepted : AcceptedMutation} {operation document : OperationView}
    {instanceId : Uuid} {rewrite : InstanceRow → InstanceRow} {event : LifecycleCommand} {outboxId : Uuid} {now : Instant}
    (unused : ∀ o ∈ db.operations, o.id ≠ operation.id) (undocumented : ∀ o ∈ db.operationDocuments, o.id ≠ operation.id)
    (unrecorded : ∀ record ∈ db.idempotencyRecords,
      IdempotencyRecord.key record ≠ (identity.actor, identity.projectId, operation.action, identity.idempotencyKey)) :
    ∃ after, writeMutation identity requestHash accepted operation document instanceId rewrite event outboxId now db =
      .ok after := by
  have operations : insertRow (fun o : OperationView => o.id = operation.id) operation db.operations = .ok _ :=
    insertRow_fresh fun o member => decide_eq_false (unused o member)
  have documents : insertRow (fun o : OperationView => o.id = operation.id) document db.operationDocuments = .ok _ :=
    insertRow_fresh fun o member => decide_eq_false (undocumented o member)
  have records : insertRow (fun r => IdempotencyRecord.key r =
      IdempotencyRecord.key (idempotencyRecord identity operation.action requestHash accepted))
      (idempotencyRecord identity operation.action requestHash accepted) db.idempotencyRecords = .ok _ :=
    insertRow_fresh fun r member => decide_eq_false (unrecorded r member)
  have first : insertOperation operation document db =
      .ok { db with operations := db.operations ++ [operation], operationDocuments := db.operationDocuments ++ [document] } := by
    simp only [insertOperation, operations, documents, bind, Except.bind]
    rfl
  have last (middle : ControlDb) (same : middle.idempotencyRecords = db.idempotencyRecords) :
      ∃ after, (insertIdempotencyRecord (idempotencyRecord identity operation.action requestHash accepted) middle >>=
        fun db => return writeControlOutbox outboxId (.lifecycle event) now db) = .ok after := by
    simp only [insertIdempotencyRecord, same, records, bind, Except.bind]
    exact ⟨_, rfl⟩
  rw [writeMutation, first]
  exact last _ rfl

/-- How an accepted resize is answered. -/
def resizeAnswer (draws : Draws) (command : ResizeInstanceCommand) (row : InstanceRow) : AcceptedMutation :=
  acceptedMutation (draws.fresh 0) row.id (projectStatusUrl command.projectId (draws.fresh 0)) draws.now

/-- What it writes. -/
def resizeWrites (draws : Draws) (command : ResizeInstanceCommand) (requestHash : String) (row : InstanceRow)
    (flavor : FlavorRow) : Write :=
  let m := resizeMutation draws command row flavor
  writeMutation command.toMutationIdentity requestHash (resizeAnswer draws command row) m.operation m.operation row.id
    m.rewrite m.event (draws.fresh 2) draws.now

/-- What a resize that was not accepted before does once its instance is locked. -/
theorem atomically_acceptResize
    (new : Reading.on (findReplayedResponse command.toMutationIdentity .resizeInstance requestHash) db = .ok none)
    (locked : Reading.on (lockInstanceForMutation command.projectId command.instanceId) db = .ok row)
    (offered : enabledFlavor db command.flavorId = some flavor) :
    atomically (acceptResize draws command requestHash) db =
      (validateResize row.sizing (requested flavor row command)).mapError .domain >>= fun _ =>
        Reading.on (assertResizeQuotaHeadroom command.projectId row.sizing (effective flavor row command)) db >>= fun _ =>
          resizeWrites draws command requestHash row flavor db >>= fun after => return (resizeAnswer draws command row, after) := by
  have begins : Reading.on (lockIdempotencyScope command.toMutationIdentity .resizeInstance) db = .ok () := rfl
  have read : Reading.on (select .flavor : Step ControlDb) db = .ok db := rfl
  rw [acceptResize, unlessReplayed, atomically_bind, begins]
  refine (atomically_bind _ _ db).trans ?_
  rw [new]
  refine (atomically_bind _ _ db).trans ?_
  rw [locked]
  refine (atomically_bind _ _ db).trans ?_
  rw [read]
  dsimp only [bind, Except.bind]
  rw [offered]
  refine (atomically_bind _ _ db).trans ?_
  change (Reading.on (checked (validateResize row.sizing (requested flavor row command))) db >>= _) = _
  rw [checked_on]
  refine congrArg _ (funext fun _ => ?_)
  exact atomically_bind _ _ db

/-- A resize that is refused is refused for what is validated. -/
theorem acceptResize_invalid {error : DomainError}
    (new : Reading.on (findReplayedResponse command.toMutationIdentity .resizeInstance requestHash) db = .ok none)
    (locked : Reading.on (lockInstanceForMutation command.projectId command.instanceId) db = .ok row)
    (offered : enabledFlavor db command.flavorId = some flavor)
    (invalid : validateResize row.sizing (requested flavor row command) = .error error) :
    atomically (acceptResize draws command requestHash) db = .error (.domain error) := by
  rw [atomically_acceptResize new locked offered, invalid]
  rfl

/-- A resize is accepted exactly when what is validated passes. -/
theorem acceptResize_ok_iff (asked : Asked draws command requestHash db row flavor) :
    (∃ answer after, atomically (acceptResize draws command requestHash) db = .ok (answer, after)) ↔
      validateResize row.sizing (requested flavor row command) = .ok () := by
  cases valid : validateResize row.sizing (requested flavor row command) with
  | error error =>
    rw [acceptResize_invalid asked.new asked.locked asked.offered valid]
    simp
  | ok =>
    refine iff_of_true ?_ rfl
    obtain ⟨after, written⟩ : ∃ after, resizeWrites draws command requestHash row flavor db = .ok after :=
      writeMutation_writes asked.unused asked.undocumented (unrecorded asked.new)
    refine ⟨resizeAnswer draws command row, after, ?_⟩
    rw [atomically_acceptResize asked.new asked.locked asked.offered, valid, asked.headroom]
    change (resizeWrites draws command requestHash row flavor db >>= _) = _
    rw [written]
    rfl

/-- What an accepted resize wrote. -/
theorem acceptResize_written (asked : Asked draws command requestHash db row flavor) {answer : AcceptedMutation}
    (ended : atomically (acceptResize draws command requestHash) db = .ok (answer, after)) :
    Mutates db after draws.now (resizeMutation draws command row flavor) := by
  rw [atomically_acceptResize asked.new asked.locked asked.offered] at ended
  obtain ⟨_, -, ended⟩ := bind_ok ended
  obtain ⟨_, -, ended⟩ := bind_ok ended
  obtain ⟨last, written, same⟩ := bind_ok ended
  cases same
  exact writeMutation_mutates (resizeMutation draws command row flavor) written

/-- The row that a mutation was decided on, after it. -/
theorem mutated_instance {now : Instant} {m : Mutation} (mutates : Mutates db after now m)
    (keeps : ∀ row, (m.rewrite row).id = row.id) (found : db.instance_ m.row.id = some m.row) :
    after.instance_ m.row.id = some { m.rewrite m.row with activeOperationId := some m.operation.id } := by
  have updated := @updated_row m.row.id (fun row => { m.rewrite row with activeOperationId := some m.operation.id })
    keeps _ _ _ found
  rw [if_pos rfl] at updated
  exact (congrArg (find InstanceRow.id m.row.id) mutates.instances).trans updated

theorem Resizes.of_agrees (asked : Asked draws command requestHash db row flavor)
    (grows : ∀ history t, Reaches (Lifecycle.next host) Anything ⟨db, history⟩ t → Grows db.instances t.db.instances)
    (commits : validateResize row.sizing (requested flavor row command) = .ok () ↔
      effective flavor row command ≠ row.sizing ∧ ∀ disk, command.diskGiB = some disk → row.desiredDiskGib ≤ disk) :
    Resizes host draws command requestHash db row flavor where
  commits := (acceptResize_ok_iff asked).trans commits
  written := by
    intro answer after ended
    have mutates := acceptResize_written asked ended
    obtain ⟨outboxId, outbox⟩ := mutates.outbox
    refine ⟨?_, outboxId, _, _, outbox, rfl, rfl⟩
    have found := (lockInstanceForMutation_ok asked.locked).found
    have read : after.instance_ row.id = _ := mutated_instance mutates (fun _ => rfl) found
    rw [read]
    rfl
  shrinking := by
    intro disk given less
    have invalid : validateResize row.sizing (requested flavor row command) =
        .error ⟨.diskShrinkForbidden, "Disk size can grow but never shrink."⟩ := by
      unfold validateResize
      rw [if_pos]
      simpa [requested, given, InstanceRow.sizing] using less
    exact ⟨_, acceptResize_invalid asked.new asked.locked asked.offered invalid⟩
  changeless := by
    intro same
    cases valid : validateResize row.sizing (requested flavor row command) with
    | error error => exact ⟨error, acceptResize_invalid asked.new asked.locked asked.offered valid⟩
    | ok => exact absurd same (commits.mp valid).1
  grows := grows

end

/-! ### Runs -/

section
variable {host : Host} {s t : State} {row : InstanceRow}

/-- What a mutation leaves of an instance. -/
theorem mutated_row {db after : ControlDb} {now : Instant} {m : Mutation} (mutates : Mutates db after now m)
    (keeps : (m.rewrite row).id = row.id) (member : row ∈ db.instances) :
    ∃ later ∈ after.instances, later.id = row.id ∧
      (later.sizing = row.sizing ∨ row.id = m.row.id ∧ later.sizing = (m.rewrite row).sizing) := by
  rw [mutates.instances]
  by_cases here : row.id = m.row.id
  · exact ⟨_, mem_update.mpr ⟨row, member, .inl ⟨here, rfl⟩⟩, keeps, .inr ⟨here, rfl⟩⟩
  · exact ⟨row, mem_update.mpr ⟨row, member, .inr ⟨here, rfl⟩⟩, rfl, .inl rfl⟩

/-- Any other mutation leaves its sizing. -/
theorem unresized_row {db after : ControlDb} {now : Instant} {m : Mutation} (mutates : Mutates db after now m)
    (keeps : (m.rewrite row).id = row.id) (sized : (m.rewrite row).sizing = row.sizing) (member : row ∈ db.instances) :
    ∃ later ∈ after.instances, later.id = row.id ∧ later.sizing = row.sizing := by
  obtain ⟨later, there, same, kept | ⟨-, kept⟩⟩ := mutated_row mutates keeps member
  · exact ⟨later, there, same, kept⟩
  · exact ⟨later, there, same, kept.trans sized⟩

theorem projectedInstance_sizing (event : WorkflowEvent) (row : InstanceRow) :
    (projectedInstance event row).sizing = row.sizing := by
  unfold projectedInstance
  split <;> rfl

theorem projected_row {db after : ControlDb} {event : WorkflowEvent} (applied : Applied db after event)
    (member : row ∈ db.instances) : ∃ later ∈ after.instances, later.id = row.id ∧ later.sizing = row.sizing := by
  rw [applied.projected.instances]
  by_cases here : row.id = event.aggregateId
  · exact ⟨_, mem_update.mpr ⟨row, member, .inl ⟨here, rfl⟩⟩, projectedInstance_id event row,
      projectedInstance_sizing event row⟩
  · exact ⟨row, mem_update.mpr ⟨row, member, .inr ⟨here, rfl⟩⟩, rfl, rfl⟩

/-- A step in which a resize of an instance is accepted. -/
def ResizesTo (host : Host) (s t : State) (action : Action) (row : InstanceRow) (sizing : Resources) : Prop :=
  ∃ draws command requestHash answer flavor, action = .accept draws (.resize command) requestHash ∧
    command.instanceId = row.id ∧
    atomically (accept host draws requestHash (.resize command)) s.db = .ok (answer, t.db) ∧ answer.replayed = false ∧
    enabledFlavor s.db command.flavorId = some flavor ∧ sizing = effective flavor row command

/-- An instance stays, and asks for what it asked for, unless a resize of it is accepted. -/
theorem row_next {action : Action} (keyed : Keyed InstanceRow.id s.db.instances)
    (taken : Lifecycle.next host s action = some t) (member : row ∈ s.db.instances) :
    ∃ later ∈ t.db.instances, later.id = row.id ∧
      (later.sizing = row.sizing ∨ ResizesTo host s t action row later.sizing) := by
  have kept (found : ∃ later ∈ t.db.instances, later.id = row.id ∧ later.sizing = row.sizing) :
      ∃ later ∈ t.db.instances, later.id = row.id ∧
        (later.sizing = row.sizing ∨ ResizesTo host s t action row later.sizing) := by
    obtain ⟨later, there, same, sized⟩ := found
    exact ⟨later, there, same, .inl sized⟩
  cases does_next taken with
  | accepted draws request requestHash answer ended effects history =>
    cases effects with
    | replayed _ same => exact kept ⟨row, same ▸ member, rfl, rfl⟩
    | create _ _ _ _ _ _ _ creates =>
      exact kept ⟨row, creates.instances ▸ List.mem_append_left _ member, rfl, rfl⟩
    | power _ _ _ mutates => exact kept (unresized_row mutates rfl rfl member)
    | resize command old flavor idle offered _ mutates first =>
      obtain ⟨later, there, same, sized | ⟨here, sized⟩⟩ := mutated_row mutates rfl member
      · exact ⟨later, there, same, .inl sized⟩
      · have own : row = old := keyed.eq_of_key member (find_mem idle.found) here
        subst own
        exact ⟨later, there, same, .inr ⟨draws, command, requestHash, answer, flavor, rfl, idle.id.symm, ended, first, offered, sized⟩⟩
    | snapshotCreate _ _ _ _ mutates => exact kept (unresized_row mutates rfl rfl member)
    | snapshotAction _ _ _ _ _ _ _ _ mutates => exact kept (unresized_row mutates rfl rfl member)
    | retention _ _ _ _ _ mutates => exact kept (unresized_row mutates rfl rfl member)
    | purge _ _ _ _ _ _ _ _ _ mutates => exact kept (unresized_row mutates rfl rfl member)
    | replay _ _ _ _ _ _ _ written => exact kept ⟨row, written ▸ member, rfl, rfl⟩
  | projected event delivery now unseen applied history => exact kept (projected_row applied member)
  | lettered letter delivery now unseen written => exact kept ⟨row, written ▸ member, rfl, rfl⟩
  | administered catalog written => exact kept ⟨row, written ▸ member, rfl, rfl⟩
  | nothing _ same => exact kept ⟨row, same ▸ member, rfl, rfl⟩

/-- No disk gets smaller in a step. -/
theorem grows_next {action : Action} (keyed : Keyed InstanceRow.id s.db.instances)
    (taken : Lifecycle.next host s action = some t) : Grows s.db.instances t.db.instances := by
  intro row member
  obtain ⟨later, there, same, sized⟩ := row_next keyed taken member
  refine ⟨later, there, same, ?_⟩
  show row.sizing.diskGiB ≤ later.sizing.diskGiB
  rcases sized with sized | ⟨_, command, _, _, flavor, -, -, -, -, -, sized⟩
  · exact Nat.le_of_eq (congrArg Resources.diskGiB sized.symm)
  · rw [sized]
    exact effective_disk flavor row command

theorem Grows.trans {a b c : List InstanceRow} (first : Grows a b) (second : Grows b c) : Grows a c := by
  intro row member
  obtain ⟨middle, between, same, less⟩ := first row member
  obtain ⟨last, there, again, more⟩ := second middle between
  exact ⟨last, there, again.trans same, Nat.le_trans less more⟩

/-- No disk gets smaller in a run. -/
theorem grows_run {allowed : State → Action → Prop} (keyed : Keyed InstanceRow.id s.db.instances)
    (run : Reaches (Lifecycle.next host) allowed s t) : Grows s.db.instances t.db.instances := by
  have kept : Keyed InstanceRow.id t.db.instances ∧ Grows s.db.instances t.db.instances := by
    refine reaches_invariant
      (fun t => Keyed InstanceRow.id t.db.instances ∧ Grows s.db.instances t.db.instances) ?_ run
      ⟨keyed, fun row member => ⟨row, member, rfl, Nat.le_refl _⟩⟩
    rintro middle action last ⟨keyed, grown⟩ - taken
    exact ⟨keyed_next keyed (steps_next taken), grown.trans (grows_next keyed taken)⟩
  exact kept.2

end

/-! ### The claim about a resize -/

/-- Exactly when the acceptance of a resize does what it is to do: unless the current disk
    is asked for by its size while only the flavor's minimum makes a difference. -/
theorem resizes_iff {host : Host} {draws : Draws} {command : ResizeInstanceCommand} {requestHash : String} {db : ControlDb}
    {row : InstanceRow} {flavor : FlavorRow} (asked : Asked draws command requestHash db row flavor) :
    Resizes host draws command requestHash db row flavor ↔ ¬ Masked command row flavor := by
  constructor
  · intro meets
    exact requested_agrees.mp ((acceptResize_ok_iff asked).symm.trans meets.commits)
  · intro unmasked
    exact Resizes.of_agrees asked (fun history t run => grows_run asked.keyed run) (requested_agrees.mpr unmasked)

/-! ### A resize that failed -/

/-- No resize of an instance is accepted in a step. -/
def Unresized (host : Host) (instanceId : Uuid) (s : State) (action : Action) : Prop :=
  ∀ draws command requestHash answer after, action = .accept draws (.resize command) requestHash →
    command.instanceId = instanceId →
    atomically (accept host draws requestHash (.resize command)) s.db = .ok (answer, after) → answer.replayed = true

/-- A resize that was accepted, and whose operation ended in `failed` without another
    resize of the instance in between. The flavor is still offered as it was. -/
structure FailedResize (host : Host) (draws : Draws) (command : ResizeInstanceCommand) (requestHash : String)
    (flavor : FlavorRow) (s middle t : State) : Prop where
  keyed : Keyed InstanceRow.id s.db.instances
  offered : enabledFlavor s.db command.flavorId = some flavor
  accepted : ∃ answer, atomically (acceptResize draws command requestHash) s.db = .ok (answer, middle.db) ∧
    answer.replayed = false
  run : Reaches (Lifecycle.next host) (Unresized host command.instanceId) middle t
  failed : ∃ operation ∈ t.db.operations, operation.id = draws.fresh 0 ∧ operation.state = .failed
  unchanged : enabledFlavor t.db command.flavorId = some flavor

/-- The same resize, whoever asks for it and under which key. -/
structure SameResize (reissued command : ResizeInstanceCommand) : Prop where
  project : reissued.projectId = command.projectId
  about : reissued.instanceId = command.instanceId
  flavor : reissued.flavorId = command.flavorId
  disk : reissued.diskGiB = command.diskGiB

/-- A resize is accepted, and its project is charged nothing for it. -/
def Reissuable (draws : Draws) (command : ResizeInstanceCommand) (requestHash : String) (db : ControlDb) : Prop :=
  ∃ answer after, atomically (acceptResize draws command requestHash) db = .ok (answer, after) ∧
    usage after command.projectId = usage db command.projectId

/-- What a resize is refused for when the sizing is the one that it comes to. -/
def reissueRefusal (command : ResizeInstanceCommand) (row : InstanceRow) : DomainError :=
  if command.diskGiB.any fun disk => disk < row.desiredDiskGib then
    ⟨.diskShrinkForbidden, "Disk size can grow but never shrink."⟩
  else ⟨.validationFailed, "The requested sizing matches the current sizing."⟩

section
variable {host : Host} {draws again : Draws} {command reissued : ResizeInstanceCommand} {requestHash hash : String}
  {flavor : FlavorRow} {s middle t : State} {row old : InstanceRow}

/-- What a resize comes to, it comes to again. -/
theorem effective_again (same : SameResize reissued command) (sized : row.sizing = effective flavor old command) :
    effective flavor row reissued = row.sizing := by
  simp only [resizeTarget, same.disk, sized, Resources.mk.injEq, true_and]
  omega

/-- A resize to the sizing that there is, is refused. -/
theorem validateResize_again (sized : effective flavor row command = row.sizing) :
    validateResize row.sizing (requested flavor row command) = .error (reissueRefusal command row) := by
  obtain ⟨cpu, memory, floor, most⟩ := effective_eq.mp sized
  unfold validateResize reissueRefusal
  cases asked : command.diskGiB with
  | none =>
    have matches_ : requested flavor row command = row.sizing := requested_eq.mpr (by simp [asked, cpu, memory, floor])
    simp [matches_]
  | some disk =>
    have size : (requested flavor row command).diskGiB = disk := by simp [requested, asked]
    have current : row.sizing.diskGiB = row.desiredDiskGib := rfl
    rw [asked, Option.getD_some] at most
    by_cases less : disk < row.desiredDiskGib
    · simp [size, current, less]
    · have whole : disk = row.desiredDiskGib := by omega
      have matches_ : requested flavor row command = row.sizing := requested_eq.mpr (by simp [asked, cpu, memory, whole])
      simp [matches_, less]

/-- An instance keeps its sizing as long as no resize of it is accepted. -/
theorem sizing_run (keyed : Keyed InstanceRow.id s.db.instances)
    (run : Reaches (Lifecycle.next host) (Unresized host row.id) s t) (member : row ∈ s.db.instances) :
    Keyed InstanceRow.id t.db.instances ∧ ∃ later ∈ t.db.instances, later.id = row.id ∧ later.sizing = row.sizing := by
  refine reaches_invariant (fun t => Keyed InstanceRow.id t.db.instances ∧
    ∃ later ∈ t.db.instances, later.id = row.id ∧ later.sizing = row.sizing) ?_ run ⟨keyed, row, member, rfl, rfl⟩
  rintro u action v ⟨keyed, later, there, same, sized⟩ unresized taken
  refine ⟨keyed_next keyed (steps_next taken), ?_⟩
  obtain ⟨last, here, again, kept | ⟨draws, command, hash, answer, flavor, asks, about, ended, first, -⟩⟩ :=
    row_next keyed taken there
  · exact ⟨last, here, again.trans same, kept.trans sized⟩
  · have replayed := unresized draws command hash answer _ asks (about.trans same) ended
    rw [first] at replayed
    cases replayed

/-- The instance of a failed resize still asks for what the resize came to. -/
theorem FailedResize.sizing (failed : FailedResize host draws command requestHash flavor s middle t)
    (locked : Idle t.db command.projectId command.instanceId row) :
    ∃ old, row.sizing = effective flavor old command := by
  obtain ⟨answer, ended, first⟩ := failed.accepted
  have effects : Effects host draws s.db middle.db answer (.resize command) := acceptResize_effects ended
  cases effects with
  | replayed _ _ again => rw [first] at again; cases again
  | resize _ old found idle offered _ mutates =>
    obtain rfl : flavor = found := Option.some.inj (failed.offered.symm.trans offered)
    obtain ⟨held, taken, id, resized⟩ : ∃ held, middle.db.instance_ old.id = some held ∧ held.id = old.id ∧
        held.sizing = effective flavor old command :=
      ⟨_, mutated_instance mutates (fun _ => rfl) idle.found, rfl, rfl⟩
    have keyed : Keyed InstanceRow.id middle.db.instances := by
      rw [mutates.instances]
      exact keyed_update failed.keyed fun _ _ => rfl
    have run := failed.run
    rw [← idle.id, ← id] at run
    obtain ⟨keyed, later, there, same, sized⟩ := sizing_run keyed run (find_mem taken)
    have here : row = later := keyed.eq_of_key (find_mem locked.found) there
      ((locked.id.trans idle.id.symm).trans (same.trans id).symm)
    exact ⟨old, here ▸ sized.trans resized⟩

/-- A failed resize is refused when it is asked for again, for the sizing that it left. -/
theorem reissue_invalid (failed : FailedResize host draws command requestHash flavor s middle t)
    (same : SameResize reissued command)
    (new : Reading.on (findReplayedResponse reissued.toMutationIdentity .resizeInstance hash) t.db = .ok none)
    (locked : Reading.on (lockInstanceForMutation reissued.projectId reissued.instanceId) t.db = .ok row) :
    atomically (acceptResize again reissued hash) t.db = .error (.domain (reissueRefusal reissued row)) := by
  have idle : Idle t.db command.projectId command.instanceId row := by
    rw [← same.project, ← same.about]
    exact lockInstanceForMutation_ok locked
  obtain ⟨old, sized⟩ := failed.sizing idle
  have offered : enabledFlavor t.db reissued.flavorId = some flavor := by
    rw [same.flavor]
    exact failed.unchanged
  exact acceptResize_invalid new locked offered (validateResize_again (effective_again same sized))

end

/-! ### A flavor that needs a larger disk -/

def sampleInitial : State := Lifecycle.initial { sampleCatalog with
  flavors := [⟨"small", 1, 1024, 10, true⟩, ⟨"roomy", 1, 1024, 40, true⟩] }

def roomy : FlavorRow := ⟨"roomy", 1, 1024, 40, true⟩

/-- The instance of `sampleCreate` is active. -/
def sampleActive : State :=
  (Runs.execute (Lifecycle.next sampleHost) sampleInitial
    [acceptSample, projectSample 0 sampleCreate "00000000-0000-4000-8000-0000000000f2"
      (sampleCompletion .createInstance .active)]).getD sampleInitial

def sampleResize (idempotencyKey : String) (diskGiB : Option Nat) : ResizeInstanceCommand :=
  { sampleIdentity idempotencyKey with
    instanceId := sampleCreate.aggregateId, correlationId := sampleCreate.correlationId, flavorId := "roomy",
    diskGiB := diskGiB }

def resizeDraws : Draws := sampleDraws 1 ["00000000-0000-4000-8000-0000000000c5", "event-5", "outbox-5"]

/-- A resize of the active instance, which has a disk of ten. -/
theorem sample_asked {diskGiB : Option Nat} (given : diskGiB = none ∨ diskGiB = some 10) :
    ∃ row, row.sizing = ⟨1, 1024, 10⟩ ∧
      Asked resizeDraws (sampleResize "first" diskGiB) "hash" sampleActive.db row roomy := by
  rcases given with rfl | rfl
  all_goals
    refine ⟨_, rfl, ⟨?_, rfl, rfl, rfl, rfl, ?_, ?_⟩⟩
    · show (sampleActive.db.instances.map InstanceRow.id).Nodup
      decide
    · decide
    · decide

/-- Without a disk of its own the resize is accepted, with the flavor's. -/
theorem resizes_iff_sample :
    ∃ row, Resizes sampleHost resizeDraws (sampleResize "first" none) "hash" sampleActive.db row roomy := by
  obtain ⟨row, -, asked⟩ := sample_asked (.inl rfl)
  refine ⟨row, (resizes_iff asked).mpr fun masked => ?_⟩
  cases masked.1

/-- With the current disk it is refused, although it comes to the same. -/
theorem minimum_masked :
    ∃ row, Asked resizeDraws (sampleResize "first" (some 10)) "hash" sampleActive.db row roomy ∧
      effective roomy row (sampleResize "first" (some 10)) ≠ row.sizing ∧
      atomically (acceptResize resizeDraws (sampleResize "first" (some 10)) "hash") sampleActive.db =
        .error (.domain ⟨.validationFailed, "The requested sizing matches the current sizing."⟩) ∧
      ¬ Resizes sampleHost resizeDraws (sampleResize "first" (some 10)) "hash" sampleActive.db row roomy := by
  obtain ⟨row, sized, asked⟩ := sample_asked (.inr rfl)
  have disk : row.desiredDiskGib = 10 := congrArg Resources.diskGiB sized
  have masked : Masked (sampleResize "first" (some 10)) row roomy :=
    ⟨congrArg some disk.symm, (congrArg Resources.cpuCount sized).symm, (congrArg Resources.memoryMiB sized).symm, by simp [disk, roomy]⟩
  refine ⟨row, asked, ?_, rfl, fun meets => ?_⟩
  · simp [resizeTarget, sized, roomy, sampleResize]
  · exact requested_agrees.mp ((acceptResize_ok_iff asked).symm.trans meets.commits) masked

/-- The resize is accepted. -/
def sampleResized : State :=
  (Lifecycle.next sampleHost sampleActive (.accept resizeDraws (.resize (sampleResize "first" none)) "hash")).getD sampleActive

/-- It fails: the provider refused it, and changed nothing. -/
def sampleFailing : Action :=
  projectSample 1 { sampleCreate with operationId := resizeDraws.fresh 0, eventId := resizeDraws.fresh 1 }
    "00000000-0000-4000-8000-0000000000f3" (sampleFailure .resizeInstance)

def sampleFailed : State := (Lifecycle.next sampleHost sampleResized sampleFailing).getD sampleResized

theorem sample_failed :
    FailedResize sampleHost resizeDraws (sampleResize "first" none) "hash" roomy sampleActive sampleResized sampleFailed where
  keyed := by
    show (sampleActive.db.instances.map InstanceRow.id).Nodup
    decide
  offered := rfl
  accepted := ⟨_, rfl, rfl⟩
  run := by
    refine .single ⟨sampleFailing, ?_, rfl⟩
    intro draws command requestHash answer after asks
    cases asks
  failed := ⟨_, List.mem_cons_of_mem _ List.mem_cons_self, rfl, rfl⟩
  unchanged := rfl

def reissueDraws : Draws := sampleDraws 2 ["00000000-0000-4000-8000-0000000000c6", "event-6", "outbox-6"]

theorem sample_same : SameResize (sampleResize "second" none) (sampleResize "first" none) := ⟨rfl, rfl, rfl, rfl⟩

end ControlPlane.ResizeAcceptance
