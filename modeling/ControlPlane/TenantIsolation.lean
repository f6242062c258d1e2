import ControlPlane.AcceptanceSessions
import ControlPlane.ControlPlaneApplication

/-!
One project cannot reach another. A request names its project, the service checks
that its caller belongs to it, and the store reads and writes by it. However the
sessions take turns, what a request commits changes the rows of one project only,
and its caller may act for that project (`tenants_isolated`).
-/
namespace ControlPlane.TenantIsolation
open ControlPlane.Programs ControlPlane.Programs.Program ControlPlane.Runs ControlPlane.Tables
open ControlPlane.Domain ControlPlane.Commands ControlPlane.WorkflowSchema ControlPlane.ControlSchema
open ControlPlane.Transactions ControlPlane.Acceptance ControlPlane.AcceptanceRules
open ControlPlane.ControlPlaneApplication (Actor Input submit submit_handed authorize authorizeAdministrator)
open ControlPlane.Serializability ControlPlane.AcceptanceSessions
open ControlPlane.Quota (Conversation ends_checked)
open ControlPlane.EventValidation (sampleHost)

/-! ### What a project has -/

/-- The rows, documents and commands of one project. -/
structure Share where
  instances : List InstanceRow
  leases : List Ipv4LeaseRow
  snapshots : List SnapshotRow
  operations : List OperationView
  instanceDocuments : List InstanceView
  operationDocuments : List OperationView
  commands : List LifecycleCommand

def commands (db : ControlDb) : List LifecycleCommand :=
  db.outbox.filterMap fun row =>
    match row.message with
    | .lifecycle event => some event
    | .replayRequest _ | .unsupported _ _ => none

def share (projectId : Uuid) (db : ControlDb) : Share where
  instances := db.instances.filter fun row => row.projectId = projectId
  leases := db.ipv4Leases.filter fun lease => lease.projectId = projectId
  snapshots := db.snapshots.filter fun snapshot => snapshot.projectId = projectId
  operations := db.operations.filter fun operation => operation.projectId = projectId
  instanceDocuments := db.instanceDocuments.filter fun document => document.projectId = projectId
  operationDocuments := db.operationDocuments.filter fun document => document.projectId = projectId
  commands := (commands db).filter fun event => event.projectId = projectId

/-- An instance of a project. -/
def Owned (db : ControlDb) (instanceId projectId : Uuid) : Prop :=
  ∃ row ∈ db.instances, row.id = instanceId ∧ row.projectId = projectId

/-- What belongs to an instance belongs to its project. -/
structure Consistent (db : ControlDb) : Prop where
  instances : Keyed InstanceRow.id db.instances
  snapshots : Keyed SnapshotRow.id db.snapshots
  leased : ∀ lease ∈ db.ipv4Leases, Owned db lease.instanceId lease.projectId
  taken : ∀ snapshot ∈ db.snapshots, Owned db snapshot.instanceId snapshot.projectId
  documented : ∀ document ∈ db.instanceDocuments, Owned db document.id document.projectId

/-- Nothing but one project has changed. -/
structure Confined (projectId : Uuid) (db after : ControlDb) : Prop where
  others : ∀ other, other ≠ projectId → share other after = share other db
  consistent : Consistent after

/-! ### Rewriting the rows of one project -/

section
variable {Row : Type} {selected : Row → Prop} [DecidablePred selected] {rewrite : Row → Row} {rows : List Row}

theorem filter_update {kept : Row → Bool} (outside : ∀ row ∈ rows, selected row → kept row = false ∧ kept (rewrite row) = false) :
    (update selected rewrite rows).filter kept = rows.filter kept := by
  induction rows with
  | nil => rfl
  | cons first rest ih =>
    have later := ih fun row member => outside row (List.mem_cons_of_mem _ member)
    simp only [update] at later
    by_cases chosen : selected first
    · obtain ⟨before, after⟩ := outside first List.mem_cons_self chosen
      simp [update, chosen, before, after, later]
    · simp [update, chosen, List.filter_cons, later]

theorem filter_append_other (project : Row → Uuid) {row : Row} {other : Uuid} (outside : other ≠ project row) :
    (rows ++ [row]).filter (fun row => project row = other) = rows.filter (fun row => project row = other) := by
  simp [List.filter_append, Ne.symm outside]

end

section
variable {db after : ControlDb} {now : Instant} {m : Mutation}

theorem Consistent.unique (consistent : Consistent db) {row : InstanceRow} {projectId : Uuid} (member : row ∈ db.instances)
    (owned : Owned db row.id projectId) : row.projectId = projectId := by
  obtain ⟨other, also, same, project⟩ := owned
  rw [← consistent.instances.eq_of_key also member same]
  exact project

/-- Instances that keep their projects own what they did. -/
theorem Owned.kept {rewrite : InstanceRow → InstanceRow} {selected : InstanceRow → Prop} [DecidablePred selected]
    (keeps : ∀ row, (rewrite row).id = row.id ∧ (rewrite row).projectId = row.projectId)
    (instances : after.instances = update selected rewrite db.instances) {instanceId projectId : Uuid}
    (owned : Owned db instanceId projectId) : Owned after instanceId projectId := by
  obtain ⟨row, member, same, project⟩ := owned
  by_cases chosen : selected row
  · refine ⟨rewrite row, instances ▸ mem_update.mpr ⟨row, member, .inl ⟨chosen, rfl⟩⟩, ?_, ?_⟩
    · rw [(keeps row).1, same]
    · rw [(keeps row).2, project]
  · exact ⟨row, instances ▸ mem_update.mpr ⟨row, member, .inr ⟨chosen, rfl⟩⟩, same, project⟩

theorem Owned.more {row : InstanceRow} (instances : after.instances = db.instances ++ [row]) {instanceId projectId : Uuid}
    (owned : Owned db instanceId projectId) : Owned after instanceId projectId := by
  obtain ⟨other, member, same, project⟩ := owned
  exact ⟨other, instances ▸ List.mem_append_left _ member, same, project⟩

/-- What a mutation does to the leases and snapshots of its instance. -/
structure Inside (db : ControlDb) (m : Mutation) : Prop where
  rewrite : ∀ row, (m.rewrite row).id = row.id ∧ (m.rewrite row).projectId = row.projectId
  operation : m.operation.projectId = m.row.projectId
  event : m.event.projectId = m.row.projectId
  otherLeases : ∀ other, other ≠ m.row.projectId →
    (m.leases db.ipv4Leases).filter (fun lease => lease.projectId = other) =
      db.ipv4Leases.filter (fun lease => lease.projectId = other)
  leases : ∀ lease ∈ m.leases db.ipv4Leases, ∃ old ∈ db.ipv4Leases,
    old.instanceId = lease.instanceId ∧ old.projectId = lease.projectId
  otherSnapshots : ∀ other, other ≠ m.row.projectId →
    (m.snapshots db.snapshots).filter (fun snapshot => snapshot.projectId = other) =
      db.snapshots.filter (fun snapshot => snapshot.projectId = other)
  snapshots : ∀ snapshot ∈ m.snapshots db.snapshots, Owned db snapshot.instanceId snapshot.projectId
  keyed : Keyed SnapshotRow.id (m.snapshots db.snapshots)

theorem commands_append {outboxId : Uuid} {event : LifecycleCommand} (outbox : after.outbox = db.outbox ++ [⟨outboxId, .lifecycle event, 0, now⟩]) :
    commands after = commands db ++ [event] := by
  simp [commands, outbox]

/-- A mutation changes nothing but the project of its instance. -/
theorem mutates_confined (consistent : Consistent db) (found : db.instance_ m.row.id = some m.row) (inside : Inside db m)
    (mutates : Mutates db after now m) : Confined m.row.projectId db after := by
  have member : m.row ∈ db.instances := find_mem found
  have keeps : ∀ row : InstanceRow, ({ m.rewrite row with activeOperationId := some m.operation.id } : InstanceRow).id = row.id ∧
      ({ m.rewrite row with activeOperationId := some m.operation.id } : InstanceRow).projectId = row.projectId := inside.rewrite
  have instances : after.instances = update (fun row : InstanceRow => row.id = m.row.id)
      (fun row => { m.rewrite row with activeOperationId := some m.operation.id }) db.instances := mutates.instances
  obtain ⟨outboxId, outbox⟩ := mutates.outbox
  constructor
  · intro other apart
    have rows : after.instances.filter (fun row => row.projectId = other) =
        db.instances.filter (fun row => row.projectId = other) := by
      rw [instances]
      refine filter_update fun row present same => ?_
      obtain rfl := consistent.instances.eq_of_key present member same
      exact ⟨by simpa using Ne.symm apart, by simpa [(inside.rewrite m.row).2] using Ne.symm apart⟩
    have documents : after.instanceDocuments.filter (fun document => document.projectId = other) =
        db.instanceDocuments.filter (fun document => document.projectId = other) := by
      rw [mutates.instanceDocuments]
      refine filter_update fun document present same => ?_
      have project := consistent.unique member (same ▸ consistent.documented document present)
      exact ⟨by simpa [← project] using Ne.symm apart, by simpa [← project] using Ne.symm apart⟩
    have operation : other ≠ m.operation.projectId := inside.operation ▸ apart
    have event : other ≠ m.event.projectId := inside.event ▸ apart
    simp only [share, rows, documents, mutates.leases, mutates.snapshots, mutates.operations, mutates.operationDocuments,
      inside.otherLeases other apart, inside.otherSnapshots other apart, commands_append outbox,
      filter_append_other OperationView.projectId operation,
      filter_append_other (fun event : LifecycleCommand => event.projectId) event]
  · have kept {instanceId projectId : Uuid} (owned : Owned db instanceId projectId) : Owned after instanceId projectId :=
      owned.kept keeps instances
    constructor
    · rw [instances]
      exact keyed_update consistent.instances fun row _ => (keeps row).1
    · rw [mutates.snapshots]
      exact inside.keyed
    · intro lease present
      rw [mutates.leases] at present
      obtain ⟨old, there, same, project⟩ := inside.leases lease present
      exact kept (same ▸ project ▸ consistent.leased old there)
    · intro snapshot present
      rw [mutates.snapshots] at present
      exact kept (inside.snapshots snapshot present)
    · intro document present
      rw [mutates.instanceDocuments] at present
      obtain ⟨old, there, ⟨-, rfl⟩ | ⟨-, rfl⟩⟩ := mem_update.mp present
      · exact kept (consistent.documented old there)
      · exact kept (consistent.documented _ there)

/-- A creation changes nothing but its project. -/
theorem creates_confined {records : AcceptanceRecords} {projectId : Uuid} (consistent : Consistent db)
    (creates : Creates db after now records)
    (projects : records.row.projectId = projectId ∧ records.lease.projectId = projectId ∧
      records.operation.projectId = projectId ∧ records.document.projectId = projectId ∧ records.event.projectId = projectId)
    (instances : records.lease.instanceId = records.row.id ∧ records.document.id = records.row.id) :
    Confined projectId db after := by
  obtain ⟨row, lease, operation, document, event⟩ := projects
  obtain ⟨leased, documented⟩ := instances
  obtain ⟨outboxId, outbox⟩ := creates.outbox
  have new : Owned after records.row.id projectId :=
    ⟨records.row, creates.instances ▸ List.mem_append_right _ (List.mem_singleton.mpr rfl), rfl, row⟩
  have kept {instanceId projectId : Uuid} (owned : Owned db instanceId projectId) : Owned after instanceId projectId :=
    owned.more creates.instances
  constructor
  · intro other apart
    simp only [share, creates.instances, creates.leases, creates.snapshots, creates.operations, creates.instanceDocuments,
      creates.operationDocuments, commands_append outbox,
      filter_append_other InstanceRow.projectId (row ▸ apart), filter_append_other Ipv4LeaseRow.projectId (lease ▸ apart),
      filter_append_other OperationView.projectId (operation ▸ apart),
      filter_append_other InstanceView.projectId (document ▸ apart),
      filter_append_other (fun event : LifecycleCommand => event.projectId) (event ▸ apart)]
  · constructor
    · rw [creates.instances]
      exact keyed_append consistent.instances creates.fresh
    · rw [creates.snapshots]
      exact consistent.snapshots
    · intro held present
      rw [creates.leases] at present
      rcases List.mem_append.mp present with old | added
      · exact kept (consistent.leased held old)
      · rw [List.mem_singleton.mp added, leased, lease]
        exact new
    · intro snapshot present
      rw [creates.snapshots] at present
      exact kept (consistent.taken snapshot present)
    · intro shown present
      rw [creates.instanceDocuments] at present
      rcases List.mem_append.mp present with old | added
      · exact kept (consistent.documented shown old)
      · rw [List.mem_singleton.mp added, documented, document]
        exact new

/-! ### The mutations -/

/-- A mutation that leaves leases and snapshots alone. -/
theorem inside_plain (consistent : Consistent db)
    (rewrite : ∀ row, (m.rewrite row).id = row.id ∧ (m.rewrite row).projectId = row.projectId)
    (operation : m.operation.projectId = m.row.projectId) (event : m.event.projectId = m.row.projectId)
    (leases : m.leases = id) (snapshots : m.snapshots = id) : Inside db m := by
  constructor
  · exact rewrite
  · exact operation
  · exact event
  · intro other _
    rw [leases]
    rfl
  · intro lease present
    rw [leases] at present
    exact ⟨lease, present, rfl, rfl⟩
  · intro other _
    rw [snapshots]
    rfl
  · intro snapshot present
    rw [snapshots] at present
    exact consistent.taken snapshot present
  · rw [snapshots]
    exact consistent.snapshots

/-- A retention moves the lease of its instance. -/
theorem inside_moveLease (consistent : Consistent db) (found : db.instance_ m.row.id = some m.row) {mode : LeaseReleaseMode}
    (rewrite : ∀ row, (m.rewrite row).id = row.id ∧ (m.rewrite row).projectId = row.projectId)
    (operation : m.operation.projectId = m.row.projectId) (event : m.event.projectId = m.row.projectId)
    (leases : m.leases = fun rows => (moveLease m.row.id mode { ipv4Leases := rows }).ipv4Leases)
    (snapshots : m.snapshots = id) : Inside db m := by
  have plain : Inside db { m with leases := id } := inside_plain consistent rewrite operation event rfl snapshots
  refine ⟨rewrite, operation, event, fun other apart => ?_, fun lease present => ?_, plain.otherSnapshots, plain.snapshots,
    plain.keyed⟩
  · rw [leases]
    refine filter_update fun lease there selected => ?_
    have project := consistent.unique (find_mem found) (selected.1 ▸ consistent.leased lease there)
    exact ⟨by simpa [← project] using Ne.symm apart, by simpa [← project] using Ne.symm apart⟩
  · rw [leases] at present
    obtain ⟨old, there, ⟨-, rfl⟩ | ⟨-, rfl⟩⟩ := mem_update.mp present
    · exact ⟨old, there, rfl, rfl⟩
    · exact ⟨_, there, rfl, rfl⟩

/-- A new snapshot belongs to the project of its instance. -/
theorem inside_newSnapshot (consistent : Consistent db) (found : db.instance_ m.row.id = some m.row) {snapshot : SnapshotRow}
    (rewrite : ∀ row, (m.rewrite row).id = row.id ∧ (m.rewrite row).projectId = row.projectId)
    (operation : m.operation.projectId = m.row.projectId) (event : m.event.projectId = m.row.projectId)
    (leases : m.leases = id) (snapshots : m.snapshots = fun rows => rows ++ [snapshot])
    (about : snapshot.instanceId = m.row.id ∧ snapshot.projectId = m.row.projectId)
    (fresh : ∀ other ∈ db.snapshots, other.id ≠ snapshot.id) : Inside db m := by
  have plain : Inside db { m with snapshots := id } := inside_plain consistent rewrite operation event leases rfl
  refine ⟨rewrite, operation, event, plain.otherLeases, plain.leases, fun other apart => ?_, fun old present => ?_, ?_⟩
  · rw [snapshots]
    exact filter_append_other SnapshotRow.projectId (about.2 ▸ apart)
  · rw [snapshots] at present
    rcases List.mem_append.mp present with there | added
    · exact consistent.taken old there
    · rw [List.mem_singleton.mp added, about.1, about.2]
      exact ⟨m.row, find_mem found, rfl, rfl⟩
  · rw [snapshots]
    exact keyed_append consistent.snapshots fresh

/-- A snapshot that is acted on belongs to the project of its instance. -/
theorem inside_updateSnapshot (consistent : Consistent db) (found : db.instance_ m.row.id = some m.row) {snapshot : SnapshotRow}
    {state : SnapshotState} {at_ : Instant}
    (rewrite : ∀ row, (m.rewrite row).id = row.id ∧ (m.rewrite row).projectId = row.projectId)
    (operation : m.operation.projectId = m.row.projectId) (event : m.event.projectId = m.row.projectId)
    (leases : m.leases = id)
    (snapshots : m.snapshots = update (fun s : SnapshotRow => s.id = snapshot.id) fun s => { s with state := state, updatedAt := at_ })
    (present : find SnapshotRow.id snapshot.id db.snapshots = some snapshot) (about : snapshot.instanceId = m.row.id) :
    Inside db m := by
  have plain : Inside db { m with snapshots := id } := inside_plain consistent rewrite operation event leases rfl
  have project := consistent.unique (find_mem found) (about ▸ consistent.taken snapshot (find_mem present))
  refine ⟨rewrite, operation, event, plain.otherLeases, plain.leases, fun other apart => ?_, fun old there => ?_, ?_⟩
  · rw [snapshots]
    refine filter_update fun old there same => ?_
    obtain rfl := consistent.snapshots.eq_of_key there (find_mem present) same
    exact ⟨by simpa [← project] using Ne.symm apart, by simpa [← project] using Ne.symm apart⟩
  · rw [snapshots] at there
    obtain ⟨before, was, ⟨-, rfl⟩ | ⟨-, rfl⟩⟩ := mem_update.mp there
    · exact consistent.taken before was
    · exact consistent.taken _ was
  · rw [snapshots]
    exact keyed_update consistent.snapshots fun _ _ => rfl

end

/-! ### Each request -/

/-- The project that a tenant's request is about. -/
def projectOf : Request → Option Uuid
  | .create command => some command.projectId
  | .power command => some command.projectId
  | .resize command => some command.projectId
  | .snapshotCreate command => some command.projectId
  | .snapshotAction _ command => some command.projectId
  | .retention command => some command.projectId
  | .purge _ | .replay _ => none

/-- A commit changes one project, that of its request if it names one. -/
def Confines (submission : Submission) (past : Conversation) (commit : Decided) : Prop :=
  ∃ projectId, (∀ own, projectOf submission.request = some own → projectId = own) ∧
    ∀ db after, Consistent db → Still view past db → commit.write db = .ok after → Confined projectId db after

section
variable {host : Host} {draws : Draws} {requestHash : String} {past : Conversation} {submission : Submission}

theorem confined_same {projectId : Uuid} {db : ControlDb} (consistent : Consistent db) : Confined projectId db db :=
  ⟨fun _ _ => rfl, consistent⟩

theorem confines_again {answer : AcceptedMutation} : Confines submission past ⟨answer, .ok⟩ := by
  refine ⟨(projectOf submission.request).getD "", fun own same => by rw [same]; rfl, fun db after consistent _ written => ?_⟩
  cases written
  exact confined_same consistent

/-- A tenant's mutation of the instance that it has locked. -/
theorem confines_mutation (m : Mutation) {commit : Decided} {projectId instanceId : Uuid}
    (about : projectOf submission.request = some projectId)
    (idle : Read past (.instance_ m.row.id) .instance_ fun read => Idle read projectId instanceId m.row)
    (inside : ∀ db after, Consistent db → Still view past db → db.instance_ m.row.id = some m.row →
      m.row.projectId = projectId → commit.write db = .ok after → Inside db m)
    (writes : ∀ db after, commit.write db = .ok after → Mutates db after submission.draws.now m) :
    Confines submission past commit := by
  refine ⟨projectId, fun own same => ?_, fun db after consistent still written => ?_⟩
  · rw [about] at same
    cases same
    rfl
  · have free := idle.idle still
    have within := inside db after consistent still free.found free.project written
    exact free.project ▸ mutates_confined consistent free.found within (writes db after written)

theorem acceptPowerAction_confines (command : PowerInstanceCommand) :
    (acceptPowerAction draws command requestHash).Ends past (Confines ⟨draws, .power command, requestHash⟩) := by
  refine unlessReplayed_looks (fun _ _ _ _ => confines_again) fun later _ => ?_
  refine ends_bind lockInstanceForMutation_reads fun second row found => ?_
  obtain ⟨more, rfl, idle⟩ := found
  exact confines_mutation (powerMutation draws command row) rfl idle
    (fun _ _ consistent _ _ project _ => inside_plain consistent (fun _ => ⟨rfl, rfl⟩) project.symm project.symm rfl rfl)
    fun db after written => writeMutation_mutates (powerMutation draws command row) written

theorem acceptResize_confines (command : ResizeInstanceCommand) :
    (acceptResize draws command requestHash).Ends past (Confines ⟨draws, .resize command, requestHash⟩) := by
  refine unlessReplayed_looks (fun _ _ _ _ => confines_again) fun later _ => ?_
  refine ends_bind lockInstanceForMutation_reads fun second row found => ?_
  obtain ⟨more, rfl, idle⟩ := found
  refine ends_select fun read => ?_
  split
  next => trivial
  next flavor _ =>
    refine ends_checked fun _ _ => ends_bind (ends_longer _) fun third _ longer => ?_
    obtain ⟨further, rfl⟩ := longer
    exact confines_mutation (resizeMutation draws command row flavor) rfl ((idle.append _).append _)
      (fun _ _ consistent _ _ project _ => inside_plain consistent (fun _ => ⟨rfl, rfl⟩) project.symm project.symm rfl rfl)
      fun db after written => writeMutation_mutates (resizeMutation draws command row flavor) written

theorem acceptSnapshotCreate_confines (command : CreateSnapshotCommand) :
    (acceptSnapshotCreate draws command requestHash).Ends past (Confines ⟨draws, .snapshotCreate command, requestHash⟩) := by
  refine unlessReplayed_looks (fun _ _ _ _ => confines_again) fun later _ => ?_
  refine ends_bind lockInstanceForMutation_reads fun second row found => ?_
  obtain ⟨more, rfl, idle⟩ := found
  refine ends_bind (ends_longer _) fun third _ longer => ?_
  obtain ⟨further, rfl⟩ := longer
  refine ends_select fun read => ?_
  split
  next => trivial
  next =>
    refine confines_mutation (snapshotCreateMutation draws command row) rfl ((idle.append _).append _)
      (fun db after consistent _ found project written => ?_) fun db after written => ?_
    · obtain ⟨middle, inserted, written⟩ := bind_ok written
      obtain ⟨snapshots, appended, same⟩ := bind_ok inserted
      obtain ⟨-, free⟩ := insertRow_ok appended
      exact inside_newSnapshot consistent found (fun _ => ⟨rfl, rfl⟩) project.symm project.symm rfl rfl ⟨rfl, project.symm⟩
        fun other member => of_decide_eq_false (Bool.or_eq_false_iff.mp (free other member)).1
    · obtain ⟨middle, inserted, written⟩ := bind_ok written
      obtain ⟨snapshots, appended, same⟩ := bind_ok inserted
      cases same
      obtain ⟨rfl, -⟩ := insertRow_ok appended
      exact writeSnapshotOperation_mutates (snapshotCreateMutation draws command row) rfl rfl written

theorem acceptSnapshotAction_confines (kind : SnapshotAction) (command : SnapshotActionCommand) :
    (acceptSnapshotAction kind draws command requestHash).Ends past (Confines ⟨draws, .snapshotAction kind command, requestHash⟩) := by
  refine unlessReplayed_looks (fun _ _ _ _ => confines_again) fun later _ => ?_
  refine ends_bind lockInstanceForMutation_reads fun second row found => ?_
  obtain ⟨more, rfl, idle⟩ := found
  refine ends_lock (ends_select fun read => ?_)
  split
  next => trivial
  next snapshot present =>
    have id : snapshot.id = command.snapshotId := find_key present
    split
    next => trivial
    next belongs =>
      split
      next => trivial
      next =>
        refine confines_mutation (snapshotActionMutation draws kind command row snapshot) rfl ((idle.append _).append _)
          (fun db after consistent still found project written => ?_) fun db after written =>
            writeSnapshotOperation_mutates (snapshotActionMutation draws kind command row snapshot) rfl rfl written
        have shows := still (later ++ more) (.snapshot command.snapshotId) [⟨.select .snapshot, read⟩] (by simp) .snapshot read
          (List.mem_singleton.mpr rfl) _ (view_snapshot.mpr present)
        exact inside_updateSnapshot consistent found (fun _ => ⟨rfl, rfl⟩) project.symm project.symm rfl rfl
          (id ▸ view_snapshot.mp shows) (not_not.mp belongs)

theorem acceptRetention_confines (command : RetainInstanceCommand) :
    (acceptRetention draws command requestHash).Ends past (Confines ⟨draws, .retention command, requestHash⟩) := by
  refine unlessReplayed_looks (fun _ _ _ _ => confines_again) fun later _ => ?_
  refine ends_bind lockInstanceForMutation_reads fun second row found => ?_
  obtain ⟨more, rfl, idle⟩ := found
  refine ends_select fun read => ?_
  split
  next => trivial
  next policy _ =>
    exact confines_mutation (retentionMutation draws command row policy) rfl (idle.append _)
      (fun _ _ consistent _ found project _ =>
        inside_moveLease consistent found (fun _ => ⟨rfl, rfl⟩) project.symm project.symm rfl rfl)
      fun db after written => writeMutation_mutates (retentionMutation draws command row policy) written

theorem acceptPurge_confines (command : PurgeInstanceCommand) :
    (acceptPurge draws command requestHash).Ends past (Confines ⟨draws, .purge command, requestHash⟩) := by
  unfold acceptPurge
  split
  next => trivial
  next =>
    refine unlessReplayed_looks (fun _ _ _ _ => confines_again) fun later _ => ?_
    refine ends_lock (ends_select fun read => ?_)
    split
    next => trivial
    next row present =>
      have about : row.id = command.instanceId := find_key present
      split
      next => trivial
      next =>
        split
        next => trivial
        next =>
          split
          next => trivial
          next deadline due =>
            refine ⟨row.projectId, fun own same => (by cases same), fun db after consistent still written => ?_⟩
            have shows := still later (.instance_ command.instanceId) [⟨.select .instance_, read⟩] (by simp) .instance_ read
              (List.mem_singleton.mpr rfl) _ (view_instance.mpr present)
            have found : db.instance_ row.id = some row := about ▸ view_instance.mp shows
            have inside : Inside db (purgeMutation draws command row deadline) :=
              inside_plain consistent (fun _ => ⟨rfl, rfl⟩) rfl rfl rfl rfl
            exact mutates_confined consistent found inside
              (writeMutation_mutates (purgeMutation draws command row deadline) written)

theorem acceptCreate_confines (command : CreateInstanceCommand) :
    (acceptCreate host draws command requestHash).Ends past (Confines ⟨draws, .create command, requestHash⟩) := by
  refine unlessReplayed_looks (fun _ _ _ _ => confines_again) fun later _ => ?_
  refine ends_bind (ends_longer _) fun second context longer => ?_
  refine ends_bind (ends_longer _) fun third _ longer => ?_
  refine ends_bind (ends_longer _) fun fourth address longer => ?_
  refine ends_checked fun records built => ?_
  refine ⟨command.projectId, fun own same => (by cases same; rfl), fun db after consistent _ written => ?_⟩
  obtain ⟨-, -, -, -, -, -, -, -, active, -, document⟩ := buildAcceptanceRecords_ok built
  have creates := writeAcceptanceRecords_ok active document written
  obtain ⟨dnsServers, -, built⟩ := bind_ok built
  obtain ⟨sshPublicKeys, -, built⟩ := bind_ok built
  cases built
  exact creates_confined consistent creates ⟨rfl, rfl, rfl, rfl, rfl⟩ ⟨rfl, rfl⟩

theorem requestDeadLetterReplay_confines (command : ReplayDeadLetterCommand) :
    (requestDeadLetterReplay draws command requestHash).Ends past (Confines ⟨draws, .replay command, requestHash⟩) := by
  refine ends_lock (ends_select fun requests => ends_select fun letters => ?_)
  dsimp only
  split
  next => trivial
  next =>
    split
    next => trivial
    next => exact confines_again
  next =>
    split
    next => trivial
    next =>
      refine ⟨"", fun own same => (by cases same), fun db after consistent _ written => ?_⟩
      obtain ⟨_, inserted, done⟩ := bind_ok written
      obtain ⟨_, -, same⟩ := bind_ok inserted
      cases same
      cases done
      refine ⟨fun other _ => ?_, consistent.instances, consistent.snapshots, consistent.leased, consistent.taken,
        consistent.documented⟩
      simp [share, commands, writeControlOutbox]

theorem begun_confines (submission : Submission) : (begun host submission).Ends [] (Confines submission) := by
  obtain ⟨draws, request, requestHash⟩ := submission
  cases request with
  | create command => exact acceptCreate_confines command
  | power command => exact acceptPowerAction_confines command
  | resize command => exact acceptResize_confines command
  | snapshotCreate command => exact acceptSnapshotCreate_confines command
  | snapshotAction kind command => exact acceptSnapshotAction_confines kind command
  | retention command => exact acceptRetention_confines command
  | purge command => exact acceptPurge_confines command
  | replay command => exact requestDeadLetterReplay_confines command

end

/-! ### Who may ask -/

/-- A caller may act for the projects it belongs to. An administrator may act for
    all. -/
def MayAct (actor : Actor) (projectId : Uuid) : Prop :=
  (actor.roles.contains "tenant_developer" = true ∧ actor.projects.contains projectId = true) ∨
    actor.roles.contains "platform_administrator" = true

def actorOf : Input → Actor
  | .createInstance input => input.actor
  | .mutateInstancePower input => input.actor
  | .resizeInstance input => input.actor
  | .createSnapshot input => input.actor
  | .snapshotAction _ input => input.actor
  | .retainInstance input => input.actor
  | .purgeInstance input => input.actor
  | .requestDeadLetterReplay input => input.actor

section
variable {input : Input} {request : Request} {actor : Actor} {projectId : Uuid}

theorem authorize_ok (passed : authorize actor projectId = .ok ()) : MayAct actor projectId := by
  unfold authorize at passed
  split at passed
  next => cases passed
  next belongs =>
    simp only [Bool.not_eq_true, Bool.or_eq_false_iff, Bool.not_eq_false'] at belongs
    exact .inl belongs

theorem authorizeAdministrator_ok (passed : authorizeAdministrator actor = .ok ()) (projectId : Uuid) :
    MayAct actor projectId := by
  unfold authorizeAdministrator at passed
  split at passed
  next => cases passed
  next administers => exact .inr (by simpa using administers)

/-- The service hands over nothing that its caller may not do. -/
theorem submit_mayAct (served : submit input = .ok request) (about : ∀ own, projectOf request = some own → projectId = own) :
    MayAct (actorOf input) projectId := by
  cases submit_handed served with
  | createInstance input authorized | mutateInstancePower input _ authorized | resizeInstance input authorized
  | createSnapshot input authorized | snapshotAction _ input authorized | retainInstance input authorized =>
    exact about _ rfl ▸ authorize_ok authorized
  | purgeInstance input administers | requestDeadLetterReplay input administers =>
    exact authorizeAdministrator_ok administers projectId

end

/-! ### Every run -/

section
variable {host : Host} {s t : Store} {action : Transactions.Action ControlDb Submission}

/-- The steps of a store that serves what the service hands over, in which nobody
    else writes what a session has locked or takes a row out of its project. -/
def Guarded (s : Store) : Transactions.Action ControlDb Submission → Prop
  | .start submission => ∃ input, submit input = .ok submission.request
  | .outside db => (∀ session ∈ s.sessions, Leads view (held session.past) s.db db) ∧ Consistent db
  | .step _ | .commit _ | .rollback _ => True

/-- A store whose sessions change one project each, and serve callers who may act
    for it. -/
structure Isolating (host : Host) (s : Store) : Prop where
  kept : Kept host s
  sound : Sound (fun submission => Ending (Confines submission)) s
  served : Asked (fun submission => ∃ input, submit input = .ok submission.request) s
  consistent : Consistent s.db

theorem Isolating.confined (isolating : Isolating host s) {session : Serving} (member : session ∈ s.sessions) {commit : Decided}
    (ends : session.program = .done commit) {after : ControlDb} (written : commit.write s.db = .ok after) :
    ∃ input projectId, submit input = .ok session.request.request ∧ MayAct (actorOf input) projectId ∧
      Confined projectId s.db after := by
  have follows := isolating.sound.follows session member
  rw [ends] at follows
  obtain ⟨projectId, about, confined⟩ := follows
  obtain ⟨input, served⟩ := isolating.served session member
  exact ⟨input, projectId, served, submit_mayAct served about,
    confined s.db after isolating.consistent (isolating.kept.current session member) written⟩

theorem isolating_next (isolating : Isolating host s) (guarded : Guarded s action) (taken : next (begun host) s action = some t) :
    Isolating host t := by
  have admissible : Admissible s action := by
    cases action with
    | outside db => exact guarded.1
    | start submission => trivial
    | step id => trivial
    | commit id => trivial
    | rollback id => trivial
  refine ⟨kept_next isolating.kept admissible taken, sound_next begun_confines isolating.sound taken, ?_, ?_⟩
  · refine asked_next isolating.served (fun submission begins => ?_) taken
    subst begins
    exact guarded
  · cases steps_next taken with
    | start submission same => subst same; exact isolating.consistent
    | lock session member l resume asks free same => subst same; exact isolating.consistent
    | select session member query resume asks same => subst same; exact isolating.consistent
    | commit session member commit ends after written same =>
      subst same
      obtain ⟨_, _, -, -, confined⟩ := isolating.confined member ends written
      exact confined.consistent
    | leave id same => subst same; exact isolating.consistent
    | outside db same => subst same; exact guarded.2

end

/-! ### A power action -/

def sampleInput : Input :=
  .mutateInstancePower
    { actor := ⟨"alice", ["tenant_developer"], [EventValidation.sampleCreate.projectId]⟩,
      projectId := EventValidation.sampleCreate.projectId, idempotencyKey := "idempotency-a",
      correlationId := EventValidation.sampleCreate.correlationId,
      instanceId := EventValidation.sampleCreate.aggregateId, action := "stop" }

theorem sampleServed_consistent : Consistent sampleServed.db where
  instances := List.nodup_singleton _
  snapshots := List.nodup_nil
  leased := by
    intro lease member
    cases List.mem_singleton.mp member
    exact ⟨_, List.mem_cons_self, rfl, rfl⟩
  taken := by
    intro snapshot member
    cases member
  documented := by
    intro document member
    cases List.mem_singleton.mp member
    exact ⟨_, List.mem_cons_self, rfl, rfl⟩

end ControlPlane.TenantIsolation
