import ControlPlane.KeyExpiry
import ControlPlane.Quota
import ControlPlane.Serializability

/-!
All requests at once. Each is a session of the store: it locks the scope of its
idempotency key, then what it mutates, reads, and commits later. What a session
has read under a lock is still so when it commits (`kept_next`), so each commit
does to the tables what the acceptance may do to them in one step, whatever the
other sessions and the projection did meanwhile (`commits_accepted`). A session
that decides by nothing but what it has locked commits exactly what it would
commit in one step (`commits_atomically`).
-/
namespace ControlPlane.AcceptanceSessions
open ControlPlane.Programs ControlPlane.Programs.Program ControlPlane.Runs ControlPlane.Tables ControlPlane.Texts
open ControlPlane.Domain ControlPlane.Commands ControlPlane.WorkflowSchema ControlPlane.ControlSchema
open ControlPlane.Transactions ControlPlane.Acceptance ControlPlane.ProjectionStore ControlPlane.AcceptanceRules
open ControlPlane.Serializability
open ControlPlane.KeyExpiry (Key scope keyOf Recorded writeMutation_records writeSnapshotOperation_records
  writeAcceptanceRecords_records)
open ControlPlane.Quota (Conversation ends_checked)
open ControlPlane.EventValidation (sampleCreate sampleHost)

/-- A request with its hash and what is drawn for it. -/
structure Submission where
  draws : Draws
  request : Request
  requestHash : String

def begun (host : Host) (submission : Submission) : Accepting :=
  accept host submission.draws submission.requestHash submission.request

/-- The store with its sessions. -/
abbrev Store : Type := Transactions.State ControlDb ControlLock ControlQuery StoreError Submission AcceptedMutation

abbrev Serving : Type := Session ControlDb ControlLock ControlQuery StoreError Submission AcceptedMutation

abbrev Decided : Type := Commit ControlDb StoreError AcceptedMutation

/-! ### What a lock shows -/

/-- The text that the scope of a key is locked by. -/
def scopeText (key : Key) : String := ":".intercalate [key.1, key.2.1, key.2.2.1.text, key.2.2.2]

def scopeLock (identity : MutationIdentity) (action : WorkflowAction) : ControlLock :=
  .advisory (scopeText (keyOf identity action))

/-- What a lock protects. The policy of retention, which no transaction writes, is
    shown by every scope. -/
inductive Shown
  | scope (records : List IdempotencyRecord) (policy : Option RetentionPolicy)
  | instance_ (row : InstanceRow)
  | snapshot (row : SnapshotRow)

def scopeRecords (scope : String) (db : ControlDb) : List IdempotencyRecord :=
  db.idempotencyRecords.filter fun record => scopeText (IdempotencyRecord.key record) = scope

def view : ControlLock → ControlDb → Option Shown
  | .advisory scope, db => some (.scope (scopeRecords scope db) db.retentionPolicy)
  | .instance_ id, db => (db.instance_ id).map .instance_
  | .snapshot id, db => (find SnapshotRow.id id db.snapshots).map .snapshot

/-- Something that is read under a lock. -/
def Read (past : Conversation) (l : ControlLock) (query : ControlQuery) (said : ControlDb → Prop) : Prop :=
  ∃ before after read, past = before ++ ⟨.lock l, ()⟩ :: after ∧ ⟨.select query, read⟩ ∈ after ∧ said read

/-- What was read under a lock is so still. -/
def Still {Value : Type} (view : ControlLock → ControlDb → Option Value) (past : Conversation) (db : ControlDb) : Prop :=
  ∀ before l after, past = before ++ ⟨.lock l, ()⟩ :: after → ∀ query read, ⟨.select query, read⟩ ∈ after →
    ∀ value, view l read = some value → view l db = some value

section
variable {past : Conversation} {l : ControlLock} {query : ControlQuery} {said : ControlDb → Prop} {db after : ControlDb}
  {identity : MutationIdentity} {action : WorkflowAction}

theorem Read.append (read : Read past l query said) (more : Conversation) : Read (past ++ more) l query said := by
  obtain ⟨before, after, seen, rfl, asked, holds⟩ := read
  exact ⟨before, after ++ more, seen, by simp, List.mem_append_left _ asked, holds⟩

theorem Read.held (read : Read past l query said) : l ∈ held past := by
  obtain ⟨_, _, _, split, -⟩ := read
  exact held_split split

theorem Read.now {Value : Type} {view : ControlLock → ControlDb → Option Value} (read : Read past l query said)
    (still : Still view past db) : ∃ seen, said seen ∧ ∀ value, view l seen = some value → view l db = some value := by
  obtain ⟨before, after, seen, split, asked, holds⟩ := read
  exact ⟨seen, holds, still before l after split query seen asked⟩

/-- The record of a key is among those of its scope. -/
theorem find_scope (key : Key) (db : ControlDb) :
    find IdempotencyRecord.key key (scopeRecords (scopeText key) db) = find IdempotencyRecord.key key db.idempotencyRecords := by
  simp only [find, scopeRecords, List.find?_filter]
  refine congrArg (fun p => List.find? p db.idempotencyRecords) (funext fun record => ?_)
  by_cases same : IdempotencyRecord.key record = key
  · simp [same]
  · simp [same]

theorem view_record {key : Key} (same : view (.advisory (scopeText key)) db = view (.advisory (scopeText key)) after) :
    find IdempotencyRecord.key key after.idempotencyRecords = find IdempotencyRecord.key key db.idempotencyRecords := by
  simp only [view, Option.some.injEq, Shown.scope.injEq] at same
  rw [← find_scope key after, ← find_scope key db, same.1]

theorem view_policy {scope : String} (same : view (.advisory scope) db = view (.advisory scope) after) :
    after.retentionPolicy = db.retentionPolicy := by
  simp only [view, Option.some.injEq, Shown.scope.injEq] at same
  exact same.2.symm

theorem view_instance {id : Uuid} {row : InstanceRow} :
    view (.instance_ id) db = some (.instance_ row) ↔ db.instance_ id = some row := by
  simp [view]

theorem view_snapshot {id : Uuid} {row : SnapshotRow} :
    view (.snapshot id) db = some (.snapshot row) ↔ find SnapshotRow.id id db.snapshots = some row := by
  simp [view]

end

/-- What the lookup of a key finds. -/
def Looked (identity : MutationIdentity) (action : WorkflowAction) (requestHash : String) :
    Option AcceptedMutation → ControlDb → Prop
  | none, read => find IdempotencyRecord.key (keyOf identity action) read.idempotencyRecords = none
  | some answer, read => ∃ previous,
      find IdempotencyRecord.key (keyOf identity action) read.idempotencyRecords = some previous ∧
      previous.requestHash = requestHash ∧ answer = { previous.response with replayed := true }

/-! ### What a session decides -/

/-- The changes of a mutation to leases and snapshots. It takes no address, names
    snapshots of its own instance only, and rewrites none but those it has locked. -/
structure Modest (past : Conversation) (m : Mutation) : Prop where
  rewrite : ∀ row, (m.rewrite row).id = row.id
  leases : ∀ rows, ∀ lease ∈ m.leases rows, lease.occupies = true → ∃ old ∈ rows, old.networkId = lease.networkId ∧
    old.address = lease.address ∧ old.occupies = true
  names : ∀ rows, ∀ s ∈ m.snapshots rows,
    s.instanceId = m.row.id ∨ ∃ old ∈ rows, old.instanceId = s.instanceId ∧ old.name = s.name
  snapshots : ∀ id, ControlLock.snapshot id ∉ held past → ∀ rows row, find SnapshotRow.id id rows = some row →
    find SnapshotRow.id id (m.snapshots rows) = some row

/-- What a session of a request commits, by what it has read under its locks. -/
inductive Decides (host : Host) (submission : Submission) (past : Conversation) (commit : Decided) : Prop
  | again (same : ∀ db, commit.write db = .ok db) (replayed : commit.answer.replayed = true)
      (looked : ∀ identity action, scope submission.request = some (identity, action) →
        Read past (scopeLock identity action) .idempotencyRecord
          (Looked identity action submission.requestHash (some commit.answer)))
  | mutates (identity : MutationIdentity) (action : WorkflowAction) (m : Mutation)
      (known : scope submission.request = some (identity, action)) (first : commit.answer.replayed = false)
      (answers : commit.answer.operationId = m.operation.id) (about : m.event.operationId = m.operation.id)
      (looked : Read past (scopeLock identity action) .idempotencyRecord
        (Looked identity action submission.requestHash none))
      (locked : Read past (.instance_ m.row.id) .instance_ fun read => read.instance_ m.row.id = some m.row)
      (modest : Modest past m)
      (accepts : ∀ db after, Still view past db → Mutates db after submission.draws.now m →
        Accepted db after commit.answer submission.request)
      (writes : ∀ db after, commit.write db = .ok after → Mutates db after submission.draws.now m ∧
        Recorded db after (idempotencyRecord identity action submission.requestHash commit.answer))
  | creates (command : CreateInstanceCommand) (context : AcceptanceContext) (address : String)
      (records : AcceptanceRecords) (about : submission.request = .create command)
      (looked : Read past (scopeLock command.toMutationIdentity .createInstance) .idempotencyRecord
        (Looked command.toMutationIdentity .createInstance submission.requestHash none))
      (free : Read past (.advisory context.network.id) .leases fun read =>
        address ∉ (occupied read context.network.id).map Ipv4LeaseRow.address)
      (built : buildAcceptanceRecords host submission.draws command context address = .ok records)
      (decided : commit = ⟨records.accepted, writeAcceptanceRecords command.toMutationIdentity records
        submission.requestHash (submission.draws.fresh 2) submission.draws.now⟩)
  | replays (command : ReplayDeadLetterCommand) (request : ControlReplayRequest) (event : ProvisioningReplayRequested)
      (about : submission.request = .replay command) (first : commit.answer.replayed = false)
      (new : request.id = submission.draws.fresh 0 ∧ request.actorId = command.actor ∧
        request.idempotencyKey = command.idempotencyKey ∧ request.requestHash = submission.requestHash)
      (unasked : Read past (.advisory s!"{command.actor}:replay_dead_letter:{command.idempotencyKey}") .replayRequest
        fun read => find (fun r : ControlReplayRequest => (r.actorId, r.idempotencyKey))
          (command.actor, command.idempotencyKey) read.replayRequests = none)
      (decided : commit.write = fun db => insertReplayRequest request db >>= fun db =>
        return writeControlOutbox (submission.draws.fresh 2) (.replayRequest event) submission.draws.now db)

section
variable {past : Conversation} {α β : Type} {identity : MutationIdentity} {action : WorkflowAction} {requestHash : String}

/-! ### Reading the parts -/

theorem findReplayedResponse_looks :
    (findReplayedResponse identity action requestHash).Ends past fun later found =>
      ∃ read, later = past ++ [⟨.select .idempotencyRecord, read⟩] ∧ Looked identity action requestHash found read := by
  refine ends_select fun read => ?_
  split
  next absent => exact ⟨read, rfl, absent⟩
  next previous found =>
    split
    next => trivial
    next same => exact ⟨read, rfl, previous, found, not_not.mp same, rfl⟩

/-- Every acceptance looks its key up under the lock of its scope. -/
theorem unlessReplayed_looks {accepting : Accepting} {good : Conversation → Decided → Prop}
    (replayed : ∀ later answer,
      Read later (scopeLock identity action) .idempotencyRecord (Looked identity action requestHash (some answer)) →
      answer.replayed = true → good later ⟨answer, .ok⟩)
    (rest : ∀ later,
      Read later (scopeLock identity action) .idempotencyRecord (Looked identity action requestHash none) →
      accepting.Ends later good) :
    (unlessReplayed identity action requestHash accepting).Ends past good := by
  refine ends_lock (ends_bind findReplayedResponse_looks fun later found looked => ?_)
  obtain ⟨read, rfl, finds⟩ := looked
  have under : Read (past ++ [⟨.lock (scopeLock identity action), ()⟩] ++ [⟨.select .idempotencyRecord, read⟩])
      (scopeLock identity action) .idempotencyRecord (Looked identity action requestHash found) :=
    ⟨past, [⟨.select .idempotencyRecord, read⟩], read, by simp, List.mem_singleton.mpr rfl, finds⟩
  cases found with
  | none => exact rest _ under
  | some answer =>
    obtain ⟨previous, -, -, same⟩ := finds
    exact replayed _ answer under (by rw [same])

theorem lockInstanceForMutation_reads {projectId instanceId : Uuid} :
    (lockInstanceForMutation projectId instanceId).Ends past fun later row => ∃ more, later = past ++ more ∧
      Read later (.instance_ row.id) .instance_ fun read => Idle read projectId instanceId row := by
  refine ends_lock (ends_select fun read => ?_)
  split
  next => trivial
  next row found =>
    obtain ⟨present, project⟩ := Option.filter_eq_some_iff.mp found
    have id : row.id = instanceId := find_key present
    split
    next => trivial
    next idle =>
      split
      next => trivial
      next open_ =>
        refine ⟨[⟨.lock (.instance_ instanceId), ()⟩, ⟨.select .instance_, read⟩], by simp, past,
          [⟨.select .instance_, read⟩], read, by simp [id], List.mem_singleton.mpr rfl, ?_⟩
        exact ⟨id, id ▸ present, of_decide_eq_true project, by simpa using idle, by simpa using open_⟩

/-- Whatever a part does, the conversation before it stays. -/
theorem ends_longer (p : Step α) : p.Ends past fun later _ => ∃ more, later = past ++ more := by
  refine (satisfies_anything p past).adds.weaken (fun _ _ _ => trivial) ?_
  rintro later ended ⟨-, more, same, -⟩
  cases ended with
  | error error => trivial
  | ok value => exact ⟨more, same⟩

/-- The address that is reserved is free as long as its network is locked. -/
theorem reserveIpv4Address_reads {host : Host} {context : AcceptanceContext} :
    (reserveIpv4Address host context).Ends past fun later address => (∃ more, later = past ++ more) ∧
      Read later (.advisory context.network.id) .leases fun read =>
        address ∉ (occupied read context.network.id).map Ipv4LeaseRow.address := by
  refine ends_lock (ends_select fun read => ?_)
  dsimp only
  split
  next => trivial
  next =>
    cases allocated : allocateIpv4 host.number ⟨context.network.ipv4Cidr, context.network.gateway, context.network.exclusions⟩
        ((occupied read context.network.id).map Ipv4LeaseRow.address) with
    | error error => trivial
    | ok address =>
      refine ⟨⟨[⟨.lock (.advisory context.network.id), ()⟩, ⟨.select .leases, read⟩], by simp⟩, past,
        [⟨.select .leases, read⟩], read, by simp, List.mem_singleton.mpr rfl, ?_⟩
      exact allocateIpv4_free allocated

theorem Read.idle {db : ControlDb} {projectId instanceId : Uuid} {row : InstanceRow}
    (read : Read past (.instance_ row.id) .instance_ fun read => Idle read projectId instanceId row)
    (still : Still view past db) : Idle db projectId instanceId row := by
  obtain ⟨seen, idle, shows⟩ := read.now still
  have found : db.instance_ row.id = some row := view_instance.mp (shows _ (view_instance.mpr idle.found))
  exact ⟨idle.id, found, idle.project, idle.idle, idle.open_⟩

/-! ### Each request -/

variable {host : Host} {draws : Draws}

theorem modest_plain {m : Mutation} (rewrite : ∀ row, (m.rewrite row).id = row.id) (leases : m.leases = id)
    (snapshots : m.snapshots = id) : Modest past m := by
  constructor
  · exact rewrite
  · intro rows lease member occupies
    rw [leases] at member
    exact ⟨lease, member, rfl, rfl, occupies⟩
  · intro rows s member
    rw [snapshots] at member
    exact .inr ⟨s, member, rfl, rfl⟩
  · intro id _ rows row found
    rw [snapshots]
    exact found

/-- A tenant's mutation of the instance that it has locked and found idle. -/
theorem decides_tenant (m : Mutation) {submission : Submission} {commit : Decided} {projectId instanceId : Uuid}
    (known : scope submission.request = some (identity, action)) (first : commit.answer.replayed = false)
    (answers : commit.answer.operationId = m.operation.id)
    (looked : Read past (scopeLock identity action) .idempotencyRecord
      (Looked identity action submission.requestHash none))
    (idle : Read past (.instance_ m.row.id) .instance_ fun read => Idle read projectId instanceId m.row)
    (modest : Modest past m) (asks : submission.request.mutates = some instanceId)
    (about : m.event.aggregateId = m.row.id) (same : m.event.operationId = m.operation.id) (leases : m.leases = id)
    (keeps : ∀ row, (m.rewrite row).lifecycleState = row.lifecycleState ∧
      (m.rewrite row).retentionDeadline = row.retentionDeadline)
    (writes : ∀ db after, commit.write db = .ok after → Mutates db after submission.draws.now m ∧
      Recorded db after (idempotencyRecord identity action submission.requestHash commit.answer)) :
    Decides host submission past commit := by
  refine .mutates identity action m known first answers same looked ?_ modest (fun db after still mutates => ?_) writes
  · obtain ⟨before, after, read, split, asked, found⟩ := idle
    exact ⟨before, after, read, split, asked, found.found⟩
  · refine (idle.idle still).accepted mutates first asks about same (by rw [leases]; rfl) fun row => ?_
    exact ⟨modest.rewrite row, keeps row⟩

theorem acceptPowerAction_decides (command : PowerInstanceCommand) :
    (acceptPowerAction draws command requestHash).Ends past (Decides host ⟨draws, .power command, requestHash⟩) := by
  refine unlessReplayed_looks (fun later answer looked again => ?_) fun later looked => ?_
  · exact .again (fun _ => rfl) again fun identity action known => by cases known; exact looked
  · refine ends_bind lockInstanceForMutation_reads fun second row found => ?_
    obtain ⟨more, rfl, idle⟩ := found
    exact decides_tenant (powerMutation draws command row) rfl rfl rfl (looked.append _) idle
      (modest_plain (fun _ => rfl) rfl rfl) rfl rfl rfl rfl (fun _ => ⟨rfl, rfl⟩) fun db after written =>
        ⟨writeMutation_mutates (powerMutation draws command row) written, writeMutation_records written⟩

theorem acceptResize_decides (command : ResizeInstanceCommand) :
    (acceptResize draws command requestHash).Ends past (Decides host ⟨draws, .resize command, requestHash⟩) := by
  refine unlessReplayed_looks (fun later answer looked again => ?_) fun later looked => ?_
  · exact .again (fun _ => rfl) again fun identity action known => by cases known; exact looked
  · refine ends_bind lockInstanceForMutation_reads fun second row found => ?_
    obtain ⟨more, rfl, idle⟩ := found
    refine ends_select fun read => ?_
    split
    next => trivial
    next flavor _ =>
      refine ends_checked fun _ _ => ends_bind (ends_longer _) fun third _ longer => ?_
      obtain ⟨further, rfl⟩ := longer
      exact decides_tenant (resizeMutation draws command row flavor) rfl rfl rfl
        (((looked.append _).append _).append _) ((idle.append _).append _) (modest_plain (fun _ => rfl) rfl rfl) rfl rfl rfl
        rfl (fun _ => ⟨rfl, rfl⟩) fun db after written =>
          ⟨writeMutation_mutates (resizeMutation draws command row flavor) written, writeMutation_records written⟩

theorem acceptSnapshotCreate_decides (command : CreateSnapshotCommand) :
    (acceptSnapshotCreate draws command requestHash).Ends past
      (Decides host ⟨draws, .snapshotCreate command, requestHash⟩) := by
  refine unlessReplayed_looks (fun later answer looked again => ?_) fun later looked => ?_
  · exact .again (fun _ => rfl) again fun identity action known => by cases known; exact looked
  · refine ends_bind lockInstanceForMutation_reads fun second row found => ?_
    obtain ⟨more, rfl, idle⟩ := found
    refine ends_bind (ends_longer _) fun third _ longer => ?_
    obtain ⟨further, rfl⟩ := longer
    refine ends_select fun read => ?_
    split
    next => trivial
    next unnamed =>
      refine decides_tenant (snapshotCreateMutation draws command row) rfl rfl rfl
        (((looked.append _).append _).append _) ((idle.append _).append _) ?_ rfl rfl rfl rfl (fun _ => ⟨rfl, rfl⟩) ?_
      · constructor
        · exact fun _ => rfl
        · exact fun rows lease member occupies => ⟨lease, member, rfl, rfl, occupies⟩
        · intro rows s member
          rcases List.mem_append.mp member with old | new
          · exact .inr ⟨s, old, rfl, rfl⟩
          · rw [List.mem_singleton.mp new]
            exact .inl rfl
        · intro id _ rows snapshot found
          show find SnapshotRow.id id (rows ++ [newSnapshot draws command row]) = some snapshot
          rw [find_append, found]
          rfl
      · intro db after written
        obtain ⟨middle, inserted, written⟩ := bind_ok written
        obtain ⟨snapshots, appended, same⟩ := bind_ok inserted
        cases same
        obtain ⟨rfl, -⟩ := insertRow_ok appended
        obtain ⟨unbound, records⟩ := writeSnapshotOperation_records written
        exact ⟨writeSnapshotOperation_mutates (snapshotCreateMutation draws command row) rfl rfl written, unbound, records⟩

theorem acceptSnapshotAction_decides (kind : SnapshotAction) (command : SnapshotActionCommand) :
    (acceptSnapshotAction kind draws command requestHash).Ends past
      (Decides host ⟨draws, .snapshotAction kind command, requestHash⟩) := by
  refine unlessReplayed_looks (fun later answer looked again => ?_) fun later looked => ?_
  · exact .again (fun _ => rfl) again fun identity action known => by cases known; exact looked
  · refine ends_bind lockInstanceForMutation_reads fun second row found => ?_
    obtain ⟨more, rfl, idle⟩ := found
    refine ends_lock (ends_select fun read => ?_)
    split
    next => trivial
    next snapshot found =>
      have id : snapshot.id = command.snapshotId := find_key found
      split
      next => trivial
      next =>
        split
        next => trivial
        next =>
          refine decides_tenant (snapshotActionMutation draws kind command row snapshot) rfl rfl rfl
            (((looked.append _).append _).append _) ((idle.append _).append _) ?_ rfl rfl rfl rfl (fun _ => ⟨rfl, rfl⟩) ?_
          · constructor
            · exact fun _ => rfl
            · exact fun rows lease member occupies => ⟨lease, member, rfl, rfl, occupies⟩
            · intro rows s member
              obtain ⟨old, there, ⟨-, same⟩ | ⟨-, same⟩⟩ := mem_update.mp member
              · rw [same]
                exact .inr ⟨old, there, rfl, rfl⟩
              · rw [same]
                exact .inr ⟨old, there, rfl, rfl⟩
            · intro other unheld rows row_ seen
              have apart : other ≠ snapshot.id := by
                rintro rfl
                apply unheld
                simp [held, id]
              have kept := @find_update_of _ _ _ SnapshotRow.id other rows (fun s => s.id = snapshot.id) _
                (fun s => { s with state := kind.state, updatedAt := draws.now }) fun _ _ => rfl
              rw [seen, Option.map_some, if_neg (by rw [find_key seen]; exact apart)] at kept
              exact kept
          · intro db after written
            obtain ⟨unbound, records⟩ := writeSnapshotOperation_records written
            exact ⟨writeSnapshotOperation_mutates (snapshotActionMutation draws kind command row snapshot) rfl rfl written,
              unbound, records⟩

theorem modest_moveLease {m : Mutation} {mode : LeaseReleaseMode} (rewrite : ∀ row, (m.rewrite row).id = row.id)
    (leases : m.leases = fun rows => (moveLease m.row.id mode { ipv4Leases := rows }).ipv4Leases)
    (snapshots : m.snapshots = id) : Modest past m := by
  have plain : Modest past { m with leases := id } := modest_plain rewrite rfl snapshots
  refine ⟨rewrite, fun rows lease member occupies => ?_, plain.names, plain.snapshots⟩
  rw [leases] at member
  obtain ⟨old, there, ⟨⟨-, active⟩, rfl⟩ | ⟨-, rfl⟩⟩ := mem_update.mp member
  · exact ⟨old, there, rfl, rfl, by simp [Ipv4LeaseRow.occupies, active]⟩
  · exact ⟨_, there, rfl, rfl, occupies⟩

theorem acceptRetention_decides (command : RetainInstanceCommand) :
    (acceptRetention draws command requestHash).Ends past (Decides host ⟨draws, .retention command, requestHash⟩) := by
  refine unlessReplayed_looks (fun later answer looked again => ?_) fun later looked => ?_
  · exact .again (fun _ => rfl) again fun identity action known => by cases known; exact looked
  · refine ends_bind lockInstanceForMutation_reads fun second row found => ?_
    obtain ⟨more, rfl, idle⟩ := found
    refine ends_select fun read => ?_
    split
    next => trivial
    next policy current =>
      have idle := idle.append [⟨.select .retentionPolicy, read⟩]
      have ofScope := looked.append more
      refine .mutates _ _ (retentionMutation draws command row policy) rfl rfl rfl rfl (ofScope.append _) ?_
        (modest_moveLease (fun _ => rfl) rfl rfl) (fun db after still mutates => ?_) fun db after written => ?_
      · obtain ⟨before, after, seen, split, asked, found⟩ := idle
        exact ⟨before, after, seen, split, asked, found.found⟩
      · have free := idle.idle still
        have policed : db.retentionPolicy = some policy := by
          obtain ⟨before, after, seen, split, -, -⟩ := ofScope
          have shows := still before (scopeLock command.toMutationIdentity .retainInstance)
            (after ++ [⟨.select .retentionPolicy, read⟩]) (by simp [split]) .retentionPolicy read
            (List.mem_append_right _ (List.mem_singleton.mpr rfl)) _ rfl
          exact (view_policy shows.symm).trans current
        exact .retention command row (retentionDeadline draws policy) policy _ rfl free.id.symm free.open_ policed
          (mutates.taken free.found free.idle rfl rfl fun _ => rfl) mutates.leases mutates.frame
      · obtain ⟨unbound, records⟩ := writeMutation_records written
        exact ⟨writeMutation_mutates (retentionMutation draws command row policy) written, unbound, records⟩

theorem acceptPurge_decides (command : PurgeInstanceCommand) :
    (acceptPurge draws command requestHash).Ends past (Decides host ⟨draws, .purge command, requestHash⟩) := by
  unfold acceptPurge
  split
  next => trivial
  next confirmed =>
    have known : scope (.purge command) = some (adminScope command.actor command.idempotencyKey, .purgeInstance) :=
      if_neg confirmed
    refine unlessReplayed_looks (fun later answer looked again => ?_) fun later looked => ?_
    · refine .again (fun _ => rfl) again fun identity action same => ?_
      rw [known] at same
      cases same
      exact looked
    · refine ends_lock (ends_select fun read => ?_)
      split
      next => trivial
      next row present =>
        have about : row.id = command.instanceId := find_key present
        split
        next => trivial
        next idle =>
          split
          next => trivial
          next retained =>
            split
            next => trivial
            next deadline due =>
              have locked : Read (later ++ [⟨.lock (.instance_ command.instanceId), ()⟩] ++ [⟨.select .instance_, read⟩])
                  (.instance_ row.id) .instance_ fun read => read.instance_ row.id = some row :=
                ⟨later, [⟨.select .instance_, read⟩], read, by simp [about], List.mem_singleton.mpr rfl, about ▸ present⟩
              refine .mutates _ _ (purgeMutation draws command row deadline) known rfl rfl rfl ((looked.append _).append _) locked
                (modest_plain (fun _ => rfl) rfl rfl) (fun db after still mutates => ?_) fun db after written =>
                  ⟨writeMutation_mutates (purgeMutation draws command row deadline) written, writeMutation_records written⟩
              obtain ⟨seen, found, shows⟩ := locked.now still
              have found := view_instance.mp (shows _ (view_instance.mpr found))
              exact .purge command row _ rfl (not_not.mp retained)
                (mutates.taken found (show row.activeOperationId = none by simpa using idle) rfl rfl fun _ => rfl)
                mutates.leases mutates.frame

theorem acceptCreate_decides (command : CreateInstanceCommand) :
    (acceptCreate host draws command requestHash).Ends past (Decides host ⟨draws, .create command, requestHash⟩) := by
  refine unlessReplayed_looks (fun later answer looked again => ?_) fun later looked => ?_
  · exact .again (fun _ => rfl) again fun identity action known => by cases known; exact looked
  · refine ends_bind (ends_longer _) fun second context longer => ?_
    obtain ⟨more, rfl⟩ := longer
    refine ends_bind (ends_longer _) fun third _ longer => ?_
    obtain ⟨further, rfl⟩ := longer
    refine ends_bind reserveIpv4Address_reads fun fourth address reserved => ?_
    obtain ⟨⟨rest, rfl⟩, free⟩ := reserved
    refine ends_checked fun records built => ?_
    exact .creates command context address records rfl (((looked.append _).append _).append _) free built rfl

theorem requestDeadLetterReplay_decides (command : ReplayDeadLetterCommand) :
    (requestDeadLetterReplay draws command requestHash).Ends past
      (Decides host ⟨draws, .replay command, requestHash⟩) := by
  refine ends_lock (ends_select fun requests => ends_select fun letters => ?_)
  dsimp only
  split
  next => trivial
  next letter previous _ asked =>
    split
    next => trivial
    next => exact .again (fun _ => rfl) rfl fun identity action known => by cases known
  next letter _ unasked =>
    split
    next => trivial
    next =>
      refine .replays command _ _ rfl rfl ⟨rfl, rfl, rfl, rfl⟩ ⟨past, [⟨.select .replayRequest, requests⟩,
        ⟨.select .deadLetter, letters⟩], requests, by simp, List.mem_cons_self, unasked⟩ rfl

theorem begun_decides (submission : Submission) : (begun host submission).Ends [] (Decides host submission) := by
  obtain ⟨draws, request, requestHash⟩ := submission
  cases request with
  | create command => exact acceptCreate_decides command
  | power command => exact acceptPowerAction_decides command
  | resize command => exact acceptResize_decides command
  | snapshotCreate command => exact acceptSnapshotCreate_decides command
  | snapshotAction kind command => exact acceptSnapshotAction_decides kind command
  | retention command => exact acceptRetention_decides command
  | purge command => exact acceptPurge_decides command
  | replay command => exact requestDeadLetterReplay_decides command

/-! ### What a commit does -/

variable {db after : ControlDb} {submission : Submission} {commit : Decided}

theorem scopeRecords_recorded {record : IdempotencyRecord} (recorded : Recorded db after record) {text : String}
    (other : text ≠ scopeText (IdempotencyRecord.key record)) : scopeRecords text after = scopeRecords text db := by
  simp [scopeRecords, recorded.records, List.filter_append, Ne.symm other]

/-- A commit that records a key leaves the other scopes alone. -/
theorem view_scope {record : IdempotencyRecord} (recorded : Recorded db after record)
    (catalog : after.toCatalog = db.toCatalog) {text : String} (other : text ≠ scopeText (IdempotencyRecord.key record)) :
    view (.advisory text) after = view (.advisory text) db := by
  have policy : after.retentionPolicy = db.retentionPolicy := congrArg Catalog.retentionPolicy catalog
  simp only [view, scopeRecords_recorded recorded other, policy]

/-- A commit leaves alone what its session has not locked. -/
theorem decides_respects (decides : Decides host submission past commit) : Respects view past commit := by
  intro db after written l unheld value seen
  cases decides with
  | again same =>
    rw [same db] at written
    cases written
    exact seen
  | mutates identity action m known first answers about looked locked modest accepts writes =>
    obtain ⟨mutates, recorded⟩ := writes db after written
    cases l with
    | advisory text =>
      have other : text ≠ scopeText (keyOf identity action) := fun same => unheld (same ▸ looked.held)
      rw [view_scope recorded mutates.frame.catalog other]
      exact seen
    | instance_ id =>
      have other : id ≠ m.row.id := fun same => unheld (same ▸ locked.held)
      obtain ⟨row, found, same⟩ := Option.map_eq_some_iff.mp seen
      refine Option.map_eq_some_iff.mpr ⟨row, ?_, same⟩
      rw [ControlDb.instance_, mutates.instances]
      have kept := @updated_row m.row.id (fun row => { m.rewrite row with activeOperationId := some m.operation.id })
        modest.rewrite _ _ _ found
      rw [if_neg other] at kept
      exact kept
    | snapshot id =>
      obtain ⟨row, found, same⟩ := Option.map_eq_some_iff.mp seen
      refine Option.map_eq_some_iff.mpr ⟨row, ?_, same⟩
      rw [mutates.snapshots]
      exact modest.snapshots id unheld db.snapshots row found
  | creates command context address records about looked free built decided =>
    subst decided
    obtain ⟨-, -, -, -, -, -, -, -, active, -, document⟩ := buildAcceptanceRecords_ok built
    have creates := writeAcceptanceRecords_ok active document written
    have recorded := writeAcceptanceRecords_records written
    cases l with
    | advisory text =>
      have other : text ≠ scopeText (keyOf command.toMutationIdentity .createInstance) :=
        fun same => unheld (same ▸ looked.held)
      rw [view_scope recorded creates.frame.catalog other]
      exact seen
    | instance_ id =>
      obtain ⟨row, found, same⟩ := Option.map_eq_some_iff.mp seen
      refine Option.map_eq_some_iff.mpr ⟨row, ?_, same⟩
      rw [ControlDb.instance_, creates.instances, find_append, show find InstanceRow.id id db.instances = some row from found]
      rfl
    | snapshot id =>
      simp only [view, creates.snapshots] at seen ⊢
      exact seen
  | replays command request event about first new unasked decided =>
    rw [decided] at written
    obtain ⟨_, inserted, done⟩ := bind_ok written
    obtain ⟨_, -, same⟩ := bind_ok inserted
    cases same
    cases done
    cases l <;> exact seen

/-- A commit does what the acceptance may do in one step, as long as what its
    session has read under a lock is so still. -/
theorem decides_accepted (decides : Decides host submission past commit) (still : Still view past db)
    (written : commit.write db = .ok after) : Accepted db after commit.answer submission.request := by
  cases decides with
  | again same replayed =>
    rw [same db] at written
    cases written
    exact .replayed _ rfl replayed
  | mutates identity action m known first answers about looked locked modest accepts writes =>
    exact accepts db after still (writes db after written).1
  | creates command context address records about looked free built decided =>
    subst decided
    obtain ⟨first, -, pending, undue, held, about', same, owner, active, -, document⟩ := buildAcceptanceRecords_ok built
    have creates := writeAcceptanceRecords_ok active document written
    obtain ⟨outboxId, outbox⟩ := creates.outbox
    rw [about]
    exact .create command records.row records.lease records.operation records.event first creates.fresh pending undue held
      about' (same ▸ creates.unused) same ⟨owner, active⟩ creates.free creates.instances creates.operations creates.leases
      ⟨outboxId, submission.draws.now, outbox⟩ creates.frame
  | replays command request event about first new unasked decided =>
    rw [decided] at written
    obtain ⟨_, inserted, done⟩ := bind_ok written
    obtain ⟨_, -, same⟩ := bind_ok inserted
    cases same
    cases done
    rw [about]
    exact .replay command event first rfl rfl rfl ⟨_, _, rfl⟩ ⟨rfl, rfl, rfl⟩

end

/-! ### Runs -/

section
variable {host : Host} {s t : Store} {action : Transactions.Action ControlDb Submission}

/-- The steps of a store in which nobody else writes what a session has locked:
    a row that is locked, the records of a scope, the policy of retention. -/
def Admissible (s : Store) : Transactions.Action ControlDb Submission → Prop
  | .outside db => ∀ session ∈ s.sessions, Leads view (held session.past) s.db db
  | .start _ | .step _ | .commit _ | .rollback _ => True

/-- However a session ends, it has decided. -/
abbrev Decision (host : Host) (submission : Submission) : Conversation → Except StoreError Decided → Prop :=
  Ending (Decides host submission)

theorem decision_respects (submission : Submission) (past : Conversation) (commit : Decided)
    (decision : Decision host submission past (.ok commit)) : Respects view past commit :=
  decides_respects decision

structure Kept (host : Host) (s : Store) : Prop where
  sound : Sound (Decision host) s
  current : Current view s
  repeats : Repeats view (begun host) s

theorem kept_next (kept : Kept host s) (admissible : Admissible s action) (taken : next (begun host) s action = some t) :
    Kept host t := by
  have apart : ∀ db, action = .outside db → ∀ session ∈ s.sessions, Leads view (held session.past) s.db db := by
    rintro db rfl
    exact admissible
  constructor
  · exact sound_next begun_decides kept.sound taken
  · exact current_next_held decision_respects kept.sound kept.current apart taken
  · exact repeats_next decision_respects kept.sound kept.repeats apart taken

theorem kept_run {db : ControlDb} {opened : Nat} (run : Reaches (next (begun host)) Admissible ⟨db, [], opened⟩ s) :
    Kept host s := by
  refine reaches_invariant (Kept host) (fun _ _ _ kept admissible taken => kept_next kept admissible taken) run ?_
  constructor
  · constructor <;> simp
  · simp [Current]
  · simp [Repeats]

theorem Kept.decides (kept : Kept host s) {session : Serving} (member : session ∈ s.sessions) {commit : Decided}
    (ends : session.program = .done commit) : Decides host session.request session.past commit := by
  have follows := kept.sound.follows session member
  rw [ends] at follows
  exact follows

end

/-! ### Requests that decide by what they have locked -/

/-- A request that reads nothing but what its locks protect. A creation, a resize
    and the creation of a snapshot also read what their project uses, and a replay
    reads a dead letter. -/
def settles : Request → Bool
  | .power _ | .snapshotAction _ _ | .retention _ | .purge _ => true
  | .create _ | .resize _ | .snapshotCreate _ | .replay _ => false

section
variable {locks : List ControlLock} {identity : MutationIdentity} {action : WorkflowAction} {requestHash : String}
  {draws : Draws}

theorem leads_view {l : ControlLock} {db later : ControlDb} (leads : Leads view locks db later) (member : l ∈ locks)
    {value : Shown} (seen : view l db = some value) : view l db = view l later := by
  rw [seen, leads l member value seen]

theorem findReplayedResponse_protected (member : scopeLock identity action ∈ locks) :
    Protected view (fun later _ => later = locks) (findReplayedResponse identity action requestHash) locks := by
  refine protected_select (fun db => ?_) fun db => .inr fun later leads => ?_
  · split
    · exact rfl
    · split
      · trivial
      · exact rfl
  · have same := view_record (leads_view leads member rfl)
    simp only [keyOf] at same
    simp only [same]

theorem unlessReplayed_protected {accepting : Accepting}
    (rest : Protected view (fun _ _ => True) accepting (locks ++ [scopeLock identity action])) :
    Protected view (fun _ _ => True) (unlessReplayed identity action requestHash accepting) locks := by
  refine protected_lock (protected_bind (findReplayedResponse_protected (List.mem_append_right _ (List.mem_singleton.mpr rfl)))
    fun later found same => ?_)
  subst same
  cases found with
  | none => exact rest
  | some answer => trivial

theorem lockInstanceForMutation_protected {projectId instanceId : Uuid} :
    Protected view (fun later _ => later = locks ++ [.instance_ instanceId]) (lockInstanceForMutation projectId instanceId)
      locks := by
  refine protected_lock (protected_select (fun db => ?_) fun db => ?_)
  · split
    · trivial
    · split
      · trivial
      · split
        · trivial
        · exact rfl
  · cases found : db.instance_ instanceId with
    | none => exact .inl ⟨_, rfl⟩
    | some row =>
      refine .inr fun later leads => ?_
      have same := leads _ (List.mem_append_right _ (List.mem_singleton.mpr rfl)) _ (view_instance.mpr found)
      rw [view_instance.mp same]

theorem acceptPowerAction_protected (command : PowerInstanceCommand) :
    Serial view (acceptPowerAction draws command requestHash) :=
  unlessReplayed_protected (protected_bind lockInstanceForMutation_protected fun _ _ _ => trivial)

theorem acceptSnapshotAction_protected (kind : SnapshotAction) (command : SnapshotActionCommand) :
    Serial view (acceptSnapshotAction kind draws command requestHash) := by
  refine unlessReplayed_protected (protected_bind lockInstanceForMutation_protected fun later row same => ?_)
  refine protected_lock (protected_select (fun db => ?_) fun db => ?_)
  · split
    · trivial
    · split
      · trivial
      · split
        · trivial
        · trivial
  · cases found : find SnapshotRow.id command.snapshotId db.snapshots with
    | none => exact .inl ⟨_, rfl⟩
    | some snapshot =>
      refine .inr fun after leads => ?_
      have same := leads _ (List.mem_append_right _ (List.mem_singleton.mpr rfl)) _ (view_snapshot.mpr found)
      rw [view_snapshot.mp same]

theorem acceptRetention_protected (command : RetainInstanceCommand) :
    Serial view (acceptRetention draws command requestHash) := by
  refine unlessReplayed_protected (protected_bind lockInstanceForMutation_protected fun later row same => ?_)
  refine protected_select (fun db => ?_) fun db => .inr fun after leads => ?_
  · split
    · trivial
    · trivial
  · have ofScope : scopeLock command.toMutationIdentity .retainInstance ∈ later := by simp [same]
    rw [view_policy (leads_view leads ofScope rfl)]

theorem acceptPurge_protected (command : PurgeInstanceCommand) : Serial view (acceptPurge draws command requestHash) := by
  unfold acceptPurge
  split
  · trivial
  · refine unlessReplayed_protected (protected_lock (protected_select (fun db => ?_) fun db => ?_))
    · split
      · trivial
      · split
        · trivial
        · split
          · trivial
          · split
            · trivial
            · trivial
    · cases found : db.instance_ command.instanceId with
      | none => exact .inl ⟨_, rfl⟩
      | some row =>
        refine .inr fun after leads => ?_
        have same := leads _ (List.mem_append_right _ (List.mem_singleton.mpr rfl)) _ (view_instance.mpr found)
        rw [view_instance.mp same]

theorem settles_serial {host : Host} {submission : Submission} (decided : settles submission.request = true) :
    Serial view (begun host submission) := by
  obtain ⟨draws, request, requestHash⟩ := submission
  cases request with
  | power command => exact acceptPowerAction_protected command
  | snapshotAction kind command => exact acceptSnapshotAction_protected kind command
  | retention command => exact acceptRetention_protected command
  | purge command => exact acceptPurge_protected command
  | create command => cases decided
  | resize command => cases decided
  | snapshotCreate command => cases decided
  | replay command => cases decided

end

section
variable {host : Host} {s t : Store}

/-- The steps of a store that serves such requests only. -/
def Settling (s : Store) : Transactions.Action ControlDb Submission → Prop
  | .start submission => settles submission.request = true
  | .outside db => ∀ session ∈ s.sessions, Leads view (held session.past) s.db db
  | .step _ | .commit _ | .rollback _ => True

/-- The commits of such requests, in their order, are a history in which each is
    accepted in one step. -/
theorem settling_history {db : ControlDb} {opened : Nat} {inputs : List (Transactions.Action ControlDb Submission)}
    (settling : Meets (next (begun host)) Settling ⟨db, [], opened⟩ inputs)
    (executed : execute (next (begun host)) ⟨db, [], opened⟩ inputs = some t) :
    History (begun host) db (trace (begun host) ⟨db, [], opened⟩ inputs) t.db := by
  have serialized : Serialized view (begun host) (Decision host) ⟨db, [], opened⟩ := by
    constructor
    · constructor <;> simp
    · simp [Repeats]
    · simp [Asked]
  have fair : Meets (next (begun host)) (Fair view (begun host)) ⟨db, [], opened⟩ inputs := by
    refine meets_weaken (fun s action allowed => ?_) settling
    cases action with
    | start submission => exact settles_serial allowed
    | outside other => exact allowed
    | step id => trivial
    | commit id => trivial
    | rollback id => trivial
  exact history_run begun_decides decision_respects serialized fair executed

end

/-! ### Two power actions at once -/

/-- A control plane with an active instance. -/
def sampleServed : Store :=
  ⟨((execute (Lifecycle.next sampleHost) (Lifecycle.initial Lifecycle.sampleCatalog) [Lifecycle.acceptSample,
      Lifecycle.projectSample 0 sampleCreate "created" (Lifecycle.sampleCompletion .createInstance .active)]).elim {}
    (·.db)), [], 0⟩

def sampleStop (name : String) : Submission where
  draws := Lifecycle.sampleDraws 1 (["operation-", "event-", "outbox-"].map (· ++ name))
  request := .power
    { Lifecycle.sampleIdentity ("idempotency-" ++ name) with
      instanceId := sampleCreate.aggregateId, correlationId := sampleCreate.correlationId, action := .stop }
  requestHash := name

/-- Two requests look their keys up, and the first locks the instance. -/
def sampleStopping : List (Transactions.Action ControlDb Submission) :=
  .start (sampleStop "a") :: .start (sampleStop "b") :: List.replicate 2 (.step 1) ++ List.replicate 4 (.step 0)

/-- The first is committed, and the second finds the instance taken. -/
def sampleStopped : List (Transactions.Action ControlDb Submission) :=
  sampleStopping ++ [.commit 0, .step 1, .step 1, .rollback 1]

/-- A step of the sessions themselves. -/
def inside : Transactions.Action ControlDb Submission → Bool
  | .outside _ => false
  | _ => true

theorem admissible_inside (s : Store) (action : Transactions.Action ControlDb Submission) (within : inside action = true) :
    Admissible s action := by
  cases action with
  | outside db => cases within
  | start submission => trivial
  | step id => trivial
  | commit id => trivial
  | rollback id => trivial

/-- A step of sessions that decide by what they have locked. -/
def ofSettling : Transactions.Action ControlDb Submission → Bool
  | .start submission => settles submission.request
  | .outside _ => false
  | _ => true

theorem settling_ofSettling (s : Store) (action : Transactions.Action ControlDb Submission) (of : ofSettling action = true) :
    Settling s action := by
  cases action with
  | start submission => exact of
  | outside db => cases of
  | step id => trivial
  | commit id => trivial
  | rollback id => trivial

/-- The second of the two is in no history. -/
theorem settling_history_sampleStopped : ∃ t answer,
    execute (next (begun sampleHost)) sampleServed sampleStopped = some t ∧
    trace (begun sampleHost) sampleServed sampleStopped = [.accepted (sampleStop "a") answer] ∧
    History (begun sampleHost) sampleServed.db (trace (begun sampleHost) sampleServed sampleStopped) t.db := by
  have executed : execute (next (begun sampleHost)) sampleServed sampleStopped = some _ := rfl
  exact ⟨_, _, executed, rfl, settling_history (meets_of_checks settling_ofSettling rfl) executed⟩

end ControlPlane.AcceptanceSessions
