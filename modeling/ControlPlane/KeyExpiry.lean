import ControlPlane.Lifecycle

/-!
How long an idempotency key stays bound. An accepted request binds its key in
the records, and each record says when it expires. The lookup that every
acceptance begins with never reads that column: a record answers as long as it
is there, and nothing takes it away. A log beside the control plane keeps what
was bound and when; the records mirror it (`mirrored_next`), so a key is honoured
for its lifetime and is bound for good after it (`keys_expire_iff`).
-/
namespace ControlPlane.KeyExpiry
open ControlPlane.Tables ControlPlane.Runs ControlPlane.Domain ControlPlane.Commands ControlPlane.WorkflowSchema
open ControlPlane.ControlSchema ControlPlane.Transactions ControlPlane.Acceptance ControlPlane.ProjectionStore
open ControlPlane.AcceptanceRules ControlPlane.EventValidation

/-! ### What a request is known by -/

/-- What a request is looked up under in the records. A purge that does not
    confirm its instance is refused before the lookup, and requests for a replay
    are kept in a table of their own. -/
def scope : Request → Option (MutationIdentity × WorkflowAction)
  | .create command => some (command.toMutationIdentity, .createInstance)
  | .power command => some (command.toMutationIdentity, .powerInstance)
  | .resize command => some (command.toMutationIdentity, .resizeInstance)
  | .snapshotCreate command => some (command.toMutationIdentity, .createSnapshot)
  | .snapshotAction action command => some (command.toMutationIdentity, action.action)
  | .retention command => some (command.toMutationIdentity, .retainInstance)
  | .purge command =>
    if command.confirmInstanceId ≠ command.instanceId then none
    else some (adminScope command.actor command.idempotencyKey, .purgeInstance)
  | .replay _ => none

abbrev Key : Type := String × Uuid × WorkflowAction × String

def keyOf (identity : MutationIdentity) (action : WorkflowAction) : Key :=
  (identity.actor, identity.projectId, action, identity.idempotencyKey)

def outcome (host : Host) (draws : Draws) (requestHash : String) (request : Request) (db : ControlDb) :
    Except StoreError AcceptedMutation :=
  (atomically (accept host draws requestHash request) db).map Prod.fst

def conflict : StoreError :=
  .domain ⟨.idempotencyConflict, "The idempotency key is already bound to different input."⟩

section
variable {host : Host} {draws : Draws} {db after : ControlDb} {answer : AcceptedMutation} {identity : MutationIdentity}
  {action : WorkflowAction} {requestHash : String}

/-! ### What an acceptance records -/

/-- One record is added, of a key that had none. -/
structure Recorded (db after : ControlDb) (record : IdempotencyRecord) : Prop where
  unbound : ∀ other ∈ db.idempotencyRecords, IdempotencyRecord.key other ≠ IdempotencyRecord.key record
  records : after.idempotencyRecords = db.idempotencyRecords ++ [record]

theorem insertIdempotencyRecord_ok {record : IdempotencyRecord} (inserted : insertIdempotencyRecord record db = .ok after) :
    Recorded db after record := by
  obtain ⟨records, appended, same⟩ := bind_ok inserted
  cases same
  obtain ⟨rfl, free⟩ := insertRow_ok appended
  exact ⟨fun other member => of_decide_eq_false (free other member), rfl⟩

theorem insertOperation_records {operation document : OperationView}
    (inserted : insertOperation operation document db = .ok after) : after.idempotencyRecords = db.idempotencyRecords := by
  obtain ⟨_, -, more⟩ := bind_ok inserted
  obtain ⟨_, -, same⟩ := bind_ok more
  cases same
  rfl

theorem writeMutation_records {accepted : AcceptedMutation} {operation document : OperationView} {instanceId : Uuid}
    {rewrite : InstanceRow → InstanceRow} {event : LifecycleCommand} {outboxId : Uuid} {now : Instant}
    (written : writeMutation identity requestHash accepted operation document instanceId rewrite event outboxId now db =
      .ok after) : Recorded db after (idempotencyRecord identity operation.action requestHash accepted) := by
  obtain ⟨middle, inserted, rest⟩ := bind_ok written
  obtain ⟨last, recorded, done⟩ := bind_ok rest
  cases done
  have same : middle.idempotencyRecords = db.idempotencyRecords := insertOperation_records inserted
  have ⟨unbound, records⟩ := insertIdempotencyRecord_ok recorded
  exact ⟨fun other member => unbound other (same ▸ member), records.trans (congrArg (· ++ [_]) same)⟩

theorem writeSnapshotOperation_records {command : InstanceRequest} {accepted : AcceptedMutation}
    {snapshotId instanceId : Uuid} {event : LifecycleCommand} {outboxId : Uuid} {now : Instant}
    (written : writeSnapshotOperation command action requestHash accepted snapshotId instanceId event outboxId now db =
      .ok after) : Recorded db after (idempotencyRecord command.toMutationIdentity action requestHash accepted) := by
  obtain ⟨middle, mutated, projected⟩ := bind_ok written
  obtain ⟨_, rfl⟩ := writeSnapshotProjection_ok projected
  have ⟨unbound, records⟩ := writeMutation_records mutated
  exact ⟨unbound, records⟩

theorem writeAcceptanceRecords_records {records : AcceptanceRecords} {outboxId : Uuid} {now : Instant}
    (written : writeAcceptanceRecords identity records requestHash outboxId now db = .ok after) :
    Recorded db after (idempotencyRecord identity .createInstance requestHash records.accepted) := by
  obtain ⟨first, inserted, written⟩ := bind_ok written
  obtain ⟨_, -, inserted⟩ := bind_ok inserted
  obtain ⟨_, -, same⟩ := bind_ok inserted
  cases same
  obtain ⟨second, inserted, written⟩ := bind_ok written
  have kept := insertOperation_records inserted
  obtain ⟨third, leased, written⟩ := bind_ok written
  obtain ⟨_, -, same⟩ := bind_ok leased
  cases same
  obtain ⟨fourth, recorded, done⟩ := bind_ok written
  cases done
  have ⟨unbound, more⟩ := insertIdempotencyRecord_ok recorded
  exact ⟨fun other member => unbound other (kept ▸ member), more.trans (congrArg (· ++ [_]) kept)⟩

/-- A new acceptance binds its key to its answer. -/
structure Binds (identity : MutationIdentity) (action : WorkflowAction) (requestHash : String) (now : Instant)
    (db after : ControlDb) (answer : AcceptedMutation) : Prop where
  first : answer.replayed = false
  accepted : answer.acceptedAt = now
  recorded : Recorded db after (idempotencyRecord identity action requestHash answer)

/-- What a request does when the records do not answer it. -/
def Proceeds (identity : MutationIdentity) (action : WorkflowAction) (requestHash : String) (now : Instant)
    (inner : Accepting) : Prop :=
  ∀ db after answer, atomically inner db = .ok (answer, after) →
    Binds identity action requestHash now db after answer

theorem proceeds_power (draws : Draws) (command : PowerInstanceCommand) (requestHash : String) :
    ∃ inner, acceptPowerAction draws command requestHash =
        unlessReplayed command.toMutationIdentity .powerInstance requestHash inner ∧
      Proceeds command.toMutationIdentity .powerInstance requestHash draws.now inner := by
  refine ⟨_, rfl, fun db after answer ended => ?_⟩
  obtain ⟨row, -, rest⟩ := atomically_bind_ok ended
  obtain ⟨rfl, written⟩ := committed_ok rest
  exact ⟨rfl, rfl, writeMutation_records written⟩

theorem proceeds_resize (draws : Draws) (command : ResizeInstanceCommand) (requestHash : String) :
    ∃ inner, acceptResize draws command requestHash =
        unlessReplayed command.toMutationIdentity .resizeInstance requestHash inner ∧
      Proceeds command.toMutationIdentity .resizeInstance requestHash draws.now inner := by
  refine ⟨_, rfl, fun db after answer ended => ?_⟩
  obtain ⟨row, -, rest⟩ := atomically_bind_ok ended
  obtain ⟨_, -, rest⟩ := atomically_bind_ok rest
  split at rest
  next => exact refuse_fails rest
  next =>
    obtain ⟨_, -, rest⟩ := atomically_bind_ok rest
    obtain ⟨_, -, rest⟩ := atomically_bind_ok rest
    obtain ⟨rfl, written⟩ := committed_ok rest
    exact ⟨rfl, rfl, writeMutation_records written⟩

theorem proceeds_snapshotCreate (draws : Draws) (command : CreateSnapshotCommand) (requestHash : String) :
    ∃ inner, acceptSnapshotCreate draws command requestHash =
        unlessReplayed command.toMutationIdentity .createSnapshot requestHash inner ∧
      Proceeds command.toMutationIdentity .createSnapshot requestHash draws.now inner := by
  refine ⟨_, rfl, fun db after answer ended => ?_⟩
  obtain ⟨row, -, rest⟩ := atomically_bind_ok ended
  obtain ⟨_, -, rest⟩ := atomically_bind_ok rest
  obtain ⟨_, -, rest⟩ := atomically_bind_ok rest
  split at rest
  next => exact refuse_fails rest
  next =>
    obtain ⟨rfl, written⟩ := committed_ok rest
    obtain ⟨middle, inserted, written⟩ := bind_ok written
    obtain ⟨_, -, same⟩ := bind_ok inserted
    cases same
    have ⟨unbound, records⟩ := writeSnapshotOperation_records written
    exact ⟨rfl, rfl, unbound, records⟩

theorem proceeds_snapshotAction (action : SnapshotAction) (draws : Draws) (command : SnapshotActionCommand)
    (requestHash : String) :
    ∃ inner, acceptSnapshotAction action draws command requestHash =
        unlessReplayed command.toMutationIdentity action.action requestHash inner ∧
      Proceeds command.toMutationIdentity action.action requestHash draws.now inner := by
  refine ⟨_, rfl, fun db after answer ended => ?_⟩
  obtain ⟨row, -, rest⟩ := atomically_bind_ok ended
  obtain ⟨_, -, rest⟩ := atomically_bind_ok rest
  obtain ⟨_, -, rest⟩ := atomically_bind_ok rest
  split at rest
  next => exact refuse_fails rest
  next =>
    split at rest
    next => exact refuse_fails rest
    next =>
      split at rest
      next => exact refuse_fails rest
      next =>
        obtain ⟨rfl, written⟩ := committed_ok rest
        have ⟨unbound, records⟩ := writeSnapshotOperation_records written
        exact ⟨rfl, rfl, unbound, records⟩

theorem proceeds_retention (draws : Draws) (command : RetainInstanceCommand) (requestHash : String) :
    ∃ inner, acceptRetention draws command requestHash =
        unlessReplayed command.toMutationIdentity .retainInstance requestHash inner ∧
      Proceeds command.toMutationIdentity .retainInstance requestHash draws.now inner := by
  refine ⟨_, rfl, fun db after answer ended => ?_⟩
  obtain ⟨row, -, rest⟩ := atomically_bind_ok ended
  obtain ⟨_, -, rest⟩ := atomically_bind_ok rest
  split at rest
  next => cases rest
  next =>
    obtain ⟨rfl, written⟩ := committed_ok rest
    have ⟨unbound, records⟩ := writeMutation_records written
    exact ⟨rfl, rfl, unbound, records⟩

theorem proceeds_purge (draws : Draws) (command : PurgeInstanceCommand) (requestHash : String)
    (confirmed : ¬ command.confirmInstanceId ≠ command.instanceId) :
    ∃ inner, acceptPurge draws command requestHash =
        unlessReplayed (adminScope command.actor command.idempotencyKey) .purgeInstance requestHash inner ∧
      Proceeds (adminScope command.actor command.idempotencyKey) .purgeInstance requestHash draws.now inner := by
  refine ⟨_, if_neg confirmed, fun db after answer ended => ?_⟩
  obtain ⟨_, -, rest⟩ := atomically_bind_ok ended
  obtain ⟨_, -, rest⟩ := atomically_bind_ok rest
  split at rest
  next => exact refuse_fails rest
  next =>
    split at rest
    next => exact refuse_fails rest
    next =>
      split at rest
      next => exact refuse_fails rest
      next =>
        split at rest
        next => exact refuse_fails rest
        next =>
          obtain ⟨rfl, written⟩ := committed_ok rest
          exact ⟨rfl, rfl, writeMutation_records written⟩

theorem proceeds_create (host : Host) (draws : Draws) (command : CreateInstanceCommand) (requestHash : String) :
    ∃ inner, acceptCreate host draws command requestHash =
        unlessReplayed command.toMutationIdentity .createInstance requestHash inner ∧
      Proceeds command.toMutationIdentity .createInstance requestHash draws.now inner := by
  refine ⟨_, rfl, fun db after answer ended => ?_⟩
  obtain ⟨context, -, rest⟩ := atomically_bind_ok ended
  obtain ⟨_, -, rest⟩ := atomically_bind_ok rest
  obtain ⟨address, -, rest⟩ := atomically_bind_ok rest
  obtain ⟨records, made, rest⟩ := atomically_bind_ok rest
  obtain ⟨rfl, written⟩ := committed_ok rest
  have built := checked_ok made
  obtain ⟨_, -, built⟩ := bind_ok built
  obtain ⟨_, -, built⟩ := bind_ok built
  cases built
  exact ⟨rfl, rfl, writeAcceptanceRecords_records written⟩

/-- A request that is looked up does nothing before that. -/
theorem accept_scoped (host : Host) (draws : Draws) (requestHash : String) {request : Request}
    (known : scope request = some (identity, action)) :
    ∃ inner, accept host draws requestHash request = unlessReplayed identity action requestHash inner ∧
      Proceeds identity action requestHash draws.now inner := by
  cases request with
  | create command => cases known; exact proceeds_create host draws command requestHash
  | power command => cases known; exact proceeds_power draws command requestHash
  | resize command => cases known; exact proceeds_resize draws command requestHash
  | snapshotCreate command => cases known; exact proceeds_snapshotCreate draws command requestHash
  | snapshotAction kind command => cases known; exact proceeds_snapshotAction kind draws command requestHash
  | retention command => cases known; exact proceeds_retention draws command requestHash
  | purge command =>
    simp only [scope] at known
    split at known
    next => cases known
    next confirmed => cases known; exact proceeds_purge draws command requestHash confirmed
  | replay command => cases known

/-! ### The lookup -/

theorem findReplayedResponse_on (identity : MutationIdentity) (action : WorkflowAction) (requestHash : String)
    (db : ControlDb) :
    Reading.on (findReplayedResponse identity action requestHash) db =
      match find IdempotencyRecord.key (keyOf identity action) db.idempotencyRecords with
      | none => .ok none
      | some previous =>
        if previous.requestHash ≠ requestHash then .error conflict
        else .ok (some { previous.response with replayed := true }) := by
  change Programs.Program.answered _ (match find IdempotencyRecord.key (keyOf identity action) db.idempotencyRecords with
    | none => _
    | some previous => _) = _
  cases find IdempotencyRecord.key (keyOf identity action) db.idempotencyRecords with
  | none => rfl
  | some previous =>
    by_cases differs : previous.requestHash ≠ requestHash
    · simp only [if_pos differs]
      rfl
    · simp only [if_neg differs]
      rfl

theorem atomically_unlessReplayed (inner : Accepting) :
    atomically (unlessReplayed identity action requestHash inner) db =
      match find IdempotencyRecord.key (keyOf identity action) db.idempotencyRecords with
      | none => atomically inner db
      | some previous =>
        if previous.requestHash ≠ requestHash then .error conflict
        else .ok ({ previous.response with replayed := true }, db) := by
  have begins : Reading.on (lockIdempotencyScope identity action) db = .ok () := rfl
  rw [unlessReplayed, atomically_bind, begins]
  refine (atomically_bind _ _ db).trans ?_
  rw [findReplayedResponse_on]
  cases find IdempotencyRecord.key (keyOf identity action) db.idempotencyRecords with
  | none => rfl
  | some previous =>
    by_cases differs : previous.requestHash ≠ requestHash
    · simp only [if_pos differs]
      rfl
    · simp only [if_neg differs]
      rfl

end

/-! ### The log of what was bound -/

/-- A key that an acceptance bound to its answer. -/
structure Binding where
  identity : MutationIdentity
  action : WorkflowAction
  requestHash : String
  answer : AcceptedMutation
  boundAt : Instant

def Binding.key (binding : Binding) : Key := keyOf binding.identity binding.action

/-- The record that was written for it. -/
def Binding.record (binding : Binding) : IdempotencyRecord :=
  idempotencyRecord binding.identity binding.action binding.requestHash binding.answer

def Binding.expiresAt (binding : Binding) : Instant := binding.boundAt + idempotencyRecordTtlMs

structure State where
  control : Lifecycle.State
  bound : List Binding

def initial (catalog : Catalog) : State := ⟨Lifecycle.initial catalog, []⟩

/-- What a step of the control plane binds. -/
def binds (host : Host) (db : ControlDb) : Lifecycle.Action → Option Binding
  | .accept draws request requestHash =>
    match scope request, outcome host draws requestHash request db with
    | some (identity, action), .ok answer =>
      if answer.replayed then none else some ⟨identity, action, requestHash, answer, draws.now⟩
    | _, _ => none
  | .project _ _ _ | .projectDeadLetter _ _ _ | .administer _ => none

/-- The control plane with the log beside it. -/
def next (host : Host) (s : State) (action : Lifecycle.Action) : Option State :=
  (Lifecycle.next host s.control action).map fun control =>
    ⟨control, s.bound ++ (binds host s.control.db action).toList⟩

def lastBinding (key : Key) (bound : List Binding) : Option Binding := find Binding.key key bound.reverse

/-! ### What is promised -/

/-- The answer while a key is bound: that of the acceptance to the same request,
    a refusal to any other. -/
def honoured (binding : Binding) (requestHash : String) : Except StoreError AcceptedMutation :=
  if binding.requestHash = requestHash then .ok { binding.answer with replayed := true } else .error conflict

/-- The tables with no record of a key. -/
def forget (key : Key) (db : ControlDb) : ControlDb :=
  { db with idempotencyRecords := db.idempotencyRecords.filter fun record => IdempotencyRecord.key record ≠ key }

/-- A request is treated as one with a fresh key: as in tables that hold no record
    of it, and by no means with what the key was bound to. -/
structure Fresh (host : Host) (draws : Draws) (requestHash : String) (request : Request) (db : ControlDb)
    (binding : Binding) : Prop where
  own : outcome host draws requestHash request db = outcome host draws requestHash request (forget binding.key db)
  unanswered : ∀ answer, outcome host draws requestHash request db = .ok answer →
    answer.operationId ≠ binding.answer.operationId
  unrefused : outcome host draws requestHash request db ≠ .error conflict

/-- A binding holds until it expires, and means nothing from then on. -/
def Right (host : Host) (s : State) : Lifecycle.Action → Prop
  | .accept draws request requestHash =>
    ∀ identity action binding, scope request = some (identity, action) →
      lastBinding (keyOf identity action) s.bound = some binding →
      (draws.now < binding.expiresAt →
        outcome host draws requestHash request s.control.db = honoured binding requestHash) ∧
      (binding.expiresAt ≤ draws.now → Fresh host draws requestHash request s.control.db binding)
  | .project _ _ _ | .projectDeadLetter _ _ _ | .administer _ => True

/-- No request comes with a key that was last bound a lifetime ago. -/
def Unexpired (s : State) : Lifecycle.Action → Prop
  | .accept draws request _ =>
    ∀ identity action binding, scope request = some (identity, action) →
      lastBinding (keyOf identity action) s.bound = some binding → draws.now < binding.expiresAt
  | .project _ _ _ | .projectDeadLetter _ _ _ | .administer _ => True

/-! ### The records mirror the log -/

/-- The records are those of the log, one of each key, and each expires a lifetime
    after its acceptance. -/
structure Mirrored (s : State) : Prop where
  records : s.control.db.idempotencyRecords = s.bound.map Binding.record
  keyed : Keyed Binding.key s.bound
  timed : ∀ binding ∈ s.bound, binding.record.expiresAt = binding.expiresAt

theorem mirrored_initial (catalog : Catalog) : Mirrored (initial catalog) :=
  ⟨rfl, List.nodup_nil, fun _ member => absurd member List.not_mem_nil⟩

/-- A step that binds nothing and keeps the records. -/
theorem Mirrored.kept {s t : State} (mirrored : Mirrored s) (bound : t.bound = s.bound)
    (records : t.control.db.idempotencyRecords = s.control.db.idempotencyRecords) : Mirrored t :=
  ⟨by rw [records, bound, mirrored.records], bound ▸ mirrored.keyed, bound ▸ mirrored.timed⟩

theorem Mirrored.bound {s t : State} (mirrored : Mirrored s) (binding : Binding)
    (timed : binding.answer.acceptedAt = binding.boundAt)
    (bound : t.bound = s.bound ++ [binding]) (recorded : Recorded s.control.db t.control.db binding.record) : Mirrored t := by
  refine ⟨?_, ?_, fun other member => ?_⟩
  · rw [recorded.records, bound, mirrored.records, List.map_append]
    rfl
  · rw [bound]
    refine keyed_append mirrored.keyed fun other member => ?_
    exact recorded.unbound other.record (mirrored.records ▸ List.mem_map_of_mem member)
  · rw [bound] at member
    rcases List.mem_append.mp member with old | new
    · exact mirrored.timed other old
    · rw [List.mem_singleton.mp new]
      exact congrArg (· + idempotencyRecordTtlMs) timed

/-- The record of the last binding of a key is the one that is read. -/
theorem Mirrored.find_record {s : State} (mirrored : Mirrored s) {key : Key} {binding : Binding}
    (last : lastBinding key s.bound = some binding) :
    find IdempotencyRecord.key key s.control.db.idempotencyRecords = some binding.record := by
  have member : binding ∈ s.bound := List.mem_reverse.mp (find_mem last)
  have same : Binding.key binding = key := find_key last
  have found : find Binding.key key s.bound = some binding := mirrored.keyed.find_eq member same
  rw [mirrored.records, find, List.find?_map]
  exact congrArg (Option.map Binding.record) found

section
variable {host : Host} {draws : Draws} {requestHash : String} {request : Request} {db after : ControlDb}
  {answer : AcceptedMutation} {identity : MutationIdentity} {action : WorkflowAction}

/-- What an acceptance does to the records, by what it is known by. -/
theorem accept_records (ended : atomically (accept host draws requestHash request) db = .ok (answer, after)) :
    (after.idempotencyRecords = db.idempotencyRecords ∧ (scope request = none ∨ answer.replayed = true)) ∨
      ∃ identity action, scope request = some (identity, action) ∧
        Binds identity action requestHash draws.now db after answer := by
  cases known : scope request with
  | none =>
    refine .inl ⟨?_, .inl rfl⟩
    cases accept_effects ended with
    | replayed _ same => rw [same]
    | purge command =>
      simp only [scope] at known
      split at known
      next unconfirmed =>
        simp only [accept, acceptPurge, if_pos unconfirmed] at ended
        exact refuse_fails ended
      next => cases known
    | replay command letter request event outboxId found allowed written => rw [written]
    | create => cases known
    | power => cases known
    | resize => cases known
    | snapshotCreate => cases known
    | snapshotAction => cases known
    | retention => cases known
  | some pair =>
    obtain ⟨identity, action⟩ := pair
    obtain ⟨inner, same, proceeds⟩ := accept_scoped host draws requestHash known
    rw [same] at ended
    rcases unlessReplayed_ok ended with ⟨rfl, again⟩ | ended
    · exact .inl ⟨rfl, .inr again⟩
    · exact .inr ⟨identity, action, rfl, proceeds db after answer ended⟩

/-- A bound key answers, whatever the time is. -/
theorem accept_bound (known : scope request = some (identity, action)) {previous : IdempotencyRecord}
    (found : find IdempotencyRecord.key (keyOf identity action) db.idempotencyRecords = some previous) :
    outcome host draws requestHash request db =
      if previous.requestHash = requestHash then .ok { previous.response with replayed := true }
      else .error conflict := by
  obtain ⟨inner, same, -⟩ := accept_scoped host draws requestHash known
  rw [outcome, same, atomically_unlessReplayed, found]
  by_cases equal : previous.requestHash = requestHash
  · simp [equal, Except.map]
  · simp [equal, Except.map]

theorem binds_accept (ended : atomically (accept host draws requestHash request) db = .ok (answer, after)) :
    binds host db (.accept draws request requestHash) =
      (scope request).bind fun known =>
        if answer.replayed then none else some ⟨known.1, known.2, requestHash, answer, draws.now⟩ := by
  have read : outcome host draws requestHash request db = .ok answer := by rw [outcome, ended]; rfl
  simp only [binds, read]
  cases scope request with
  | none => rfl
  | some known => rfl

end

theorem mirrored_next {host : Host} {s t : State} {action : Lifecycle.Action} (mirrored : Mirrored s)
    (taken : next host s action = some t) : Mirrored t := by
  obtain ⟨control, moved, rfl⟩ := Option.map_eq_some_iff.mp taken
  cases action with
  | accept draws request requestHash =>
    simp only [Lifecycle.next] at moved
    cases ended : atomically (accept host draws requestHash request) s.control.db with
    | error error =>
      rw [ended] at moved
      cases moved
      have unbound : binds host s.control.db (.accept draws request requestHash) = none := by
        simp only [binds, outcome, ended]
        cases scope request <;> rfl
      exact mirrored.kept (by simp [unbound]) rfl
    | ok result =>
      obtain ⟨answer, after⟩ := result
      rw [ended] at moved
      cases moved
      rcases accept_records ended with ⟨records, unscoped | again⟩ | ⟨identity, action, known, bound⟩
      · exact mirrored.kept (by simp [binds_accept ended, unscoped]) records
      · exact mirrored.kept (by simp [binds_accept ended, again]) records
      · refine mirrored.bound ⟨identity, action, requestHash, answer, draws.now⟩ bound.accepted ?_ bound.recorded
        simp [binds_accept ended, known, bound.first]
  | project event delivery now =>
    refine mirrored.kept (by simp [binds]) ?_
    cases Lifecycle.does_next moved with
    | projected _ _ _ _ applied =>
      cases applied with
      | documented document operation views _ _ _ same => rw [same]
      | resolved _ _ _ _ _ _ _ _ same => rw [same]
    | nothing _ same => rw [same]
  | projectDeadLetter letter delivery now =>
    refine mirrored.kept (by simp [binds]) ?_
    cases Lifecycle.does_next moved with
    | lettered _ _ _ _ written => rw [written]
    | nothing _ same => rw [same]
  | administer catalog =>
    cases moved
    exact mirrored.kept (by simp [binds]) rfl

/-! ### What becomes of the promise -/

/-- The answer of a bound key, alive or not. -/
theorem Mirrored.outcome_eq {host : Host} {s : State} (mirrored : Mirrored s) {draws : Draws} {requestHash : String}
    {request : Request} {identity : MutationIdentity} {action : WorkflowAction} {binding : Binding}
    (known : scope request = some (identity, action))
    (last : lastBinding (keyOf identity action) s.bound = some binding) :
    outcome host draws requestHash request s.control.db = honoured binding requestHash :=
  accept_bound known (mirrored.find_record last)

/-- The answer of a bound key is not that of a fresh one. -/
theorem not_fresh {host : Host} {draws : Draws} {requestHash : String} {request : Request} {db : ControlDb}
    {binding : Binding} (read : outcome host draws requestHash request db = honoured binding requestHash) :
    ¬ Fresh host draws requestHash request db binding := by
  intro fresh
  by_cases equal : binding.requestHash = requestHash
  · rw [honoured, if_pos equal] at read
    exact fresh.unanswered _ read rfl
  · rw [honoured, if_neg equal] at read
    exact fresh.unrefused read

theorem Mirrored.right_iff {host : Host} {s : State} (mirrored : Mirrored s) (action : Lifecycle.Action) :
    Right host s action ↔ Unexpired s action := by
  cases action with
  | accept draws request requestHash =>
    refine forall₃_congr fun identity action binding => ?_
    refine forall_congr' fun known => forall_congr' fun last => ?_
    have read : outcome host draws requestHash request s.control.db = honoured binding requestHash :=
      mirrored.outcome_eq known last
    constructor
    · intro ⟨_, expired⟩
      by_contra late
      exact not_fresh read (expired (Nat.not_lt.mp late))
    · intro alive
      exact ⟨fun _ => read, fun late => absurd alive (Nat.not_lt.mpr late)⟩
  | project => exact Iff.rfl
  | projectDeadLetter => exact Iff.rfl
  | administer => exact Iff.rfl

/-- Keys expire as promised exactly in the runs in which no key is used again
    after its lifetime: the lookup does not ask when a record expires. -/
theorem keys_expire_iff (host : Host) (catalog : Catalog) (actions : List Lifecycle.Action) :
    Meets (next host) (Right host) (initial catalog) actions ↔
      Meets (next host) Unexpired (initial catalog) actions :=
  meets_iff Mirrored (fun _ _ _ mirrored taken => mirrored_next mirrored taken)
    (fun _ action mirrored => mirrored.right_iff action) (mirrored_initial catalog) actions

/-- The creation of `acceptSample` with the same key, a day later. -/
def createAgain : Lifecycle.Action :=
  .accept (Lifecycle.sampleDraws idempotencyRecordTtlMs ["operation-2", "event-2", "outbox-2", "instance-2", "lease-2"])
    (.create
      { Lifecycle.sampleIdentity "create" with
        correlationId := sampleCreate.correlationId, imageId := "debian-12", flavorId := "small", networkId := "lab",
        hostname := "vm", sshPublicKeys := [] }) "hash-1"

/-- A key that expired a moment ago is answered with the operation of the day before. -/
theorem day_old_key :
    ¬ Meets (next sampleHost) (Right sampleHost) (initial Lifecycle.sampleCatalog)
      [Lifecycle.acceptSample, createAgain] := by
  intro meets
  have taken : next sampleHost (initial Lifecycle.sampleCatalog) Lifecycle.acceptSample = some _ := rfl
  have right := (meets.2 _ taken).1
  have mirrored := mirrored_next (mirrored_initial Lifecycle.sampleCatalog) taken
  have alive := (mirrored.right_iff createAgain).mp right _ _ _ rfl rfl
  exact absurd alive (by decide)

end ControlPlane.KeyExpiry
