import ControlPlane.AcceptanceSessions

/-!
Each request once. A client that has not heard an answer sends its request again,
with the same key, while the first may still be under way. However the sessions
of all requests take turns, the requests with one key are answered alike: one of
them is accepted, the others are told what it was told, and whoever asked for
something else is refused (`keys_bound`). What is accepted leaves one operation
and one command behind (`accepted_begins`).
-/
namespace ControlPlane.AcceptanceKeys
open ControlPlane.Programs ControlPlane.Runs ControlPlane.Tables ControlPlane.Domain ControlPlane.Commands
open ControlPlane.WorkflowSchema ControlPlane.ControlSchema ControlPlane.Transactions ControlPlane.Acceptance
open ControlPlane.AcceptanceRules ControlPlane.Serializability ControlPlane.AcceptanceSessions
open ControlPlane.KeyExpiry (Key scope keyOf Recorded writeAcceptanceRecords_records)
open ControlPlane.Quota (Conversation)
open ControlPlane.EventValidation (sampleHost)

/-- Something that happens to the tables. -/
abbrev Happening : Type := Serializability.Event ControlDb Submission AcceptedMutation

/-! ### What a key is bound to -/

/-- A request as it was answered: its hash and the answer. -/
abbrev Given : Type := String × AcceptedMutation

def record (key : Key) (db : ControlDb) : Option IdempotencyRecord := find IdempotencyRecord.key key db.idempotencyRecords

/-- What a request under a key that is bound is answered. -/
def again (record : IdempotencyRecord) : Given := (record.requestHash, { record.response with replayed := true })

/-- What the requests under one key are answered, one after the other, and what the
    key is bound to before and after them. -/
inductive Bound : Option IdempotencyRecord → List Given → Option IdempotencyRecord → Prop
  | unused : Bound none [] none
  | taken (record : IdempotencyRecord) (later : List Given) (same : ∀ given ∈ later, given = again record) :
      Bound (some record) later (some record)
  | first (record : IdempotencyRecord) (later : List Given) (fresh : record.response.replayed = false)
      (same : ∀ given ∈ later, given = again record) :
      Bound none ((record.requestHash, record.response) :: later) (some record)

theorem Bound.nothing (bound : Option IdempotencyRecord) : Bound bound [] bound := by
  cases bound with
  | none => exact .unused
  | some record => exact .taken record [] (by simp)

theorem Bound.append {first second third : Option IdempotencyRecord} {given more : List Given} (earlier : Bound first given second)
    (later : Bound second more third) : Bound first (given ++ more) third := by
  cases earlier with
  | unused => exact later
  | taken record _ same =>
    cases later with
    | taken _ _ also =>
      refine .taken record _ fun given member => ?_
      rcases List.mem_append.mp member with old | new
      · exact same given old
      · exact also given new
  | first record _ fresh same =>
    cases later with
    | taken _ _ also =>
      refine .first record _ fresh fun given member => ?_
      rcases List.mem_append.mp member with old | new
      · exact same given old
      · exact also given new

/-- Whether a request is known by a key. -/
def knownBy (key : Key) (request : Request) : Bool := (scope request).map (fun known => keyOf known.1 known.2) = some key

/-- What is answered to the requests under a key, in the order of the commits. -/
def answers (key : Key) (happened : List Happening) : List Given :=
  happened.filterMap fun
    | .accepted submission answer => if knownBy key submission.request then some (submission.requestHash, answer) else none
    | .outside _ => none

/-! ### What is begun -/

/-- A replay begins no operation of its own. -/
def beginsOperation : Request → Bool
  | .replay _ => false
  | _ => true

/-- The operation that an event begins, unless it was answered before. -/
def operationOf : Happening → Option Uuid
  | .accepted submission answer =>
    if beginsOperation submission.request && !answer.replayed then some answer.operationId else none
  | .outside _ => none

def operationIds (db : ControlDb) : List Uuid := db.operations.map OperationView.id

/-- The operations that the commands of the outbox are about. -/
def commanded (db : ControlDb) : List Uuid :=
  db.outbox.filterMap fun row =>
    match row.message with
    | .lifecycle event => some event.operationId
    | .replayRequest _ | .unsupported _ _ => none

/-- The steps of a store in which nobody else writes what a session has locked, the
    records of the keys, a new operation or a new command. -/
def Undisturbed (s : Store) : Transactions.Action ControlDb Submission → Prop
  | .outside db => (∀ session ∈ s.sessions, Leads view (held session.past) s.db db) ∧
      db.idempotencyRecords = s.db.idempotencyRecords ∧ operationIds db = operationIds s.db ∧ commanded db = commanded s.db
  | .start _ | .step _ | .commit _ | .rollback _ => True

theorem undisturbed_admissible (s : Store) (action : Transactions.Action ControlDb Submission)
    (undisturbed : Undisturbed s action) : Admissible s action := by
  cases action with
  | outside db => exact undisturbed.1
  | start submission => trivial
  | step id => trivial
  | commit id => trivial
  | rollback id => trivial

/-! ### One commit -/

section
variable {host : Host} {submission : Submission} {past : Conversation} {commit : Decided} {db after : ControlDb}
  {identity : MutationIdentity} {action : WorkflowAction} {key : Key}

theorem record_unbound {entry : IdempotencyRecord} (recorded : Recorded db after entry) :
    record (IdempotencyRecord.key entry) db = none :=
  List.find?_eq_none.mpr fun other member => by simpa using recorded.unbound other member

theorem record_recorded {entry : IdempotencyRecord} (recorded : Recorded db after entry) :
    record key after = if IdempotencyRecord.key entry = key then some entry else record key db := by
  rw [record, recorded.records, find_append]
  split
  next same =>
    have unbound := record_unbound recorded
    rw [same, record] at unbound
    rw [unbound]
    simp [find, same]
  next other =>
    simp [record, find, other]

theorem answers_known {answer : AcceptedMutation} (known : scope submission.request = some (identity, action)) :
    answers key [.accepted submission answer] =
      if keyOf identity action = key then [(submission.requestHash, answer)] else [] := by
  by_cases same : keyOf identity action = key
  · simp [answers, knownBy, known, same]
  · simp [answers, knownBy, known, same]

theorem answers_unknown {answer : AcceptedMutation} (unknown : scope submission.request = none) :
    answers key [.accepted submission answer] = [] := by
  simp [answers, knownBy, unknown]

/-- A commit that records a key is its first. -/
theorem bound_recorded {answer : AcceptedMutation} (known : scope submission.request = some (identity, action))
    (fresh : answer.replayed = false) (recorded : Recorded db after (idempotencyRecord identity action submission.requestHash answer)) :
    Bound (record key db) (answers key [.accepted submission answer]) (record key after) := by
  have own : IdempotencyRecord.key (idempotencyRecord identity action submission.requestHash answer) = keyOf identity action := rfl
  rw [answers_known known, record_recorded recorded, own]
  by_cases same : keyOf identity action = key
  · rw [if_pos same, if_pos same]
    have unbound := record_unbound recorded
    rw [own, same] at unbound
    rw [unbound]
    exact .first (idempotencyRecord identity action submission.requestHash answer) [] fresh (by simp)
  · rw [if_neg same, if_neg same]
    exact .nothing _

/-- What a commit does to the key of its request, and to all others. -/
theorem decides_bound (decides : Decides host submission past commit) (still : Still view past db)
    (written : commit.write db = .ok after) :
    Bound (record key db) (answers key [.accepted submission commit.answer]) (record key after) := by
  cases decides with
  | again same replayed looked =>
    rw [same db] at written
    cases written
    cases known : scope submission.request with
    | none =>
      rw [answers_unknown known]
      exact .nothing _
    | some found =>
      obtain ⟨identity, action⟩ := found
      rw [answers_known known]
      split
      next own =>
        obtain ⟨seen, ⟨previous, found, hash, answered⟩, shows⟩ := (looked identity action known).now still
        have present := view_record (shows _ rfl).symm ▸ found
        rw [← own]
        rw [record, present]
        refine .taken previous _ fun given member => ?_
        rw [List.mem_singleton.mp member, again, hash, answered]
      next => exact .nothing _
  | mutates identity action m known first answered about looked locked modest accepts writes =>
    exact bound_recorded known first (writes db after written).2
  | creates command context address records about looked free built decided =>
    subst decided
    have first := (buildAcceptanceRecords_ok built).1
    exact bound_recorded (by rw [about]; rfl) first (writeAcceptanceRecords_records written)
  | replays command request event about first new unasked decided =>
    rw [decided] at written
    obtain ⟨_, inserted, done⟩ := bind_ok written
    obtain ⟨_, -, same⟩ := bind_ok inserted
    cases same
    cases done
    rw [answers_unknown (by rw [about]; rfl)]
    exact .nothing _

/-- A new operation and its command. -/
structure Begins (db after : ControlDb) (begun : List Uuid) : Prop where
  operations : operationIds after = operationIds db ++ begun
  commands : commanded after = commanded db ++ begun

theorem begins_one {operation : OperationView} {event : LifecycleCommand} {now : Instant}
    (operations : after.operations = db.operations ++ [operation])
    (outbox : ∃ outboxId, after.outbox = db.outbox ++ [⟨outboxId, .lifecycle event, 0, now⟩])
    (same : event.operationId = operation.id) : Begins db after [operation.id] := by
  obtain ⟨outboxId, outbox⟩ := outbox
  constructor
  · simp [operationIds, operations]
  · simp [commanded, outbox, same]

theorem beginsOperation_known {request : Request} (known : scope request = some (identity, action)) :
    beginsOperation request = true := by
  cases request with
  | replay command => cases known
  | _ => rfl

theorem buildAcceptanceRecords_answers {draws : Draws} {command : CreateInstanceCommand} {context : AcceptanceContext}
    {address : String} {records : AcceptanceRecords}
    (built : buildAcceptanceRecords host draws command context address = .ok records) :
    records.accepted.operationId = records.operation.id := by
  obtain ⟨dnsServers, -, built⟩ := bind_ok built
  obtain ⟨sshPublicKeys, -, built⟩ := bind_ok built
  cases built
  rfl

/-- What a commit begins. -/
theorem decides_begins (decides : Decides host submission past commit) (written : commit.write db = .ok after) :
    Begins db after (operationOf (.accepted submission commit.answer)).toList := by
  cases decides with
  | again same replayed =>
    rw [same db] at written
    cases written
    have nothing : operationOf (.accepted submission commit.answer) = none := by simp [operationOf, replayed]
    rw [nothing]
    constructor
    · exact (List.append_nil _).symm
    · exact (List.append_nil _).symm
  | mutates identity action m known first answered about looked locked modest accepts writes =>
    have one : operationOf (.accepted submission commit.answer) = some m.operation.id := by
      simp [operationOf, beginsOperation_known known, first, answered]
    have mutates := (writes db after written).1
    rw [one]
    exact begins_one mutates.operations mutates.outbox about
  | creates command context address records about looked free built decided =>
    subst decided
    obtain ⟨first, -, -, -, -, -, same, -, active, -, document⟩ := buildAcceptanceRecords_ok built
    have creates := writeAcceptanceRecords_ok active document written
    have answered := buildAcceptanceRecords_answers built
    have one : operationOf (.accepted submission records.accepted) = some records.operation.id := by
      simp [operationOf, about, beginsOperation, first, answered]
    rw [one]
    exact begins_one creates.operations creates.outbox same.symm
  | replays command request event about first new unasked decided =>
    rw [decided] at written
    obtain ⟨_, inserted, done⟩ := bind_ok written
    obtain ⟨_, -, same⟩ := bind_ok inserted
    cases same
    cases done
    have nothing : operationOf (.accepted submission commit.answer) = none := by simp [operationOf, about, beginsOperation]
    rw [nothing]
    constructor
    · exact (List.append_nil _).symm
    · simp [commanded, writeControlOutbox]

end

/-! ### Every run -/

section
variable {host : Host} {s t : Store} {action : Transactions.Action ControlDb Submission}

/-- What happens to a key and to the operations, from one moment to another. -/
structure Answered (db : ControlDb) (happened : List Happening) (last : ControlDb) : Prop where
  bound : ∀ key, Bound (record key db) (answers key happened) (record key last)
  begins : Begins db last (happened.filterMap operationOf)

theorem Answered.nothing {db last : ControlDb} (records : last.idempotencyRecords = db.idempotencyRecords)
    (operations : operationIds last = operationIds db) (commands : commanded last = commanded db) : Answered db [] last := by
  refine ⟨fun key => ?_, ?_, ?_⟩
  · rw [record, record, records]
    exact .nothing _
  · rw [operations]
    exact (List.append_nil _).symm
  · rw [commands]
    exact (List.append_nil _).symm

theorem Answered.append {db middle last : ControlDb} {happened more : List Happening} (earlier : Answered db happened middle)
    (later : Answered middle more last) : Answered db (happened ++ more) last := by
  refine ⟨fun key => ?_, ?_, ?_⟩
  · rw [answers, List.filterMap_append]
    exact (earlier.bound key).append (later.bound key)
  · rw [later.begins.operations, earlier.begins.operations, List.filterMap_append, List.append_assoc]
  · rw [later.begins.commands, earlier.begins.commands, List.filterMap_append, List.append_assoc]

theorem begun_one (happening : Happening) : [happening].filterMap operationOf = (operationOf happening).toList := by
  rw [List.filterMap_cons]
  cases operationOf happening with
  | none => rfl
  | some id => rfl

theorem answered_next (kept : Kept host s) (undisturbed : Undisturbed s action) (taken : next (begun host) s action = some t) :
    Answered s.db (event s action).toList t.db := by
  have happens := happens_next taken
  generalize event s action = happening at happens ⊢
  cases happens with
  | nothing same => exact same ▸ .nothing rfl rfl rfl
  | accepted session member commit ends written =>
    have decides := kept.decides member ends
    refine ⟨fun key => decides_bound decides (kept.current session member) written, ?_⟩
    rw [Option.toList_some, begun_one]
    exact decides_begins decides written
  | outside same =>
    subst same
    obtain ⟨-, records, operations, commands⟩ := undisturbed
    have nothing : Answered s.db [] t.db := .nothing records operations commands
    exact ⟨nothing.bound, nothing.begins⟩

theorem answered_run {db : ControlDb} {opened : Nat} {inputs : List (Transactions.Action ControlDb Submission)}
    (undisturbed : Meets (next (begun host)) Undisturbed ⟨db, [], opened⟩ inputs)
    (executed : execute (next (begun host)) ⟨db, [], opened⟩ inputs = some t) :
    Answered db (trace (begun host) ⟨db, [], opened⟩ inputs) t.db := by
  have start : Kept host ⟨db, [], opened⟩ := kept_run .refl
  refine trace_run Answered (fun db => .nothing rfl rfl rfl) (fun s action t kept allowed taken => ?_)
    (fun s action t kept allowed taken events last later => ?_) start undisturbed executed
  · exact kept_next kept (undisturbed_admissible s action allowed) taken
  · exact (answered_next kept allowed taken).append later

/-- Requests under one key are answered alike, however their sessions take turns:
    the first is accepted unless the key was bound before, and all others have its
    hash and its answer. -/
theorem keys_bound {db : ControlDb} {opened : Nat} {inputs : List (Transactions.Action ControlDb Submission)}
    (undisturbed : Meets (next (begun host)) Undisturbed ⟨db, [], opened⟩ inputs)
    (executed : execute (next (begun host)) ⟨db, [], opened⟩ inputs = some t) (key : Key) :
    Bound (record key db) (answers key (trace (begun host) ⟨db, [], opened⟩ inputs)) (record key t.db) :=
  (answered_run undisturbed executed).bound key

/-- The operations that are begun, and the commands that are sent, are those of the
    requests that are accepted for the first time. -/
theorem accepted_begins {db : ControlDb} {opened : Nat} {inputs : List (Transactions.Action ControlDb Submission)}
    (undisturbed : Meets (next (begun host)) Undisturbed ⟨db, [], opened⟩ inputs)
    (executed : execute (next (begun host)) ⟨db, [], opened⟩ inputs = some t) :
    Begins db t.db ((trace (begun host) ⟨db, [], opened⟩ inputs).filterMap operationOf) :=
  (answered_run undisturbed executed).begins

end

/-! ### A request that is sent twice -/

/-- The second is sent while the first is under way, and waits for it. -/
def sampleRetried : List (Transactions.Action ControlDb Submission) :=
  .start (sampleStop "a") :: .start { sampleStop "a" with draws := (sampleStop "b").draws } ::
    List.replicate 4 (.step 0) ++ [.commit 0, .step 1, .step 1, .commit 1]

theorem undisturbed_inside (s : Store) (action : Transactions.Action ControlDb Submission) (within : inside action = true) :
    Undisturbed s action := by
  cases action with
  | outside db => cases within
  | start submission => trivial
  | step id => trivial
  | commit id => trivial
  | rollback id => trivial

theorem keys_bound_sampleRetried : ∃ t,
    execute (next (begun sampleHost)) sampleServed sampleRetried = some t ∧
    let key := keyOf (Lifecycle.sampleIdentity "idempotency-a") .powerInstance
    (answers key (trace (begun sampleHost) sampleServed sampleRetried)).length = 2 ∧
    Bound (record key sampleServed.db) (answers key (trace (begun sampleHost) sampleServed sampleRetried)) (record key t.db) := by
  have executed : execute (next (begun sampleHost)) sampleServed sampleRetried = some _ := rfl
  exact ⟨_, executed, rfl, keys_bound (meets_of_checks undisturbed_inside rfl) executed _⟩

theorem accepted_begins_sampleRetried : ∃ t,
    execute (next (begun sampleHost)) sampleServed sampleRetried = some t ∧
    (trace (begun sampleHost) sampleServed sampleRetried).filterMap operationOf = ["operation-a"] ∧
    Begins sampleServed.db t.db ((trace (begun sampleHost) sampleServed sampleRetried).filterMap operationOf) := by
  have executed : execute (next (begun sampleHost)) sampleServed sampleRetried = some _ := rfl
  exact ⟨_, executed, rfl, accepted_begins (meets_of_checks undisturbed_inside rfl) executed⟩

end ControlPlane.AcceptanceKeys
