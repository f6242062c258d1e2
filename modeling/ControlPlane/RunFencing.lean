import ControlPlane.AcceptanceRules
import ControlPlane.Fencing
import ControlPlane.TerraformInventory

/-!
The runs of Terraform beside the leases of the orchestrator. A run is recorded
in a transaction that reads the lease of its instance first, without a lock, so
a claim may commit between that read and the commit of the run: what was read is
what the lease was at an earlier moment. An outcome is written by one statement
that only a running run matches, so the first one stays.
-/
namespace ControlPlane.RunFencing
open ControlPlane.Programs ControlPlane.Programs.Program ControlPlane.Tables ControlPlane.Runs ControlPlane.Domain
open ControlPlane.EventValidation ControlPlane.WorkflowSchema ControlPlane.Transactions ControlPlane.TerraformInventory
open ControlPlane.Acceptance (StoreError insertRow)
open ControlPlane.AcceptanceRules (insertRow_ok)
open ControlPlane.Fencing (StoreCall Linked linked_next linked_initial issues)

/-- A call of the inventory, with the clocks that it reads. -/
inductive Request
  | beginRun (input : BeginRunInput) (now : Instant)
  | completeRun (input : CompleteRunInput) (now : Instant)
  | recordWorkspace (input : RecordWorkspaceInput) (registered : Bool) (observedAt now : Instant)

abbrev Sessions : Type := Transactions.State InventoryDb Empty InventoryQuery StoreError Request Unit

/-- The orchestrator's store, and the inventory that reads its leases. -/
structure State where
  store : Fencing.State
  tables : Sessions

def initial (now : Instant) : State := ⟨Fencing.initial now, ⟨{}, [], 0⟩⟩

def State.runs (s : State) : List RunRow := s.tables.db.runs

inductive Action
  /-- A claim, any other call of the orchestrator, or time passing. -/
  | work (call : StoreCall)
  /-- A statement of a session, or its end. -/
  | inventory (action : Transactions.Action InventoryDb Request)

/-- The inventory after the leases have changed. -/
def leased (tables : Sessions) (leases : List LeaseRow) : Sessions := { tables with db := { tables.db with leases := leases } }

section
variable (host : Commands.Host) (bigint : String → Option Int)

def begun : Request → InventoryTransaction
  | .beginRun input now => beginRun bigint input now
  | .completeRun input now => completeRun bigint input now
  | .recordWorkspace input registered observedAt now => recordWorkspace input registered observedAt now

def next (s : State) : Action → Option State
  | .work call => (Fencing.next host s.store call).map fun store => ⟨store, leased s.tables store.db.instanceLeases⟩
  | .inventory (.outside _) => none
  | .inventory action => (Transactions.next (begun bigint) s.tables action).map fun tables => { s with tables := tables }

end

/-! ### What a write does -/

/-- The lease of an instance carries a token, if there is one. -/
def Presents (leases : List LeaseRow) (instanceId : Uuid) (fencingToken : String) : Prop :=
  ∀ lease, find LeaseRow.instanceId instanceId leases = some lease → toString lease.fencingToken = fencingToken

section
variable (bigint : String → Option Int)

/-- A row of a run as it is begun. -/
structure BegunAs (input : BeginRunInput) (row : RunRow) : Prop where
  run : row.runId = input.runId
  instance_ : row.instanceId = input.instanceId
  operation : row.operationId = input.operationId
  token : bigint input.fencingToken = some row.fencingToken
  running : row.status = .running

/-- What a write does to the runs. -/
inductive Written (db after : InventoryDb) : Request → Prop
  | begun (input : BeginRunInput) (now : Instant) (row : RunRow) (as : BegunAs bigint input row)
      (fresh : ∀ old ∈ db.runs, old.runId ≠ row.runId) (runs : after.runs = db.runs ++ [row]) :
      Written db after (.beginRun input now)
  | completed (input : CompleteRunInput) (now : Instant) (token : Int)
      (runs : after.runs = update (fun row => completes input token row) (finishedRun input now) db.runs) :
      Written db after (.completeRun input now)
  | recorded (input : RecordWorkspaceInput) (registered : Bool) (observedAt now : Instant) (runs : after.runs = db.runs) :
      Written db after (.recordWorkspace input registered observedAt now)

end

section
variable {bigint : String → Option Int} {db after : InventoryDb}

theorem bigintColumn_ok {text : String} {value : Int} (read : bigintColumn bigint text = .ok value) :
    bigint text = some value := by
  unfold bigintColumn at read
  split at read
  next => cases read
  next found => cases read; exact found

theorem insertRun_written {input : BeginRunInput} {now : Instant} (inserted : insertRun bigint input now db = .ok after) :
    after.leases = db.leases ∧ Written bigint db after (.beginRun input now) := by
  obtain ⟨token, read, rest⟩ := bind_ok inserted
  obtain ⟨runs, appended, done⟩ := bind_ok rest
  cases done
  obtain ⟨rfl, free⟩ := insertRow_ok appended
  exact ⟨rfl, .begun input now _ ⟨rfl, rfl, rfl, bigintColumn_ok read, rfl⟩ (fun old member => of_decide_eq_false (free old member)) rfl⟩

theorem finishRun_written {input : CompleteRunInput} {now : Instant}
    (finished : finishRun bigint input now db = .ok after) :
    after.leases = db.leases ∧ Written bigint db after (.completeRun input now) := by
  obtain ⟨token, -, rest⟩ := bind_ok finished
  split at rest
  next => cases rest
  next =>
    split at rest
    next => cases rest
    next => cases rest; exact ⟨rfl, .completed input now token rfl⟩

theorem upsertWorkspace_written {input : RecordWorkspaceInput} {registered : Bool} {observedAt now : Instant}
    (recorded : upsertWorkspace input registered observedAt now db = .ok after) :
    after.leases = db.leases ∧ Written bigint db after (.recordWorkspace input registered observedAt now) := by
  simp only [upsertWorkspace] at recorded
  split at recorded
  next => cases recorded
  next =>
    split at recorded
    next => cases recorded; exact ⟨rfl, .recorded input registered observedAt now rfl⟩
    next =>
      split at recorded
      next => cases recorded
      next =>
        obtain ⟨workspaces, -, done⟩ := bind_ok recorded
        cases done
        exact ⟨rfl, .recorded input registered observedAt now rfl⟩

variable (bigint) in
/-- What a session that ends well has read, and what it will write. -/
def Meant (request : Request) (past : Past InventoryDb Empty InventoryQuery) (commit : Commit InventoryDb StoreError Unit) :
    Prop :=
  (∀ db after, commit.write db = .ok after → after.leases = db.leases ∧ Written bigint db after request) ∧
    match request with
    | .beginRun input _ => ∃ read : InventoryDb, ⟨.select .lease, read⟩ ∈ past ∧
        Presents read.leases input.instanceId input.fencingToken
    | _ => True

/-- A caller passes when the lease that was read carries its token. -/
theorem assertFencingToken_ends {instanceId : Uuid} {fencingToken : String} {past : Past InventoryDb Empty InventoryQuery} :
    (assertFencingToken instanceId fencingToken).Ends past fun later _ =>
      ∃ read : InventoryDb, ⟨.select .lease, read⟩ ∈ later ∧ Presents read.leases instanceId fencingToken := by
  refine ends_select fun read => ?_
  have there : (⟨.select .lease, read⟩ : Exchange (@Statement.Answer InventoryDb Empty InventoryQuery)) ∈
      past ++ [⟨.select .lease, read⟩] := List.mem_append_right _ (List.mem_singleton_self _)
  cases found : read.lease instanceId with
  | none =>
    refine ⟨read, there, fun lease held => ?_⟩
    cases found.symm.trans held
  | some lease =>
    by_cases same : toString lease.fencingToken = fencingToken
    · simp only [same, ne_eq, not_true, if_false]
      refine ⟨read, there, fun other held => ?_⟩
      cases found.symm.trans held
      exact same
    · simp only [same, ne_eq, not_false_iff, if_true]
      trivial

theorem begun_ends (request : Request) : (begun bigint request).Ends [] (Meant bigint request) := by
  cases request with
  | beginRun input now =>
    exact ends_bind assertFencingToken_ends fun past _ presented => ⟨fun db after => insertRun_written, presented⟩
  | completeRun input now => exact ⟨fun db after => finishRun_written, trivial⟩
  | recordWorkspace input registered observedAt now => exact ⟨fun db after => upsertWorkspace_written, trivial⟩

end

/-! ### Steps -/

section
variable {host : Commands.Host} {bigint : String → Option Int} {s t : State}

/-- What a step does to the leases and to the runs. -/
inductive Steps (host : Commands.Host) (bigint : String → Option Int) (s t : State) : Prop
  | worked (call : StoreCall) (taken : Fencing.next host s.store call = some t.store)
      (tables : t.tables = leased s.tables t.store.db.instanceLeases) : Steps host bigint s t
  | wrote (session : Session InventoryDb Empty InventoryQuery StoreError Request Unit) (member : session ∈ s.tables.sessions)
      (commit : Commit InventoryDb StoreError Unit) (meant : Meant bigint session.request session.past commit)
      (written : commit.write s.tables.db = .ok t.tables.db) (store : t.store = s.store)
      (sessions : ∀ other ∈ t.tables.sessions, other ∈ s.tables.sessions) : Steps host bigint s t
  | went (db : t.tables.db = s.tables.db) (store : t.store = s.store)
      (reads : ∀ session ∈ t.tables.sessions, ∀ query read, ⟨.select query, read⟩ ∈ session.past →
        read = s.tables.db ∨ ∃ old ∈ s.tables.sessions, ⟨.select query, read⟩ ∈ old.past) : Steps host bigint s t

/-- The sessions follow their transactions. -/
abbrev Follows (bigint : String → Option Int) (tables : Sessions) : Prop :=
  Sound (fun request past => Ending (Meant bigint request) past) tables

/-- What a session that goes on has read: what it had, and what it reads now. -/
theorem reads_replace {tables : Sessions} {session : Session InventoryDb Empty InventoryQuery StoreError Request Unit}
    (member : session ∈ tables.sessions) {exchange : Exchange (@Statement.Answer InventoryDb Empty InventoryQuery)}
    {program : InventoryTransaction} (now : ∀ query read, exchange = ⟨.select query, read⟩ → read = tables.db) :
    ∀ other ∈ replace (answered session exchange program) tables.sessions, ∀ query read,
      ⟨.select query, read⟩ ∈ other.past →
        read = tables.db ∨ ∃ old ∈ tables.sessions, ⟨.select query, read⟩ ∈ old.past := by
  intro other present query read said
  rcases mem_replace present with rfl | ⟨old, -⟩
  · rcases List.mem_append.mp said with earlier | latest
    · exact .inr ⟨session, member, earlier⟩
    · exact .inl (now query read (List.mem_singleton.mp latest).symm)
  · exact .inr ⟨other, old, said⟩

theorem steps_next {action : Action} (follows : Follows bigint s.tables) (taken : next host bigint s action = some t) :
    Steps host bigint s t := by
  have inventory : ∀ act, (Transactions.next (begun bigint) s.tables act).map (fun tables => { s with tables := tables }) =
      some t → (∀ db, act ≠ .outside db) → Steps host bigint s t := by
    intro act stepped inside
    obtain ⟨tables, moved, rfl⟩ := Option.map_eq_some_iff.mp stepped
    cases Transactions.steps_next moved with
    | start request same =>
      subst same
      refine .went rfl rfl fun session member query read said => ?_
      rcases List.mem_append.mp member with old | new
      · exact .inr ⟨session, old, said⟩
      · rw [List.mem_singleton.mp new] at said
        cases said
    | lock session member l => exact l.elim
    | select session member query resume asks same =>
      subst same
      refine .went rfl rfl (reads_replace member fun _ read equal => ?_)
      cases equal
      rfl
    | commit session member commit ends after written same =>
      subst same
      have meant := follows.follows session member
      rw [ends] at meant
      exact .wrote session member commit meant written rfl fun other present => (mem_without present).1
    | leave id same =>
      subst same
      exact .went rfl rfl fun session member query read said => .inr ⟨session, (mem_without member).1, said⟩
    | outside db => exact absurd rfl (inside db)
  cases action with
  | work call =>
    obtain ⟨store, called, rfl⟩ := Option.map_eq_some_iff.mp taken
    exact .worked call called rfl
  | inventory act =>
    cases act with
    | outside db => cases taken
    | start request => exact inventory (.start request) taken (by rintro _ ⟨⟩)
    | step id => exact inventory (.step id) taken (by rintro _ ⟨⟩)
    | commit id => exact inventory (.commit id) taken (by rintro _ ⟨⟩)
    | rollback id => exact inventory (.rollback id) taken (by rintro _ ⟨⟩)

theorem follows_next {action : Action} (follows : Follows bigint s.tables) (taken : next host bigint s action = some t) :
    Follows bigint t.tables := by
  have inventory : ∀ act, (Transactions.next (begun bigint) s.tables act).map (fun tables => { s with tables := tables }) =
      some t → Follows bigint t.tables := by
    intro act stepped
    obtain ⟨tables, moved, rfl⟩ := Option.map_eq_some_iff.mp stepped
    exact sound_next begun_ends follows moved
  cases action with
  | work call =>
    obtain ⟨store, -, rfl⟩ := Option.map_eq_some_iff.mp taken
    exact follows.fewer (fun _ member => member) rfl
  | inventory act =>
    cases act with
    | outside db => cases taken
    | start request => exact inventory (.start request) taken
    | step id => exact inventory (.step id) taken
    | commit id => exact inventory (.commit id) taken
    | rollback id => exact inventory (.rollback id) taken

/-! ### Runs -/

/-- What every run keeps. -/
structure Recorded (bigint : String → Option Int) (s : State) : Prop where
  leases : s.tables.db.leases = s.store.db.instanceLeases
  linked : Linked s.store.db.instanceLeases s.store.now s.store.history
  follows : Follows bigint s.tables
  keyed : Keyed RunRow.runId s.runs

theorem finishedRun_id (input : CompleteRunInput) (now : Instant) (row : RunRow) :
    (finishedRun input now row).runId = row.runId := rfl

theorem Written.keyed {db after : InventoryDb} {request : Request} (written : Written bigint db after request)
    (keyed : Keyed RunRow.runId db.runs) : Keyed RunRow.runId after.runs := by
  cases written with
  | begun _ _ row _ fresh runs => rw [runs]; exact keyed_append keyed fresh
  | completed input now _ runs => rw [runs]; exact keyed_update keyed fun row _ => finishedRun_id input now row
  | recorded _ _ _ _ runs => rw [runs]; exact keyed

theorem recorded_next {action : Action} (recorded : Recorded bigint s) (taken : next host bigint s action = some t) :
    Recorded bigint t := by
  have follows := follows_next recorded.follows taken
  cases steps_next recorded.follows taken with
  | worked call called tables =>
    refine ⟨by rw [tables]; rfl, linked_next host recorded.linked called, follows, ?_⟩
    rw [State.runs, tables]
    exact recorded.keyed
  | wrote session member commit meant written store sessions =>
    obtain ⟨leases, rows⟩ := meant.1 _ _ written
    exact ⟨by rw [leases, store]; exact recorded.leases, store ▸ recorded.linked, follows, rows.keyed recorded.keyed⟩
  | went db store reads =>
    refine ⟨by rw [db, store]; exact recorded.leases, store ▸ recorded.linked, follows, ?_⟩
    rw [State.runs, db]
    exact recorded.keyed

theorem recorded_initial (now : Instant) : Recorded bigint (initial now) :=
  ⟨rfl, linked_initial now, ⟨fun _ member => (by cases member), fun _ member => (by cases member),
    fun _ member => (by cases member), fun _ member => (by cases member)⟩, List.nodup_nil⟩

theorem recorded_run {now : Instant} (run : Reaches (next host bigint) Anything (initial now) s) : Recorded bigint s :=
  reaches_invariant (Recorded bigint) (fun _ _ _ recorded _ taken => recorded_next recorded taken) run (recorded_initial now)

/-- What a session has read was there at an earlier moment of the run. -/
theorem read_earlier {now : Instant} (run : Reaches (next host bigint) Anything (initial now) s) :
    ∀ session ∈ s.tables.sessions, ∀ query read, ⟨.select query, read⟩ ∈ session.past →
      ∃ u, Reaches (next host bigint) Anything (initial now) u ∧ Reaches (next host bigint) Anything u s ∧
        read = u.tables.db := by
  induction run with
  | refl => exact fun _ member => by cases member
  | @tail middle last earlier step ih =>
    obtain ⟨action, -, taken⟩ := step
    have kept : ∀ session ∈ middle.tables.sessions, ∀ query read, ⟨.select query, read⟩ ∈ session.past →
        ∃ u, Reaches (next host bigint) Anything (initial now) u ∧ Reaches (next host bigint) Anything u last ∧
          read = u.tables.db := by
      intro session member query read said
      obtain ⟨u, before, after, same⟩ := ih session member query read said
      exact ⟨u, before, after.tail ⟨action, trivial, taken⟩, same⟩
    intro session member query read said
    cases steps_next (recorded_run earlier).follows taken with
    | worked call called tables =>
      rw [tables] at member
      exact kept session member query read said
    | wrote _ _ _ _ _ _ sessions => exact kept session (sessions session member) query read said
    | went db store reads =>
      rcases reads session member query read said with here | ⟨old, present, earlierSaid⟩
      · exact ⟨middle, earlier, .single ⟨action, trivial, taken⟩, here⟩
      · exact kept old present query read earlierSaid

/-- A lease that no claim has touched carries the token that it carried. -/
theorem presents_of_issues {leases later : List LeaseRow} {then_ now : Instant} {history after : List Fencing.Entry}
    {instanceId : Uuid} {fencingToken : String} (linked : Linked leases then_ history) (linkedLater : Linked later now after)
    (same : issues instanceId history = issues instanceId after) (presents : Presents leases instanceId fencingToken) :
    Presents later instanceId fencingToken := by
  intro lease held
  obtain ⟨issue, newest, -, token, -⟩ := (linkedLater.leased instanceId lease held).newest
  rw [← same] at newest
  cases found : find LeaseRow.instanceId instanceId leases with
  | none =>
    rw [(linked.unleased instanceId found).1] at newest
    cases newest
  | some old =>
    obtain ⟨first, oldest, -, oldToken, -⟩ := (linked.leased instanceId old found).newest
    rw [newest] at oldest
    cases oldest
    rw [token, ← oldToken]
    exact presents old found

/-- A step keeps every run, and keeps one that has ended as it is. -/
theorem kept_next {action : Action} (recorded : Recorded bigint s) (taken : next host bigint s action = some t) :
    ∀ row ∈ s.runs, ∃ later ∈ t.runs, later.runId = row.runId ∧ (row.status ≠ .running → later = row) := by
  intro row member
  have same : t.runs = s.runs → ∃ later ∈ t.runs, later.runId = row.runId ∧ (row.status ≠ .running → later = row) :=
    fun runs => ⟨row, runs ▸ member, rfl, fun _ => rfl⟩
  cases steps_next recorded.follows taken with
  | worked call called tables => exact same (by rw [State.runs, tables]; rfl)
  | went db => exact same (by rw [State.runs, db]; rfl)
  | wrote session _ commit meant written =>
    have wrote := (meant.1 _ _ written).2
    generalize session.request = request at wrote
    cases wrote with
    | begun _ _ new _ _ runs =>
      exact ⟨row, by rw [State.runs, runs]; exact List.mem_append_left _ member, rfl, fun _ => rfl⟩
    | recorded _ _ _ _ runs => exact same runs
    | completed input now token runs =>
      by_cases selected : completes input token row = true
      · refine ⟨finishedRun input now row, ?_, rfl, fun ended => absurd ?_ ended⟩
        · rw [State.runs, runs]
          exact mem_update.mpr ⟨row, member, .inl ⟨selected, rfl⟩⟩
        · simp only [completes, Bool.and_eq_true, decide_eq_true_eq] at selected
          exact selected.2
      · refine ⟨row, ?_, rfl, fun _ => rfl⟩
        rw [State.runs, runs]
        exact mem_update.mpr ⟨row, member, .inr ⟨selected, rfl⟩⟩

/-- A new run was begun by a session that read, earlier in the run, a lease with
    its token, or none. -/
theorem begun_next {now : Instant} {action : Action} {row : RunRow}
    (run : Reaches (next host bigint) Anything (initial now) s) (taken : next host bigint s action = some t)
    (member : row ∈ t.runs) (fresh : ∀ old ∈ s.runs, old.runId ≠ row.runId) :
    ∃ input u, BegunAs bigint input row ∧ Reaches (next host bigint) Anything (initial now) u ∧
      Reaches (next host bigint) Anything u s ∧
      Presents u.store.db.instanceLeases input.instanceId input.fencingToken := by
  have recorded := recorded_run run
  have absurd_ : t.runs = s.runs → ∀ {P : Prop}, P := fun runs => absurd rfl (fresh row (runs ▸ member))
  cases steps_next recorded.follows taken with
  | worked call called tables => exact absurd_ (by rw [State.runs, tables]; rfl)
  | went db => exact absurd_ (by rw [State.runs, db]; rfl)
  | wrote session present commit meant written =>
    have wrote := (meant.1 _ _ written).2
    have read := meant.2
    generalize session.request = request at wrote read
    cases wrote with
    | recorded _ _ _ _ runs => exact absurd_ runs
    | completed input now token runs =>
      rw [State.runs, runs] at member
      obtain ⟨old, there, ⟨-, rfl⟩ | ⟨-, rfl⟩⟩ := mem_update.mp member
      · exact absurd (finishedRun_id input now old).symm (fresh old there)
      · exact absurd rfl (fresh row there)
    | begun input now new begun _ runs =>
      rw [State.runs, runs] at member
      rcases List.mem_append.mp member with old | added
      · exact absurd rfl (fresh row old)
      · rw [List.mem_singleton.mp added]
        obtain ⟨read, said, presents⟩ := read
        obtain ⟨u, before, after, same⟩ := read_earlier run session present .lease read said
        refine ⟨input, u, begun, before, after, ?_⟩
        rw [← (recorded_run before).leases, ← same]
        exact presents

end

/-! ### Sample runs -/

def sampleBigint (text : String) : Option Int := if text = "1" then some 1 else none

/-- An apply on the instance of a sample creation. -/
def sampleBegin : BeginRunInput :=
  { runId := "run", instanceId := sampleCreate.aggregateId, operationId := sampleCreate.operationId,
    workspaceName := "instance", command := .apply, fencingToken := "1" }

/-- The transaction of a run, statement by statement. -/
def sampleSession : List Action :=
  [.inventory (.start (.beginRun sampleBegin 0)), .inventory (.step 0), .inventory (.commit 0)]

/-- A claim, and a run under its token that fails. -/
def sampleClaimed : List Action :=
  [.work (.admitCommand (fun _ => "") sampleCreate ⟨"provisioning.commands.v1", 0, 0, 0, none⟩),
   .work (.claimNext "worker" 30 .createInstance fun _ => false)] ++ sampleSession ++
    [.inventory (.start (.completeRun { runId := "run", fencingToken := "1", status := .failed } 0)), .inventory (.commit 1)]

end ControlPlane.RunFencing
