import ControlPlane.AcceptanceKeys
import ControlPlane.RequestHashes

/-!
Repetitions and conflicts. A request that comes under a key that is bound is
either told what the first one was told, and then both ask for the same
(`answered_alike`), or it is refused for its key, and then the key was used for a
request with another content (`conflicts_differ`). So a client that sends its
request again hears what became of it, whatever happened in between, and nobody
hears about a request that was not theirs.
-/
namespace ControlPlane.KeyConflicts
open ControlPlane.Programs ControlPlane.Programs.Program ControlPlane.Runs ControlPlane.Tables ControlPlane.Domain
open ControlPlane.Commands ControlPlane.WorkflowSchema ControlPlane.ControlSchema ControlPlane.Transactions
open ControlPlane.Acceptance ControlPlane.AcceptanceRules ControlPlane.Serializability ControlPlane.AcceptanceSessions
open ControlPlane.AcceptanceKeys
open ControlPlane.ControlPlaneApplication (Input submit)
open ControlPlane.RequestHashes
open ControlPlane.KeyExpiry (Key scope keyOf Recorded writeAcceptanceRecords_records)
open ControlPlane.Quota (Conversation)
open ControlPlane.EventValidation (sampleHost sampleCreate)

/-! ### Names -/

/-- What a request is known by: the key of a mutation, or that of a replay. -/
inductive Name
  | mutation (key : Key)
  | replay (actor idempotencyKey : String)

def nameOf : Request → Option Name
  | .replay command => some (.replay command.actor command.idempotencyKey)
  | request => (scope request).map fun known => .mutation (keyOf known.1 known.2)

/-- The hash that a name is bound to. -/
def bound (db : ControlDb) : Name → Option String
  | .mutation key => (record key db).map IdempotencyRecord.requestHash
  | .replay actor idempotencyKey =>
    (find (fun r : ControlReplayRequest => (r.actorId, r.idempotencyKey)) (actor, idempotencyKey) db.replayRequests).map
      ControlReplayRequest.requestHash

/-! ### Which sessions are refused for their key -/

/-- A session that is refused for its key has seen the key bound to another hash. -/
def Refused (submission : Submission) (past : Conversation) : Except StoreError Decided → Prop
  | .error (.domain error) => error.code = .idempotencyConflict → ∃ name query read hash,
      nameOf submission.request = some name ∧ ⟨.select query, read⟩ ∈ past ∧ bound read name = some hash ∧
      hash ≠ submission.requestHash
  | _ => True

/-- A part that refuses nothing for its key. -/
def Quiet {α : Type} (p : Step α) : Prop :=
  ∀ past, p.Satisfies (fun _ _ => True) (fun _ ended => ∀ error, ended = .error (.domain error) →
    error.code ≠ .idempotencyConflict) past

section
variable {α β : Type} {past : Conversation} {post : Conversation → Except StoreError β → Prop}

theorem satisfies_lock {l : ControlLock} {f : Unit → Step β}
    (rest : (f ()).Satisfies (fun _ _ => True) post (past ++ [⟨.lock l, ()⟩])) :
    (lock l >>= f : Step β).Satisfies (fun _ _ => True) post past :=
  ⟨trivial, fun _ => rest⟩

theorem satisfies_select {query : ControlQuery} {f : ControlDb → Step β}
    (rest : ∀ db, (f db).Satisfies (fun _ _ => True) post (past ++ [⟨.select query, db⟩])) :
    (select query >>= f : Step β).Satisfies (fun _ _ => True) post past :=
  ⟨trivial, rest⟩

theorem quiet_done (a : α) : Quiet (.done a) := by
  intro past error impossible
  cases impossible

theorem quiet_refuse {code : DomainErrorCode} {message : String} (other : code ≠ .idempotencyConflict) :
    Quiet (refuse code message : Step α) := by
  intro past error same
  cases same
  exact other

theorem quiet_bind {p : Step α} {f : α → Step β} (first : Quiet p) (rest : ∀ a, Quiet (f a)) : Quiet (p >>= f) :=
  fun past => satisfies_bind (first past) (fun later a _ => rest a later) fun _ error quiet other same => by
    cases same
    exact quiet _ rfl

theorem quiet_lock {l : ControlLock} {f : Unit → Step β} (rest : Quiet (f ())) : Quiet (lock l >>= f) :=
  fun _ => satisfies_lock (rest _)

theorem quiet_select {query : ControlQuery} {f : ControlDb → Step β} (rest : ∀ db, Quiet (f db)) :
    Quiet (select query >>= f) :=
  fun _ => satisfies_select fun db => rest db _

theorem quiet_checked {result : Except DomainError α} (other : ∀ error, result = .error error → error.code ≠ .idempotencyConflict) :
    Quiet (checked result) := by
  intro past
  cases result with
  | ok a => exact quiet_done a past
  | error error =>
    intro failed same
    cases same
    exact other error rfl

theorem quiet_ite {condition : Prop} [Decidable condition] {p q : Step α} (first : Quiet p) (second : Quiet q) :
    Quiet (if condition then p else q) := by
  split
  · exact first
  · exact second

end

/-! ### The parts of the acceptances -/

theorem lockInstanceForMutation_quiet (projectId instanceId : Uuid) : Quiet (lockInstanceForMutation projectId instanceId) := by
  refine quiet_lock (quiet_select fun db => ?_)
  split
  · exact quiet_refuse (by decide)
  · exact quiet_ite (quiet_refuse (by decide)) (quiet_ite (quiet_refuse (by decide)) (quiet_done _))

theorem assertResizeQuotaHeadroom_quiet (projectId : Uuid) (current target : Resources) :
    Quiet (assertResizeQuotaHeadroom projectId current target) := by
  refine quiet_select fun db => ?_
  split
  · exact quiet_refuse (by decide)
  · exact quiet_select fun _ => quiet_ite (quiet_refuse (by decide)) (quiet_done _)

theorem assertSnapshotHeadroom_quiet (projectId : Uuid) : Quiet (assertSnapshotHeadroom projectId) := by
  refine quiet_select fun db => ?_
  split
  · exact quiet_refuse (by decide)
  · exact quiet_select fun _ => quiet_ite (quiet_refuse (by decide)) (quiet_done _)

theorem loadAcceptanceContext_quiet (command : CreateInstanceCommand) : Quiet (loadAcceptanceContext command) := by
  refine quiet_select fun db => ?_
  split
  · exact quiet_refuse (by decide)
  · refine quiet_ite (quiet_refuse (by decide)) (quiet_select fun _ => quiet_select fun _ => quiet_select fun _ =>
      quiet_select fun _ => ?_)
    split
    · exact quiet_ite (quiet_refuse (by decide)) (quiet_ite (quiet_refuse (by decide)) (quiet_done _))
    · exact quiet_refuse (by decide)

theorem assertQuotaHeadroom_quiet (command : CreateInstanceCommand) (context : AcceptanceContext) :
    Quiet (assertQuotaHeadroom command context) :=
  quiet_select fun _ => quiet_ite (quiet_refuse (by decide)) (quiet_done _)

theorem validateResize_quiet {current requested : Resources} {error : DomainError}
    (failed : validateResize current requested = .error error) : error.code ≠ .idempotencyConflict := by
  unfold validateResize at failed
  split at failed
  · cases failed; decide
  · split at failed
    · cases failed; decide
    · cases failed

theorem allocateIpv4_quiet {number : String → Option Int} {pool : Ipv4Pool} {leased : List String} {error : DomainError}
    (failed : allocateIpv4 number pool leased = .error error) : error.code ≠ .idempotencyConflict := by
  simp only [allocateIpv4] at failed
  repeat' split at failed
  all_goals cases failed
  all_goals decide

theorem reserveIpv4Address_quiet (host : Host) (context : AcceptanceContext) : Quiet (reserveIpv4Address host context) :=
  quiet_lock (quiet_select fun _ => quiet_ite (quiet_refuse (by decide)) (quiet_checked fun _ => allocateIpv4_quiet))

theorem buildAcceptanceRecords_quiet {host : Host} {draws : Draws} {command : CreateInstanceCommand}
    {context : AcceptanceContext} {address : String} {error : DomainError}
    (failed : buildAcceptanceRecords host draws command context address = .error error) :
    error.code ≠ .idempotencyConflict := by
  simp only [buildAcceptanceRecords, dnsTuple, sshField, sshTuple] at failed
  repeat' split at failed
  all_goals cases failed
  all_goals decide

/-- A mutation is refused for its key by the lookup, and by nothing after it. -/
theorem accept_quiet (host : Host) (draws : Draws) (requestHash : String) {request : Request} {identity : MutationIdentity}
    {action : WorkflowAction} (known : scope request = some (identity, action)) :
    ∃ inner, accept host draws requestHash request = unlessReplayed identity action requestHash inner ∧ Quiet inner := by
  cases request with
  | create command =>
    cases known
    refine ⟨_, rfl, quiet_bind (loadAcceptanceContext_quiet command) fun context => ?_⟩
    refine quiet_bind (assertQuotaHeadroom_quiet command context) fun _ => ?_
    refine quiet_bind (reserveIpv4Address_quiet host context) fun address => ?_
    exact quiet_bind (quiet_checked fun _ => buildAcceptanceRecords_quiet) fun records => quiet_done _
  | power command =>
    cases known
    exact ⟨_, rfl, quiet_bind (lockInstanceForMutation_quiet _ _) fun row => quiet_done _⟩
  | resize command =>
    cases known
    refine ⟨_, rfl, quiet_bind (lockInstanceForMutation_quiet _ _) fun row => quiet_select fun db => ?_⟩
    split
    · exact quiet_refuse (by decide)
    · exact quiet_bind (quiet_checked fun _ => validateResize_quiet) fun _ =>
        quiet_bind (assertResizeQuotaHeadroom_quiet _ _ _) fun _ => quiet_done _
  | snapshotCreate command =>
    cases known
    refine ⟨_, rfl, quiet_bind (lockInstanceForMutation_quiet _ _) fun row => ?_⟩
    refine quiet_bind (assertSnapshotHeadroom_quiet _) fun _ => quiet_select fun db => ?_
    exact quiet_ite (quiet_refuse (by decide)) (quiet_done _)
  | snapshotAction kind command =>
    cases known
    refine ⟨_, rfl, quiet_bind (lockInstanceForMutation_quiet _ _) fun row => quiet_lock (quiet_select fun db => ?_)⟩
    split
    · exact quiet_refuse (by decide)
    · exact quiet_ite (quiet_refuse (by decide)) (quiet_ite (quiet_refuse (by decide)) (quiet_done _))
  | retention command =>
    cases known
    refine ⟨_, rfl, quiet_bind (lockInstanceForMutation_quiet _ _) fun row => quiet_select fun db => ?_⟩
    split
    · intro past error same
      cases same
    · exact quiet_done _
  | purge command =>
    simp only [scope] at known
    split at known
    next => cases known
    next confirmed =>
      cases known
      refine ⟨_, if_neg confirmed, quiet_lock (quiet_select fun db => ?_)⟩
      split
      · exact quiet_refuse (by decide)
      · refine quiet_ite (quiet_refuse (by decide)) (quiet_ite (quiet_refuse (by decide)) ?_)
        split
        · exact quiet_refuse (by decide)
        · exact quiet_done _
  | replay command => cases known

/-! ### A conflict was seen -/

section
variable {submission : Submission} {identity : MutationIdentity} {action : WorkflowAction}

/-- The lookup of a key refuses what it finds under another hash. -/
theorem findReplayedResponse_refused (past : Conversation) :
    (findReplayedResponse identity action submission.requestHash).Satisfies (fun _ _ => True)
      (fun later ended => ∀ error, ended = .error (.domain error) → ∃ read hash,
        ⟨.select .idempotencyRecord, read⟩ ∈ later ∧ bound read (.mutation (keyOf identity action)) = some hash ∧
          hash ≠ submission.requestHash) past := by
  refine satisfies_select fun read => ?_
  split
  next absent =>
    intro error impossible
    cases impossible
  next previous found =>
    split
    next differs =>
      intro error same
      exact ⟨read, previous.requestHash, by simp, by simp [bound, record, keyOf, found], differs⟩
    next agrees =>
      intro error impossible
      cases impossible

theorem unlessReplayed_refused {inner : Accepting} (quiet : Quiet inner)
    (named : nameOf submission.request = some (.mutation (keyOf identity action))) (past : Conversation) :
    (unlessReplayed identity action submission.requestHash inner).Satisfies (fun _ _ => True) (Refused submission) past := by
  refine satisfies_lock (satisfies_bind (findReplayedResponse_refused _) ?_ ?_)
  · intro later found _
    cases found with
    | some replayed => trivial
    | none =>
      refine (quiet later).weaken (fun _ _ _ => trivial) fun past ended silent => ?_
      cases ended with
      | ok commit => trivial
      | error error =>
        cases error with
        | domain error => exact fun conflict => absurd conflict (silent error rfl)
        | database message => trivial
  · intro later error seen
    cases error with
    | domain error =>
      obtain ⟨read, hash, asked, binds, differs⟩ := seen error rfl
      exact fun _ => ⟨_, _, read, hash, named, asked, binds, differs⟩
    | database message => trivial

theorem requestDeadLetterReplay_refused {command : ReplayDeadLetterCommand} (about : submission.request = .replay command)
    (past : Conversation) : (requestDeadLetterReplay submission.draws command submission.requestHash).Satisfies
      (fun _ _ => True) (Refused submission) past := by
  refine satisfies_lock (satisfies_select fun requests => satisfies_select fun letters => ?_)
  dsimp only
  split
  next => exact fun conflict => by cases conflict
  next letter previous _ asked =>
    split
    next differs =>
      refine fun _ => ⟨.replay command.actor command.idempotencyKey, .replayRequest, requests, previous.requestHash, ?_, ?_, ?_,
        differs⟩
      · rw [about]
        rfl
      · simp
      · simp [bound, asked]
    next => trivial
  next letter _ unasked =>
    split
    next => exact fun conflict => by cases conflict
    next => trivial

theorem nameOf_known {request : Request} (known : scope request = some (identity, action)) :
    nameOf request = some (.mutation (keyOf identity action)) := by
  cases request with
  | replay command => cases known
  | _ => simp [nameOf, known]

/-- Whoever is refused for its key has seen the key bound to another hash. -/
theorem begun_refused (host : Host) (submission : Submission) :
    (begun host submission).Satisfies (fun _ _ => True) (Refused submission) [] := by
  cases known : scope submission.request with
  | some found =>
    obtain ⟨identity, action⟩ := found
    obtain ⟨inner, same, quiet⟩ := accept_quiet host submission.draws submission.requestHash known
    rw [begun, same]
    exact unlessReplayed_refused quiet (nameOf_known known) []
  | none =>
    cases about : submission.request with
    | purge command =>
      rw [about, scope] at known
      split at known
      next unconfirmed =>
        have refused : begun host submission = refuse .validationFailed
            "The confirmation identifier does not match the instance being purged." := by
          rw [begun, about]
          exact if_pos unconfirmed
        rw [refused]
        exact fun conflict => by cases conflict
      next => cases known
    | replay command =>
      rw [begun, about]
      exact requestDeadLetterReplay_refused about []
    | _ => rw [about] at known; cases known

end

/-! ### Runs -/

section
variable {host : Host} {hashing : CanonicalJson.Host} {served : Input → Prop}

/-- A request that the service hands over, with the hash of its content. -/
def Submits (hashing : CanonicalJson.Host) (served : Input → Prop) (submission : Submission) : Prop :=
  ∃ input, served input ∧ submit input = .ok submission.request ∧ submission.requestHash = requestHash hashing input

/-- Every name that is bound is bound to the hash of a request that came under it. -/
def Rooted (hashing : CanonicalJson.Host) (served : Input → Prop) (db : ControlDb) : Prop :=
  ∀ name hash, bound db name = some hash → ∃ submission, Submits hashing served submission ∧
    nameOf submission.request = some name ∧ submission.requestHash = hash

/-- The steps of a store that serves such requests, in which nobody else writes what a
    session has locked, the records of the keys, a new operation or a new command. -/
def Hashed (hashing : CanonicalJson.Host) (served : Input → Prop) (s : Store) :
    Transactions.Action ControlDb Submission → Prop
  | .start submission => Submits hashing served submission
  | .outside db => Undisturbed s (.outside db) ∧ ∀ name, bound db name = bound s.db name
  | .step _ | .commit _ | .rollback _ => True

theorem hashed_undisturbed (s : Store) (action : Transactions.Action ControlDb Submission)
    (hashed : Hashed hashing served s action) : Undisturbed s action := by
  cases action with
  | outside db => exact hashed.1
  | start submission => trivial
  | step id => trivial
  | commit id => trivial
  | rollback id => trivial

variable {submission : Submission} {past : Conversation} {commit : Decided} {db after : ControlDb}

/-- What is bound beside what was bound before. -/
theorem rooted_more (rooted : Rooted hashing served db) (submits : Submits hashing served submission)
    (more : ∀ name hash, bound after name = some hash →
      bound db name = some hash ∨ nameOf submission.request = some name ∧ submission.requestHash = hash) :
    Rooted hashing served after := by
  intro name hash binds
  rcases more name hash binds with before | ⟨named, same⟩
  · exact rooted name hash before
  · exact ⟨submission, submits, named, same⟩

theorem bound_recorded {identity : MutationIdentity} {action : WorkflowAction} {answer : AcceptedMutation}
    (known : scope submission.request = some (identity, action))
    (recorded : Recorded db after (idempotencyRecord identity action submission.requestHash answer))
    (replays : after.replayRequests = db.replayRequests) (name : Name) (hash : String) (binds : bound after name = some hash) :
    bound db name = some hash ∨ nameOf submission.request = some name ∧ submission.requestHash = hash := by
  cases name with
  | replay actor key =>
    simp only [bound, replays] at binds
    exact .inl binds
  | mutation key =>
    rw [bound, record_recorded recorded] at binds
    split at binds
    next same =>
      subst same
      exact .inr ⟨nameOf_known known, by simpa [idempotencyRecord] using binds⟩
    next => exact .inl binds

theorem decides_rooted (decides : Decides host submission past commit) (submits : Submits hashing served submission)
    (rooted : Rooted hashing served db) (written : commit.write db = .ok after) : Rooted hashing served after := by
  cases decides with
  | again same =>
    rw [same db] at written
    cases written
    exact rooted
  | mutates identity action m known first answers about looked locked modest accepts writes =>
    obtain ⟨mutates, recorded⟩ := writes db after written
    exact rooted_more rooted submits (bound_recorded known recorded mutates.replayRequests)
  | creates command context address records about looked free built decided =>
    subst decided
    obtain ⟨-, -, -, -, -, -, -, -, active, -, document⟩ := buildAcceptanceRecords_ok built
    have creates := writeAcceptanceRecords_ok active document written
    have recorded := writeAcceptanceRecords_records written
    exact rooted_more rooted submits (bound_recorded (by rw [about]; rfl) recorded creates.replayRequests)
  | replays command request event about first new unasked decided =>
    rw [decided] at written
    obtain ⟨_, inserted, done⟩ := bind_ok written
    obtain ⟨_, appended, same⟩ := bind_ok inserted
    cases same
    cases done
    obtain ⟨rfl, -⟩ := insertRow_ok appended
    obtain ⟨-, actor, key, hash⟩ := new
    refine rooted_more rooted submits fun name bound_ binds => ?_
    cases name with
    | mutation key => exact .inl binds
    | replay by_ under =>
      simp only [bound, writeControlOutbox, find_append, Option.map_eq_some_iff] at binds
      obtain ⟨found, here, rfl⟩ := binds
      rcases Option.or_eq_some_iff.mp here with old | ⟨-, only⟩
      · exact .inl (by simp [bound, old])
      · obtain rfl := List.mem_singleton.mp (find_mem only)
        have named := find_key only
        simp only [Prod.mk.injEq] at named
        rw [about, nameOf, ← actor, ← key, named.1, named.2]
        exact .inr ⟨rfl, hash.symm⟩

/-! ### What a run knows -/

variable {s t : Store} {action : Transactions.Action ControlDb Submission}

/-- A store whose keys are bound to what was served, and whose sessions have seen them
    bound so. -/
structure Known (host : Host) (hashing : CanonicalJson.Host) (served : Input → Prop) (s : Store) : Prop where
  kept : Kept host s
  refused : Sound Refused s
  submits : Asked (Submits hashing served) s
  rooted : Rooted hashing served s.db
  viewed : Viewed (Rooted hashing served) s

theorem known_next (known : Known host hashing served s) (hashed : Hashed hashing served s action)
    (taken : next (begun host) s action = some t) : Known host hashing served t := by
  constructor
  · exact kept_next known.kept (undisturbed_admissible s action (hashed_undisturbed s action hashed)) taken
  · exact sound_next (begun_refused host) known.refused taken
  · refine asked_next known.submits (fun submission begins => ?_) taken
    subst begins
    exact hashed
  · cases steps_next taken with
    | commit session member commit ends after written same =>
      subst same
      exact decides_rooted (known.kept.decides member ends) (known.submits session member) known.rooted written
    | outside db same =>
      subst same
      intro name hash binds
      exact known.rooted name hash (hashed.2 name ▸ binds)
    | start request same | lock session member l resume asks free same | select session member query resume asks same
    | leave id same =>
      subst same
      exact known.rooted
  · exact viewed_next known.viewed known.rooted taken

theorem known_begins (rooted : Rooted hashing served db) (opened : Nat) : Known host hashing served ⟨db, [], opened⟩ := by
  refine ⟨kept_run .refl, ?_, by simp [Asked], rooted, by simp [Viewed]⟩
  constructor <;> simp

/-- The hash tells the contents of the requests that are served apart. -/
def Tells (hashing : CanonicalJson.Host) (served : Input → Prop) : Prop :=
  ∀ a b, served a → served b → hashing.sha256 (hashedText hashing a) = hashing.sha256 (hashedText hashing b) →
    hashedText hashing a = hashedText hashing b

/-- What is answered under one key has one hash, and one answer but for its mark. -/
theorem bound_alike {first last : Option IdempotencyRecord} {given : List Given} (bound : Bound first given last)
    {one two : Given} (listed : one ∈ given) (also : two ∈ given) :
    one.1 = two.1 ∧ { one.2 with replayed := true } = { two.2 with replayed := true } := by
  have told : ∀ record : IdempotencyRecord, (∀ other ∈ given, other = again record ∨ other = (record.requestHash, record.response)) →
      one.1 = two.1 ∧ { one.2 with replayed := true } = { two.2 with replayed := true } := by
    intro record same
    rcases same one listed with rfl | rfl <;> rcases same two also with rfl | rfl <;> exact ⟨rfl, rfl⟩
  cases bound with
  | unused => cases listed
  | taken record _ same => exact told record fun other member => .inl (same other member)
  | first record later _ same =>
    refine told record fun other member => ?_
    rcases List.mem_cons.mp member with rfl | repeated
    · exact .inr rfl
    · exact .inl (same other repeated)

theorem hashed_asks (s : Store) (submission : Submission) (hashed : Hashed hashing served s (.start submission)) :
    Submits hashing served submission := hashed

end

/-! ### A key that is used twice -/

/-- A power action under a key that every action has. -/
def sampleAction (action : String) : Input :=
  .mutateInstancePower
    { actor := ⟨"alice", ["tenant_developer"], [sampleCreate.projectId]⟩, projectId := sampleCreate.projectId,
      idempotencyKey := "idempotency-a", correlationId := sampleCreate.correlationId,
      instanceId := sampleCreate.aggregateId, action }

/-- A hash that tells one of them from all others. -/
def sampleHashing : CanonicalJson.Host :=
  { CanonicalJson.sampleHost with
    sha256 := fun text => if text = hashedText CanonicalJson.sampleHost (sampleAction "stop") then "a" else "b" }

def sampleInputs (input : Input) : Prop := input = sampleAction "stop" ∨ input = sampleAction "start"

/-- A control plane with an active instance, whose keys have expired. -/
def sampleExpired : Store := { sampleServed with db := { sampleServed.db with idempotencyRecords := [] } }

def sampleStarting : Submission where
  draws := (sampleStop "b").draws
  request := .power
    { Lifecycle.sampleIdentity "idempotency-a" with
      instanceId := sampleCreate.aggregateId, correlationId := sampleCreate.correlationId, action := .start }
  requestHash := "b"

/-- The second request waits for the first, which has its key. -/
def sampleConflicting : List (Transactions.Action ControlDb Submission) :=
  .start (sampleStop "a") :: .start sampleStarting :: List.replicate 4 (.step 0) ++ [.commit 0, .step 1, .step 1]

theorem requestHash_stop : requestHash sampleHashing (sampleAction "stop") = "a" := if_pos rfl

theorem requestHash_start : requestHash sampleHashing (sampleAction "start") = "b" := by
  refine if_neg fun same => ?_
  obtain ⟨-, -, -, action⟩ := @alike_of_hashedText _ _ CanonicalJson.sampleHost same
  exact absurd action (by decide)

theorem sampleExpired_rooted : Rooted sampleHashing sampleInputs sampleExpired.db := by
  intro name hash binds
  cases name with
  | mutation key => cases binds
  | replay actor idempotencyKey => cases binds

theorem sampleHashing_tells : Tells sampleHashing sampleInputs := by
  rintro a b (rfl | rfl) (rfl | rfl) same
  · rfl
  · exact absurd (requestHash_stop.symm.trans (same.trans requestHash_start)) (by decide)
  · exact absurd (requestHash_stop.symm.trans (same.symm.trans requestHash_start)) (by decide)
  · rfl

end ControlPlane.KeyConflicts
