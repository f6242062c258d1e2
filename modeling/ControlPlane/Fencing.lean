import ControlPlane.StoreRules
import ControlPlane.Runs

/-!
Leases and fencing tokens over whole runs of the workflow store. Any number of
workers call the operations of the store in any order while time passes, and a
history keeps the tokens that were issued and the writes that passed the fence.
The lease row of an instance always names the newest issue of the history
(`Linked`), which is why a write that passes presents it.
-/
namespace ControlPlane.Fencing
open ControlPlane.Tables ControlPlane.Runs ControlPlane.Domain ControlPlane.Commands
open ControlPlane.EventValidation ControlPlane.WorkflowSchema ControlPlane.WorkflowStore ControlPlane.StoreRules

/-- A token that was handed out, to whom and until when. -/
structure Issue where
  workerId : String
  token : Nat
  leasedUntil : Instant
  deriving DecidableEq, Repr

/-- A write that succeeded, and what it presented. -/
structure Write where
  operationId : Uuid
  workerId : String
  token : Nat
  writtenAt : Instant
  deriving DecidableEq, Repr

/-- What the leases of an instance were used for. -/
inductive Entry
  | issued (instanceId : Uuid) (issue : Issue)
  | wrote (instanceId : Uuid) (write : Write)
  deriving DecidableEq, Repr

def issues (i : Uuid) (history : List Entry) : List Issue :=
  history.filterMap fun
    | .issued j issue => if j = i then some issue else none
    | .wrote _ _ => none

def writes (i : Uuid) (history : List Entry) : List Write :=
  history.filterMap fun
    | .issued _ _ => none
    | .wrote j write => if j = i then some write else none

structure State where
  db : WorkflowDb
  now : Instant
  history : List Entry

def initial (now : Instant) : State := ⟨{}, now, []⟩

/-- A call of the store by anyone, or time passing. -/
inductive StoreCall
  | admitCommand (fresh : Nat → Uuid) (command : LifecycleCommand) (delivery : MessageDeliveryIdentity)
  | admitReplayRequest (fresh : Nat → Uuid) (request : ProvisioningReplayRequested)
      (delivery : MessageDeliveryIdentity)
  | deadLetterCommand (fresh : Nat → Uuid) (input : DeadLetterCommandInput)
  | claimNext (workerId : String) (leaseSeconds : Nat) (action : WorkflowAction) (locked : Uuid → Bool)
  | checkpoint (fresh : Nat → Uuid) (input : CheckpointInput)
  | complete (fresh : Nat → Uuid) (input : CompleteInput)
  | deadLetterWorkflow (fresh : Nat → Uuid) (input : DeadLetterWorkflowInput)
  | pass (elapsed : Nat)

/-- The state after a transaction, which changes nothing when it throws. -/
def committed {α : Type} (s : State) : Except String (α × WorkflowDb) → State
  | .ok (_, db) => { s with db := db }
  | .error _ => s

/-- The state after a stage write, noted in the history when it succeeds. -/
def written (s : State) (fence : Fence) : Except String WorkflowDb → State
  | .ok db => { s with
      db := db,
      history := s.history ++ (s.db.workflow fence.operationId).toList.map fun row =>
        .wrote row.instanceId ⟨fence.operationId, fence.workerId, fence.fencingToken, s.now⟩ }
  | .error _ => s

/-- The state after a claim, noted in the history when it hands out a token. -/
def claimedState (s : State) (workerId : String) (leaseSeconds : Nat) (action : WorkflowAction)
    (locked : Uuid → Bool) : State :=
  match claimNext s.db workerId leaseSeconds action locked s.now with
  | .ok (some (claimed, db)) => { s with
      db := db,
      history := s.history ++ (readyWorkflow s.db workerId action s.now locked).toList.map fun row =>
        .issued row.instanceId ⟨workerId, claimed.fencingToken, s.now + leaseSeconds * 1000⟩ }
  | _ => s

variable (host : Host)

def next (s : State) : StoreCall → Option State
  | .admitCommand fresh command delivery =>
    some (committed s (admitCommand host s.db fresh command delivery s.now))
  | .admitReplayRequest fresh request delivery =>
    some (committed s (admitReplayRequest host s.db fresh request delivery s.now))
  | .deadLetterCommand fresh input => some (committed s (deadLetterCommand host s.db fresh input s.now))
  | .claimNext workerId leaseSeconds action locked => some (claimedState s workerId leaseSeconds action locked)
  | .checkpoint fresh input => some (written s input.toFence (checkpoint s.db fresh input s.now))
  | .complete fresh input => some (written s input.toFence (complete s.db fresh input s.now))
  | .deadLetterWorkflow fresh input => some (written s input.toFence (deadLetterWorkflow s.db fresh input s.now))
  | .pass elapsed => some { s with now := s.now + elapsed }

/-- Every way in which a call changes the tables. -/
inductive Called (s : State) : StoreCall → WorkflowDb → Prop
  | nothing (call : StoreCall) : Called s call s.db
  | admitted {fresh : Nat → Uuid} {command : LifecycleCommand} {delivery : MessageDeliveryIdentity}
      {admission : CommandAdmission} {after : WorkflowDb}
      (admitted : CommandAdmitted host s.db fresh command delivery s.now admission after) :
      Called s (.admitCommand fresh command delivery) after
  | decided {fresh : Nat → Uuid} {request : ProvisioningReplayRequested} {delivery : MessageDeliveryIdentity}
      {admission : ReplayAdmission} {after : WorkflowDb}
      (decided : ReplayDecided host s.db fresh request delivery s.now admission after) :
      Called s (.admitReplayRequest fresh request delivery) after
  | stored {fresh : Nat → Uuid} {input : DeadLetterCommandInput}
      (new : s.db.receipt input.message.envelope.eventId input.delivery.replayGeneration = none) :
      Called s (.deadLetterCommand fresh input)
        (writeDeadLetter (received host s.db input.message input.delivery s.now (some s.now)) (fresh 0) (fresh 1)
          { original := input.message, failureCategory := .permanent, failureCode := input.failureCode,
            safeMessage := input.safeMessage, attempts := input.attempts, replayAllowed := input.replayAllowed,
            replayGeneration := input.delivery.replayGeneration } s.now)
  | claimed {workerId : String} {leaseSeconds : Nat} {action : WorkflowAction} {locked : Uuid → Bool}
      {row : WorkflowRow} {claimed : ClaimedWorkflow} {after : WorkflowDb}
      (claim : Claim s.db after workerId leaseSeconds s.now row claimed) :
      Called s (.claimNext workerId leaseSeconds action locked) after
  | checkpointed {fresh : Nat → Uuid} {input : CheckpointInput} {row : WorkflowRow} {lease : LeaseRow}
      (held : Held s.db input.toFence s.now row lease) :
      Called s (.checkpoint fresh input) (releaseLease
        (writeEvent (updateWorkflow s.db input.operationId (checkpointRow input s.now)) (fresh 0) input.event)
        row.instanceId input.toFence s.now)
  | completed {fresh : Nat → Uuid} {input : CompleteInput} {row : WorkflowRow} {lease : LeaseRow}
      (held : Held s.db input.toFence s.now row lease) :
      Called s (.complete fresh input) (releaseLease
        (writeEvent (completeReceipt (updateWorkflow s.db input.operationId (completedRow input s.now)) row s.now)
          (fresh 0) input.event)
        row.instanceId input.toFence s.now)
  | exhausted {fresh : Nat → Uuid} {input : DeadLetterWorkflowInput} {row : WorkflowRow} {lease : LeaseRow}
      (held : Held s.db input.toFence s.now row lease) :
      Called s (.deadLetterWorkflow fresh input) (releaseLease
        (writeDeadLetter
          (writeEvent (completeReceipt (updateWorkflow s.db input.operationId (deadLetteredRow input s.now)) row s.now)
            (fresh 0) input.event)
          (fresh 1) (fresh 2) (exhaustedNote input row.command row.replayGeneration) s.now)
        row.instanceId input.toFence s.now)

/-- A call changes the tables in one of these ways; time never runs backwards. -/
theorem called_next {s t : State} {call : StoreCall} (taken : next host s call = some t) :
    Called host s call t.db ∧ s.now ≤ t.now := by
  cases call with
  | admitCommand fresh command delivery =>
    cases taken
    cases ended : admitCommand host s.db fresh command delivery s.now with
    | error => exact ⟨.nothing _, Nat.le_refl _⟩
    | ok result => exact ⟨.admitted (admitCommand_cases ended), Nat.le_refl _⟩
  | admitReplayRequest fresh request delivery =>
    cases taken
    cases ended : admitReplayRequest host s.db fresh request delivery s.now with
    | error => exact ⟨.nothing _, Nat.le_refl _⟩
    | ok result => exact ⟨.decided (admitReplayRequest_cases ended), Nat.le_refl _⟩
  | deadLetterCommand fresh input =>
    cases taken
    cases ended : deadLetterCommand host s.db fresh input s.now with
    | error => exact ⟨.nothing _, Nat.le_refl _⟩
    | ok result =>
      obtain ⟨stored, after⟩ := result
      rcases deadLetterCommand_cases ended with ⟨-, rfl, -⟩ | ⟨-, new, rfl⟩
      · exact ⟨.nothing _, Nat.le_refl _⟩
      · exact ⟨.stored new, Nat.le_refl _⟩
  | claimNext workerId leaseSeconds action locked =>
    cases taken
    simp only [claimedState]
    split
    next claimed after ended =>
      obtain ⟨row, -, claim⟩ := claimNext_ok ended
      exact ⟨.claimed claim, Nat.le_refl _⟩
    next => exact ⟨.nothing _, Nat.le_refl _⟩
  | checkpoint fresh input =>
    cases taken
    cases ended : checkpoint s.db fresh input s.now with
    | error => exact ⟨.nothing _, Nat.le_refl _⟩
    | ok after =>
      obtain ⟨row, lease, held, rfl⟩ := checkpoint_cases ended
      exact ⟨.checkpointed held, Nat.le_refl _⟩
  | complete fresh input =>
    cases taken
    cases ended : complete s.db fresh input s.now with
    | error => exact ⟨.nothing _, Nat.le_refl _⟩
    | ok after =>
      obtain ⟨row, lease, held, rfl⟩ := complete_cases ended
      exact ⟨.completed held, Nat.le_refl _⟩
  | deadLetterWorkflow fresh input =>
    cases taken
    cases ended : deadLetterWorkflow s.db fresh input s.now with
    | error => exact ⟨.nothing _, Nat.le_refl _⟩
    | ok after =>
      obtain ⟨row, lease, held, rfl⟩ := deadLetterWorkflow_cases ended
      exact ⟨.exhausted held, Nat.le_refl _⟩
  | pass elapsed => cases taken; exact ⟨.nothing _, Nat.le_add_right _ _⟩

/-! ### The invariant -/

/-- A history whose issues grow and whose writes each present the newest issue,
    before it expires and for the first time. -/
inductive Ordered : List Entry → Prop
  | start : Ordered []
  | issued {history : List Entry} {i : Uuid} {issue : Issue} (earlier : Ordered history)
      (newer : ∀ old ∈ issues i history, old.token < issue.token) : Ordered (history ++ [.issued i issue])
  | wrote {history : List Entry} {i : Uuid} {write : Write} {issue : Issue} (earlier : Ordered history)
      (newest : (issues i history).getLast? = some issue)
      (presented : write.workerId = issue.workerId ∧ write.token = issue.token)
      (live : write.writtenAt < issue.leasedUntil) (first : ∀ old ∈ writes i history, old.token ≠ write.token) :
      Ordered (history ++ [.wrote i write])

/-- The lease of an instance is its newest issue, possibly expired early, and it
    is expired once its token was used. -/
structure LeaseLinked (lease : LeaseRow) (now : Instant) (issued : List Issue) (written : List Write) : Prop where
  newest : ∃ issue, issued.getLast? = some issue ∧ lease.ownerId = issue.workerId ∧
    lease.fencingToken = issue.token ∧ lease.leasedUntil ≤ issue.leasedUntil
  issuesBelow : ∀ issue ∈ issued, issue.token ≤ lease.fencingToken
  writesBelow : ∀ write ∈ written, write.token ≤ lease.fencingToken
  spent : ∀ write ∈ written, write.token = lease.fencingToken → lease.leasedUntil ≤ now

structure Linked (leases : List LeaseRow) (now : Instant) (history : List Entry) : Prop where
  ordered : Ordered history
  unleased : ∀ i, find LeaseRow.instanceId i leases = none → issues i history = [] ∧ writes i history = []
  leased : ∀ i lease, find LeaseRow.instanceId i leases = some lease →
    LeaseLinked lease now (issues i history) (writes i history)

@[simp] theorem issues_append (i : Uuid) (history more : List Entry) :
    issues i (history ++ more) = issues i history ++ issues i more := List.filterMap_append
@[simp] theorem writes_append (i : Uuid) (history more : List Entry) :
    writes i (history ++ more) = writes i history ++ writes i more := List.filterMap_append
@[simp] theorem issues_issued (i j : Uuid) (issue : Issue) :
    issues i [.issued j issue] = if j = i then [issue] else [] := by
  by_cases same : j = i <;> simp [issues, same]
@[simp] theorem issues_wrote (i j : Uuid) (write : Write) : issues i [.wrote j write] = [] := rfl
@[simp] theorem writes_issued (i j : Uuid) (issue : Issue) : writes i [.issued j issue] = [] := rfl
@[simp] theorem writes_wrote (i j : Uuid) (write : Write) :
    writes i [.wrote j write] = if j = i then [write] else [] := by
  by_cases same : j = i <;> simp [writes, same]

theorem linked_pass {leases : List LeaseRow} {now : Instant} {history : List Entry} (linked : Linked leases now history)
    (elapsed : Nat) : Linked leases (now + elapsed) history := by
  refine ⟨linked.ordered, linked.unleased, fun i lease found => ?_⟩
  obtain ⟨newest, issuesBelow, writesBelow, spent⟩ := linked.leased i lease found
  exact ⟨newest, issuesBelow, writesBelow, fun write member same => Nat.le_add_right_of_le (spent write member same)⟩

/-- A claim appends the issue that its lease row then names. -/
theorem linked_takeLease {db leased : WorkflowDb} {i : Uuid} {workerId : String} {leasedUntil now : Instant}
    {token : Nat} {history : List Entry} (linked : Linked db.instanceLeases now history)
    (taken : takeLease db i workerId leasedUntil now = some (token, leased)) :
    Linked leased.instanceLeases now (history ++ [.issued i ⟨workerId, token, leasedUntil⟩]) := by
  simp only [takeLease] at taken
  split at taken
  next absent =>
    cases taken
    obtain ⟨noIssue, noWrite⟩ := linked.unleased i absent
    refine ⟨.issued linked.ordered (by simp [noIssue]), fun j missing => ?_, fun j lease found => ?_⟩
    · rw [find_append, Option.or_eq_none_iff] at missing
      have other : i ≠ j := by rintro rfl; exact absurd missing.2 (by simp [find])
      simpa [other] using linked.unleased j missing.1
    · rw [find_append] at found
      by_cases same : i = j
      · subst same
        rw [show find LeaseRow.instanceId i db.instanceLeases = none from absent, Option.none_or] at found
        obtain rfl : _ = lease := by simpa [find] using found
        refine ⟨⟨⟨workerId, 1, leasedUntil⟩, by simp [noIssue], rfl, rfl, Nat.le_refl _⟩, by simp [noIssue],
          by simp [noWrite], by simp [noWrite]⟩
      · rw [show find LeaseRow.instanceId j [(⟨i, workerId, 1, leasedUntil⟩ : LeaseRow)] = none by simp [find, same],
          Option.or_none] at found
        simpa [same] using linked.leased j lease found
  next old held =>
    split at taken
    next =>
      cases taken
      obtain ⟨newest, issuesBelow, writesBelow, spent⟩ := linked.leased i old held
      have keeps : ∀ l : LeaseRow, ({ l with
          ownerId := workerId, fencingToken := l.fencingToken + 1, leasedUntil := leasedUntil } : LeaseRow).instanceId =
          l.instanceId := fun _ => rfl
      refine ⟨.issued linked.ordered fun issue member => Nat.lt_succ_of_le (issuesBelow issue member),
        fun j missing => ?_, fun j lease found => ?_⟩
      · rw [find_update keeps, Option.map_eq_none_iff] at missing
        have other : i ≠ j := by rintro rfl; rw [WorkflowDb.lease, missing] at held; cases held
        simpa [other] using linked.unleased j missing
      · rw [find_update keeps] at found
        obtain ⟨row, present, rewritten⟩ := Option.map_eq_some_iff.mp found
        by_cases same : i = j
        · subst same
          rw [WorkflowDb.lease, present] at held
          cases held
          rw [if_pos (find_key present)] at rewritten
          subst rewritten
          refine ⟨⟨⟨workerId, old.fencingToken + 1, leasedUntil⟩, by simp, rfl, rfl, Nat.le_refl _⟩, ?_, ?_, ?_⟩
          · simp only [issues_append, issues_issued, if_true, List.mem_append, List.mem_singleton]
            rintro issue (before | rfl)
            · exact Nat.le_succ_of_le (issuesBelow issue before)
            · exact Nat.le_refl _
          · simpa using fun write member => Nat.le_succ_of_le (writesBelow write member)
          · intro write member equal
            have below := writesBelow write (by simpa using member)
            simp only at equal
            omega
        · rw [if_neg (fun key => same (key.symm.trans (find_key present)))] at rewritten
          subst rewritten
          simpa [same] using linked.leased j row present
    next => cases taken

/-- A write that passes the fence presents the newest issue, and expires it. -/
theorem linked_write {db : WorkflowDb} {fence : Fence} {now : Instant} {row : WorkflowRow} {lease : LeaseRow}
    {history : List Entry} (linked : Linked db.instanceLeases now history) (held : Held db fence now row lease) :
    Linked (releaseLease db row.instanceId fence now).instanceLeases now
      (history ++ [.wrote row.instanceId ⟨fence.operationId, fence.workerId, fence.fencingToken, now⟩]) := by
  obtain ⟨⟨issue, last, owner, token, until_⟩, issuesBelow, writesBelow, spent⟩ :=
    linked.leased row.instanceId lease held.leased
  have keeps : ∀ l : LeaseRow, ({ l with leasedUntil := now } : LeaseRow).instanceId = l.instanceId := fun _ => rfl
  have unused : ∀ write ∈ writes row.instanceId history, write.token ≠ fence.fencingToken := by
    intro write member same
    exact absurd (spent write member (same.trans held.leaseToken.symm)) (Nat.not_le.mpr held.live)
  refine ⟨.wrote linked.ordered last ⟨held.owner.symm.trans owner, held.leaseToken.symm.trans token⟩
      (Nat.lt_of_lt_of_le held.live until_) unused, fun j missing => ?_, fun j found leased => ?_⟩
  · simp only [releaseLease, find_update keeps, Option.map_eq_none_iff] at missing
    have other : row.instanceId ≠ j := by
      rintro rfl
      have present := held.leased
      rw [WorkflowDb.lease, missing] at present
      cases present
    simpa [other] using linked.unleased j missing
  · simp only [releaseLease, find_update keeps] at leased
    obtain ⟨old, present, rewritten⟩ := Option.map_eq_some_iff.mp leased
    by_cases same : row.instanceId = j
    · subst same
      have oldLease : old = lease := Option.some.inj (present.symm.trans held.leased)
      subst oldLease
      rw [if_pos ⟨find_key present, held.owner, held.leaseToken⟩] at rewritten
      subst rewritten
      refine ⟨⟨issue, by simpa using last, owner, token, Nat.le_trans (Nat.le_of_lt held.live) until_⟩,
        by simpa using issuesBelow, ?_, fun _ _ _ => Nat.le_refl _⟩
      simp only [writes_append, writes_wrote, if_true, List.mem_append, List.mem_singleton]
      rintro write (before | rfl)
      · exact writesBelow write before
      · exact Nat.le_of_eq held.leaseToken.symm
    · rw [if_neg (fun key => same (key.1.symm.trans (find_key present)))] at rewritten
      subst rewritten
      simpa [same] using linked.leased j old present

/-- Every call keeps the link between the lease rows and the history. -/
theorem linked_next {s t : State} {call : StoreCall} (linked : Linked s.db.instanceLeases s.now s.history)
    (called : next host s call = some t) : Linked t.db.instanceLeases t.now t.history := by
  have unleased : ∀ {α : Type} (ended : Except String (α × WorkflowDb)),
      (∀ answer after, ended = .ok (answer, after) → after.instanceLeases = s.db.instanceLeases) →
      some (committed s ended) = some t → Linked t.db.instanceLeases t.now t.history := by
    intro α ended same taken
    cases taken
    cases ended with
    | error _ => exact linked
    | ok result => rw [committed, same result.1 result.2 rfl]; exact linked
  have staged : ∀ {fence : Fence} {rewrite : WorkflowRow → WorkflowRow} (ended : Except String WorkflowDb),
      (∀ after, ended = .ok after → StageWrite s.db after fence s.now rewrite) →
      some (written s fence ended) = some t → Linked t.db.instanceLeases t.now t.history := by
    intro fence rewrite ended rule taken
    cases taken
    cases ended with
    | error _ => exact linked
    | ok after =>
      obtain ⟨row, lease, held, leases⟩ := (rule after rfl).held
      simp only [written, held.workflow, Option.toList_some, List.map_cons, List.map_nil, leases]
      exact linked_write linked held
  cases call with
  | admitCommand fresh command delivery =>
    exact unleased _ (fun _ _ ended => (admitCommand_ok ended).2.leases) called
  | admitReplayRequest fresh request delivery =>
    exact unleased _ (fun _ _ ended => (admitReplayRequest_ok ended).2.1.leases) called
  | deadLetterCommand fresh input => exact unleased _ (fun _ _ ended => (deadLetterCommand_ok ended).2.1) called
  | claimNext workerId leaseSeconds action locked =>
    cases called
    simp only [claimedState]
    split
    next claimed after ended =>
      obtain ⟨row, chosen, claim⟩ := claimNext_ok ended
      obtain ⟨leased, taken, rfl⟩ := claim.taken
      simp only [chosen, Option.toList_some, List.map_cons, List.map_nil]
      have issued := linked_takeLease linked taken
      exact issued
    next => exact linked
  | checkpoint fresh input => exact staged _ (fun _ ended => (checkpoint_ok ended).1) called
  | complete fresh input => exact staged _ (fun _ ended => (complete_ok ended).1) called
  | deadLetterWorkflow fresh input =>
    refine @staged _ (deadLetteredRow input s.now) _ (fun _ ended => ?_) called
    obtain ⟨row, -, write, -⟩ := deadLetterWorkflow_ok ended
    exact write
  | pass elapsed => cases called; exact linked_pass linked elapsed

theorem linked_initial (now : Instant) : Linked (initial now).db.instanceLeases now (initial now).history :=
  ⟨.start, fun _ _ => ⟨rfl, rfl⟩, fun _ _ found => by cases found⟩

/-! ### Ended workflows are not written -/

/-- A workflow and the lease of its instance: its token is no newer, and once the
    workflow has ended under the lease's token the lease is expired. -/
def Covered (now : Instant) (row : WorkflowRow) : Option LeaseRow → Prop
  | none => row.fencingToken = 0
  | some lease => row.fencingToken ≤ lease.fencingToken ∧
      (¬ row.live → row.fencingToken = lease.fencingToken → lease.leasedUntil ≤ now)

structure AllCovered (db : WorkflowDb) (now : Instant) : Prop where
  operations : Keyed WorkflowRow.operationId db.workflows
  covered : ∀ row ∈ db.workflows, Covered now row (db.lease row.instanceId)

theorem Covered.later {now later : Instant} {row : WorkflowRow} {lease : Option LeaseRow}
    (covered : Covered now row lease) (passed : now ≤ later) : Covered later row lease := by
  cases lease with
  | none => exact covered
  | some lease => exact ⟨covered.1, fun ended same => Nat.le_trans (covered.2 ended same) passed⟩

/-- A live workflow is covered by any lease that is at least as new. -/
theorem Covered.reopen {now : Instant} {row row' : WorkflowRow} {lease : Option LeaseRow}
    (covered : Covered now row lease) (token : row'.fencingToken = row.fencingToken) (live : row'.live) :
    Covered now row' lease := by
  cases lease with
  | none => exact token.trans covered
  | some lease => exact ⟨token ▸ covered.1, fun ended => absurd live ended⟩

/-- A write that passes the fence is on a workflow that has not ended. -/
theorem AllCovered.held {db : WorkflowDb} {now : Instant} {fence : Fence} {row : WorkflowRow} {lease : LeaseRow}
    (all : AllCovered db now) (held : Held db fence now row lease) : row.live := by
  by_contra ended
  have covered := all.covered row (find_mem held.workflow)
  rw [held.leased] at covered
  have expired := covered.2 ended (held.rowToken.trans held.leaseToken.symm)
  exact absurd held.live (Nat.not_lt.mpr expired)

/-- A claim's lease names its token; the leases of other instances stay. -/
theorem takeLease_lease {db leased : WorkflowDb} {i : Uuid} {workerId : String} {leasedUntil now : Instant} {token : Nat}
    (taken : takeLease db i workerId leasedUntil now = some (token, leased)) :
    (∃ lease, leased.lease i = some lease ∧ lease.fencingToken = token) ∧
      (∀ lease, db.lease i = some lease → lease.fencingToken < token) ∧ 0 < token ∧
      ∀ j, j ≠ i → leased.lease j = db.lease j := by
  simp only [takeLease] at taken
  split at taken
  next absent =>
    cases taken
    refine ⟨⟨⟨i, workerId, 1, leasedUntil⟩, ?_, rfl⟩, fun lease found => ?_, Nat.one_pos, fun j other => ?_⟩
    · have missing : find LeaseRow.instanceId i db.instanceLeases = none := absent
      rw [WorkflowDb.lease, find_append, missing, Option.none_or]
      simp [find]
    · rw [absent] at found; cases found
    · rw [WorkflowDb.lease, find_append, WorkflowDb.lease]
      simp [find, Ne.symm other]
  next old held =>
    split at taken
    next =>
      cases taken
      have keeps : ∀ l : LeaseRow, ({ l with
          ownerId := workerId, fencingToken := l.fencingToken + 1, leasedUntil := leasedUntil } : LeaseRow).instanceId =
          l.instanceId := fun _ => rfl
      have found : find LeaseRow.instanceId i db.instanceLeases = some old := held
      refine ⟨⟨{ old with ownerId := workerId, fencingToken := old.fencingToken + 1, leasedUntil := leasedUntil },
        ?_, rfl⟩, fun lease same => ?_, Nat.succ_pos _, fun j other => ?_⟩
      · simp [WorkflowDb.lease, find_update keeps, found, find_key found]
      · rw [held] at same
        cases same
        exact Nat.lt_succ_self _
      · simp only [WorkflowDb.lease, find_update keeps]
        cases same : find LeaseRow.instanceId j db.instanceLeases with
        | none => rfl
        | some l => simp [find_key same, other]
    next => cases taken

/-- After a stage write the lease of its instance is expired. -/
theorem releaseLease_lease {db : WorkflowDb} {fence : Fence} {now : Instant} {row : WorkflowRow} {lease : LeaseRow}
    (held : Held db fence now row lease) (j : Uuid) :
    (releaseLease db row.instanceId fence now).lease j =
      if j = row.instanceId then some { lease with leasedUntil := now } else db.lease j := by
  have keeps : ∀ l : LeaseRow, ({ l with leasedUntil := now } : LeaseRow).instanceId = l.instanceId := fun _ => rfl
  have found : find LeaseRow.instanceId row.instanceId db.instanceLeases = some lease := held.leased
  simp only [WorkflowDb.lease, releaseLease, find_update keeps]
  split
  next same =>
    subst same
    simp [found, find_key found, held.owner, held.leaseToken]
  next other =>
    cases same : find LeaseRow.instanceId j db.instanceLeases with
    | none => rfl
    | some l => simp [find_key same, other]

theorem covered_written {db : WorkflowDb} {now : Instant} {fence : Fence} {row : WorkflowRow} {lease : LeaseRow}
    {rewrite : WorkflowRow → WorkflowRow} (all : AllCovered db now) (held : Held db fence now row lease)
    (keeps : ∀ w, (rewrite w).operationId = w.operationId ∧ (rewrite w).instanceId = w.instanceId ∧
      (rewrite w).fencingToken = w.fencingToken)
    {after : WorkflowDb} (workflows : after.workflows = (updateWorkflow db fence.operationId rewrite).workflows)
    (leases : after.instanceLeases = (releaseLease db row.instanceId fence now).instanceLeases) :
    AllCovered after now := by
  have leased (j : Uuid) : after.lease j = (releaseLease db row.instanceId fence now).lease j := by
    rw [WorkflowDb.lease, leases]; rfl
  refine ⟨?_, fun w member => ?_⟩
  · rw [workflows]
    exact keyed_update all.operations fun w _ => (keeps w).1
  · rw [workflows] at member
    have same : ∃ old ∈ db.workflows, w.instanceId = old.instanceId ∧ w.fencingToken = old.fencingToken ∧
        (¬ old.live → ¬ w.live ∨ old.instanceId = row.instanceId) ∧ (w = old ∨ old.instanceId = row.instanceId) := by
      obtain ⟨old, present, ⟨chosen, rfl⟩ | ⟨-, rfl⟩⟩ := mem_update.mp member
      · have here : old = row := all.operations.eq_of_key present (find_mem held.workflow)
          (chosen.trans (find_key held.workflow).symm)
        subst here
        exact ⟨old, present, (keeps old).2.1, (keeps old).2.2, fun _ => .inr rfl, .inr rfl⟩
      · exact ⟨w, present, rfl, rfl, fun ended => .inl ended, .inl rfl⟩
    obtain ⟨old, present, instance_, token, -, unchanged⟩ := same
    have covered := all.covered old present
    rw [leased, releaseLease_lease held, instance_]
    split
    next here =>
      rw [here, held.leased] at covered
      exact ⟨token ▸ covered.1, fun _ _ => Nat.le_refl _⟩
    next elsewhere =>
      obtain rfl | here := unchanged
      · exact covered
      · exact absurd here elsewhere

/-- A new workflow has no token, and no lease has the token zero. -/
theorem covered_new {now : Instant} {row : WorkflowRow} {lease : Option LeaseRow} (token : row.fencingToken = 0)
    (live : row.live) : Covered now row lease := by
  cases lease with
  | none => exact token
  | some lease => exact ⟨token ▸ Nat.zero_le _, fun ended => absurd live ended⟩

/-- A claim's token is newer than that of any workflow of its instance. -/
theorem AllCovered.newer {db after : WorkflowDb} {now : Instant} {workerId : String} {leaseSeconds : Nat}
    {row w : WorkflowRow} {claimed : ClaimedWorkflow} (all : AllCovered db now)
    (claim : Claim db after workerId leaseSeconds now row claimed) (member : w ∈ db.workflows)
    (here : w.instanceId = row.instanceId) : w.fencingToken < claimed.fencingToken := by
  obtain ⟨leased, taken, -⟩ := claim.taken
  obtain ⟨-, newer, positive, -⟩ := takeLease_lease taken
  have covered := all.covered w member
  rw [here] at covered
  cases before : db.lease row.instanceId with
  | none =>
    rw [before] at covered
    exact covered ▸ positive
  | some lease =>
    rw [before] at covered
    exact Nat.lt_of_le_of_lt covered.1 (newer lease before)

theorem covered_claimed {db after : WorkflowDb} {now : Instant} {workerId : String} {leaseSeconds : Nat}
    {row : WorkflowRow} {claimed : ClaimedWorkflow} (all : AllCovered db now)
    (claim : Claim db after workerId leaseSeconds now row claimed) : AllCovered after now := by
  have newer : ∀ {w : WorkflowRow}, w ∈ db.workflows → w.instanceId = row.instanceId →
      w.fencingToken < claimed.fencingToken := all.newer claim
  obtain ⟨leased, taken, rfl⟩ := claim.taken
  obtain ⟨⟨lease, held, token⟩, -, -, others⟩ := takeLease_lease taken
  have rows : leased.workflows = db.workflows := (takeLease_rows taken).1
  refine ⟨?_, fun w member => ?_⟩
  · simp only [updateWorkflow, rows]
    exact keyed_update all.operations fun _ _ => rfl
  · simp only [updateWorkflow, rows] at member
    show Covered now w (leased.lease w.instanceId)
    obtain ⟨old, present, ⟨chosen, rfl⟩ | ⟨-, rfl⟩⟩ := mem_update.mp member
    · have here : old = row := all.operations.eq_of_key present claim.member chosen
      subst here
      show Covered now _ (leased.lease old.instanceId)
      rw [held]
      exact ⟨Nat.le_of_eq token.symm, fun ended => absurd (.inl rfl) ended⟩
    · by_cases here : w.instanceId = row.instanceId
      · rw [here, held]
        have below : w.fencingToken < lease.fencingToken := token ▸ newer present here
        exact ⟨Nat.le_of_lt below, fun _ equal => absurd equal (Nat.ne_of_lt below)⟩
      · rw [others _ here]
        exact all.covered w present

theorem covered_next {s t : State} {call : StoreCall} (all : AllCovered s.db s.now)
    (taken : next host s call = some t) : AllCovered t.db t.now := by
  obtain ⟨called, passed⟩ := called_next host taken
  suffices AllCovered t.db s.now from ⟨this.operations, fun row member => (this.covered row member).later passed⟩
  generalize t.db = after at called
  have same {later : WorkflowDb} (workflows : later.workflows = s.db.workflows)
      (leases : later.instanceLeases = s.db.instanceLeases) : AllCovered later s.now := by
    refine ⟨workflows ▸ all.operations, fun row member => ?_⟩
    rw [WorkflowDb.lease, leases]
    exact all.covered row (workflows ▸ member)
  cases called with
  | nothing => exact all
  | admitted admitted =>
    obtain ⟨ways, frame⟩ := admitted.ok
    cases ways with
    | unchanged workflows => exact same workflows frame.leases
    | started resource workflows first =>
      refine ⟨workflows ▸ keyed_append all.operations first, fun row member => ?_⟩
      rw [workflows] at member
      rw [WorkflowDb.lease, frame.leases]
      rcases List.mem_append.mp member with old | new
      · exact all.covered row old
      · rw [List.mem_singleton.mp new]
        exact covered_new rfl (.inl rfl)
    | reopened failed found status sameEvent workflows =>
      refine ⟨workflows ▸ keyed_update all.operations fun _ _ => rfl, fun row member => ?_⟩
      rw [workflows] at member
      rw [WorkflowDb.lease, frame.leases]
      obtain ⟨old, present, ⟨-, rfl⟩ | ⟨-, rfl⟩⟩ := mem_update.mp member
      · exact (all.covered old present).reopen rfl (.inl rfl)
      · exact all.covered row present
  | decided decided =>
    cases decided with
    | duplicate => exact all
    | rejected => exact same rfl rfl
    | accepted => exact same rfl rfl
  | stored => exact same rfl rfl
  | claimed claim => exact covered_claimed all claim
  | checkpointed held => exact covered_written all held (by intro w; exact ⟨rfl, rfl, rfl⟩) rfl rfl
  | completed held => exact covered_written all held (by intro w; exact ⟨rfl, rfl, rfl⟩) rfl rfl
  | exhausted held => exact covered_written all held (by intro w; exact ⟨rfl, rfl, rfl⟩) rfl rfl

/-! ### What an ordered history says -/

theorem Ordered.increasing {history : List Entry} (ordered : Ordered history) (i : Uuid) :
    ((issues i history).map Issue.token).Pairwise (· < ·) := by
  induction ordered with
  | start => exact .nil
  | @issued history j issue earlier newer ih =>
    by_cases same : j = i
    · subst same
      simp only [issues_append, issues_issued, if_true, List.map_append, List.map_cons, List.map_nil,
        List.pairwise_append]
      refine ⟨ih, List.pairwise_singleton _ _, ?_⟩
      rintro token old later new
      obtain ⟨issue', member, rfl⟩ := List.mem_map.mp old
      rw [List.mem_singleton.mp new]
      exact newer issue' member
    · simpa [same] using ih
  | wrote earlier newest presented live first ih => simpa using ih

/-- A write in an ordered history presents the newest issue before it, in time,
    and no write before it presented that token. -/
theorem Ordered.write {history : List Entry} (ordered : Ordered history) {before after : List Entry} {i : Uuid}
    {write : Write} (split : history = before ++ .wrote i write :: after) :
    (∃ issue, (issues i before).getLast? = some issue ∧ write.workerId = issue.workerId ∧
      write.token = issue.token ∧ write.writtenAt < issue.leasedUntil) ∧
    ∀ old ∈ writes i before, old.token ≠ write.token := by
  induction ordered generalizing after with
  | start => simp at split
  | @issued history j issue earlier newer ih =>
    rcases List.eq_nil_or_concat after with rfl | ⟨rest, last, rfl⟩
    · have := List.append_inj_right' split rfl
      simp at this
    · rw [List.concat_eq_append, ← List.cons_append, ← List.append_assoc] at split
      exact ih (List.append_inj_left' split rfl)
  | @wrote history j write' issue earlier newest presented live first ih =>
    rcases List.eq_nil_or_concat after with rfl | ⟨rest, last, rfl⟩
    · obtain ⟨same, tail⟩ := List.append_inj' split rfl
      simp only [List.cons.injEq, Entry.wrote.injEq, and_true] at tail
      obtain ⟨rfl, rfl⟩ := tail
      subst same
      exact ⟨⟨issue, newest, presented.1, presented.2, live⟩, first⟩
    · rw [List.concat_eq_append, ← List.cons_append, ← List.append_assoc] at split
      exact ih (List.append_inj_left' split rfl)

/-- The last element of a list that grows is at least as large as each of them. -/
theorem token_le_last {issued : List Issue} {last issue : Issue}
    (increasing : (issued.map Issue.token).Pairwise (· < ·)) (newest : issued.getLast? = some last)
    (member : issue ∈ issued) : issue.token ≤ last.token := by
  obtain ⟨before, rfl⟩ := List.getLast?_eq_some_iff.mp newest
  rcases List.mem_append.mp member with old | new
  · rw [List.map_append, List.pairwise_append] at increasing
    exact Nat.le_of_lt (increasing.2.2 _ (List.mem_map_of_mem old) _ (by simp))
  · exact Nat.le_of_eq (congrArg Issue.token (List.mem_singleton.mp new))

/-- In every run of the store the tokens of an instance grow, a write succeeds
    only under the newest of them, by the worker that holds it and before it
    expires, each claim leads to at most one write, and no write of a claim
    follows a later claim on the instance. -/
theorem lease_fences {now : Instant} {s : State} (run : Reaches (next host) Anything (initial now) s) (i : Uuid) :
    ((issues i s.history).map Issue.token).Pairwise (· < ·) ∧
    (∀ before write after, s.history = before ++ .wrote i write :: after →
      (∃ issue, (issues i before).getLast? = some issue ∧ write.workerId = issue.workerId ∧
        write.token = issue.token ∧ write.writtenAt < issue.leasedUntil) ∧
      ∀ old ∈ writes i before, old.token ≠ write.token) ∧
    ∀ before claim middle later after, s.history = before ++ .issued i claim :: middle ++ .issued i later :: after →
      ∀ write ∈ writes i after, write.token ≠ claim.token := by
  have linked : Linked s.db.instanceLeases s.now s.history :=
    reaches_invariant (fun s => Linked s.db.instanceLeases s.now s.history)
      (fun _ _ _ kept _ called => linked_next host kept called) run (linked_initial now)
  have ordered := linked.ordered
  refine ⟨ordered.increasing i, fun before write after split => ordered.write split, ?_⟩
  intro before claim middle later after split write member same
  obtain ⟨entry, inside, chosen⟩ := List.mem_filterMap.mp member
  obtain ⟨first, rest, parts⟩ := List.append_of_mem inside
  split at chosen
  next => cases chosen
  next j write' =>
    split at chosen
    next here =>
      cases chosen; subst here
      -- The write presents the newest issue before it, which is not older than `later`.
      have whole : s.history =
          (before ++ .issued j claim :: middle ++ .issued j later :: first) ++ .wrote j write :: rest := by
        rw [split, parts]; simp
      obtain ⟨⟨issue, newest, -, token, -⟩, -⟩ := ordered.write whole
      have growing := ordered.increasing j
      have claimed : (issues j (before ++ .issued j claim :: middle ++ .issued j later :: first)) =
          issues j before ++ claim :: (issues j middle ++ later :: issues j first) := by
        simp [issues, List.filterMap_append]
      rw [whole, issues_append, claimed, List.map_append, List.pairwise_append] at growing
      have inside : later ∈ issues j before ++ claim :: (issues j middle ++ later :: issues j first) := by simp
      have below := token_le_last growing.1 (claimed ▸ newest) inside
      have upward := growing.1
      rw [List.map_append, List.pairwise_append, List.map_cons, List.pairwise_cons] at upward
      have less := upward.2.1.1 later.token (by simp)
      omega
    next => cases chosen

/-- A worker that was admitted, claimed and checkpointed one workflow. -/
def claimedOnce : List StoreCall :=
  [.admitCommand (fun _ => "") sampleCreate ⟨"provisioning.commands.v1", 0, 0, 0, none⟩,
   .claimNext "worker" 30 .createInstance fun _ => false,
   .checkpoint (fun _ => "")
     { operationId := sampleCreate.operationId, workerId := "worker", fencingToken := 1, stage := .submittingCreate,
       providerResourceId := none, providerTaskReference := none, nextAttemptAt := none, retry := none,
       event := { sampleCreate.toEnvelope with data := .progressed .submittingCreate 1 .running none none } },
   .claimNext "other" 30 .createInstance fun _ => false]

theorem lease_fences_claimedOnce :
    ∃ s, execute (next sampleHost) (initial 0) claimedOnce = some s ∧
      (issues sampleCreate.aggregateId s.history).length = 2 ∧
      ((issues sampleCreate.aggregateId s.history).map Issue.token).Pairwise (· < ·) := by
  have executed : execute (next sampleHost) (initial 0) claimedOnce = some _ := rfl
  refine ⟨_, executed, ?_, (lease_fences sampleHost (reaches_execute (meets_anything _ _) executed) _).1⟩
  decide

end ControlPlane.Fencing
