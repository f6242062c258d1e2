import ControlPlane.Inheritance

/-!
Who works on a workflow. The row of an operation carries the token of its
newest claim, and a claim in flight either holds that token, and then it was
handed the row as it still stands, or holds an older one, and then the store
refuses its write (`Guarded`). What a step does to a row is said once
(`RowStep`), so that an invariant of the rows is kept by every run when the
transitions of a claim keep it.
-/
namespace ControlPlane.Custody
open ControlPlane.Programs ControlPlane.Programs.Program ControlPlane.Tables ControlPlane.Runs
open ControlPlane.Domain ControlPlane.Commands ControlPlane.EventValidation
open ControlPlane.WorkflowSchema ControlPlane.WorkflowStore ControlPlane.StoreRules
open ControlPlane.ProviderPort ControlPlane.LifecycleWorkflow ControlPlane.SagaRules ControlPlane.Transitions
open ControlPlane.Orchestrator
open ControlPlane.Inheritance (claimNext_action)
open ControlPlane.Fencing (StoreCall AllCovered Called called_next covered_next)

/-! ### What a call does to a row -/

/-- The row of a workflow after a write. -/
def rewritten : StoreWrite → Instant → WorkflowRow → WorkflowRow
  | .checkpoint input => checkpointRow input
  | .complete input => completedRow input
  | .deadLetterWorkflow input => deadLetteredRow input

@[simp] theorem rewritten_operation (write : StoreWrite) (now : Instant) (row : WorkflowRow) :
    (rewritten write now row).operationId = row.operationId := by cases write <;> rfl
@[simp] theorem rewritten_event (write : StoreWrite) (now : Instant) (row : WorkflowRow) :
    (rewritten write now row).eventId = row.eventId := by cases write <;> rfl
@[simp] theorem rewritten_command (write : StoreWrite) (now : Instant) (row : WorkflowRow) :
    (rewritten write now row).command = row.command := by cases write <;> rfl
@[simp] theorem rewritten_action (write : StoreWrite) (now : Instant) (row : WorkflowRow) :
    (rewritten write now row).action = row.action := by cases write <;> rfl
@[simp] theorem rewritten_token (write : StoreWrite) (now : Instant) (row : WorkflowRow) :
    (rewritten write now row).fencingToken = row.fencingToken := by cases write <;> rfl
@[simp] theorem rewritten_generation (write : StoreWrite) (now : Instant) (row : WorkflowRow) :
    (rewritten write now row).replayGeneration = row.replayGeneration := by cases write <;> rfl

/-- What a call of the store does to the row of an operation. -/
inductive RowNext (db : WorkflowDb) (now : Instant) (row : WorkflowRow) : StoreCall → WorkflowRow → Prop
  | kept (call : StoreCall) : RowNext db now row call row
  | claimed {workerId : String} {leaseSeconds : Nat} {action : WorkflowAction} {locked : Uuid → Bool} {token : Nat}
      (live : row.live) (newer : row.fencingToken < token) :
      RowNext db now row (.claimNext workerId leaseSeconds action locked) (claimedRow token row)
  | reopened {fresh : Nat → Uuid} {command : LifecycleCommand} {delivery : MessageDeliveryIdentity}
      (own : command.operationId = row.operationId) (failed : row.status = .failed)
      (sameEvent : row.eventId = command.eventId) :
      RowNext db now row (.admitCommand fresh command delivery)
        (reopenedWorkflow command delivery.replayGeneration now row)
  | written {fresh : Nat → Uuid} {write : StoreWrite} {lease : LeaseRow} (held : Held db write.fence now row lease) :
      RowNext db now row (storeCall fresh write) (rewritten write now row)

section
variable {host : Host}

/-- A row that is found is found again after the rows of an operation were
    rewritten. -/
theorem workflow_rewritten {rows : List WorkflowRow} {op id : Uuid} {row : WorkflowRow}
    {rewrite : WorkflowRow → WorkflowRow} (keeps : ∀ w, (rewrite w).operationId = w.operationId)
    (found : find WorkflowRow.operationId op rows = some row) :
    find WorkflowRow.operationId op (update (fun w : WorkflowRow => w.operationId = id) rewrite rows) =
      some (if op = id then rewrite row else row) := by
  rw [find_update keeps, found, Option.map_some, find_key found]

/-- No call loses a row, and each does one thing to it. -/
theorem row_next {s t : Fencing.State} {call : StoreCall} {op : Uuid} {row : WorkflowRow}
    (all : AllCovered s.db s.now) (taken : Fencing.next host s call = some t) (found : s.db.workflow op = some row) :
    ∃ row', t.db.workflow op = some row' ∧ RowNext s.db s.now row call row' := by
  obtain ⟨called, -⟩ := called_next host taken
  have found : find WorkflowRow.operationId op s.db.workflows = some row := found
  have rewrites {call : StoreCall} {id : Uuid} {rewrite : WorkflowRow → WorkflowRow}
      (keeps : ∀ w, (rewrite w).operationId = w.operationId)
      (chosen : op = id → RowNext s.db s.now row call (rewrite row)) :
      ∃ row', find WorkflowRow.operationId op
        (update (fun w : WorkflowRow => w.operationId = id) rewrite s.db.workflows) = some row' ∧
        RowNext s.db s.now row call row' := by
    refine ⟨_, workflow_rewritten keeps found, ?_⟩
    split
    next same => exact chosen same
    next => exact .kept call
  simp only [WorkflowDb.workflow]
  generalize t.db = after at called
  cases called with
  | nothing => exact ⟨row, found, .kept _⟩
  | admitted admitted =>
    cases admitted.ok.1 with
    | unchanged workflows => exact ⟨row, workflows ▸ found, .kept _⟩
    | started resource workflows => exact ⟨row, by rw [workflows, find_append, found, Option.some_or], .kept _⟩
    | reopened failed present status sameEvent workflows =>
      rw [workflows]
      refine rewrites (fun _ => rfl) fun same => ?_
      have here : failed = row := by
        subst same
        exact Option.some.inj (present.symm.trans found)
      subst here
      exact .reopened (find_key present).symm status sameEvent
  | decided decided =>
    cases decided with
    | duplicate => exact ⟨row, found, .kept _⟩
    | rejected => exact ⟨row, found, .kept _⟩
    | accepted => exact ⟨row, found, .kept _⟩
  | stored => exact ⟨row, found, .kept _⟩
  | @claimed workerId leaseSeconds action locked chosen claimed after claim =>
    obtain ⟨leases, rfl⟩ := claim.frame
    refine rewrites (fun _ => rfl) fun same => ?_
    have here : row = chosen := all.operations.eq_of_key (find_mem found) claim.member ((find_key found).trans same)
    subst here
    exact .claimed claim.live (all.newer claim claim.member rfl)
  | @checkpointed fresh input chosen lease held =>
    refine rewrites (fun _ => rfl) fun same => ?_
    have here : chosen = row := Option.some.inj (held.workflow.symm.trans (same ▸ found))
    exact @RowNext.written _ _ _ fresh (.checkpoint input) lease (here ▸ held)
  | @completed fresh input chosen lease held =>
    refine rewrites (fun _ => rfl) fun same => ?_
    have here : chosen = row := Option.some.inj (held.workflow.symm.trans (same ▸ found))
    exact @RowNext.written _ _ _ fresh (.complete input) lease (here ▸ held)
  | @exhausted fresh input chosen lease held =>
    refine rewrites (fun _ => rfl) fun same => ?_
    have here : chosen = row := Option.some.inj (held.workflow.symm.trans (same ▸ found))
    exact @RowNext.written _ _ _ fresh (.deadLetterWorkflow input) lease (here ▸ held)

/-! ### Claims in flight -/

/-- A claim was handed its row as the row stands. -/
def Handed (row : WorkflowRow) (workflow : ClaimedWorkflow) : Prop :=
  row.live ∧ ∃ stage, row.stage = .stage stage ∧ workflow = claimedWorkflow row row.command stage

/-- A claim in flight goes its way, and it is fenced or has its row. -/
structure InCustody (host : Host) (db : WorkflowDb) (claims : Nat) (flight : InFlight) : Prop where
  numbered : flight.claim < claims
  action : flight.workflow.action = flight.workflow.command.data.action
  goes : flight.program.Satisfies (fun past call => past = [] ∧ Asks flight.workflow call)
    (Transition host flight.around flight.workflow) flight.past
  row : ∃ row, db.workflow flight.workflow.command.operationId = some row ∧
    (flight.workflow.fencingToken < row.fencingToken ∨
      flight.workflow.fencingToken = row.fencingToken ∧ Handed row flight.workflow)

/-- Every claim is in custody, and no two claims hold one token of an operation. -/
structure Guarded (host : Host) (s : State) : Prop where
  covered : AllCovered s.store.db s.store.now
  identified : Identified s.store.db.workflows
  flights : ∀ flight ∈ s.inFlight, InCustody host s.store.db s.claims flight
  exclusive : ∀ f ∈ s.inFlight, ∀ g ∈ s.inFlight,
    f.workflow.command.operationId = g.workflow.command.operationId →
    f.workflow.fencingToken = g.workflow.fencingToken → f.claim = g.claim

theorem Handed.action {row : WorkflowRow} {workflow : ClaimedWorkflow} (handed : Handed row workflow) :
    workflow.action = row.action := by
  obtain ⟨-, stage, -, rfl⟩ := handed
  rfl

theorem Handed.command {row : WorkflowRow} {workflow : ClaimedWorkflow} (handed : Handed row workflow) :
    workflow.command = row.command := by
  obtain ⟨-, stage, -, rfl⟩ := handed
  rfl

theorem Handed.stage {row : WorkflowRow} {workflow : ClaimedWorkflow} (handed : Handed row workflow) :
    row.stage = .stage workflow.stage := by
  obtain ⟨-, stage, reached, rfl⟩ := handed
  exact reached

/-- A call that is not the claim's own write leaves the claim in custody. -/
theorem InCustody.moved {s t : Fencing.State} {claims : Nat} {call : StoreCall} {flight : InFlight}
    (custody : InCustody host s.db claims flight) (all : AllCovered s.db s.now)
    (taken : Fencing.next host s call = some t)
    (elsewhere : ∀ fresh write, call = storeCall fresh write →
      write.fence.operationId = flight.workflow.command.operationId →
      write.fence.fencingToken ≠ flight.workflow.fencingToken) :
    InCustody host t.db claims flight := by
  obtain ⟨numbered, action, goes, row, found, token⟩ := custody
  obtain ⟨row', later, next⟩ := row_next all taken found
  refine ⟨numbered, action, goes, row', later, ?_⟩
  cases next with
  | kept => exact token
  | claimed live newer =>
    rcases token with older | ⟨same, -⟩
    · exact .inl (Nat.lt_trans older newer)
    · exact .inl (same ▸ newer)
  | reopened own failed sameEvent =>
    -- The row was not live, so no claim had it.
    rcases token with older | ⟨-, live, -⟩
    · exact .inl older
    · rcases live with live | live <;> (rw [failed] at live; cases live)
  | @written fresh write lease held =>
    rcases token with older | ⟨same, -⟩
    · exact .inl ((rewritten_token write s.now row).symm ▸ older)
    · have own : write.fence.operationId = flight.workflow.command.operationId :=
        (find_key held.workflow).symm.trans (find_key found)
      exact absurd (held.rowToken.symm.trans same.symm) (elsewhere fresh write rfl own)

/-- A new claim has its row. -/
theorem started_custody {s : State} {t : Fencing.State} {workerId : String} {leaseSeconds : Nat}
    {action : WorkflowAction} {locked : Uuid → Bool} {workflow : ClaimedWorkflow}
    {after : WorkflowDb} (guarded : Guarded host s)
    (claimed : claimNext s.store.db workerId leaseSeconds action locked s.store.now = .ok (some (workflow, after)))
    (stored : Fencing.next host s.store (.claimNext workerId leaseSeconds action locked) = some t) :
    (∃ row, t.db.workflow workflow.command.operationId = some row ∧ workflow.fencingToken = row.fencingToken ∧
      Handed row workflow) ∧
    (∃ row, s.store.db.workflow workflow.command.operationId = some row ∧
      row.fencingToken < workflow.fencingToken) := by
  obtain ⟨row, -, claim⟩ := claimNext_ok claimed
  cases stored
  simp only [Fencing.claimedState, claimed]
  obtain ⟨stage, reached, same⟩ := claim.handed
  have own : workflow.command.operationId = row.operationId := by
    rw [claim.command]
    exact guarded.identified row claim.member
  have found : find WorkflowRow.operationId row.operationId s.store.db.workflows = some row :=
    guarded.covered.operations.find_eq claim.member rfl
  obtain ⟨leases, rfl⟩ := claim.frame
  rw [own]
  refine ⟨⟨claimedRow workflow.fencingToken row, ?_, rfl, .inl rfl, stage, reached, same⟩, row, found,
    guarded.covered.newer claim claim.member rfl⟩
  have later := @workflow_rewritten _ row.operationId row.operationId row (claimedRow workflow.fencingToken)
    (fun _ => rfl) found
  rwa [if_pos rfl] at later

/-- What a step leaves of the claims in flight: claims that were there, and at
    most one that was handed its row just now. -/
theorem flight_next {s t : State} {action : Action} (guarded : Guarded host s) (taken : next host s action = some t) :
    s.claims ≤ t.claims ∧ ∀ flight ∈ t.inFlight,
      (∃ old ∈ s.inFlight, flight.claim = old.claim ∧ flight.workflow = old.workflow) ∨
      (flight.claim = s.claims ∧ s.claims < t.claims ∧
        ∃ row, t.store.db.workflow flight.workflow.command.operationId = some row ∧
          flight.workflow.fencingToken = row.fencingToken ∧ Handed row flight.workflow) := by
  cases steps_next taken with
  | outside call admission stored same =>
    rw [same]
    exact ⟨Nat.le_refl _, fun flight member => .inl ⟨flight, member, rfl, rfl⟩⟩
  | claim workerId leaseSeconds action locked around workflow after claimed stored same =>
    obtain ⟨here, -⟩ := started_custody guarded claimed stored
    rw [same]
    refine ⟨Nat.le_succ _, fun flight member => ?_⟩
    rcases List.mem_append.mp member with old | new
    · exact .inl ⟨flight, old, rfl, rfl⟩
    · obtain rfl := List.mem_singleton.mp new
      exact .inr ⟨rfl, Nat.lt_succ_self _, here⟩
  | send flight member call resume asks same =>
    rw [same]
    refine ⟨Nat.le_refl _, fun other present => .inl ?_⟩
    rcases mem_replace present with rfl | old
    · exact ⟨flight, member, rfl, rfl⟩
    · exact ⟨other, old, rfl, rfl⟩
  | receive flight member answers call resume asks same =>
    rw [same]
    refine ⟨Nat.le_refl _, fun other present => .inl ?_⟩
    rcases mem_replace present with rfl | old
    · exact ⟨flight, member, rfl, rfl⟩
    · exact ⟨other, old, rfl, rfl⟩
  | write flight member fresh write ends stored same =>
    rw [same]
    exact ⟨Nat.le_refl _, fun other present => .inl ⟨other, mem_without present, rfl, rfl⟩⟩
  | crash claim same =>
    rw [same]
    exact ⟨Nat.le_refl _, fun other present => .inl ⟨other, mem_without present, rfl, rfl⟩⟩

/-- The fence of a claim's write is the claim's own. -/
theorem InCustody.fence {db : WorkflowDb} {claims : Nat} {flight : InFlight} {write : StoreWrite}
    (custody : InCustody host db claims flight) (ends : flight.program = .done write) :
    Transition host flight.around flight.workflow flight.past (.ok write) ∧
      write.fence = fence flight.around flight.workflow := by
  have goes := custody.goes
  rw [ends] at goes
  exact ⟨goes, (transition_fits goes write rfl).fence⟩

theorem not_worker {call : StoreCall} (admission : byWorker call = false) (fresh : Nat → Uuid) (write : StoreWrite) :
    call ≠ storeCall fresh write := by
  rintro rfl
  cases write <;> cases admission

theorem guarded_next {s t : State} {action : Action} (guarded : Guarded host s) (taken : next host s action = some t) :
    Guarded host t := by
  have ⟨covered, identified, flights, exclusive⟩ := guarded
  -- Claims that were there stay exclusive.
  have apart (among : ∀ flight ∈ t.inFlight, ∃ old ∈ s.inFlight, flight.claim = old.claim ∧ flight.workflow = old.workflow) :
      ∀ f ∈ t.inFlight, ∀ g ∈ t.inFlight, f.workflow.command.operationId = g.workflow.command.operationId →
        f.workflow.fencingToken = g.workflow.fencingToken → f.claim = g.claim := by
    intro f first g second operation token
    obtain ⟨f', before, claim, workflow⟩ := among f first
    obtain ⟨g', earlier, claim', workflow'⟩ := among g second
    rw [claim, claim']
    rw [workflow, workflow'] at operation token
    exact exclusive f' before g' earlier operation token
  cases steps_next taken with
  | outside call admission stored same =>
    refine ⟨covered_next host covered stored, identified_next identified stored, ?_, ?_⟩
    · rw [same]
      exact fun flight member => (flights flight member).moved covered stored fun fresh write impossible =>
        absurd impossible (not_worker admission fresh write)
    · rw [same]
      exact exclusive
  | claim workerId leaseSeconds action locked around workflow after claimed stored same =>
    obtain ⟨here, old, before, newer⟩ := started_custody guarded claimed stored
    have kept : ∀ flight ∈ s.inFlight, InCustody host t.store.db (s.claims + 1) flight := by
      intro flight member
      have custody := (flights flight member).moved covered stored fun fresh write impossible => by
        cases write <;> cases impossible
      exact ⟨Nat.lt_succ_of_lt custody.numbered, custody.action, custody.goes, custody.row⟩
    -- The token of the new claim is newer than any that is held.
    have first : ∀ flight ∈ s.inFlight, flight.workflow.command.operationId = workflow.command.operationId →
        flight.workflow.fencingToken ≠ workflow.fencingToken := by
      intro flight member operation
      obtain ⟨row, found, token⟩ := (flights flight member).row
      rw [operation, before] at found
      cases found
      rcases token with older | ⟨equal, -⟩
      · omega
      · omega
    refine ⟨covered_next host covered stored, identified_next identified stored, ?_, ?_⟩
    · rw [same]
      intro flight member
      rcases List.mem_append.mp member with present | new
      · exact kept flight present
      · obtain rfl := List.mem_singleton.mp new
        obtain ⟨row, found, token, handed⟩ := here
        exact ⟨Nat.lt_succ_self _, (claimNext_action claimed).symm, runClaimed_transition, row, found,
          .inr ⟨token, handed⟩⟩
    · rw [same]
      intro f present g also operation token
      rcases List.mem_append.mp present with present | new <;> rcases List.mem_append.mp also with also | new'
      · exact exclusive f present g also operation token
      · obtain rfl := List.mem_singleton.mp new'
        exact absurd token (first f present operation)
      · obtain rfl := List.mem_singleton.mp new
        exact absurd token.symm (first g also operation.symm)
      · rw [List.mem_singleton.mp new, List.mem_singleton.mp new']
  | send flight member call resume asks same =>
    have among := (flight_next guarded taken).2
    refine ⟨?_, ?_, ?_, apart fun other present => ?_⟩
    · rw [same]; exact covered
    · rw [same]; exact identified
    · rw [same]
      intro other present
      rcases mem_replace present with rfl | old
      · have custody := flights flight member
        exact ⟨custody.numbered, custody.action, custody.goes, custody.row⟩
      · exact flights other old
    · rcases among other present with old | ⟨-, new, -⟩
      · exact old
      · rw [same] at new
        exact absurd new (Nat.lt_irrefl _)
  | receive flight member answers call resume asks same =>
    have among := (flight_next guarded taken).2
    refine ⟨?_, ?_, ?_, apart fun other present => ?_⟩
    · rw [same]; exact covered
    · rw [same]; exact identified
    · rw [same]
      intro other present
      rcases mem_replace present with rfl | old
      · have custody := flights flight member
        have goes := custody.goes
        rw [asks] at goes
        exact ⟨custody.numbered, custody.action, goes.2 (answers call), custody.row⟩
      · exact flights other old
    · rcases among other present with old | ⟨-, new, -⟩
      · exact old
      · rw [same] at new
        exact absurd new (Nat.lt_irrefl _)
  | write flight member fresh write ends stored same =>
    obtain ⟨-, own⟩ := (flights flight member).fence ends
    refine ⟨covered_next host covered stored, identified_next identified stored, ?_, ?_⟩
    · rw [same]
      intro other present
      obtain ⟨old, gone⟩ := List.mem_filter.mp present
      refine (flights other old).moved covered stored fun fresh' write' again operation token => ?_
      -- Another claim with this token would be the writer itself.
      have fences : write'.fence = write.fence := by
        cases write <;> cases write' <;> cases again <;> rfl
      rw [fences, own] at operation token
      have claim := exclusive other old flight member operation.symm token.symm
      simp [claim] at gone
    · rw [same]
      exact fun f present g also => exclusive f (mem_without present) g (mem_without also)
  | crash claim same =>
    refine ⟨?_, ?_, ?_, ?_⟩
    · rw [same]; exact covered
    · rw [same]; exact identified
    · rw [same]; exact fun other present => flights other (mem_without present)
    · rw [same]; exact fun f present g also => exclusive f (mem_without present) g (mem_without also)

theorem guarded_initial (now : Instant) : Guarded host (initial now) :=
  ⟨⟨List.nodup_nil, fun _ impossible => absurd impossible List.not_mem_nil⟩,
    fun _ impossible => absurd impossible List.not_mem_nil, fun _ impossible => absurd impossible List.not_mem_nil,
    fun _ impossible => absurd impossible List.not_mem_nil⟩

theorem guarded_run {allowed : State → Action → Prop} {s t : State} (guarded : Guarded host s)
    (run : Reaches (next host) allowed s t) : Guarded host t :=
  reaches_invariant (Guarded host) (fun _ _ _ kept _ taken => guarded_next kept taken) run guarded

/-! ### What a step does to a row -/

/-- What a step of the orchestrator does to the row of an operation. -/
inductive RowStep (host : Host) (s : State) (row : WorkflowRow) : Action → WorkflowRow → Prop
  | kept (action : Action) : RowStep host s row action row
  | claimed {workerId : String} {leaseSeconds : Nat} {action : WorkflowAction} {locked : Uuid → Bool}
      {around : Surroundings} {token : Nat} (live : row.live) (newer : row.fencingToken < token) :
      RowStep host s row (.claim workerId leaseSeconds action locked around) (claimedRow token row)
  | reopened {fresh : Nat → Uuid} {command : LifecycleCommand} {delivery : MessageDeliveryIdentity}
      (own : command.operationId = row.operationId) (failed : row.status = .failed)
      (sameEvent : row.eventId = command.eventId) :
      RowStep host s row (.outside (.admitCommand fresh command delivery))
        (reopenedWorkflow command delivery.replayGeneration s.store.now row)
  | written {flight : InFlight} {write : StoreWrite} {fresh : Nat → Uuid} (member : flight ∈ s.inFlight)
      (own : flight.workflow.command.operationId = row.operationId) (ends : flight.program = .done write)
      (handed : Handed row flight.workflow)
      (transition : Transition host flight.around flight.workflow flight.past (.ok write)) :
      RowStep host s row (.write flight.claim fresh) (rewritten write s.store.now row)

/-- No step loses a row, and each does one thing to it. -/
theorem row_step {s t : State} {action : Action} {op : Uuid} {row : WorkflowRow} (guarded : Guarded host s)
    (taken : next host s action = some t) (found : s.store.db.workflow op = some row) :
    ∃ row', t.store.db.workflow op = some row' ∧ RowStep host s row action row' := by
  cases steps_next taken with
  | outside call admission stored same =>
    obtain ⟨row', later, next⟩ := row_next guarded.covered stored found
    refine ⟨row', later, ?_⟩
    cases next with
    | kept => exact .kept _
    | claimed => cases admission
    | reopened own failed sameEvent => exact .reopened own failed sameEvent
    | written => exact absurd rfl (not_worker admission _ _)
  | claim workerId leaseSeconds action locked around workflow after claimed stored same =>
    obtain ⟨row', later, next⟩ := row_next guarded.covered stored found
    refine ⟨row', later, ?_⟩
    generalize called : StoreCall.claimNext workerId leaseSeconds action locked = call at next
    cases next with
    | kept => exact .kept _
    | claimed live newer => exact .claimed live newer
    | reopened => cases called
    | @written fresh write => cases write <;> cases called
  | send flight member call resume asks same => exact ⟨row, same ▸ found, .kept _⟩
  | receive flight member answers call resume asks same => exact ⟨row, same ▸ found, .kept _⟩
  | write flight member fresh write ends stored same =>
    obtain ⟨row', later, next⟩ := row_next guarded.covered stored found
    refine ⟨row', later, ?_⟩
    have custody := guarded.flights flight member
    obtain ⟨transition, own⟩ := custody.fence ends
    generalize called : storeCall fresh write = call at next
    cases next with
    | kept => exact .kept _
    | claimed => cases write <;> cases called
    | reopened => cases write <;> cases called
    | @written fresh' write' lease held =>
      have same : write = write' := by cases write <;> cases write' <;> cases called <;> rfl
      subst same
      rw [own] at held
      obtain ⟨row'', present, token⟩ := custody.row
      have here : row'' = row := Option.some.inj (present.symm.trans held.workflow)
      subst here
      have operation : flight.workflow.command.operationId = row''.operationId := (find_key held.workflow).symm
      rcases token with older | ⟨-, handed⟩
      · exact absurd (held.rowToken.symm ▸ older) (Nat.lt_irrefl _)
      · exact .written member operation ends handed transition
  | crash claim same => exact ⟨row, same ▸ found, .kept _⟩

end

end ControlPlane.Custody
