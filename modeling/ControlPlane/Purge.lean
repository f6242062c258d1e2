import ControlPlane.Orchestrator

/-!
The purge protocol over whole runs of the orchestrator. A workflow is past its
verification only when an earlier claim of its operation saw the instance with
exactly its markers (`Tracked`), whatever the provider answers, however workers
crash and whoever claims next. The record that an instance is purged rests on
an answer that the workflow reads as absence; the answer says so itself only
when it carries an observation.
-/
namespace ControlPlane.Purge
open ControlPlane.Programs ControlPlane.Programs.Program ControlPlane.Tables ControlPlane.Runs
open ControlPlane.Domain ControlPlane.Commands ControlPlane.WorkflowSchema ControlPlane.WorkflowStore
open ControlPlane.ProviderPort ControlPlane.LifecycleWorkflow ControlPlane.LifecycleWorkflow.PurgeInstanceWorkflow
open ControlPlane.SagaRules ControlPlane.Transitions ControlPlane.StoreRules ControlPlane.Orchestrator
open ControlPlane.EventValidation
open ControlPlane.Fencing (StoreCall)

/-! ### What the purge workflow's writes rest on -/

/-- An answer that shows the instance with exactly its markers. -/
def verifies : ProviderExchange → Bool
  | ⟨.observeInstance _, .ok observation⟩ => Option.any owned observation
  | _ => false

/-- An answer that is read as absence. -/
def readsAbsent : ProviderExchange → Bool
  | ⟨.observeInstance _, .ok observation⟩ => !existsIn observation
  | _ => false

/-- An answer with an observation that says the instance does not exist. -/
def provesAbsent : ProviderExchange → Bool
  | ⟨.observeInstance _, .ok observation⟩ => Option.any (fun o : InstanceObservation => o.existing = some false) observation
  | _ => false

/-- What was said before a write of the purge workflow. -/
def Evidence (workflow : ClaimedWorkflow) (past : List ProviderExchange) : StoreWrite → Prop
  | .checkpoint input =>
    input.stage = .submittingPurge → workflow.stage = .submittingPurge ∨ ∃ exchange ∈ past, verifies exchange = true
  | .complete input => input.status = .succeeded → ∃ exchange ∈ past, readsAbsent exchange = true
  | .deadLetterWorkflow _ => True

section
variable {host : Host} {around : Surroundings} {workflow : ClaimedWorkflow} {past : List ProviderExchange}

/-- A program whose writes rest on evidence. -/
abbrev Rests (workflow : ClaimedWorkflow) (p : Saga StoreWrite) (past : List ProviderExchange) : Prop :=
  p.Satisfies (fun _ _ => True) (fun later ended => ∀ write, ended = .ok write → Evidence workflow later write) past

theorem shared_rests : Shared around workflow (fun _ _ => True)
    (fun later ended => ∀ write, ended = .ok write → Evidence workflow later write) where
  raises _ _ _ impossible := nomatch impossible
  fails past failure status notDone := by
    rintro write ⟨⟩ succeeded
    exact absurd succeeded notDone
  stays past options := by
    rintro write ⟨⟩ submitting
    exact .inl submitting
  gives past stageAttempt error := by
    rintro write ⟨⟩
    trivial

theorem progress_rests {stage : WorkflowStage} {options : ProgressOptions} (elsewhere : stage ≠ .submittingPurge) :
    Rests workflow (progress around workflow stage options) past := by
  rintro write ⟨⟩ submitting
  exact absurd submitting elsewhere

theorem completePurge_rests {request : InstanceMutationRequest} {observation : Option InstanceObservation}
    (absent : existsIn observation = false) :
    Rests workflow (completePurge around workflow) (past ++ [⟨.observeInstance request, .ok observation⟩]) := by
  refine requiredResource_then (fun _ _ impossible => nomatch impossible) fun resource => ?_
  rintro write ⟨⟩ -
  exact ⟨_, List.mem_append_right _ List.mem_cons_self, by simp [readsAbsent, absent]⟩

theorem execute_rests (data : PurgeData) : Rests workflow (PurgeInstanceWorkflow.execute host around workflow data) past := by
  have raises : ∀ (later : List ProviderExchange) (error : WorkflowError) (write : StoreWrite),
      (.error error : Except WorkflowError StoreWrite) = .ok write → Evidence workflow later write :=
    fun _ _ _ impossible => nomatch impossible
  unfold PurgeInstanceWorkflow.execute
  split
  next => exact progress_rests (by decide)
  next =>
    refine observeInstance_then (fun _ _ _ => trivial) raises fun request observation => ?_
    split
    next absent => exact completePurge_rests (by simpa using absent)
    next =>
      split
      next => exact shared_rests.manualReview
      next proven =>
        rintro write ⟨⟩ -
        exact .inr ⟨_, List.mem_append_right _ List.mem_cons_self, by simpa [verifies] using proven⟩
  next =>
    refine instanceRequest_then (raises past) fun request _ _ => ?_
    refine send_then trivial raises fun result => ?_
    exact handleMutationResult_then shared_rests (fun _ => progress_rests (by decide)) fun _ => progress_rests (by decide)
  next => exact pollTask_then shared_rests (fun _ _ _ => trivial) fun _ _ => progress_rests (by decide)
  next =>
    refine observeInstance_then (fun _ _ _ => trivial) raises fun request observation => ?_
    split
    next => exact shared_rests.manualReview
    next absent => exact completePurge_rests (by simpa using absent)
  next => exact shared_rests.fail

theorem runClaimed_rests {data : PurgeData} (purge : workflow.command.data = .purge data) :
    Rests workflow (runClaimed host around workflow) past := by
  refine runClaimed_then shared_rests ?_
  simp only [LifecycleWorkflow.execute, purge]
  exact execute_rests data

end

/-! ### The invariant -/

/-- The stages of a purge after its verification. -/
def verified : WorkflowStage → Bool
  | .submittingPurge | .pollingPurge | .observingPurge => true
  | _ => false

/-- A claim before the bound, of the same operation, got an answer that verifies. -/
def VerifiedBefore (log : List Entry) (bound : Nat) (operationId : Uuid) : Prop :=
  ∃ claim < bound, ∃ exchange, Entry.received claim operationId exchange ∈ log ∧ verifies exchange = true

theorem VerifiedBefore.later {log : List Entry} {bound later : Nat} {operationId : Uuid}
    (before : VerifiedBefore log bound operationId) (grows : bound ≤ later) : VerifiedBefore log later operationId := by
  obtain ⟨claim, below, rest⟩ := before
  exact ⟨claim, Nat.lt_of_lt_of_le below grows, rest⟩

theorem VerifiedBefore.append {log : List Entry} {bound : Nat} {operationId : Uuid}
    (before : VerifiedBefore log bound operationId) (more : List Entry) :
    VerifiedBefore (log ++ more) bound operationId := by
  obtain ⟨claim, below, exchange, member, shown⟩ := before
  exact ⟨claim, below, exchange, List.mem_append_left _ member, shown⟩

/-- Every call that purges follows a verification by an earlier claim. -/
def CallsVerified (log : List Entry) : Prop :=
  ∀ before claim operationId call after, log = before ++ .called claim operationId call :: after →
    call.purges = true → VerifiedBefore before claim operationId

structure FlightTracked (log : List Entry) (claims : Nat) (flight : InFlight) : Prop where
  earlier : flight.claim < claims
  keeps : Keeps flight.around flight.workflow flight.program flight.past
  rests : ∀ data, flight.workflow.command.data = .purge data → Rests flight.workflow flight.program flight.past
  recorded : ∀ exchange ∈ flight.past,
    Entry.received flight.claim flight.workflow.command.operationId exchange ∈ log
  stage : verified flight.workflow.stage = true →
    VerifiedBefore log flight.claim flight.workflow.command.operationId

structure Tracked (s : State) : Prop where
  identified : Identified s.store.db.workflows
  rows : ∀ row ∈ s.store.db.workflows, ∀ stage, row.stage = .stage stage → verified stage = true →
    VerifiedBefore s.log s.claims row.operationId
  flights : ∀ flight ∈ s.inFlight, FlightTracked s.log s.claims flight
  calls : CallsVerified s.log

theorem callsVerified_append {log : List Entry} {entry : Entry} (calls : CallsVerified log)
    (last : ∀ claim operationId call, entry = .called claim operationId call → call.purges = true →
      VerifiedBefore log claim operationId) : CallsVerified (log ++ [entry]) := by
  intro before claim operationId call after split purges
  rcases List.eq_nil_or_concat after with rfl | ⟨rest, final, rfl⟩
  · obtain ⟨same, tail⟩ := List.append_inj' split rfl
    obtain ⟨rfl, -⟩ := List.cons.inj tail
    exact same ▸ last claim operationId call rfl purges
  · rw [List.concat_eq_append, ← List.cons_append, ← List.append_assoc] at split
    exact calls before claim operationId call rest (List.append_inj_left' split rfl) purges

theorem FlightTracked.append {log : List Entry} {claims : Nat} {flight : InFlight}
    (tracked : FlightTracked log claims flight) (more : List Entry) : FlightTracked (log ++ more) claims flight :=
  ⟨tracked.earlier, tracked.keeps, tracked.rests,
    fun exchange member => List.mem_append_left _ (tracked.recorded exchange member),
    fun stage => (tracked.stage stage).append more⟩

/-- A purge is past its verification when it comes from there, or just verified. -/
theorem successors_verified {action : WorkflowAction} {stage next : WorkflowStage}
    (follows : next ∈ successors action stage) (past : verified next = true) :
    verified stage = true ∨ (stage = .verifyingPurge ∧ next = .submittingPurge ∧ action = .purgeInstance) := by
  cases stage with
  | accepted => cases action <;> exact absurd past (by simp_all [successors, firstStage, verified])
  | verifyingPurge =>
    simp only [successors] at follows
    split at follows
    next purge => exact .inr ⟨rfl, by simpa using follows, purge⟩
    next => cases follows
  | _ => grind [successors, verified]

/-! ### Every step keeps the invariant -/

section
variable {host : Host}

/-- A call of the store leaves verified rows, when the stage that it writes is. -/
theorem rows_tracked {s : State} {store : Fencing.State} {call : StoreCall} (tracked : Tracked s)
    (stored : Fencing.next host s.store call = some store)
    (writes : ∀ fresh input, call = .checkpoint fresh input → verified input.stage = true →
      VerifiedBefore s.log s.claims input.operationId) :
    ∀ row ∈ store.db.workflows, ∀ stage, row.stage = .stage stage → verified stage = true →
      VerifiedBefore s.log s.claims row.operationId := by
  intro row member stage reached past
  cases rows_next stored row member with
  | kept old present operation command same =>
    rw [operation]
    exact tracked.rows old present stage (same.symm.trans reached) past
  | accepted start =>
    rw [start] at reached
    cases reached
    exact absurd past Bool.false_ne_true
  | ended old present operation command status final =>
    rw [final] at reached
    cases status <;> cases reached
  | moved old present operation command fresh input same chosen moved =>
    rw [moved] at reached
    cases reached
    rw [chosen]
    exact writes fresh input same past

/-- A claim that starts past its verification was verified before. -/
theorem started_tracked {s : State} {workerId : String} {leaseSeconds : Nat} {action : WorkflowAction}
    {locked : Uuid → Bool} {around : Surroundings} {workflow : ClaimedWorkflow} {after : WorkflowDb}
    (tracked : Tracked s)
    (claimed : claimNext s.store.db workerId leaseSeconds action locked s.store.now = .ok (some (workflow, after))) :
    FlightTracked s.log (s.claims + 1) (started host s.claims workerId around workflow) := by
  refine ⟨Nat.lt_succ_self _, runClaimed_fits, fun data purge => runClaimed_rests purge,
    fun _ impossible => absurd impossible List.not_mem_nil, fun past => ?_⟩
  obtain ⟨row, -, claim⟩ := claimNext_ok claimed
  obtain ⟨stage, reached, handed⟩ := claim.handed
  have same : workflow.stage = stage := by rw [handed]; rfl
  have operation : workflow.command.operationId = row.operationId := by
    rw [claim.command]; exact tracked.identified row claim.member
  show VerifiedBefore s.log s.claims workflow.command.operationId
  rw [operation]
  exact tracked.rows row claim.member stage reached (same ▸ past)

/-- What a claim writes past the verification rests on one by an earlier claim,
    or on its own. -/
theorem write_tracked {s : State} {flight : InFlight} {write : StoreWrite} (tracked : Tracked s)
    (member : flight ∈ s.inFlight) (ends : flight.program = .done write) (fresh : Nat → Uuid) :
    ∀ fresh' input, storeCall fresh write = .checkpoint fresh' input → verified input.stage = true →
      VerifiedBefore s.log s.claims input.operationId := by
  rintro fresh' input same past
  obtain ⟨earlier, keeps, rests, recorded, staged⟩ := tracked.flights flight member
  rw [ends] at keeps
  have fits := keeps write rfl
  cases write with
  | complete input => cases same
  | deadLetterWorkflow input => cases same
  | checkpoint input =>
    cases same
    have operation : input.operationId = flight.workflow.command.operationId := congrArg Fence.operationId fits.fence
    have before (already : verified flight.workflow.stage = true) :
        VerifiedBefore s.log s.claims flight.workflow.command.operationId :=
      (staged already).later (Nat.le_of_lt earlier)
    rw [operation]
    cases fits.outcome with
    | moved follows _ =>
      rcases follows with stays | follows
      · exact before (stays ▸ past)
      · rcases successors_verified follows past with already | ⟨verifying, submitting, purge⟩
        · exact before already
        · obtain ⟨data, isPurge⟩ : ∃ data, flight.workflow.command.data = .purge data := by
            cases data : flight.workflow.command.data <;> first | exact ⟨_, rfl⟩ | (rw [data] at purge; cases purge)
          have evidence := rests data isPurge
          rw [ends] at evidence
          rcases evidence _ rfl submitting with already | ⟨exchange, said, shown⟩
          · rw [verifying] at already; cases already
          · exact ⟨flight.claim, earlier, exchange, recorded exchange said, shown⟩

/-- Every step keeps what a purge rests on. -/
theorem tracked_next {s t : State} {action : Action} (tracked : Tracked s) (taken : next host s action = some t) :
    Tracked t := by
  have ⟨identified, rows, flights, calls⟩ := tracked
  cases steps_next taken with
  | outside call admission stored unchanged =>
    have kept := rows_tracked tracked stored (by rintro fresh input rfl; cases admission)
    rw [unchanged]
    exact ⟨identified_next identified stored, kept, flights, calls⟩
  | claim workerId leaseSeconds wanted locked around workflow after claimed stored changed =>
    have kept := rows_tracked tracked stored (fun _ _ impossible => nomatch impossible)
    rw [changed]
    refine ⟨identified_next identified stored, fun row member stage reached past =>
      (kept row member stage reached past).later (Nat.le_succ s.claims), fun flight member => ?_, calls⟩
    · rcases List.mem_append.mp member with old | new
      · exact { flights flight old with earlier := Nat.lt_succ_of_lt (flights flight old).earlier }
      · obtain rfl := List.mem_singleton.mp new
        exact started_tracked tracked claimed
  | send flight member call resume asks changed =>
    obtain ⟨earlier, keeps, rests, recorded, staged⟩ := flights flight member
    rw [changed]
    refine ⟨identified, fun row present stage reached past => (rows row present stage reached past).append _,
      fun other present => ?_, callsVerified_append calls ?_⟩
    · rcases mem_replace present with rfl | old
      · have moved : FlightTracked s.log s.claims { flight with waiting := true } :=
          ⟨earlier, keeps, rests, recorded, staged⟩
        exact moved.append _
      · exact (flights other old).append _
    · rintro claim operationId sent ⟨⟩ purges
      -- A call that purges is made from a mutation stage of the purge workflow.
      rw [asks] at keeps
      have stage := keeps.1.stage (by cases call <;> first | rfl | cases purges)
      rw [keeps.1.purge purges] at stage
      exact staged (by rw [List.mem_singleton.mp stage]; rfl)
  | receive flight member answers call resume asks changed =>
    obtain ⟨earlier, keeps, rests, recorded, staged⟩ := flights flight member
    rw [changed]
    refine ⟨identified, fun row present stage reached past => (rows row present stage reached past).append _,
      fun other present => ?_, callsVerified_append calls fun _ _ _ impossible => nomatch impossible⟩
    rcases mem_replace present with rfl | old
    · refine ⟨earlier, ?_, fun data purge => ?_, fun exchange said => ?_, fun past => (staged past).append _⟩
      · rw [asks] at keeps; exact keeps.2 (answers call)
      · have evidence := rests data purge
        rw [asks] at evidence
        exact evidence.2 (answers call)
      · rcases List.mem_append.mp said with before | now
        · exact List.mem_append_left _ (recorded exchange before)
        · obtain rfl := List.mem_singleton.mp now
          exact List.mem_append_right _ List.mem_cons_self
    · exact (flights other old).append _
  | write flight member fresh write ends stored changed =>
    have kept := rows_tracked tracked stored (write_tracked tracked member ends fresh)
    rw [changed]
    exact ⟨identified_next identified stored, kept, fun other present => flights other (mem_without present), calls⟩
  | crash claim changed =>
    rw [changed]
    exact ⟨identified, rows, fun other present => flights other (mem_without present), calls⟩

theorem tracked_initial (now : Instant) : Tracked (initial now) :=
  ⟨fun _ impossible => absurd impossible List.not_mem_nil, fun _ impossible => absurd impossible List.not_mem_nil,
    fun _ impossible => absurd impossible List.not_mem_nil, fun before _ _ _ _ split => by
      simp [initial] at split⟩

/-- In every run, a call that purges follows a verification by an earlier claim
    of the same operation. -/
theorem calls_verified {allowed : State → Action → Prop} {now : Instant} {s : State}
    (run : Reaches (next host) allowed (initial now) s) : CallsVerified s.log :=
  (reaches_invariant Tracked (fun _ _ _ kept _ taken => tracked_next kept taken) run (tracked_initial now)).calls

/-! ### The record of a purge -/

/-- An event that records an instance as purged. -/
def recordsPurged : WorkflowEventData → Bool
  | .completed _ .purged _ _ _ => true
  | _ => false

theorem recordsPurged_isTerminal {data : WorkflowEventData} (purged : recordsPurged data = true) :
    data.isTerminal = true := by
  cases data <;> first | rfl | cases purged

/-- Every record of a purge follows an observation, by the same operation, that
    says the instance does not exist. -/
def PurgedProven (s : State) : Prop :=
  ∀ row ∈ s.store.db.outbox, ∀ event, row.message = .event event → recordsPurged event.data = true →
    ∃ claim exchange, Entry.received claim event.operationId exchange ∈ s.log ∧ provesAbsent exchange = true

/-- The provider's observation for a purge, unless it says that the instance
    exists, is there and says that it does not. -/
def Explicit (s : State) : Action → Prop
  | .receive claim answers =>
    ∀ flight ∈ s.inFlight, flight.claim = claim → flight.workflow.command.data.action = .purgeInstance →
      ∀ call resume, flight.program = .ask call resume →
        readsAbsent ⟨call, answers call⟩ = true → provesAbsent ⟨call, answers call⟩ = true
  | _ => True

/-- What a purge reads as absence is one, for every claim in flight. -/
structure Proven (s : State) : Prop where
  tracked : Tracked s
  flights : ∀ flight ∈ s.inFlight, flight.workflow.command.data.action = .purgeInstance →
    ∀ exchange ∈ flight.past, readsAbsent exchange = true → provesAbsent exchange = true
  records : PurgedProven s

theorem purge_data {data : CommandData} (purge : data.action = .purgeInstance) : ∃ purged, data = .purge purged := by
  cases data <;> first | exact ⟨_, rfl⟩ | cases purge

/-- A claim that records a purge has read absence. -/
theorem recorded_absent {log : List Entry} {claims : Nat} {flight : InFlight} {write : StoreWrite}
    (tracked : FlightTracked log claims flight) (ends : flight.program = .done write)
    (purged : recordsPurged write.event.data = true) :
    flight.workflow.command.data.action = .purgeInstance ∧
      write.event.operationId = flight.workflow.command.operationId ∧
      ∃ exchange ∈ flight.past, readsAbsent exchange = true := by
  have keeps := tracked.keeps
  rw [ends] at keeps
  have fits := keeps write rfl
  have operation : write.event.operationId = flight.workflow.command.operationId := by rw [fits.envelope]; rfl
  cases fits.outcome with
  | moved follows progressed => exact absurd (recordsPurged_isTerminal purged) (by rw [StoreWrite.event, progressed]; decide)
  | failed failure status event => simp [StoreWrite.event, event, recordsPurged] at purged
  | exhausted action compensation => simp [StoreWrite.event, DeadLetterWorkflowInput.event, recordsPurged] at purged
  | succeeded resource evidenceId observed status event =>
    have purge : flight.workflow.command.data.action = .purgeInstance := by
      simp only [StoreWrite.event, event] at purged
      cases action : flight.workflow.command.data.action <;>
        simp [action, finalLifecycle, recordsPurged] at purged ⊢
    obtain ⟨data, isPurge⟩ := purge_data purge
    have evidence := tracked.rests data isPurge
    rw [ends] at evidence
    exact ⟨purge, operation, evidence _ rfl status⟩

/-- Every step whose answer is explicit keeps the proofs of absence. -/
theorem proven_next {s t : State} {action : Action} (proven : Proven s) (explicit : Explicit s action)
    (taken : next host s action = some t) : Proven t := by
  have ⟨tracked, flights, records⟩ := proven
  have kept := tracked_next tracked taken
  have grows : ∀ {log more : List Entry} {operationId : Uuid},
      (∃ claim exchange, Entry.received claim operationId exchange ∈ log ∧ provesAbsent exchange = true) →
      ∃ claim exchange, Entry.received claim operationId exchange ∈ log ++ more ∧ provesAbsent exchange = true := by
    rintro log more operationId ⟨claim, exchange, member, absent⟩
    exact ⟨claim, exchange, List.mem_append_left _ member, absent⟩
  have quiet : ∀ {call : StoreCall}, writtenEvent call = none →
      Fencing.next host s.store call = some t.store → t.log = s.log → PurgedProven t := by
    intro call none stored same row member event message purged
    rcases outbox_next stored row member event message (recordsPurged_isTerminal purged) with old | written
    · rw [same]; exact records row old event message purged
    · rw [none] at written; cases written
  cases steps_next taken with
  | outside call admission stored unchanged =>
    refine ⟨kept, ?_, quiet (by cases call <;> first | rfl | cases admission) stored (by rw [unchanged])⟩
    rw [unchanged]
    exact flights
  | claim workerId leaseSeconds wanted locked around workflow after claimed stored changed =>
    refine ⟨kept, ?_, quiet rfl stored (by rw [changed])⟩
    rw [changed]
    intro flight member purge
    rcases List.mem_append.mp member with old | new
    · exact flights flight old purge
    · obtain rfl := List.mem_singleton.mp new
      exact fun _ impossible => absurd impossible List.not_mem_nil
  | send flight member call resume asks changed =>
    refine ⟨kept, ?_, ?_⟩
    · rw [changed]
      intro other present
      rcases mem_replace present with rfl | old
      · exact flights flight member
      · exact flights other old
    · rw [changed]
      exact fun row present event message purged => grows (records row present event message purged)
  | receive flight member answers call resume asks changed =>
    refine ⟨kept, ?_, ?_⟩
    · rw [changed]
      intro other present purge exchange said reads
      rcases mem_replace present with rfl | old
      · rcases List.mem_append.mp said with before | now
        · exact flights flight member purge exchange before reads
        · obtain rfl := List.mem_singleton.mp now
          exact explicit flight member rfl purge call resume asks reads
      · exact flights other old purge exchange said reads
    · rw [changed]
      exact fun row present event message purged => grows (records row present event message purged)
  | write flight member fresh write ends stored changed =>
    refine ⟨kept, ?_, ?_⟩
    · rw [changed]
      exact fun other present => flights other (mem_without present)
    · intro row present event message purged
      have logged : t.log = s.log := by rw [changed]
      rw [logged]
      rcases outbox_next stored row present event message (recordsPurged_isTerminal purged) with old | written
      · exact records row old event message purged
      · have own : event = write.event := by cases write <;> exact (Option.some.inj written).symm
        subst own
        have flightTracked := tracked.flights flight member
        obtain ⟨purge, operation, exchange, said, reads⟩ := recorded_absent flightTracked ends purged
        exact ⟨flight.claim, exchange, operation ▸ flightTracked.recorded exchange said,
          flights flight member purge exchange said reads⟩
  | crash claim changed =>
    refine ⟨kept, ?_, ?_⟩
    · rw [changed]
      exact fun other present => flights other (mem_without present)
    · rw [changed]
      exact records

theorem proven_initial (now : Instant) : Proven (initial now) :=
  ⟨tracked_initial now, fun _ impossible => absurd impossible List.not_mem_nil,
    fun _ impossible => absurd impossible List.not_mem_nil⟩

/-- In every run in which the provider's observations for purges are explicit, a
    call that purges follows a verification by an earlier claim of the same
    operation, and a record of a purge follows a proof of absence. -/
theorem purge_protocol {now : Instant} {s : State} (run : Reaches (next host) Explicit (initial now) s) :
    CallsVerified s.log ∧ PurgedProven s :=
  have proven := reaches_invariant Proven (fun _ _ _ kept explicit taken => proven_next kept explicit taken) run
    (proven_initial now)
  ⟨proven.tracked.calls, proven.records⟩

end

/-- An observation that says the instance does not exist. -/
def absent : InstanceObservation :=
  { existing := some false, powerState := some .unknown,
    ownership := some { complete := some false, matching := some false } }

/-- A purge that is verified, submitted and confirmed. -/
def samplePurged : List Action :=
  sampleRetained ++ sampleAdmission 2 samplePurge :: (silentClaim 8 .purgeInstance ++
    (answeredClaim 9 .purgeInstance sampleObservation ++ (answeredClaim 10 .purgeInstance sampleObservation ++
    answeredClaim 11 .purgeInstance absent)))

/-- Actions that are explicit wherever they are taken. -/
def AlwaysExplicit (actions : List Action) : Prop := ∀ action ∈ actions, ∀ s, Explicit s action

theorem alwaysExplicit_append {first second : List Action} (left : AlwaysExplicit first)
    (right : AlwaysExplicit second) : AlwaysExplicit (first ++ second) :=
  List.forall_mem_append.mpr ⟨left, right⟩

theorem alwaysExplicit_admission {offset : Nat} {command : LifecycleCommand} {rest : List Action}
    (later : AlwaysExplicit rest) : AlwaysExplicit (sampleAdmission offset command :: rest) :=
  List.forall_mem_cons.mpr ⟨fun _ => trivial, later⟩

theorem alwaysExplicit_silentClaim (claim : Nat) (action : WorkflowAction) : AlwaysExplicit (silentClaim claim action) := by
  simp [AlwaysExplicit, silentClaim, sampleClaim, Explicit]

/-- A claim is explicit when its observation is. -/
theorem alwaysExplicit_answeredClaim (claim : Nat) (action : WorkflowAction) {observation : Option InstanceObservation}
    (explicit : ∀ request, readsAbsent ⟨.observeInstance request, .ok observation⟩ = true →
      provesAbsent ⟨.observeInstance request, .ok observation⟩ = true) :
    AlwaysExplicit (answeredClaim claim action observation) := by
  intro step member s
  simp only [answeredClaim, List.mem_cons, List.not_mem_nil, or_false] at member
  rcases member with rfl | rfl | rfl | rfl
  · trivial
  · trivial
  · intro flight _ _ _ call resume _ reads
    cases call with
    | observeInstance request => exact explicit request reads
    | _ => cases reads
  · trivial

theorem alwaysExplicit_samplePurged : AlwaysExplicit samplePurged := by
  have seen (claim : Nat) (action : WorkflowAction) : AlwaysExplicit (answeredClaim claim action sampleObservation) :=
    alwaysExplicit_answeredClaim claim action fun _ reads => nomatch reads
  have gone (claim : Nat) : AlwaysExplicit (answeredClaim claim .purgeInstance absent) :=
    alwaysExplicit_answeredClaim claim .purgeInstance fun _ _ => rfl
  have silent := alwaysExplicit_silentClaim
  have retained : AlwaysExplicit sampleRetained :=
    alwaysExplicit_append (alwaysExplicit_admission (silent 0 _)) (alwaysExplicit_append (seen 1 _)
      (alwaysExplicit_append (seen 2 _) (alwaysExplicit_append (seen 3 _) (alwaysExplicit_append (seen 4 _)
        (alwaysExplicit_admission (alwaysExplicit_append (silent 5 _) (alwaysExplicit_append (seen 6 _) (seen 7 _))))))))
  exact alwaysExplicit_append retained (alwaysExplicit_admission (alwaysExplicit_append (silent 8 _)
    (alwaysExplicit_append (seen 9 _) (alwaysExplicit_append (seen 10 _) (gone 11)))))

theorem purge_protocol_samplePurged :
    ∃ s, execute (next sampleHost) (initial 0) samplePurged = some s ∧ s.log.length = 18 ∧
      CallsVerified s.log ∧ PurgedProven s := by
  have executed : execute (next sampleHost) (initial 0) samplePurged = some _ := rfl
  exact ⟨_, executed, rfl, purge_protocol (reaches_execute (meets_of_forall alwaysExplicit_samplePurged) executed)⟩

/-- A state with a record of a purge and no proof of absence for it. -/
def recordsUnproven (s : State) : Bool :=
  s.store.db.outbox.any fun row => match row.message with
    | .event event => recordsPurged event.data && s.log.all fun
      | .received _ operationId exchange => !(operationId = event.operationId && provesAbsent exchange)
      | .called .. => true
    | _ => false

theorem not_purgedProven {s : State} (unproven : recordsUnproven s = true) : ¬ PurgedProven s := by
  intro proven
  obtain ⟨row, member, holds⟩ := List.any_eq_true.mp unproven
  split at holds
  next event message =>
    obtain ⟨purged, all⟩ := Bool.and_eq_true_iff.mp holds
    obtain ⟨claim, exchange, said, shows⟩ := proven row member event message purged
    have := List.all_eq_true.mp all _ said
    simp [shows] at this
  next => cases holds

/-- A verification that is answered without an observation ends in the record of
    a purge. -/
theorem purged_without_observation :
    ∃ s, execute (next sampleHost) (initial 0) (sampleRetained ++ sampleAdmission 2 samplePurge ::
        (silentClaim 8 .purgeInstance ++ answeredClaim 9 .purgeInstance none)) = some s ∧
      Reaches (next sampleHost) Anything (initial 0) s ∧ ¬ PurgedProven s := by
  have executed : execute (next sampleHost) (initial 0) (sampleRetained ++ sampleAdmission 2 samplePurge ::
    (silentClaim 8 .purgeInstance ++ answeredClaim 9 .purgeInstance none)) = some _ := rfl
  exact ⟨_, executed, reaches_execute (meets_anything _ _) executed, not_purgedProven rfl⟩

end ControlPlane.Purge
