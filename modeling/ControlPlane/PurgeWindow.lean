import ControlPlane.Exclusion
import ControlPlane.Operations
import ControlPlane.Retention

/-!
When a purge is accepted. The deadline of an instance is the one of its latest
retention, which later steps leave alone (`Dated`), and an instance is retained
only after a retention of it succeeded (`Retired`): both hold in every run. That
nothing else of the instance is on its way follows from the holder of the
instance, which replays do not take.
-/
namespace ControlPlane.PurgeWindow
open ControlPlane.Tables ControlPlane.Runs ControlPlane.Domain ControlPlane.Commands ControlPlane.EventValidation
open ControlPlane.WorkflowSchema ControlPlane.WorkflowStore ControlPlane.ControlSchema ControlPlane.Acceptance ControlPlane.ProjectionStore
open ControlPlane.AcceptanceRules ControlPlane.SagaRules ControlPlane.Transitions ControlPlane.LifecycleWorkflow
open ControlPlane.Orchestrator ControlPlane.Custody ControlPlane.Provenance ControlPlane.Platform
open ControlPlane.Rejections (Queued Accountable accountable_next accountable_initial queued_append)
open ControlPlane.Exclusion ControlPlane.Retention

section
variable {host : Host}

/-! ### The deadline -/

/-- The latest retention of an instance that was accepted in a run to `s`. -/
inductive LatestRetention (host : Host) (start s : Platform.State) (instanceId : Uuid) (acceptedAt : Instant)
    (policy : RetentionPolicy) : Prop
  | accepted (before after : Platform.State) (draws : Draws) (command : RetainInstanceCommand) (requestHash : String)
      (operationId : Uuid) (later : List Lifecycle.Entry)
      (leading : Reaches (Platform.next host) Anything start before)
      (taken : Platform.next host before (.accept draws (.retention command) requestHash) = some after)
      (following : Reaches (Platform.next host) Anything after s) (about : command.instanceId = instanceId)
      (moment : draws.now = acceptedAt) (inForce : before.control.db.retentionPolicy = some policy)
      (first : after.control.history = before.control.history ++ [.accepted (.retention command) operationId])
      (since : s.control.history = after.control.history ++ later)
      (latest : ∀ other id, .accepted (.retention other) id ∈ later → other.instanceId ≠ instanceId) :
      LatestRetention host start s instanceId acceptedAt policy

/-- The deadline of a retention that was accepted under a policy. -/
def deadlineOf (acceptedAt : Instant) (policy : RetentionPolicy) : Instant :=
  acceptedAt + policy.retentionHours * 60 * 60 * 1000

/-- The deadline of every instance is the one of its latest retention. -/
structure Dated (host : Host) (start s : Platform.State) : Prop where
  run : Reaches (Platform.next host) Anything start s
  dated : ∀ instanceId row deadline, s.instance_ instanceId = some row → row.retentionDeadline = some deadline →
    ∃ acceptedAt policy, LatestRetention host start s instanceId acceptedAt policy ∧ deadline = deadlineOf acceptedAt policy

section
variable {start s t : Platform.State}

theorem LatestRetention.next {instanceId : Uuid} {acceptedAt : Instant} {policy : RetentionPolicy} {action : Platform.Action}
    {more : List Lifecycle.Entry} (latest : LatestRetention host start s instanceId acceptedAt policy)
    (taken : Platform.next host s action = some t) (history : t.control.history = s.control.history ++ more)
    (apart : ∀ other id, .accepted (.retention other) id ∈ more → other.instanceId ≠ instanceId) :
    LatestRetention host start t instanceId acceptedAt policy := by
  obtain ⟨before, after, draws, command, requestHash, operationId, later, leading, accepted, following, about, moment,
    inForce, first, since, latest⟩ := latest
  refine .accepted before after draws command requestHash operationId (later ++ more) leading accepted
    (following.tail ⟨action, trivial, taken⟩) about moment inForce first ?_ ?_
  · rw [history, since, List.append_assoc]
  · intro other id member
    rcases List.mem_append.mp member with old | new
    · exact latest other id old
    · exact apart other id new

/-- Where the deadline of an instance comes from when a request is accepted. -/
theorem effects_deadline {draws : Draws} {db after : ControlDb} {answer : AcceptedMutation} {request : Request}
    (effects : Effects host draws db after answer request) {instanceId : Uuid} {row : InstanceRow} {deadline : Instant}
    (found : after.instance_ instanceId = some row) (due : row.retentionDeadline = some deadline) :
    (∃ old, db.instance_ instanceId = some old ∧ old.retentionDeadline = some deadline ∧
        (answer.replayed = false → ∀ command, request = .retention command → command.instanceId ≠ instanceId)) ∨
      ∃ command policy, request = .retention command ∧ command.instanceId = instanceId ∧ answer.replayed = false ∧
        db.retentionPolicy = some policy ∧ deadline = retentionDeadline draws policy := by
  have other {m : Mutation} (mutates : Mutates db after draws.now m) (keeps : ∀ row, (m.rewrite row).id = row.id)
      (undue : ∀ row, (m.rewrite row).retentionDeadline = row.retentionDeadline)
      (quiet : ∀ command, request ≠ .retention command) :
      ∃ old, db.instance_ instanceId = some old ∧ old.retentionDeadline = some deadline ∧
        (answer.replayed = false → ∀ command, request = .retention command → command.instanceId ≠ instanceId) := by
    rw [mutates_instance mutates keeps] at found
    obtain ⟨old, there, same⟩ := Option.map_eq_some_iff.mp found
    refine ⟨old, there, ?_, fun _ command impossible => absurd impossible (quiet command)⟩
    rw [← due, ← same]
    split
    · exact (undue old).symm
    · rfl
  cases effects with
  | replayed _ same again =>
    subst same
    exact .inl ⟨row, found, due, fun first => by rw [again] at first; cases first⟩
  | create command context address records _ _ built creates =>
    obtain ⟨-, -, -, undue, -⟩ := buildAcceptanceRecords_ok built
    refine .inl ⟨row, ?_, due, fun _ _ impossible => by cases impossible⟩
    rw [ControlDb.instance_, creates.instances, find_append] at found
    cases old : find InstanceRow.id instanceId db.instances with
    | none =>
      rw [old, Option.none_or, find, List.find?_singleton] at found
      split at found
      · cases found
        cases undue.symm.trans due
      · cases found
    | some first =>
      rw [old, Option.some_or] at found
      exact old.trans found
  | power _ _ _ mutates => exact .inl (other mutates (fun _ => rfl) (fun _ => rfl) fun _ => by simp)
  | resize _ _ _ _ _ _ mutates => exact .inl (other mutates (fun _ => rfl) (fun _ => rfl) fun _ => by simp)
  | snapshotCreate _ _ _ _ mutates => exact .inl (other mutates (fun _ => rfl) (fun _ => rfl) fun _ => by simp)
  | snapshotAction _ _ _ _ _ _ _ _ mutates => exact .inl (other mutates (fun _ => rfl) (fun _ => rfl) fun _ => by simp)
  | purge _ _ _ _ _ _ _ _ _ mutates => exact .inl (other mutates (fun _ => rfl) (fun _ => rfl) fun _ => by simp)
  | replay _ _ _ _ _ _ _ written =>
    subst written
    exact .inl ⟨row, found, due, fun _ _ impossible => by cases impossible⟩
  | retention command taken policy idle current mutates first =>
    rw [mutates_instance mutates fun _ => rfl] at found
    obtain ⟨old, there, same⟩ := Option.map_eq_some_iff.mp found
    by_cases here : instanceId = (retentionMutation draws command taken policy).row.id
    · rw [if_pos here] at same
      subst same
      cases due
      exact .inr ⟨command, policy, rfl, idle.id.symm.trans here.symm, first, current, rfl⟩
    · rw [if_neg here] at same
      subst same
      refine .inl ⟨old, there, due, fun _ other same => ?_⟩
      cases same
      exact fun about => here (about.symm.trans idle.id.symm)

theorem dated_next {action : Platform.Action} (dated : Dated host start s) (taken : Platform.next host s action = some t) :
    Dated host start t := by
  refine ⟨dated.run.tail ⟨action, trivial, taken⟩, ?_⟩
  intro instanceId row deadline found due
  -- What leaves the deadline of the instance alone.
  have kept (before : ∃ old, s.instance_ instanceId = some old ∧ old.retentionDeadline = some deadline)
      {more : List Lifecycle.Entry} (history : t.control.history = s.control.history ++ more)
      (apart : ∀ other id, .accepted (.retention other) id ∈ more → other.instanceId ≠ instanceId) :
      ∃ acceptedAt policy, LatestRetention host start t instanceId acceptedAt policy ∧
        deadline = deadlineOf acceptedAt policy := by
    obtain ⟨old, there, same⟩ := before
    obtain ⟨acceptedAt, policy, latest, until_⟩ := dated.dated instanceId old deadline there same
    exact ⟨acceptedAt, policy, latest.next taken history apart, until_⟩
  have quiet (instances : t.control.db.instances = s.control.db.instances)
      (history : t.control.history = s.control.history) :
      ∃ acceptedAt policy, LatestRetention host start t instanceId acceptedAt policy ∧
        deadline = deadlineOf acceptedAt policy := by
    have before : s.instance_ instanceId = some row := by
      rw [Platform.State.instance_, ControlDb.instance_, ← instances]
      exact found
    exact kept ⟨row, before, due⟩ (history.trans (List.append_nil _).symm) fun _ _ impossible =>
      absurd impossible List.not_mem_nil
  rcases control_next taken with same | ⟨act, controls, stepped⟩
  · exact quiet (by rw [same]) (by rw [same])
  · cases Lifecycle.does_next stepped with
    | accepted draws request requestHash answer ended effects history =>
      rcases effects_deadline effects found due with ⟨old, there, same, apart⟩ | ⟨command, policy, rfl, about, first, current, until_⟩
      · by_cases again : answer.replayed = true
        · rw [if_pos again] at history
          exact kept ⟨old, there, same⟩ (history.trans (List.append_nil _).symm) fun _ _ impossible =>
            absurd impossible List.not_mem_nil
        · rw [if_neg again] at history
          refine kept ⟨old, there, same⟩ history fun other id member => ?_
          cases List.mem_singleton.mp member
          exact apart (Bool.of_not_eq_true again) other rfl
      · cases controls with
        | request =>
          rw [if_neg (by simp [first])] at history
          exact ⟨draws.now, policy, .accepted s t draws command requestHash answer.operationId [] dated.run taken .refl about
            rfl current history (List.append_nil _).symm (fun _ _ impossible => absurd impossible List.not_mem_nil), until_⟩
    | projected event delivery now _ applied history =>
      rw [Platform.State.instance_, instance_update (projectedInstance_id event) applied.projected.instances] at found
      obtain ⟨old, there, same⟩ := Option.map_eq_some_iff.mp found
      refine kept ⟨old, there, ?_⟩ history fun other id member => ?_
      · rw [← due, ← same]
        split
        · exact (projectedInstance_retentionDeadline event old).symm
        · rfl
      · cases List.mem_singleton.mp member
    | lettered _ _ _ _ written => exact quiet (by rw [written]) (by rw [written])
    | administered _ written => exact quiet (by rw [written]) (by rw [written])
    | nothing _ same => exact quiet (by rw [same]) (by rw [same])

theorem dated_run {catalog : Catalog} {now : Instant}
    (run : Reaches (Platform.next host) Anything (Platform.initial catalog now) s) :
    Dated host (Platform.initial catalog now) s := by
  refine reaches_invariant (Dated host (Platform.initial catalog now)) (fun _ _ _ dated _ taken => dated_next dated taken) run
    ⟨.refl, ?_⟩
  intro instanceId row deadline found
  cases found

end

/-! ### The retention that completed -/

/-- An event that leaves its instance retained. -/
def recordsRetained : WorkflowEventData → Bool
  | .completed _ .retained _ _ _ => true
  | _ => false

/-- The workflow of a retention has succeeded, and the event says so. -/
structure Retires (db : WorkflowDb) (event : WorkflowEvent) (w : WorkflowRow) : Prop where
  member : w ∈ db.workflows
  operation : w.operationId = event.operationId
  about : w.command.aggregateId = event.aggregateId
  action : w.action = .retainInstance
  succeeded : w.status = .succeeded
  retains : retains event = true

section
variable {s t : Orchestrator.State} {action : Orchestrator.Action}

theorem Retires.next {event : WorkflowEvent} {w : WorkflowRow} (retires : Retires s.store.db event w)
    (guarded : Guarded host s) (taken : Orchestrator.next host s action = some t) : Retires t.store.db event w := by
  obtain ⟨member, operation, about, wanted, succeeded, retained⟩ := retires
  obtain ⟨later, found, step⟩ := row_after guarded taken member
  have ended : ¬ w.live := by rintro (live | live) <;> cases succeeded.symm.trans live
  cases step with
  | kept => exact ⟨find_mem found, operation, about, wanted, succeeded, retained⟩
  | claimed live => exact absurd live ended
  | reopened _ failed => cases succeeded.symm.trans failed
  | written _ _ _ handed => exact absurd handed.1 ended

/-- Whatever says that an instance is retained was written by a retention. -/
theorem writes_retires {event : WorkflowEvent} (guarded : Guarded host s) (writes : Writes s t event)
    (records : recordsRetained event.data = true) : ∃ w, Retires t.store.db event w := by
  obtain ⟨flight, member, write, done, own, w, present, operation, handed, later⟩ := writes
  subst own
  have custody := guarded.flights flight member
  have fits := transition_fits (custody.fence done).1 write rfl
  cases fits.outcome with
  | moved _ progressed =>
    rw [StoreWrite.event] at records
    unfold recordsRetained at records
    split at records
    next data => rw [data] at progressed; cases progressed
    next => cases records
  | failed failure status event => simp [StoreWrite.event, event, recordsRetained] at records
  | exhausted => simp [StoreWrite.event, DeadLetterWorkflowInput.event, recordsRetained] at records
  | @succeeded input resource evidenceId observed status data =>
    have retention : flight.workflow.command.data.action = .retainInstance := by
      simp only [StoreWrite.event, data] at records
      cases action : flight.workflow.command.data.action <;> simp [action, finalLifecycle, recordsRetained] at records ⊢
    have wanted : flight.workflow.action = .retainInstance := custody.action.trans retention
    refine ⟨rewritten (.complete input) s.store.now w, later, ?_, ?_, ?_, ?_, ?_⟩
    · exact (rewritten_operation _ _ w).trans operation
    · rw [rewritten_command, ← handed.command]
      exact (congrArg Envelope.aggregateId fits.envelope).symm
    · rw [rewritten_action, ← handed.action]
      exact wanted
    · simp only [rewritten, completedRow, status]
      rfl
    · simp [retains, StoreWrite.event, data, wanted, retention, finalLifecycle]

end

/-- Whatever was published or projected as retained was a retention, and every
    retained instance was projected so. -/
structure Retired (host : Host) (s : Platform.State) : Prop where
  guarded : Guarded host s.orchestrator
  keyed : Keyed InstanceRow.id s.control.db.instances
  published : ∀ event, Concluded s.orchestrator.store.db event → recordsRetained event.data = true →
    ∃ w, Retires s.orchestrator.store.db event w
  projected : ∀ event, .projected event ∈ s.control.history → recordsRetained event.data = true →
    ∃ w, Retires s.orchestrator.store.db event w
  shown : ∀ row ∈ s.control.db.instances, row.lifecycleState = .retained →
    ∃ event, .projected event ∈ s.control.history ∧ event.aggregateId = row.id ∧ recordsRetained event.data = true

section
variable {s t : Platform.State}

theorem recordsRetained_isTerminal {data : WorkflowEventData} (records : recordsRetained data = true) :
    data.isTerminal = true := by
  cases data <;> first | rfl | cases records

/-- A projected event retains its instance, or leaves it retained. -/
theorem projectedInstance_retained {event : WorkflowEvent} {row : InstanceRow}
    (retained : (projectedInstance event row).lifecycleState = .retained) :
    recordsRetained event.data = true ∨ row.lifecycleState = .retained := by
  unfold projectedInstance at retained
  split at retained
  next => cases retained
  next data =>
    simp only [completedInstance] at retained
    subst retained
    left
    rw [data]
    rfl
  next failure compensationState data =>
    simp only [failedInstance] at retained
    split at retained <;> cases retained
  next => exact .inr retained

theorem shown_next {s t : Lifecycle.State} {action : Lifecycle.Action} (keyed : Keyed InstanceRow.id s.db.instances)
    (steps : Lifecycle.Steps s t action)
    (shown : ∀ row ∈ s.db.instances, row.lifecycleState = .retained →
      ∃ event, .projected event ∈ s.history ∧ event.aggregateId = row.id ∧ recordsRetained event.data = true) :
    ∀ row ∈ t.db.instances, row.lifecycleState = .retained →
      ∃ event, .projected event ∈ t.history ∧ event.aggregateId = row.id ∧ recordsRetained event.data = true := by
  intro row member retained
  have rows := Lifecycle.instances_next keyed steps row member
  cases steps with
  | accepted draws request requestHash answer accepted history =>
    have before : row ∈ s.db.instances → ∃ event, .projected event ∈ t.history ∧ event.aggregateId = row.id ∧
        recordsRetained event.data = true := by
      intro old
      obtain ⟨event, told, rest⟩ := shown row old retained
      refine ⟨event, ?_, rest⟩
      rw [history]
      split
      · exact told
      · exact List.mem_append_left _ told
    cases rows with
    | kept _ old => exact before old
    | created _ _ _ pending => cases pending.symm.trans retained
    | taken _ _ _ old _ _ _ open_ lifecycle =>
      rw [← lifecycle, retained] at open_
      cases open_
    | retiring _ _ _ _ _ _ _ _ lifecycle => cases lifecycle.symm.trans retained
    | purging _ _ _ _ _ _ _ lifecycle => cases lifecycle.symm.trans retained
  | projected event delivery now projected history =>
    have told {earlier : WorkflowEvent} (member : .projected earlier ∈ s.history) : .projected earlier ∈ t.history := by
      rw [history]
      exact List.mem_append_left _ member
    cases rows with
    | kept _ old =>
      obtain ⟨earlier, member, rest⟩ := shown row old retained
      exact ⟨earlier, told member, rest⟩
    | projected _ _ _ old present about same =>
      subst same
      rcases projectedInstance_retained retained with records | was
      · refine ⟨event, ?_, ?_, records⟩
        · rw [history]
          exact List.mem_append_right _ List.mem_cons_self
        · rw [projectedInstance_id, about]
      · obtain ⟨earlier, member, same, records⟩ := shown old present was
        exact ⟨earlier, told member, same.trans (projectedInstance_id event old).symm, records⟩
  | quiet _ instances _ history =>
    rw [history]
    exact shown row (instances ▸ member) retained

theorem retired_next {action : Platform.Action} (retired : Retired host s) (taken : Platform.next host s action = some t) :
    Retired host t := by
  have ⟨guarded, keyed, published, projected, shown⟩ := retired
  rcases orchestrator_next taken with orchestrator | ⟨control, act, -, stepped⟩
  · rcases control_next taken with control | ⟨act, controls, stepped⟩
    · exact ⟨orchestrator ▸ guarded, control ▸ keyed, orchestrator ▸ published, control ▸ orchestrator ▸ projected,
        control ▸ shown⟩
    · have steps := Lifecycle.steps_next stepped
      refine ⟨orchestrator ▸ guarded, Lifecycle.keyed_next keyed steps, orchestrator ▸ published, ?_,
        shown_next keyed steps shown⟩
      rw [orchestrator]
      intro event told records
      cases steps with
      | accepted _ _ _ answer _ history =>
        rw [history] at told
        split at told
        · exact projected event told records
        · rcases List.mem_append.mp told with old | new
          · exact projected event old records
          · cases List.mem_singleton.mp new
      | projected _ delivery now _ history =>
        rw [history] at told
        rcases List.mem_append.mp told with old | new
        · exact projected event old records
        · cases List.mem_singleton.mp new
          cases controls with
          | event _ _ _ _ row found _ message =>
            exact published event ⟨⟨row, List.mem_of_getElem? found, message⟩, recordsRetained_isTerminal records⟩ records
      | quiet _ _ _ history =>
        rw [history] at told
        exact projected event told records
  · refine ⟨guarded_next guarded stepped, control ▸ keyed, ?_, ?_, control ▸ shown⟩
    · intro event concluded records
      obtain ⟨written, publishes⟩ := ended_next guarded stepped
      rcases publishes event concluded with before | ⟨-, writes⟩
      · obtain ⟨w, retires⟩ := published event before records
        exact ⟨w, retires.next guarded stepped⟩
      · exact writes_retires guarded writes records
    · rw [control]
      intro event told records
      obtain ⟨w, retires⟩ := projected event told records
      exact ⟨w, retires.next guarded stepped⟩

theorem retired_run {catalog : Catalog} {now : Instant}
    (run : Reaches (Platform.next host) Anything (Platform.initial catalog now) s) : Retired host s := by
  refine reaches_invariant (Retired host) (fun _ _ _ retired _ taken => retired_next retired taken) run
    ⟨guarded_initial now, List.nodup_nil, ?_, ?_, ?_⟩
  · rintro event ⟨⟨row, impossible, -⟩, -⟩
    exact absurd impossible List.not_mem_nil
  · intro event impossible
    exact absurd impossible List.not_mem_nil
  · intro row impossible
    exact absurd impossible List.not_mem_nil

end

/-! ### The theorem -/

/-- What is to hold of a purge that is accepted. -/
structure InWindow (host : Host) (start s : Platform.State) (now : Instant) (purge : LifecycleCommand) : Prop where
  retained : ∃ w ∈ s.workflows, w.command.aggregateId = purge.aggregateId ∧ w.action = .retainInstance ∧
    w.status = .succeeded ∧ ∃ event, .projected event ∈ s.control.history ∧ event.operationId = w.operationId ∧
      retains event = true
  alone : ∀ other, Queued s.control.db other → other.aggregateId = purge.aggregateId → ¬ Running s other.operationId
  elapsed : ∃ acceptedAt policy, LatestRetention host start s purge.aggregateId acceptedAt policy ∧
    deadlineOf acceptedAt policy ≤ now ∧
    ∃ data, purge.data = .purge data ∧ data.retentionDeadline = deadlineOf acceptedAt policy

section
variable {s t : Platform.State} {draws : Draws} {command : PurgeInstanceCommand} {requestHash : String}
  {purge : LifecycleCommand}

/-- A purge that is accepted finds its instance free, retained and overdue. -/
theorem purge_accepted (taken : Platform.next host s (.accept draws (.purge command) requestHash) = some t)
    (created : Queued t.control.db purge) (new : ¬ Queued s.control.db purge) :
    ∃ row deadline, s.instance_ purge.aggregateId = some row ∧ purge.aggregateId = command.instanceId ∧
      row.activeOperationId = none ∧ row.lifecycleState = .retained ∧ row.retentionDeadline = some deadline ∧
      deadline ≤ draws.now ∧ purge = (purgeMutation draws command row deadline).event := by
  have stepped := controlled_control taken
  cases Lifecycle.does_next stepped with
  | accepted _ _ _ answer ended effects history =>
    cases effects with
    | replayed _ same => exact absurd (same ▸ created) new
    | purge _ row deadline found about idle retained due past mutates =>
      obtain ⟨outboxId, appended⟩ := mutates.outbox
      rcases (queued_append appended).mp created with old | rfl
      · exact absurd old new
      · exact ⟨row, deadline, found, about, idle, retained, due, past, rfl⟩
  | nothing _ same => exact absurd (same ▸ created) new

/-- In every run in which replayed operations stay apart, a purge is accepted
    only in the window that its latest retention leaves. -/
theorem purge_in_window (host : Host) (catalog : Catalog) (began : Instant) {s t : Platform.State}
    (run : Reaches (Platform.next host) Apart (Platform.initial catalog began) s) {draws : Draws}
    {command : PurgeInstanceCommand} {requestHash : String} (apart : Apart s (.accept draws (.purge command) requestHash))
    (taken : Platform.next host s (.accept draws (.purge command) requestHash) = some t) {purge : LifecycleCommand}
    (created : Queued t.control.db purge) (new : ¬ Queued s.control.db purge) :
    InWindow host (Platform.initial catalog began) s draws.now purge := by
  have exclusive := exclusive_run run
  have anyhow : Reaches (Platform.next host) Anything (Platform.initial catalog began) s :=
    reaches_weaken (fun _ _ _ => trivial) run
  obtain ⟨row, deadline, found, about, idle, retained, due, past, written⟩ := purge_accepted taken created new
  have free : holder s purge.aggregateId = none := by
    rw [holder, holderOf, show s.control.db.instance_ purge.aggregateId = some row from found]
    exact idle
  constructor
  · have retired := retired_run anyhow
    obtain ⟨event, told, same, records⟩ := retired.shown row (find_mem found) retained
    obtain ⟨w, retires⟩ := retired.projected event told records
    have key : row.id = purge.aggregateId := find_key found
    exact ⟨w, retires.member, retires.about.trans (same.trans key), retires.action, retires.succeeded, event, told,
      retires.operation.symm, retires.retains⟩
  · intro other queued same running
    have open_ : Open s purge.aggregateId other.operationId := ⟨⟨other, queued, same, rfl⟩, .inl running⟩
    have untouched := apart purge.aggregateId (congrArg some about.symm) free other.operationId open_
    cases (exclusive.held _ _ open_ untouched).symm.trans free
  · obtain ⟨acceptedAt, policy, latest, until_⟩ := (dated_run anyhow).dated purge.aggregateId row deadline found due
    refine ⟨acceptedAt, policy, latest, until_ ▸ past, ?_⟩
    rw [written, ← until_]
    exact ⟨_, rfl, rfl⟩

end

end

/-! ### A purge in its window, and one beside a replayed creation -/

/-- The creation of an instance and its projection. -/
def sampleCreated : List Platform.Action :=
  Operations.sampleStarted ++
    (Operations.answeredClaim 1 .createInstance "00000000-0000-4000-8000-000000000131" sampleResult ++
    (Operations.answeredClaim 2 .createInstance "00000000-0000-4000-8000-000000000132" sampleResult ++
    (Operations.answeredClaim 3 .createInstance "00000000-0000-4000-8000-000000000133" sampleResult ++
    (Operations.answeredClaim 4 .createInstance "00000000-0000-4000-8000-000000000134" sampleResult ++
    [Operations.sampleProjection 4]))))

/-- The retention of the sample instance and its projection, by the claims from
    the number given. -/
def sampleRetaining (claim : Nat) : List Platform.Action :=
  Rejections.requests (Lifecycle.acceptSampleMutation 1000 sampleRetention .retention) ++
    Operations.sampleConsumption 1 "" ::
    (Operations.silentClaim claim .retainInstance "00000000-0000-4000-8000-000000000135" ++
    (Operations.answeredClaim (claim + 1) .retainInstance "00000000-0000-4000-8000-000000000136" sampleResult ++
    (Operations.answeredClaim (claim + 2) .retainInstance "00000000-0000-4000-8000-000000000137" sampleResult ++
    [Operations.sampleProjection 7])))

/-- The request to purge it, once the retention of a day has expired. -/
def samplePurgeCommand : PurgeInstanceCommand :=
  ⟨"alice", samplePurge.eventId, samplePurge.aggregateId, samplePurge.correlationId, samplePurge.aggregateId⟩

def samplePurgeDraws : Draws :=
  Lifecycle.sampleDraws 86401000
    [samplePurge.operationId, samplePurge.eventId, "outbox", "00000000-0000-4000-8000-0000000000f1"]

def samplePurging : Platform.Action := .accept samplePurgeDraws (.purge samplePurgeCommand) "hash"

/-- Whether no replay is delivered, and none was. -/
def unreplayed (s : Platform.State) : Platform.Action → Bool
  | .consume index _ _ _ _ => s.commands[index]?.all fun row => row.replayGeneration = 0
  | _ => s.workflows.all fun w => w.replayGeneration = 0

theorem apart_of_unreplayed {s : Platform.State} {action : Platform.Action} (fresh : unreplayed s action = true) :
    Apart s action := by
  have quiet (all : s.workflows.all (fun w => w.replayGeneration = 0) = true) (operationId : Uuid) :
      ¬ Replayed s operationId := by
    rintro ⟨w, member, -, again⟩
    exact again (of_decide_eq_true (List.all_eq_true.mp all w member))
  cases action with
  | accept draws request requestHash => exact fun _ _ _ operationId _ => quiet fresh operationId
  | consume index partition offset drawn attempts =>
    rintro command ⟨row, found, -, replay, -⟩
    rw [unreplayed, found, Option.all_some] at fresh
    exact absurd (of_decide_eq_true fresh) replay
  | administer | project | work => exact fun _ impossible => impossible.elim

instance (db : ControlDb) (command : LifecycleCommand) : Decidable (Queued db command) :=
  inferInstanceAs (Decidable (∃ row ∈ db.outbox, row.message = .lifecycle command))

/-- The purge that is accepted in the sample. -/
def sampleWindowed : LifecycleCommand :=
  { samplePurge with
    occurredAt := 86401000,
    data := .purge ⟨"00000000-0000-4000-8000-0000000000f1", 86401000, "00000000-0000-4000-8000-0000000000f1", "proxmox",
      sampleCreate.operationId⟩ }

/-- Whether the purge is accepted next. -/
def purges (s : Platform.State) : Bool :=
  (Platform.next sampleHost s samplePurging).any fun t =>
    decide (Queued t.control.db sampleWindowed) && !decide (Queued s.control.db sampleWindowed)

theorem purge_in_window_sample : ∃ s t,
    execute (Platform.next sampleHost) (Platform.initial Lifecycle.sampleCatalog 0) (sampleCreated ++ sampleRetaining 5) =
      some s ∧
    Platform.next sampleHost s samplePurging = some t ∧ Queued t.control.db sampleWindowed ∧
    InWindow sampleHost (Platform.initial Lifecycle.sampleCatalog 0) s 86401000 sampleWindowed := by
  have passed : (tested (Platform.next sampleHost) unreplayed (Platform.initial Lifecycle.sampleCatalog 0)
      (sampleCreated ++ sampleRetaining 5)).any (fun s => unreplayed s samplePurging && purges s) = true := by decide +kernel
  obtain ⟨s, reached, holds⟩ := (Option.any_eq_true _ _).mp passed
  obtain ⟨fresh, accepts⟩ := (Bool.and_eq_true _ _).mp holds
  obtain ⟨t, taken, queued⟩ := (Option.any_eq_true _ _).mp accepts
  simp only [Bool.and_eq_true, Bool.not_eq_true', decide_eq_true_eq, decide_eq_false_iff_not] at queued
  have run : Reaches (Platform.next sampleHost) Apart (Platform.initial Lifecycle.sampleCatalog 0) s :=
    reaches_tested (fun _ _ => apart_of_unreplayed) reached
  exact ⟨s, t, execute_tested reached, taken, queued.1,
    purge_in_window sampleHost Lifecycle.sampleCatalog 0 run (apart_of_unreplayed fresh) taken queued.1 queued.2⟩

/-- The sample creation fails, its instance is retained, and then the creation is
    replayed. -/
def sampleRevived : List Platform.Action :=
  Operations.sampleExhausted ++ (sampleRetaining 4 ++
    [Operations.sampleReplayRequest, Operations.sampleConsumption 2 "00000000-0000-4000-8000-000000000123",
      Operations.sampleConsumption 3 "00000000-0000-4000-8000-000000000124"])

/-- Whether the workflows of an operation are live. -/
def running (s : Platform.State) (operationId : Uuid) : Bool :=
  s.workflows.all fun w => w.operationId ≠ operationId ∨ w.live

/-- A purge is accepted while a creation of the instance is running. -/
theorem purge_beside_creation : ¬ ∀ (host : Host) (catalog : Catalog) (began : Instant) (s t : Platform.State),
    Reaches (Platform.next host) Anything (Platform.initial catalog began) s →
    ∀ draws command requestHash, Platform.next host s (.accept draws (.purge command) requestHash) = some t →
      ∀ purge, Queued t.control.db purge → ¬ Queued s.control.db purge →
        InWindow host (Platform.initial catalog began) s draws.now purge := by
  intro every
  have passed : (execute (Platform.next sampleHost) (Platform.initial Lifecycle.sampleCatalog 0) sampleRevived).any
      (fun s => decide (Queued s.control.db sampleCreate) && running s sampleCreate.operationId && purges s) = true := by
    decide +kernel
  obtain ⟨s, reached, holds⟩ := (Option.any_eq_true _ _).mp passed
  obtain ⟨begun, accepts⟩ := (Bool.and_eq_true _ _).mp holds
  obtain ⟨created, running⟩ := (Bool.and_eq_true _ _).mp begun
  obtain ⟨t, taken, queued⟩ := (Option.any_eq_true _ _).mp accepts
  simp only [Bool.and_eq_true, Bool.not_eq_true', decide_eq_true_eq, decide_eq_false_iff_not] at queued
  have window := every sampleHost Lifecycle.sampleCatalog 0 s t (reaches_execute (meets_anything _ _) reached)
    samplePurgeDraws samplePurgeCommand "hash" taken sampleWindowed queued.1 queued.2
  refine window.alone sampleCreate (of_decide_eq_true created) rfl fun w member same => ?_
  exact (of_decide_eq_true (List.all_eq_true.mp running w member)).resolve_left (absurd same)

end ControlPlane.PurgeWindow
