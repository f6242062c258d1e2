import ControlPlane.Drift
import ControlPlane.ExactlyOnce

/-!
The two copies of what a reconciliation found: the columns of the instance, which the
sweeps and the projection of a completion write, and the document of the instance,
which the events of both topics write. The topics keep their own order and are applied
in any interleaving. A drift that the columns hold is shown by the document once all
events are applied (`drift_heard`); the observed block of the document is what the
last completion reported (`observed_reported`).
-/
namespace ControlPlane.DriftAgreement
open ControlPlane.Tables ControlPlane.Runs ControlPlane.Domain ControlPlane.Commands ControlPlane.WorkflowSchema
open ControlPlane.ControlSchema ControlPlane.ProjectionStore ControlPlane.ProjectionConsumer ControlPlane.AcceptanceRules
open ControlPlane.Reconciliation ControlPlane.Drift ControlPlane.EventValidation
open ControlPlane.ProviderPort (ObservedPowerState)
open ControlPlane.ExactlyOnce (sampleAccepted sampleCompleted)

/-! ### Two topics -/

/-- The tables, the events of each topic that are not applied yet, and two records of
    the run: the instances that were claimed after their columns were last written, and
    the completion of each instance that was applied last. -/
structure State where
  db : ControlDb
  reconciliation : List DriftEvent := []
  workflow : List WorkflowEvent := []
  claimed : List Uuid := []
  completion : Uuid → Option WorkflowEvent := fun _ => none

inductive Action
  | claim (workflows : List WorkflowResource) (sweep : Sweep)
  | record (eventId : Uuid) (outcome : ReconciliationOutcome)
  /-- The orchestrator publishes an event of a workflow. -/
  | emit (event : WorkflowEvent)
  /-- The next event of the reconciliation topic is applied. -/
  | applyDrift
  /-- The next event of the workflow topic is applied. -/
  | applyWorkflow

def completes (event : WorkflowEvent) : Bool :=
  match event.data with
  | .completed .. => true
  | _ => false

/-- What a completion reports about its instance. -/
def reportOf (event : WorkflowEvent) : Option ObservedState :=
  match event.data with
  | .completed _ _ _ _ observed => observed
  | _ => none

def others (id : Uuid) (ids : List Uuid) : List Uuid := ids.filter fun other => other ≠ id

/-- An event is applied once. One that cannot be applied changes nothing. -/
def next (s : State) : Action → Option State
  | .claim workflows sweep =>
    some { s with
      db := { s.db with instances := (claimStaleInstances workflows sweep s.db.instances).2 },
      claimed := (Reconciliation.claimed workflows sweep).map InstanceRow.id ++ s.claimed }
  | .record eventId outcome =>
    let (db, event) := recordObservation eventId outcome s.db
    some { s with
      db := db, reconciliation := s.reconciliation ++ event.toList, claimed := others outcome.instanceId s.claimed }
  | .emit event => some { s with workflow := s.workflow ++ [event] }
  | .applyDrift =>
    match s.reconciliation with
    | [] => none
    | event :: rest =>
      match project s.db (.drift event.toEnvelope (some event.classification.text)) with
      | .ok db => some { s with db := db, reconciliation := rest }
      | .error _ => some { s with reconciliation := rest }
  | .applyWorkflow =>
    match s.workflow with
    | [] => none
    | event :: rest =>
      match project s.db (.workflow event) with
      | .ok db =>
        if completes event = true then
          some { s with
            db := db, workflow := rest, claimed := others event.aggregateId s.claimed,
            completion := fun id => if id = event.aggregateId then some event else s.completion id }
        else some { s with db := db, workflow := rest }
      | .error _ => some { s with workflow := rest }

/-- All events that were published are applied. -/
def Drained (s : State) : Prop := s.reconciliation = [] ∧ s.workflow = []

/-- Tables in which no instance was reconciled and none has completed anything. -/
structure Unobserved (db : ControlDb) : Prop where
  rows : ∀ row ∈ db.instances, row.drift = .none
  documents : ∀ document ∈ db.instanceDocuments, document.drift = DriftClassification.none.text ∧ document.observed = none

instance (db : ControlDb) : Decidable (Unobserved db) :=
  decidable_of_iff ((∀ row ∈ db.instances, row.drift = .none) ∧ ∀ document ∈ db.instanceDocuments,
      document.drift = DriftClassification.none.text ∧ document.observed = none)
    ⟨fun ⟨rows, documents⟩ => ⟨rows, documents⟩, fun ⟨rows, documents⟩ => ⟨rows, documents⟩⟩

/-! ### What the document will show -/

/-- A finding, written to a document. -/
def withFinding (event : DriftEvent) (document : InstanceView) : InstanceView :=
  { document with
    drift := event.classification.text, lastReconciledAt := some event.occurredAt, updatedAt := event.occurredAt }

/-- The last finding about an instance that is not applied yet. -/
def pending (id : Uuid) (events : List DriftEvent) : Option DriftEvent :=
  (events.filter fun event => event.aggregateId = id).getLast?

/-- The drift that a document shows when the findings that were published are applied,
    and when it was found. -/
def shown (events : List DriftEvent) (document : InstanceView) : String × Option Instant :=
  match pending document.id events with
  | some event => (event.classification.text, some event.occurredAt)
  | none => (document.drift, document.lastReconciledAt)

section
variable {events : List DriftEvent} {event : DriftEvent} {document : InstanceView}

theorem shown_append (about : event.aggregateId = document.id) :
    shown (events ++ [event]) document = (event.classification.text, some event.occurredAt) := by
  simp [shown, pending, about]

theorem shown_append_other (other : event.aggregateId ≠ document.id) : shown (events ++ [event]) document = shown events document := by
  simp [shown, pending, other]

theorem shown_cons_other (other : event.aggregateId ≠ document.id) : shown (event :: events) document = shown events document := by
  simp [shown, pending, other]

/-- Applying the first finding changes nothing in what its document will show. -/
theorem shown_withFinding (about : event.aggregateId = document.id) :
    shown events (withFinding event document) = shown (event :: events) document := by
  have first : pending document.id (event :: events) = some ((pending document.id events).getD event) := by
    simp [pending, about, List.getLast?_cons]
  rw [shown, shown, first, show (withFinding event document).id = document.id from rfl]
  cases pending document.id events with
  | none => rfl
  | some last => rfl

theorem shown_same {after : InstanceView} (id : after.id = document.id) (drift : after.drift = document.drift)
    (found : after.lastReconciledAt = document.lastReconciledAt) : shown events after = shown events document := by
  simp [shown, id, drift, found]

theorem shown_nil : shown [] document = (document.drift, document.lastReconciledAt) := rfl

theorem shown_none (none : ∀ event ∈ events, event.aggregateId ≠ document.id) :
    shown events document = (document.drift, document.lastReconciledAt) := by
  have empty : (events.filter fun event => event.aggregateId = document.id) = [] := by
    simpa [List.filter_eq_nil_iff] using none
  simp [shown, pending, empty]

end

/-! ### What a step does to one instance -/

def documentOf (db : ControlDb) (id : Uuid) : Option InstanceView := find InstanceView.id id db.instanceDocuments

/-- A rewriting of a row that leaves alone what was observed. -/
def KeepsRow (rewrite : InstanceRow → InstanceRow) : Prop :=
  ∀ row, (rewrite row).drift = row.drift ∧ (rewrite row).lastReconciledAt = row.lastReconciledAt ∧
    (rewrite row).observed = row.observed

def KeepsDocument (rewrite : InstanceView → InstanceView) : Prop :=
  ∀ document, (rewrite document).id = document.id ∧ (rewrite document).drift = document.drift ∧
    (rewrite document).lastReconciledAt = document.lastReconciledAt ∧ (rewrite document).observed = document.observed

inductive Moves (s t : State) (id : Uuid) : Action → Prop
  | kept (action : Action) (row : InstanceRow → InstanceRow) (view : InstanceView → InstanceView) (keeps : KeepsRow row)
      (shows : KeepsDocument view) (rows : t.db.instance_ id = (s.db.instance_ id).map row)
      (documents : documentOf t.db id = (documentOf s.db id).map view)
      (events : ∀ document, document.id = id → shown t.reconciliation document = shown s.reconciliation document)
      (marks : id ∈ s.claimed → id ∈ t.claimed) (same : t.completion id = s.completion id) : Moves s t id action
  | claimed (workflows : List WorkflowResource) (sweep : Sweep)
      (rows : t.db.instance_ id = (s.db.instance_ id).map fun row => { row with lastReconciledAt := some sweep.now })
      (documents : documentOf t.db id = documentOf s.db id) (events : t.reconciliation = s.reconciliation)
      (marks : id ∈ t.claimed) (same : t.completion id = s.completion id) : Moves s t id (.claim workflows sweep)
  | recorded (eventId : Uuid) (outcome : ReconciliationOutcome) (about : outcome.instanceId = id)
      (rows : t.db.instance_ id = (s.db.instance_ id).map (recordedInstance outcome))
      (documents : documentOf t.db id = documentOf s.db id)
      (events : t.reconciliation = s.reconciliation ++ (driftEvent eventId outcome).toList)
      (same : t.completion id = s.completion id) : Moves s t id (.record eventId outcome)
  | found (event : DriftEvent) (about : event.aggregateId = id) (events : s.reconciliation = event :: t.reconciliation)
      (rows : t.db.instance_ id = s.db.instance_ id)
      (documents : documentOf t.db id = (documentOf s.db id).map (withFinding event))
      (marks : t.claimed = s.claimed) (same : t.completion id = s.completion id) : Moves s t id .applyDrift
  | completed (event : WorkflowEvent) (about : event.aggregateId = id) (events : t.reconciliation = s.reconciliation)
      (head : ∃ rest, s.workflow = event :: rest) (completes : completes event = true)
      (rows : t.db.instance_ id = (s.db.instance_ id).map (projectedInstance event))
      (documents : ∃ row, documentOf t.db id = (documentOf s.db id).map (projectedDocument event row))
      (applied : t.completion id = some event) : Moves s t id .applyWorkflow

theorem keepsRow_id : KeepsRow id := fun _ => ⟨rfl, rfl, rfl⟩

theorem keepsDocument_id : KeepsDocument id := fun _ => ⟨rfl, rfl, rfl, rfl⟩

section
variable {s t : State} {id : Uuid} {event : WorkflowEvent}

/-- Only a completion says what was observed. -/
theorem projectedInstance_keeps (other : completes event = false) : KeepsRow (projectedInstance event) := by
  intro row
  unfold completes at other
  unfold projectedInstance
  split
  next => exact ⟨rfl, rfl, rfl⟩
  next data => rw [data] at other; cases other
  next => exact ⟨rfl, rfl, rfl⟩
  next => exact ⟨rfl, rfl, rfl⟩

theorem projectedDocument_keeps (other : completes event = false) (row : Option InstanceRow) :
    KeepsDocument (projectedDocument event row) := by
  intro document
  unfold completes at other
  unfold projectedDocument
  split
  next => exact ⟨rfl, rfl, rfl, rfl⟩
  next data => rw [data] at other; cases other
  next => exact ⟨rfl, rfl, rfl, rfl⟩
  next => exact ⟨rfl, rfl, rfl, rfl⟩

/-- The row of an instance after its rows were rewritten. -/
theorem instance_updateInstance (db : ControlDb) (about : Uuid) {rewrite : InstanceRow → InstanceRow}
    (keeps : ∀ row, (rewrite row).id = row.id) :
    (db.updateInstance about rewrite).instance_ id =
      (db.instance_ id).map fun row => if id = about then rewrite row else row := by
  rw [ControlDb.instance_, ControlDb.updateInstance, find_update keeps]
  cases found : find InstanceRow.id id db.instances with
  | none => simp [ControlDb.instance_, found]
  | some row => simp [ControlDb.instance_, found, find_key found]

/-- What the projection of a workflow event does to an instance and its document. -/
theorem project_workflow {db after : ControlDb} (projected : project db (.workflow event) = .ok after) :
    (after.instance_ id = (db.instance_ id).map fun row => if id = event.aggregateId then projectedInstance event row else row) ∧
      ∃ row, documentOf after id = (documentOf db id).map fun document =>
        if id = event.aggregateId then projectedDocument event row document else document := by
  cases applyEvent_applied projected with
  | documented document operation views found journaled present same =>
    subst same
    refine ⟨instance_updateInstance db event.aggregateId (projectedInstance_id event), db.instance_ event.aggregateId, ?_⟩
    have key : document.id = event.aggregateId := find_key found
    simp only [documentOf]
    rw [find_update_of fun d chosen => by rw [projectedDocument_id, chosen]]
    cases read : find InstanceView.id id db.instanceDocuments with
    | none => rfl
    | some other =>
      have own : other.id = id := find_key read
      by_cases about : id = event.aggregateId
      · have equal : other = document := by
          rw [about, found] at read
          exact (Option.some.inj read).symm
        simp [about, equal, key]
      · have apart : other.id ≠ document.id := by rw [own, key]; exact about
        simp [about, apart]
  | resolved replayRequestId originalEventId outcome generation resolvedAt data owned known same =>
    subst same
    refine ⟨?_, none, ?_⟩
    · simp [projectedInstance, data, ControlDb.instance_]
    · simp [projectedDocument, data, documentOf]

theorem mem_others {ids : List Uuid} {about : Uuid} (listed : id ∈ ids) (apart : id ≠ about) : id ∈ others about ids :=
  List.mem_filter.mpr ⟨listed, decide_eq_true apart⟩

/-- A step that leaves an instance alone. -/
theorem Moves.quiet {action : Action} (rows : t.db.instance_ id = s.db.instance_ id)
    (documents : documentOf t.db id = documentOf s.db id)
    (events : ∀ document, document.id = id → shown t.reconciliation document = shown s.reconciliation document)
    (marks : id ∈ s.claimed → id ∈ t.claimed) (same : t.completion id = s.completion id) : Moves s t id action :=
  .kept action _ _ keepsRow_id keepsDocument_id (by rw [rows, Option.map_id]; rfl) (by rw [documents, Option.map_id]; rfl) events
    marks same

theorem moves_next {action : Action} (taken : next s action = some t) (id : Uuid) : Moves s t id action := by
  cases action with
  | claim workflows sweep =>
    cases taken
    have rows : find InstanceRow.id id (claimStaleInstances workflows sweep s.db.instances).2 =
        (find InstanceRow.id id s.db.instances).map fun row =>
          if row.id ∈ (Reconciliation.claimed workflows sweep).map InstanceRow.id then
            { row with lastReconciledAt := some sweep.now } else row :=
      find_update fun _ => rfl
    by_cases listed : id ∈ (Reconciliation.claimed workflows sweep).map InstanceRow.id
    · refine .claimed workflows sweep (rows.trans ?_) rfl rfl (List.mem_append_left _ listed) rfl
      cases found : find InstanceRow.id id s.db.instances with
      | none => simp [ControlDb.instance_, found]
      | some row => simp only [ControlDb.instance_, found, Option.map_some, find_key found, if_pos listed]
    · refine .quiet (rows.trans ?_) rfl (fun _ _ => rfl) (fun old => List.mem_append_right _ old) rfl
      cases found : find InstanceRow.id id s.db.instances with
      | none => simp [ControlDb.instance_, found]
      | some row => simp only [ControlDb.instance_, found, Option.map_some, find_key found, if_neg listed]
  | record eventId outcome =>
    cases taken
    have rows := @instance_updateInstance id s.db outcome.instanceId (recordedInstance outcome) (fun _ => rfl)
    by_cases about : id = outcome.instanceId
    · refine .recorded eventId outcome about.symm (rows.trans ?_) rfl rfl rfl
      simp only [if_pos about]
    · refine .quiet (rows.trans ?_) rfl (fun document own => ?_) (fun old => mem_others old about) rfl
      · simp only [if_neg about, Option.map_id']
      · cases published : driftEvent eventId outcome with
        | none => simp
        | some event =>
          have of : event.aggregateId = outcome.instanceId := by
            unfold driftEvent at published
            split at published
            next => cases published
            next => cases published; rfl
          simp only [Option.toList_some]
          exact shown_append_other (by rw [of, own]; exact Ne.symm about)
  | emit event => cases taken; exact .quiet rfl rfl (fun _ _ => rfl) (fun old => old) rfl
  | applyDrift =>
    simp only [next] at taken
    split at taken
    next => cases taken
    next event rest queued =>
      have written : project s.db (.drift event.toEnvelope (some event.classification.text)) =
          .ok { s.db with
            instanceDocuments :=
              update (fun d : InstanceView => d.id = event.aggregateId) (withFinding event) s.db.instanceDocuments } := by
        have said : (some event.classification.text).filter (· ≠ "") = some event.classification.text := by
          cases event.classification <;> decide
        simp only [project, said]
        rfl
      rw [written] at taken
      cases taken
      have documents : find InstanceView.id id
          (update (fun d : InstanceView => d.id = event.aggregateId) (withFinding event) s.db.instanceDocuments) =
            (find InstanceView.id id s.db.instanceDocuments).map fun d =>
              if d.id = event.aggregateId then withFinding event d else d := find_update fun _ => rfl
      by_cases about : event.aggregateId = id
      · refine .found event about queued rfl (documents.trans ?_) rfl rfl
        cases found : find InstanceView.id id s.db.instanceDocuments with
        | none => simp [documentOf, found]
        | some d => simp only [documentOf, found, Option.map_some, find_key found, about, if_true]
      · refine .quiet rfl (documents.trans ?_) (fun document own => ?_) (fun old => old) rfl
        · cases found : find InstanceView.id id s.db.instanceDocuments with
          | none => simp [documentOf, found]
          | some d => simp only [documentOf, found, Option.map_some, find_key found, if_neg (Ne.symm about)]
        · rw [queued]
          exact (shown_cons_other (by rw [own]; exact about)).symm
  | applyWorkflow =>
    simp only [next] at taken
    split at taken
    next => cases taken
    next event rest queued =>
      split at taken
      next db projected =>
        obtain ⟨rows, row, documents⟩ := @project_workflow id event s.db db projected
        split at taken
        next completes =>
          cases taken
          by_cases about : id = event.aggregateId
          · refine .completed event about.symm rfl ⟨rest, queued⟩ completes (rows.trans ?_) ⟨row, documents.trans ?_⟩
              (if_pos about)
            · simp only [if_pos about]
            · simp only [if_pos about]
          · refine .quiet (rows.trans ?_) (documents.trans ?_) (fun _ _ => rfl) (fun old => mem_others old about) (if_neg about)
            · simp only [if_neg about, Option.map_id']
            · simp only [if_neg about, Option.map_id']
        next other =>
          cases taken
          have other : completes event = false := by simpa using other
          refine .kept _ _ _ ?_ ?_ rows documents (fun _ _ => rfl) (fun old => old) rfl
          · intro found
            split
            next => exact projectedInstance_keeps other found
            next => exact keepsRow_id found
          · intro found
            split
            next => exact projectedDocument_keeps other row found
            next => exact keepsDocument_id found
      next => cases taken; exact .quiet rfl rfl (fun _ _ => rfl) (fun old => old) rfl

end

/-! ### A drift that is recorded is heard of -/

/-- What the row of an instance says about a drift, the document will show. -/
def Heard (claimed : List Uuid) (events : List DriftEvent) (row : InstanceRow) (document : InstanceView) : Prop :=
  row.drift ≠ .none → ∃ observed, row.observed = some observed ∧
    shown events document = (row.drift.text, some observed.observedAt) ∧
    (row.lastReconciledAt = some observed.observedAt ∨ document.id ∈ claimed)

/-- The drift of the row is the drift that the document will show. -/
def Agrees (events : List DriftEvent) (row : InstanceRow) (document : InstanceView) : Prop :=
  (shown events document).1 = row.drift.text

/-- A property of each instance that has a row and a document. -/
def Each (property : State → InstanceRow → InstanceView → Prop) (s : State) : Prop :=
  ∀ id row document, s.db.instance_ id = some row → documentOf s.db id = some document → property s row document

def AllHeard : State → Prop := Each fun s row document => Heard s.claimed s.reconciliation row document

def AllAgree : State → Prop := Each fun s row document => Agrees s.reconciliation row document

/-- No sweep finds a drift gone, and no completion is applied before a finding about its
    instance that was published. -/
def Calm (s : State) : Action → Prop
  | .record _ outcome =>
    outcome.drift = .none → ∀ row, s.db.instance_ outcome.instanceId = some row → row.drift = .none
  | .applyWorkflow =>
    ∀ event rest, s.workflow = event :: rest → completes event = true →
      ∀ finding ∈ s.reconciliation, finding.aggregateId ≠ event.aggregateId
  | .claim _ _ | .emit _ | .applyDrift => True

section
variable {s t : State} {action : Action}

theorem completed_row {event : WorkflowEvent} (completed : completes event = true) (row : InstanceRow) :
    (projectedInstance event row).drift = .none := by
  unfold completes at completed
  unfold projectedInstance
  split
  next data => rw [data] at completed; cases completed
  next => rfl
  next data => rw [data] at completed; cases completed
  next data => rw [data] at completed; cases completed

theorem completed_document {event : WorkflowEvent} (completed : completes event = true) (row : Option InstanceRow)
    (document : InstanceView) : (projectedDocument event row document).drift = DriftClassification.none.text ∧
      (projectedDocument event row document).observed = some (observedFromEvent (reportOf event) event.occurredAt) := by
  unfold completes at completed
  unfold projectedDocument reportOf
  split
  next data => rw [data] at completed; cases completed
  next data => rw [data]; exact ⟨rfl, rfl⟩
  next data => rw [data] at completed; cases completed
  next data => rw [data] at completed; cases completed

theorem driftEvent_some {eventId : Uuid} {outcome : ReconciliationOutcome} (drifted : outcome.drift ≠ .none) :
    ∃ event, driftEvent eventId outcome = some event ∧ event.aggregateId = outcome.instanceId ∧
      event.classification = outcome.drift ∧ event.occurredAt = outcome.observedAt :=
  ⟨_, if_neg drifted, rfl, rfl, rfl⟩

/-- A step keeps the promise of each instance. -/
theorem heard_next (heard : AllHeard s) (taken : next s action = some t) : AllHeard t := by
  intro id after view present documented
  cases moves_next taken id with
  | kept _ row rewrite keeps shows rows documents events marks same =>
    obtain ⟨before, found, rfl⟩ := Option.map_eq_some_iff.mp (rows ▸ present)
    obtain ⟨document, read, rfl⟩ := Option.map_eq_some_iff.mp (documents ▸ documented)
    have own : document.id = id := find_key read
    obtain ⟨drift, last, observed⟩ := keeps before
    obtain ⟨named, shows, dated, -⟩ := shows document
    intro drifted
    obtain ⟨state, seen, told, when⟩ := heard id before document found read (drift ▸ drifted)
    refine ⟨state, observed.trans seen, ?_, ?_⟩
    · rw [events _ (named.trans own), shown_same named shows dated, told, drift]
    · rw [last, named, own]
      exact when.imp (fun dated => dated) fun old => marks (own ▸ old)
  | claimed workflows sweep rows documents events marks =>
    obtain ⟨before, found, rfl⟩ := Option.map_eq_some_iff.mp (rows ▸ present)
    have read := documents ▸ documented
    intro drifted
    obtain ⟨state, seen, told, -⟩ := heard id before view found read drifted
    refine ⟨state, seen, events ▸ told, .inr ?_⟩
    rw [show view.id = id from find_key read]
    exact marks
  | recorded eventId outcome about rows documents events =>
    obtain ⟨before, found, rfl⟩ := Option.map_eq_some_iff.mp (rows ▸ present)
    have own : view.id = id := find_key documented
    intro drifted
    obtain ⟨event, published, of, classified, dated⟩ := @driftEvent_some eventId outcome drifted
    refine ⟨_, rfl, ?_, .inl rfl⟩
    rw [events, published, Option.toList_some, shown_append (by rw [of, about, own]), classified, dated]
    rfl
  | found event about events rows documents marks =>
    obtain ⟨document, read, rfl⟩ := Option.map_eq_some_iff.mp (documents ▸ documented)
    have own : document.id = id := find_key read
    intro drifted
    obtain ⟨state, seen, told, when⟩ := heard id after document (rows ▸ present) read drifted
    refine ⟨state, seen, ?_, ?_⟩
    · rw [shown_withFinding (about.trans own.symm), ← events, told]
    · rw [marks]
      exact when
  | completed event about events head completed rows documents =>
    obtain ⟨before, found, rfl⟩ := Option.map_eq_some_iff.mp (rows ▸ present)
    exact fun drifted => absurd (completed_row completed before) drifted

theorem agrees_next (agree : AllAgree s) (calm : Calm s action) (taken : next s action = some t) : AllAgree t := by
  intro id after view present documented
  cases moves_next taken id with
  | kept _ row rewrite keeps shows rows documents events =>
    obtain ⟨before, found, rfl⟩ := Option.map_eq_some_iff.mp (rows ▸ present)
    obtain ⟨document, read, rfl⟩ := Option.map_eq_some_iff.mp (documents ▸ documented)
    have own : document.id = id := find_key read
    obtain ⟨same, shows, dated, -⟩ := shows document
    rw [Agrees, events _ (same.trans own), shown_same same shows dated, (keeps before).1]
    exact agree id before document found read
  | claimed workflows sweep rows documents events =>
    obtain ⟨before, found, rfl⟩ := Option.map_eq_some_iff.mp (rows ▸ present)
    rw [Agrees, events]
    exact agree id before view found (documents ▸ documented)
  | recorded eventId outcome about rows documents events =>
    obtain ⟨before, found, rfl⟩ := Option.map_eq_some_iff.mp (rows ▸ present)
    have own : view.id = id := find_key documented
    by_cases quiet : outcome.drift = .none
    · have old : before.drift = .none := calm quiet before (about ▸ found)
      have shows := agree id before view found (documents ▸ documented)
      have unpublished : driftEvent eventId outcome = none := if_pos quiet
      rw [Agrees, events, unpublished, Option.toList_none, List.append_nil, shows, old]
      exact congrArg DriftClassification.text quiet.symm
    · obtain ⟨event, published, of, classified, -⟩ := @driftEvent_some eventId outcome quiet
      rw [Agrees, events, published, Option.toList_some, shown_append (by rw [of, about, own]), classified]
      rfl
  | found event about events rows documents =>
    obtain ⟨document, read, rfl⟩ := Option.map_eq_some_iff.mp (documents ▸ documented)
    have own : document.id = id := find_key read
    rw [Agrees, shown_withFinding (about.trans own.symm), ← events]
    exact agree id after document (rows ▸ present) read
  | completed event about events head completed rows documents =>
    obtain ⟨before, found, rfl⟩ := Option.map_eq_some_iff.mp (rows ▸ present)
    obtain ⟨row, documents⟩ := documents
    obtain ⟨document, read, rfl⟩ := Option.map_eq_some_iff.mp (documents ▸ documented)
    obtain ⟨rest, queued⟩ := head
    have own : document.id = id := find_key read
    have apart := calm event rest queued completed
    rw [Agrees, events, shown_none fun finding listed => ?_, completed_row completed, (completed_document completed row _).1]
    rw [projectedDocument_id, own, ← about]
    exact apart finding listed

/-! ### The observed block -/

/-- The observed block of a document is what the completion that was applied last
    reports, and there is none before the first. What the block says after a completion
    without a report is left open. -/
def Published (s : State) (document : InstanceView) : Prop :=
  match s.completion document.id with
  | none => document.observed = none
  | some event => ∀ observed, reportOf event = some observed → document.observed = some observed

def AllPublished (s : State) : Prop := ∀ id document, documentOf s.db id = some document → Published s document

theorem Published.same {document after : InstanceView} (published : Published s document) (id : after.id = document.id)
    (applied : t.completion document.id = s.completion document.id) (observed : after.observed = document.observed) :
    Published t after := by
  unfold Published at published ⊢
  rw [id, applied, observed]
  exact published

theorem published_next (published : AllPublished s) (taken : next s action = some t) : AllPublished t := by
  intro id view documented
  cases moves_next taken id with
  | kept _ row rewrite keeps shows rows documents events marks same =>
    obtain ⟨document, read, rfl⟩ := Option.map_eq_some_iff.mp (documents ▸ documented)
    have own : document.id = id := find_key read
    obtain ⟨named, -, -, observed⟩ := shows document
    exact (published id document read).same named (own ▸ same) observed
  | claimed workflows sweep rows documents events marks same =>
    have own : view.id = id := find_key documented
    exact (published id view (documents ▸ documented)).same rfl (own ▸ same) rfl
  | recorded eventId outcome about rows documents events same =>
    have own : view.id = id := find_key documented
    exact (published id view (documents ▸ documented)).same rfl (own ▸ same) rfl
  | found event about events rows documents marks same =>
    obtain ⟨document, read, rfl⟩ := Option.map_eq_some_iff.mp (documents ▸ documented)
    have own : document.id = id := find_key read
    exact (published id document read).same rfl (own ▸ same) rfl
  | completed event about events head completed rows documents applied =>
    obtain ⟨row, documents⟩ := documents
    obtain ⟨document, read, rfl⟩ := Option.map_eq_some_iff.mp (documents ▸ documented)
    have own : document.id = id := find_key read
    unfold Published
    rw [projectedDocument_id, own, applied]
    intro observed report
    rw [(completed_document completed row document).2, report]
    rfl

end

/-! ### Whole runs -/

section
variable {db : ControlDb} {s : State} {id : Uuid} {row : InstanceRow} {document : InstanceView}

theorem heard (unobserved : Unobserved db) (run : Reaches next Anything { db := db } s) : AllHeard s := by
  refine reaches_invariant AllHeard (fun _ _ _ heard _ taken => heard_next heard taken) run ?_
  intro id row document present _ drifted
  exact absurd (unobserved.rows row (find_mem present)) drifted

theorem agree (unobserved : Unobserved db) (run : Reaches next Calm { db := db } s) : AllAgree s := by
  refine reaches_invariant AllAgree (fun _ _ _ agree calm taken => agrees_next agree calm taken) run ?_
  intro id row document present documented
  have shows : (shown [] document).1 = document.drift := rfl
  exact shows.trans ((unobserved.documents document (find_mem documented)).1.trans
    (congrArg DriftClassification.text (unobserved.rows row (find_mem present)).symm))

/-- Once all events are applied, a drift that the columns hold is the drift of the
    document, found when the columns were written; the columns may be claimed since. In
    a calm run the drift is the same also when there is none. -/
theorem drift_heard (unobserved : Unobserved db) (run : Reaches next Anything { db := db } s) (drained : Drained s)
    (present : s.db.instance_ id = some row) (documented : documentOf s.db id = some document) :
    (row.drift ≠ .none →
      document.drift = row.drift.text ∧ ∃ observed, row.observed = some observed ∧
        document.lastReconciledAt = some observed.observedAt ∧
        (row.lastReconciledAt = document.lastReconciledAt ∨ id ∈ s.claimed)) ∧
      (Reaches next Calm { db := db } s → document.drift = row.drift.text) := by
  refine ⟨fun drifted => ?_, fun calm => ?_⟩
  · obtain ⟨observed, seen, told, dated⟩ := heard unobserved run id row document present documented drifted
    rw [drained.1, shown_nil, Prod.mk.injEq] at told
    have own : document.id = id := find_key documented
    exact ⟨told.1, observed, seen, told.2, dated.imp (·.trans told.2.symm) fun listed => own ▸ listed⟩
  · have agrees : Agrees s.reconciliation row document := agree unobserved calm id row document present documented
    rwa [Agrees, drained.1, shown_nil] at agrees

/-- Whatever the sweeps record, the observed block of a document is what the completion
    that was applied last reports. -/
theorem observed_reported (unobserved : Unobserved db) (run : Reaches next Anything { db := db } s)
    (documented : documentOf s.db id = some document) : Published s document := by
  refine reaches_invariant AllPublished (fun _ _ _ published _ taken => published_next published taken) run ?_ id document
    documented
  intro id document documented
  exact (unobserved.documents document (find_mem documented)).2

end

/-! ### An instance that was stopped -/

def sampleReport : ObservedState := ⟨true, .running, none, true, 1000⟩

/-- The completion of a creation, which reports a running instance. -/
def sampleReporting : WorkflowEvent :=
  { sampleCompleted with
    data := .completed .createInstance .active (some "910000") "00000000-0000-4000-8000-0000000000f3" (some sampleReport) }

def sampleCandidate : ReconciliationCandidate :=
  { instanceId := sampleCreate.aggregateId, projectId := sampleCreate.projectId, providerProfileId := "proxmox",
    createOperationId := sampleCreate.operationId, providerResourceId := "910000", lifecycleState := .active,
    desiredPowerState := .running, desiredCpuCount := 1, desiredMemoryMiB := 1024, desiredDiskGiB := 10 }

/-- What a sweep records of an instance that runs or does not. -/
def sampleOutcome (powerState : ObservedPowerState) (now : Instant) : ReconciliationOutcome :=
  outcomeOf sampleHost sampleCandidate
    (some { existing := some true, powerState := some powerState, ownership := some { matching := some true } }) now

/-- A sweep finds the instance stopped. -/
def sampleFound : List Action :=
  [.emit sampleReporting, .applyWorkflow, .record "00000000-0000-4000-8000-0000000000f4" (sampleOutcome .stopped 5000),
   .applyDrift]

/-- The next sweep finds it running again. -/
def sampleGone : List Action :=
  sampleFound ++ [.record "00000000-0000-4000-8000-0000000000f5" (sampleOutcome .running 9000)]

/-- The finding is applied. -/
def sampleDrifted : State := (execute next { db := sampleAccepted } sampleFound).getD { db := {} }

theorem sampleFound_executed : execute next { db := sampleAccepted } sampleFound = some sampleDrifted := rfl

theorem calm_sampleFound : Meets next Calm { db := sampleAccepted } sampleFound := by
  refine .cons trivial rfl (.cons ?_ rfl (.cons ?_ rfl (.cons trivial rfl trivial)))
  · intro _ _ _ _ _ listed
    cases listed
  · intro quiet
    cases quiet

theorem drift_heard_sampleDrifted : ∃ row document,
    sampleDrifted.db.instance_ sampleCreate.aggregateId = some row ∧
      documentOf sampleDrifted.db sampleCreate.aggregateId = some document ∧
      document.drift = row.drift.text ∧ row.lastReconciledAt = document.lastReconciledAt := by
  have present : sampleDrifted.db.instance_ sampleCreate.aggregateId = some _ := rfl
  have documented : documentOf sampleDrifted.db sampleCreate.aggregateId = some _ := rfl
  have heard := drift_heard (by decide) (reaches_execute (meets_anything _ _) sampleFound_executed) ⟨rfl, rfl⟩ present
    documented
  obtain ⟨-, observed, -, -, dated⟩ := heard.1 (by decide)
  exact ⟨_, _, present, documented, heard.2 (reaches_execute calm_sampleFound sampleFound_executed),
    dated.resolve_right (by decide)⟩

theorem observed_reported_sampleDrifted : ∃ document,
    documentOf sampleDrifted.db sampleCreate.aggregateId = some document ∧ document.observed = some sampleReport := by
  have documented : documentOf sampleDrifted.db sampleCreate.aggregateId = some _ := rfl
  exact ⟨_, documented, observed_reported (by decide) (reaches_execute (meets_anything _ _) sampleFound_executed)
    documented sampleReport rfl⟩

/-- The power states of an instance that were observed in a run. -/
def powerObserved (id : Uuid) (actions : List Action) : List PowerState :=
  actions.filterMap fun action =>
    match action with
    | .record _ outcome => if outcome.instanceId = id then some outcome.powerState else none
    | .emit event => if event.aggregateId = id then (reportOf event).map ObservedState.powerState else none
    | _ => none

/-- The power state that is published is not the one that was observed last. -/
theorem observation_unpublished : ¬ ∀ actions s id document power,
    execute next { db := sampleAccepted } actions = some s → Drained s → documentOf s.db id = some document →
      (powerObserved id actions).getLast? = some power → document.observed.map ObservedState.powerState = some power := by
  intro published
  exact absurd (published sampleFound sampleDrifted sampleCreate.aggregateId _ .stopped rfl ⟨rfl, rfl⟩ rfl rfl) (by decide)

/-- The document shows a drift that a later sweep found gone. -/
theorem drift_outlived : ¬ ∀ actions s id row document,
    execute next { db := sampleAccepted } actions = some s → Drained s → s.db.instance_ id = some row →
      documentOf s.db id = some document → document.drift = row.drift.text := by
  intro agreed
  exact absurd (agreed sampleGone _ sampleCreate.aggregateId _ _ rfl ⟨rfl, rfl⟩ rfl rfl) (by decide)

end ControlPlane.DriftAgreement
