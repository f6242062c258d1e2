import ControlPlane.CommandConsumer
import ControlPlane.Fencing
import ControlPlane.Replays

/-!
The claims of admitted commands. A command is validated by the schema that it names when
it is admitted, and by the action of its row when it is claimed; a replay puts another
command into a row that keeps its action. A stored command is the command that was
stored: jsonb orders the keys of an object anew and keeps everything else.
-/
namespace ControlPlane.Claimability
open ControlPlane.Tables ControlPlane.Runs ControlPlane.Domain ControlPlane.Commands ControlPlane.EventValidation
open ControlPlane.WorkflowSchema ControlPlane.WorkflowStore ControlPlane.StoreRules ControlPlane.KafkaConsumer
open ControlPlane.CommandRouting ControlPlane.CommandConsumer ControlPlane.Replays ControlPlane.Fencing

/-- SHA-256 has no collisions: commands of one hash are of one schema. -/
def CollisionFree (host : Host) : Prop :=
  ∀ a b : LifecycleCommand, host.canonicalSha256 (.lifecycle a) = host.canonicalSha256 (.lifecycle b) →
    a.data.schemaName = b.data.schemaName

/-- What the consumer asks of the store: to admit a command that it narrowed, and to
    dead-letter a message that it refused for good. -/
def Delivered (_ : State) : StoreCall → Prop
  | .admitCommand _ command _ => ∃ value, narrowCommand value = .ok command
  | .deadLetterCommand _ input => ∃ code, ingress (.message input.message) = .error (.permanent code)
  | _ => True

/-- A row whose command is what its action and its event say, and that stands at a stage
    as long as it is live. -/
structure Supported (row : WorkflowRow) : Prop where
  valid : commandValidator row.action row.command = true
  event : row.command.eventId = row.eventId
  stage : row.live → ∃ stage, row.stage = .stage stage

/-- A row of the event has the action of the command. -/
def Matched (rows : List WorkflowRow) (eventId : Uuid) (command : LifecycleCommand) : Prop :=
  ∃ row ∈ rows, row.eventId = eventId ∧ row.action = command.data.action

/-- What keeps every row claimable. -/
structure Claimable (host : Host) (db : WorkflowDb) : Prop where
  operations : Keyed WorkflowRow.operationId db.workflows
  events : Keyed WorkflowRow.eventId db.workflows
  rows : ∀ row ∈ db.workflows, Supported row
  letters : ∀ letter ∈ db.deadLetters, ∀ action original,
    lifecycleCommand letter.originalPayload action = some original → Matched db.workflows letter.originalEventId original
  requests : ∀ request ∈ db.replayRequests, ∀ payloadHash, request.authorizedCommandHash = some payloadHash →
    ∃ command, payloadHash = host.canonicalSha256 (.lifecycle command) ∧
      Matched db.workflows request.originalEventId command

/-! ### What is delivered -/

section
variable {value : RecordValue CommandMessage} {command original : LifecycleCommand} {message : CommandMessage}
  {action : WorkflowAction} {code : String}

theorem narrowedCommand_valid (read : narrowedCommand action value = .ok command) :
    commandValidator command.data.action command = true := by
  obtain ⟨message, -, rest⟩ := bind_ok read
  split at rest
  next => cases rest
  next =>
    split at rest
    next found =>
      cases rest
      obtain ⟨-, valid⟩ := lifecycleCommand_some found
      exact (commandValidator_action valid).symm ▸ valid
    next => cases rest

/-- A command that is narrowed passes the validator of its action. -/
theorem narrowCommand_valid (read : narrowCommand value = .ok command) :
    commandValidator command.data.action command = true := by
  obtain ⟨message, -, rest⟩ := bind_ok read
  split at rest
  all_goals first | exact narrowedCommand_valid rest | cases rest

/-- What is refused for good is no command of any action. -/
theorem refused_unreadable (refused : ingress (.message message) = .error (.permanent code)) :
    lifecycleCommand message action = none := by
  cases read : lifecycleCommand message action with
  | none => rfl
  | some original =>
    obtain ⟨rfl, valid⟩ := lifecycleCommand_some read
    have own : commandValidator original.data.action original = true := (commandValidator_action valid).symm ▸ valid
    have supported : isSupportedCommandSchema original.data.schemaName = true := by
      cases original.data <;> rfl
    by_cases enveloped : isEventEnvelope original.data.schemaName original.toEnvelope = true
    · have narrowed := narrowCommand_lifecycle enveloped (commandValidator_first own)
      rw [if_pos own] at narrowed
      have admitted : ingress (.message (.lifecycle original)) = .ok (.command original) := by
        simp only [ingress, decodedCommand_lifecycle enveloped, bind, Except.bind, CommandMessage.schemaName, supported,
          narrowed]
        rfl
      rw [admitted] at refused
      cases refused
    · have undecoded : decodedCommand (.message (.lifecycle original)) = .error (.decode .invalidEnvelope) := by
        have invalid : ¬ isEventEnvelope (Enveloped.schemaName (CommandMessage.lifecycle original))
          (Enveloped.envelope (CommandMessage.lifecycle original)) = true := enveloped
        rw [decodedCommand, decodeEventEnvelope, if_neg invalid]
        rfl
      simp only [ingress, undecoded, bind, Except.bind] at refused
      cases refused

end

/-! ### Rows, dead letters and authorizations -/

section
variable {host : Host} {db after : WorkflowDb} {rows later : List WorkflowRow} {row : WorkflowRow} {now : Instant}

/-- Every row is still there, under its event and with its action. -/
def Remain (rows later : List WorkflowRow) : Prop :=
  ∀ row ∈ rows, ∃ after ∈ later, after.eventId = row.eventId ∧ after.action = row.action

theorem Matched.kept {eventId : Uuid} {command : LifecycleCommand} (matched : Matched rows eventId command)
    (remain : Remain rows later) : Matched later eventId command := by
  obtain ⟨row, member, event, action⟩ := matched
  obtain ⟨after, there, sameEvent, sameAction⟩ := remain row member
  exact ⟨after, there, sameEvent.trans event, sameAction.trans action⟩

theorem remain_refl (rows : List WorkflowRow) : Remain rows rows := fun row member => ⟨row, member, rfl, rfl⟩

theorem remain_append (rows more : List WorkflowRow) : Remain rows (rows ++ more) :=
  fun row member => ⟨row, List.mem_append_left _ member, rfl, rfl⟩

theorem remain_update {selected : WorkflowRow → Prop} [DecidablePred selected] {rewrite : WorkflowRow → WorkflowRow}
    (keeps : ∀ row, (rewrite row).eventId = row.eventId ∧ (rewrite row).action = row.action) :
    Remain rows (update selected rewrite rows) := by
  intro row member
  by_cases chosen : selected row
  · exact ⟨_, mem_update.mpr ⟨row, member, .inl ⟨chosen, rfl⟩⟩, keeps row⟩
  · exact ⟨row, mem_update.mpr ⟨row, member, .inr ⟨chosen, rfl⟩⟩, rfl, rfl⟩

/-- Dead letters whose payloads are those of earlier ones, or nobody's command. -/
def LettersFrom (db after : WorkflowDb) : Prop :=
  ∀ letter ∈ after.deadLetters, ∀ action original, lifecycleCommand letter.originalPayload action = some original →
    Matched after.workflows letter.originalEventId original ∨
      ∃ old ∈ db.deadLetters, old.originalPayload = letter.originalPayload ∧ old.originalEventId = letter.originalEventId

/-- Authorizations that were given before, or are of a command whose workflow there is. -/
def RequestsFor (host : Host) (db after : WorkflowDb) : Prop :=
  ∀ request ∈ after.replayRequests, ∀ payloadHash, request.authorizedCommandHash = some payloadHash →
    (∃ command, payloadHash = host.canonicalSha256 (.lifecycle command) ∧
      Matched after.workflows request.originalEventId command) ∨
      ∃ old ∈ db.replayRequests, old.authorizedCommandHash = some payloadHash ∧ old.originalEventId = request.originalEventId

theorem lettersFrom_same (letters : after.deadLetters = db.deadLetters) : LettersFrom db after :=
  fun letter member _ _ _ => .inr ⟨letter, letters ▸ member, rfl, rfl⟩

theorem requestsFor_same (requests : after.replayRequests = db.replayRequests) : RequestsFor host db after :=
  fun request member _ given => .inr ⟨request, requests ▸ member, given, rfl⟩

/-- What keeps every row claimable when rows are added or rewritten. -/
theorem Claimable.moved (claimable : Claimable host db) (operations : Keyed WorkflowRow.operationId after.workflows)
    (events : Keyed WorkflowRow.eventId after.workflows) (rows : ∀ row ∈ after.workflows, Supported row)
    (remain : Remain db.workflows after.workflows) (letters : LettersFrom db after)
    (requests : RequestsFor host db after) : Claimable host after where
  operations := operations
  events := events
  rows := rows
  letters := by
    intro letter member action original read
    rcases letters letter member action original read with matched | ⟨old, there, payload, event⟩
    · exact matched
    · exact event ▸ (claimable.letters old there action original (payload ▸ read)).kept remain
  requests := by
    intro request member payloadHash given
    rcases requests request member payloadHash given with matched | ⟨old, there, hash, event⟩
    · exact matched
    · obtain ⟨command, same, matched⟩ := claimable.requests old there payloadHash hash
      exact ⟨command, same, event ▸ matched.kept remain⟩

theorem Claimable.same (claimable : Claimable host db) (workflows : after.workflows = db.workflows)
    (letters : LettersFrom db after) (requests : RequestsFor host db after) : Claimable host after :=
  claimable.moved (workflows ▸ claimable.operations) (workflows ▸ claimable.events) (workflows ▸ claimable.rows)
    (workflows ▸ remain_refl _) letters requests

theorem Claimable.added (claimable : Claimable host db) (workflows : after.workflows = db.workflows ++ [row])
    (free : ∀ w ∈ db.workflows, w.operationId ≠ row.operationId ∧ w.eventId ≠ row.eventId) (supported : Supported row)
    (letters : LettersFrom db after) (requests : RequestsFor host db after) : Claimable host after := by
  refine claimable.moved ?_ ?_ ?_ (workflows ▸ remain_append _ _) letters requests
  · exact workflows ▸ keyed_append claimable.operations fun w member => (free w member).1
  · exact workflows ▸ keyed_append claimable.events fun w member => (free w member).2
  · intro w member
    rw [workflows] at member
    rcases List.mem_append.mp member with old | new
    · exact claimable.rows w old
    · exact List.mem_singleton.mp new ▸ supported

theorem Claimable.rewritten (claimable : Claimable host db) {operationId : Uuid} {rewrite : WorkflowRow → WorkflowRow}
    (workflows : after.workflows = update (fun w : WorkflowRow => w.operationId = operationId) rewrite db.workflows)
    (keeps : ∀ w, (rewrite w).operationId = w.operationId ∧ (rewrite w).eventId = w.eventId ∧ (rewrite w).action = w.action)
    (supported : ∀ w ∈ db.workflows, w.operationId = operationId → Supported (rewrite w))
    (letters : LettersFrom db after) (requests : RequestsFor host db after) : Claimable host after := by
  refine claimable.moved ?_ ?_ ?_ (workflows ▸ remain_update fun w => (keeps w).2) letters requests
  · exact workflows ▸ keyed_update claimable.operations fun w _ => (keeps w).1
  · exact workflows ▸ keyed_update claimable.events fun w _ => (keeps w).2.1
  · intro w member
    rw [workflows] at member
    obtain ⟨old, there, ⟨chosen, rfl⟩ | ⟨-, rfl⟩⟩ := mem_update.mp member
    · exact supported old there chosen
    · exact claimable.rows w there

/-- Evidence keeps the event and the payload of a letter that there was. -/
theorem writeDeadLetter_letters (e o : Uuid) {note : DeadLetterNote} {letter : DeadLetterRow}
    (member : letter ∈ (writeDeadLetter db e o note now).deadLetters) :
    (letter.originalPayload = note.original ∧ letter.originalEventId = note.original.envelope.eventId) ∨
      ∃ old ∈ db.deadLetters, old.originalPayload = letter.originalPayload ∧ old.originalEventId = letter.originalEventId := by
  simp only [writeDeadLetter, writeWorkflowOutbox] at member
  split at member
  next =>
    rcases List.mem_append.mp member with old | new
    · exact .inr ⟨letter, old, rfl, rfl⟩
    · rw [List.mem_singleton.mp new]
      exact .inl ⟨rfl, rfl⟩
  next =>
    obtain ⟨old, there, ⟨-, rfl⟩ | ⟨-, rfl⟩⟩ := mem_update.mp member
    · exact .inr ⟨old, there, rfl, rfl⟩
    · exact .inr ⟨letter, there, rfl, rfl⟩

/-- Letters that only change their state. -/
theorem lettersFrom_update {selected : DeadLetterRow → Prop} [DecidablePred selected] {rewrite : DeadLetterRow → DeadLetterRow}
    (letters : after.deadLetters = update selected rewrite db.deadLetters)
    (keeps : ∀ d, (rewrite d).originalPayload = d.originalPayload ∧ (rewrite d).originalEventId = d.originalEventId) :
    LettersFrom db after := by
  intro letter member action original read
  rw [letters] at member
  obtain ⟨old, there, ⟨-, rfl⟩ | ⟨-, rfl⟩⟩ := mem_update.mp member
  · exact .inr ⟨old, there, (keeps old).1.symm, (keeps old).2.symm⟩
  · exact .inr ⟨letter, there, rfl, rfl⟩

theorem lettersFrom_consumed {fresh : Nat → Uuid} {authorization : ReplayRequestRow} {command : LifecycleCommand}
    {delivery : MessageDeliveryIdentity} (letters : after.deadLetters = db.deadLetters) :
    LettersFrom db (consumeAuthorization after fresh authorization command delivery now) := by
  refine lettersFrom_update (congrArg (update _ _) letters) fun d => ?_
  exact ⟨rfl, rfl⟩

theorem requestsFor_consumed {fresh : Nat → Uuid} {authorization : ReplayRequestRow} {command : LifecycleCommand}
    {delivery : MessageDeliveryIdentity} (requests : after.replayRequests = db.replayRequests) :
    RequestsFor host db (consumeAuthorization after fresh authorization command delivery now) := by
  intro request member payloadHash given
  obtain ⟨old, there, ⟨-, rfl⟩ | ⟨-, rfl⟩⟩ := mem_update.mp member
  · exact .inr ⟨old, requests ▸ there, given, rfl⟩
  · exact .inr ⟨request, requests ▸ there, given, rfl⟩

end

/-! ### One call -/

section
variable {host : Host} {s t : State} {call : StoreCall} {after : WorkflowDb}

/-- A rewritten row that stands at a stage, or is no longer live. -/
theorem Supported.rewritten {row : WorkflowRow} {rewrite : WorkflowRow → WorkflowRow} (supported : Supported row)
    (keeps : (rewrite row).action = row.action ∧ (rewrite row).command = row.command ∧ (rewrite row).eventId = row.eventId)
    (stage : (rewrite row).live → ∃ stage, (rewrite row).stage = .stage stage) : Supported (rewrite row) where
  valid := by
    rw [keeps.1, keeps.2.1]
    exact supported.valid
  event := by
    rw [keeps.2.1, keeps.2.2]
    exact supported.event
  stage := stage

theorem newWorkflow_supported {command : LifecycleCommand} {replayGeneration : Nat} {resource : Option String} {now : Instant}
    (valid : commandValidator command.data.action command = true) :
    Supported (newWorkflow command replayGeneration resource now) :=
  ⟨valid, rfl, fun _ => ⟨.accepted, rfl⟩⟩

/-- The action of a row that an authorized replay reopens is the one of its command. -/
theorem Claimable.reopened (free : CollisionFree host) (claimable : Claimable host s.db) {command : LifecycleCommand}
    {delivery : MessageDeliveryIdentity} {authorization : ReplayRequestRow} {row : WorkflowRow}
    (authorized : authorizationOf s.db command delivery (host.canonicalSha256 (.lifecycle command)) = some authorization)
    (member : row ∈ s.db.workflows) (event : row.eventId = command.eventId) : row.action = command.data.action := by
  obtain ⟨there, about, -, -, hash, -⟩ := authorizationOf_some authorized
  obtain ⟨restored, same, other, also, otherEvent, action⟩ := claimable.requests authorization there _ hash
  have here : row = other := claimable.events.eq_of_key member also ((event.trans about.symm).trans otherEvent.symm)
  have schema := free command restored same
  have actions : some command.data.action = some restored.data.action := by
    rw [← workflowActionForSchema_schemaName, ← workflowActionForSchema_schemaName, schema]
  rw [here, action, Option.some.inj actions]

theorem claimable_admitted (free : CollisionFree host) (claimable : Claimable host s.db) {fresh : Nat → Uuid}
    {command : LifecycleCommand} {delivery : MessageDeliveryIdentity} {admission : CommandAdmission}
    (valid : commandValidator command.data.action command = true)
    (admitted : CommandAdmitted host s.db fresh command delivery s.now admission after) : Claimable host after := by
  have rejected (payloadHash : String) (failureCode : CommandRejectionCode) :
      Claimable host (rejectReplayCommand s.db delivery payloadHash failureCode s.now) :=
    claimable.same (rejectReplayCommand_workflows _ _ _ _ _) (lettersFrom_same (rejectReplayCommand_letters _ _ _ _ _))
      (requestsFor_same (rejectReplayCommand_requests _ _ _ _ _))
  cases admitted with
  | duplicate => exact claimable
  | noted => exact claimable.same rfl (lettersFrom_same rfl) (requestsFor_same rfl)
  | started original absent new unused =>
    exact claimable.added rfl unused (newWorkflow_supported valid) (lettersFrom_same rfl) (requestsFor_same rfl)
  | misidentified => exact rejected _ _
  | unauthorized => exact rejected _ _
  | conflicting => exact rejected _ _
  | reopened authorization row replay new authorized found matching =>
    obtain ⟨event, -, -⟩ := replayConflict_false.mp matching
    refine claimable.rewritten rfl (fun w => ⟨rfl, rfl, rfl⟩) ?_ (lettersFrom_consumed rfl) (requestsFor_consumed rfl)
    intro w member chosen
    have here : w = row := claimable.operations.eq_of_key member (find_mem found) (chosen.trans (find_key found).symm)
    subst here
    have action := claimable.reopened free authorized member event
    refine ⟨?_, event.symm, fun _ => ⟨.accepted, rfl⟩⟩
    show commandValidator w.action command = true
    rw [action]
    exact valid
  | introduced authorization replay new authorized absent unused =>
    exact claimable.added rfl unused (newWorkflow_supported valid) (lettersFrom_consumed rfl) (requestsFor_consumed rfl)

/-- What may be replayed passes a validator. -/
theorem replayableCommand_read {db : WorkflowDb} {originalEventId : Uuid} {letter : DeadLetterRow} {original : LifecycleCommand}
    (replayable : replayableCommand db originalEventId = some (letter, original)) :
    ∃ action, lifecycleCommand letter.originalPayload action = some original := by
  obtain ⟨found, -, chosen⟩ := Option.bind_eq_some_iff.mp replayable
  split at chosen
  next =>
    obtain ⟨action, -, read⟩ := Option.bind_eq_some_iff.mp chosen
    obtain ⟨command, valid, same⟩ := Option.map_eq_some_iff.mp read
    cases same
    exact ⟨action, valid⟩
  next => cases chosen

theorem claimable_decided (claimable : Claimable host s.db) {fresh : Nat → Uuid} {request : ProvisioningReplayRequested}
    {delivery : MessageDeliveryIdentity} {admission : ReplayAdmission}
    (decided : ReplayDecided host s.db fresh request delivery s.now admission after) : Claimable host after := by
  cases decided with
  | duplicate => exact claimable
  | rejected =>
    refine claimable.same rfl (lettersFrom_same rfl) ?_
    intro given member payloadHash hash
    rcases List.mem_append.mp member with old | new
    · exact .inr ⟨given, old, hash, rfl⟩
    · rw [List.mem_singleton.mp new] at hash
      cases hash
  | accepted letter original new replayable undecided =>
    obtain ⟨found, -⟩ := replayableCommand_some replayable
    refine claimable.same rfl (lettersFrom_update rfl fun d => ?_) ?_
    · exact ⟨rfl, rfl⟩
    · intro given member payloadHash hash
      rcases List.mem_append.mp member with old | new
      · exact .inr ⟨given, old, hash, rfl⟩
      · rw [List.mem_singleton.mp new] at hash ⊢
        cases hash
        refine .inl ⟨restoredCommand original request s.now, rfl, ?_⟩
        obtain ⟨action, read⟩ := replayableCommand_read replayable
        have matched := claimable.letters letter (find_mem found) action original read
        rw [find_key found] at matched
        exact matched

/-- A letter about a message that is no command is nobody's. -/
theorem claimable_stored (claimable : Claimable host s.db) {fresh : Nat → Uuid} {input : DeadLetterCommandInput}
    {note : DeadLetterNote} (refused : ∀ action, lifecycleCommand note.original action = none) :
    Claimable host (writeDeadLetter (received host s.db input.message input.delivery s.now (some s.now)) (fresh 0) (fresh 1)
      note s.now) := by
  refine claimable.same rfl ?_ (requestsFor_same rfl)
  intro letter member action original read
  rcases writeDeadLetter_letters (fresh 0) (fresh 1) member with ⟨payload, -⟩ | old
  · rw [payload, refused action] at read
    cases read
  · exact .inr old

theorem claimable_exhausted (claimable : Claimable host s.db) {fresh : Nat → Uuid} {input : DeadLetterWorkflowInput}
    {row : WorkflowRow} {lease : LeaseRow} (held : Held s.db input.toFence s.now row lease) :
    Claimable host (releaseLease
      (writeDeadLetter
        (writeEvent (completeReceipt (updateWorkflow s.db input.operationId (deadLetteredRow input s.now)) row s.now)
          (fresh 0) input.event)
        (fresh 1) (fresh 2) (exhaustedNote input row.command row.replayGeneration) s.now)
      row.instanceId input.toFence s.now) := by
  have keeps (w : WorkflowRow) : (deadLetteredRow input s.now w).eventId = w.eventId ∧
      (deadLetteredRow input s.now w).action = w.action := ⟨rfl, rfl⟩
  refine claimable.rewritten rfl (fun w => ⟨rfl, rfl, rfl⟩) ?_ ?_ (requestsFor_same rfl)
  · intro w member _
    refine (claimable.rows w member).rewritten ⟨rfl, rfl, rfl⟩ fun live => ?_
    rcases live with impossible | impossible <;> cases impossible
  · intro letter member action original read
    rcases writeDeadLetter_letters (fresh 1) (fresh 2) member with ⟨payload, event⟩ | old
    · rw [payload] at read
      have own : LifecycleCommand.data original = row.command.data := by
        obtain ⟨same, -⟩ := lifecycleCommand_some read
        cases same
        rfl
      have there : row ∈ s.db.workflows := find_mem held.workflow
      have supported := claimable.rows row there
      refine .inl (Matched.kept ⟨row, there, ?_, ?_⟩ (remain_update keeps))
      · exact supported.event.symm.trans event.symm
      · rw [own]
        exact (commandValidator_action supported.valid).symm
    · exact .inr old

theorem claimable_next (free : CollisionFree host) (claimable : Claimable host s.db) (delivered : Delivered s call)
    (taken : Fencing.next host s call = some t) : Claimable host t.db := by
  have called := (called_next host taken).1
  generalize t.db = after at called ⊢
  cases called with
  | nothing => exact claimable
  | admitted admitted =>
    obtain ⟨value, read⟩ := delivered
    exact claimable_admitted free claimable (narrowCommand_valid read) admitted
  | decided decided => exact claimable_decided claimable decided
  | stored =>
    obtain ⟨code, refused⟩ := delivered
    exact claimable_stored claimable fun action => refused_unreadable refused
  | claimed claim =>
    obtain ⟨leases, same⟩ := claim.frame
    rw [same]
    refine claimable.rewritten rfl (fun w => ⟨rfl, rfl, rfl⟩) ?_ (lettersFrom_same rfl) (requestsFor_same rfl)
    intro w member chosen
    have here := claimable.operations.eq_of_key member claim.member chosen
    subst here
    exact (claimable.rows w member).rewritten ⟨rfl, rfl, rfl⟩ fun _ => (claimable.rows w member).stage claim.live
  | checkpointed held =>
    refine claimable.rewritten rfl (fun w => ⟨rfl, rfl, rfl⟩) ?_ (lettersFrom_same rfl) (requestsFor_same rfl)
    intro w member _
    exact (claimable.rows w member).rewritten ⟨rfl, rfl, rfl⟩ fun _ => ⟨_, rfl⟩
  | @completed fresh input row lease held =>
    refine claimable.rewritten rfl (fun w => ⟨rfl, rfl, rfl⟩) ?_ (lettersFrom_same rfl) (requestsFor_same rfl)
    intro w member _
    refine (claimable.rows w member).rewritten ⟨rfl, rfl, rfl⟩ fun live => ?_
    have ended : ¬ (completedRow input s.now w).live := by
      rintro (running | waiting)
      · cases status : input.status <;> simp [completedRow, status, FinalStatus.status] at running
      · cases status : input.status <;> simp [completedRow, status, FinalStatus.status] at waiting
    exact absurd live ended
  | exhausted held => exact claimable_exhausted claimable held

theorem claimable_run {now : Instant} (free : CollisionFree host)
    (run : Reaches (Fencing.next host) Delivered (Fencing.initial now) s) : Claimable host s.db := by
  have start : Claimable host (Fencing.initial now).db := by
    refine ⟨List.nodup_nil, List.nodup_nil, ?_, ?_, ?_⟩
    · exact fun _ impossible => absurd impossible List.not_mem_nil
    · exact fun _ impossible => absurd impossible List.not_mem_nil
    · exact fun _ impossible => absurd impossible List.not_mem_nil
  exact reaches_invariant (fun s : State => Claimable host s.db)
    (fun s call t kept delivered taken => claimable_next free kept delivered taken) run start

/-! ### Claims -/

/-- What the fold over the ready rows starts with, it ends with something. -/
theorem earliest_isSome (rows : List WorkflowRow) (best : Option WorkflowRow) (some_ : best.isSome = true ∨ rows ≠ []) :
    (rows.foldl (fun best w => match best with
      | none => some w
      | some b => if earlier w b then some w else some b) best).isSome = true := by
  induction rows generalizing best with
  | nil => simpa using some_
  | cons w rest ih =>
    refine ih _ (.inl ?_)
    cases best with
    | none => rfl
    | some b =>
      dsimp only
      split <;> rfl

/-- The lease of a ready workflow's instance is there to be taken. -/
theorem takeLease_ready {db : WorkflowDb} {workerId : String} {action : WorkflowAction} {locked : Uuid → Bool}
    {row : WorkflowRow} {now : Instant} (leasedUntil : Instant) (isReady : ready db workerId action now locked row = true) :
    ∃ token leased, takeLease db row.instanceId workerId leasedUntil now = some (token, leased) := by
  simp only [ready, Bool.and_eq_true] at isReady
  have free := isReady.2
  unfold takeLease
  cases found : db.lease row.instanceId with
  | none => exact ⟨_, _, rfl⟩
  | some lease =>
    rw [found] at free
    have open_ : lease.leasedUntil ≤ now ∨ lease.ownerId = workerId := by simpa using free
    dsimp only
    rw [if_pos open_]
    exact ⟨_, _, rfl⟩

/-- While every row is claimable, a claim hands out a ready workflow whenever there is one. -/
theorem Claimable.claims (claimable : Claimable host s.db) {workerId : String} {leaseSeconds : Nat}
    {action : WorkflowAction} {locked : Uuid → Bool} {now : Instant} (named : workerId ≠ "")
    (least : 5 ≤ leaseSeconds) (most : leaseSeconds ≤ 300) :
    (claimNext s.db workerId leaseSeconds action locked now = .ok none ∧
        ∀ row ∈ s.db.workflows, ready s.db workerId action now locked row = false) ∨
      ∃ claimed after, claimNext s.db workerId leaseSeconds action locked now = .ok (some (claimed, after)) := by
  have valid : ¬ (workerId = "" ∨ leaseSeconds < 5 ∨ leaseSeconds > 300) := by
    simp only [named, false_or]
    omega
  simp only [claimNext, if_neg valid]
  cases chosen : readyWorkflow s.db workerId action now locked with
  | none =>
    refine .inl ⟨rfl, fun row member => ?_⟩
    by_contra isReady
    have there : row ∈ s.db.workflows.filter (ready s.db workerId action now locked) :=
      List.mem_filter.mpr ⟨member, by simpa using isReady⟩
    have found : (readyWorkflow s.db workerId action now locked).isSome = true :=
      earliest_isSome _ none (.inr (List.ne_nil_of_mem there))
    rw [chosen] at found
    cases found
  | some row =>
    obtain ⟨member, isReady⟩ := readyWorkflow_ready chosen
    obtain ⟨token, leased, taken⟩ := takeLease_ready (now + leaseSeconds * 1000) isReady
    have supported := claimable.rows row member
    have live : row.live := by
      simp only [ready, Bool.and_eq_true, decide_eq_true_eq] at isReady
      exact isReady.1.1.1.2
    obtain ⟨stage, stands⟩ := supported.stage live
    have read : lifecycleCommand (.lifecycle (claimedRow token row).command) (claimedRow token row).action =
        some row.command := if_pos supported.valid
    have standing : (claimedRow token row).stage = .stage stage := stands
    simp only [taken, read, standing]
    exact .inr ⟨_, _, rfl⟩

end

/-- In every run of the store, with commands that were narrowed and messages that were
    refused for good, each stored command is read back and validated under the action of
    its row, which is the one of its schema, and a live row stands at a stage. A claim
    never throws, and hands out a workflow whenever one is ready. -/
theorem admitted_claimable {host : Host} (free : CollisionFree host) {now : Instant} {s : State}
    (run : Reaches (Fencing.next host) Delivered (Fencing.initial now) s) :
    (∀ row ∈ s.db.workflows, lifecycleCommand (.lifecycle row.command) row.action = some row.command ∧
      workflowActionForSchema row.command.data.schemaName = some row.action ∧
      (row.live → ∃ stage, row.stage = .stage stage)) ∧
    ∀ workerId leaseSeconds action locked time, workerId ≠ "" → 5 ≤ leaseSeconds → leaseSeconds ≤ 300 →
      (claimNext s.db workerId leaseSeconds action locked time = .ok none ∧
        ∀ row ∈ s.db.workflows, ready s.db workerId action time locked row = false) ∨
      ∃ claimed after, claimNext s.db workerId leaseSeconds action locked time = .ok (some (claimed, after)) := by
  have claimable := claimable_run free run
  refine ⟨fun row member => ?_, fun workerId leaseSeconds action locked time named least most => claimable.claims named least most⟩
  have supported := claimable.rows row member
  refine ⟨if_pos supported.valid, ?_, supported.stage⟩
  rw [workflowActionForSchema_schemaName, commandValidator_action supported.valid]

/-! ### A creation that was replayed -/

/-- A host whose hashes begin with the schema. -/
def schemaHost : Host :=
  { sampleHost with
    canonicalSha256 := fun message =>
      String.ofList (message.schemaName.toList ++ '/' :: (sampleHost.canonicalSha256 message).toList) }

theorem schemaHost_collisionFree : CollisionFree schemaHost := by
  have schema (command : LifecycleCommand) :
      (schemaHost.canonicalSha256 (.lifecycle command)).toList.takeWhile (· ≠ '/') = command.data.schemaName.toList := by
    have known : command.data.schemaName ∈ supportedCommandSchemas := by
      cases command.data <;> simp [CommandData.schemaName, supportedCommandSchemas]
    have plain : supportedCommandSchemas.all (fun name => name.toList.all fun c => decide (c ≠ '/')) = true := by
      decide +kernel
    have plain := List.all_eq_true.mp (List.all_eq_true.mp plain _ known)
    have text : (schemaHost.canonicalSha256 (.lifecycle command)).toList = command.data.schemaName.toList ++
        '/' :: (sampleHost.canonicalSha256 (.lifecycle command)).toList := String.toList_ofList
    rw [text, List.takeWhile_append_of_pos plain, List.takeWhile_cons_of_neg (by decide), List.append_nil]
  intro a b same
  have equal := schema a
  rw [same, schema b] at equal
  exact (String.toList_inj.mp equal).symm

/-- Whether a call delivers a command that its validator accepts. -/
def delivers (_ : State) : StoreCall → Bool
  | .admitCommand _ command _ =>
    isEventEnvelope command.data.schemaName command.toEnvelope && commandValidator command.data.action command
  | .deadLetterCommand _ _ => false
  | _ => true

theorem delivers_sound (s : State) (call : StoreCall) (passed : delivers s call = true) : Delivered s call := by
  cases call with
  | admitCommand _ command _ =>
    simp only [delivers, Bool.and_eq_true] at passed
    refine ⟨.message (.lifecycle command), ?_⟩
    rw [narrowCommand_lifecycle passed.1 (commandValidator_first passed.2), if_pos passed.2]
  | deadLetterCommand => cases passed
  | _ => trivial

/-- The exhausted creation that was replayed is handed out again. -/
theorem admitted_claimable_replayedOnce :
    ∃ s, Reaches (Fencing.next schemaHost) Delivered (Fencing.initial 0) s ∧
      (s.db.workflows.map fun row => (row.status, row.replayGeneration)) = [(.running, 1)] ∧
      ∃ claimed after, claimNext s.db "worker" 30 .createInstance (fun _ => false) 0 = .ok (some (claimed, after)) := by
  have passed : tested (Fencing.next schemaHost) delivers (Fencing.initial 0) replayedOnce = some _ := rfl
  have run := reaches_tested delivers_sound passed
  refine ⟨_, run, rfl, ?_⟩
  rcases (admitted_claimable schemaHost_collisionFree run).2 "worker" 30 .createInstance (fun _ => false) 0
    (by decide) (by decide) (by decide) with ⟨idle, -⟩ | claimed
  · cases idle
  · exact claimed

end ControlPlane.Claimability
