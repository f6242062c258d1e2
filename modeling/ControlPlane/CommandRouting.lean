import ControlPlane.KafkaConsumer

/-!
The routing of the command topic: a record is narrowed to the command of the
capability that owns its schema. A message whose data has not the shape of its
schema is one of an unsupported payload, whatever its schema is called.
-/
namespace ControlPlane.CommandRouting
open ControlPlane.Tables ControlPlane.Domain ControlPlane.Commands ControlPlane.EventValidation ControlPlane.KafkaConsumer

instance : Enveloped CommandMessage := ⟨CommandMessage.envelope, CommandMessage.schemaName⟩

/-- Every command schema that a workflow can be admitted from. -/
def supportedCommandSchemas : List String :=
  ["instance.create.requested", "instance.power.requested", "instance.resize.requested", "snapshot.create.requested",
   "snapshot.rollback.requested", "snapshot.delete.requested", "instance.retention.requested",
   "instance.purge.requested"]

def isSupportedCommandSchema (schemaName : String) : Bool := supportedCommandSchemas.contains schemaName

/-- Decodes a value on behalf of a handler. -/
def decodedCommand (value : RecordValue CommandMessage) : Except HandlerError CommandMessage :=
  (decodeEventEnvelope value).mapError .decode

/-- Rejects a command of another version, or one that its validator refuses. -/
def narrowedCommand (action : WorkflowAction) (value : RecordValue CommandMessage) :
    Except HandlerError LifecycleCommand := do
  let message ← decodedCommand value
  if message.envelope.schemaVersion ≠ 1 then throw (.permanent "COMMAND_SCHEMA_UNSUPPORTED")
  else
    match lifecycleCommand message action with
    | some command => return command
    | none => throw (.permanent "COMMAND_PAYLOAD_INVALID")

def createCommand : RecordValue CommandMessage → Except HandlerError LifecycleCommand := narrowedCommand .createInstance

def powerCommand : RecordValue CommandMessage → Except HandlerError LifecycleCommand := narrowedCommand .powerInstance

def resizeCommand : RecordValue CommandMessage → Except HandlerError LifecycleCommand := narrowedCommand .resizeInstance

/-- The schema name tells which of the snapshot validators is asked. -/
def snapshotCommand (schemaName : String) : RecordValue CommandMessage → Except HandlerError LifecycleCommand :=
  narrowedCommand
    (if schemaName = "snapshot.create.requested" then .createSnapshot
      else if schemaName = "snapshot.rollback.requested" then .rollbackSnapshot else .deleteSnapshot)

def retentionCommand : RecordValue CommandMessage → Except HandlerError LifecycleCommand := narrowedCommand .retainInstance

def purgeCommand : RecordValue CommandMessage → Except HandlerError LifecycleCommand := narrowedCommand .purgeInstance

/-- Narrows a record to the capability that owns its schema. -/
def narrowCommand (value : RecordValue CommandMessage) : Except HandlerError LifecycleCommand := do
  let message ← decodedCommand value
  match message.schemaName with
  | "instance.create.requested" => createCommand value
  | "instance.power.requested" => powerCommand value
  | "instance.resize.requested" => resizeCommand value
  | "instance.retention.requested" => retentionCommand value
  | "instance.purge.requested" => purgeCommand value
  | "snapshot.create.requested" | "snapshot.rollback.requested" | "snapshot.delete.requested" =>
    snapshotCommand message.schemaName value
  | _ => throw (.permanent "COMMAND_SCHEMA_UNSUPPORTED")

/-! ### The commands that are narrowed -/

/-- A validator accepts commands of the first version only. -/
theorem commandValidator_first {action : WorkflowAction} {command : LifecycleCommand}
    (valid : commandValidator action command = true) : command.schemaVersion = 1 := by
  obtain ⟨envelope, data⟩ := command
  have same := commandValidator_action valid
  subst same
  cases data
  all_goals
    simp only [CommandData.action, commandValidator, isInstanceCreateRequested, isInstancePowerRequested,
      isInstanceResizeRequested, isSnapshotCreateRequested, isSnapshotRollbackRequested, isSnapshotDeleteRequested,
      isInstanceRetentionRequested, isInstancePurgeRequested, snapshotAction, instanceEnvelope, Bool.and_eq_true,
      decide_eq_true_eq] at valid
    tauto

/-- A message is decoded to itself. -/
theorem decodedCommand_ok {message found : CommandMessage} (read : decodedCommand (.message message) = .ok found) :
    found = message := by
  simp only [decodedCommand, decodeEventEnvelope] at read
  split at read <;> cases read
  rfl

theorem narrowedCommand_ok {action : WorkflowAction} {command narrowed : LifecycleCommand}
    (read : narrowedCommand action (.message (.lifecycle command)) = .ok narrowed) :
    narrowed = command ∧ commandValidator command.data.action command = true := by
  cases enveloped : decodedCommand (.message (.lifecycle command)) with
  | error error => simp only [narrowedCommand, enveloped] at read; cases read
  | ok message =>
    simp only [narrowedCommand, enveloped, bind, Except.bind] at read
    split at read
    next => cases read
    next =>
      split at read
      next accepted found =>
        cases read
        rw [decodedCommand_ok enveloped] at found
        obtain ⟨here, valid⟩ := lifecycleCommand_some found
        cases here
        exact ⟨rfl, (commandValidator_action valid).symm ▸ valid⟩
      next => cases read

/-- A command that is narrowed passed its own validator. -/
theorem narrowCommand_ok {command narrowed : LifecycleCommand}
    (read : narrowCommand (.message (.lifecycle command)) = .ok narrowed) :
    narrowed = command ∧ commandValidator command.data.action command = true := by
  obtain ⟨message, decoded, rest⟩ := bind_ok read
  split at rest
  all_goals first | exact narrowedCommand_ok rest | cases rest

theorem decodedCommand_lifecycle {command : LifecycleCommand}
    (enveloped : isEventEnvelope command.data.schemaName command.toEnvelope = true) :
    decodedCommand (.message (.lifecycle command)) = .ok (.lifecycle command) := by
  have valid : isEventEnvelope (Enveloped.schemaName (CommandMessage.lifecycle command))
      (Enveloped.envelope (CommandMessage.lifecycle command)) = true := enveloped
  rw [decodedCommand, decodeEventEnvelope, if_pos valid]
  rfl

/-- A command of the first version is narrowed as its validator decides. -/
theorem narrowCommand_lifecycle {command : LifecycleCommand}
    (enveloped : isEventEnvelope command.data.schemaName command.toEnvelope = true) (first : command.schemaVersion = 1) :
    narrowCommand (.message (.lifecycle command)) =
      if commandValidator command.data.action command then .ok command
      else .error (.permanent "COMMAND_PAYLOAD_INVALID") := by
  have read := decodedCommand_lifecycle enveloped
  have narrowed (action : WorkflowAction) : narrowedCommand action (.message (.lifecycle command)) =
      if commandValidator action command then .ok command else .error (.permanent "COMMAND_PAYLOAD_INVALID") := by
    simp only [narrowedCommand, read, bind, Except.bind, CommandMessage.envelope, first, lifecycleCommand]
    split
    next impossible => exact absurd rfl impossible
    next => cases commandValidator action command <;> rfl
  simp only [narrowCommand, read, bind, Except.bind, CommandMessage.schemaName]
  cases kind : command.data <;> exact narrowed _

end ControlPlane.CommandRouting
