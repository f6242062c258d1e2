import ControlPlane.AcceptanceRules
import ControlPlane.RequestValidation

/-!
The application service in front of the store. It authorizes the caller, enforces
the rules of the input that a transport cannot, and hands the store a command.
The correlation identifier is the transport's: it is the caller's own, or drawn.
-/
namespace ControlPlane.ControlPlaneApplication
open ControlPlane.Texts ControlPlane.Domain ControlPlane.ControlSchema ControlPlane.Acceptance ControlPlane.AcceptanceRules
open ControlPlane.RequestValidation
open ControlPlane.Tables (bind_ok)

/-! ### The transport's part -/

/-- `/^[0-9a-f]{8}-[0-9a-f]{4}-[1-5][0-9a-f]{3}-[89ab][0-9a-f]{3}-[0-9a-f]{12}$/i`. -/
def isVersionedUuidText (text : String) : Bool :=
  isUuidText text &&
    match splitChars '-' text.toList with
    | [_, _, third, fourth, _] =>
      (third.head?.any fun c => '1' ≤ c && c ≤ '5') &&
        fourth.head?.any fun c => ['8', '9', 'a', 'b', 'A', 'B'].contains c
    | _ => false

/-- The caller's correlation identifier, or the one drawn for it. A malformed one
    is refused. -/
def correlationId (drawn : Uuid) (value : Option String) : Option Uuid :=
  match value.filter (· ≠ "") with
  | none => some drawn
  | some value => if isVersionedUuidText value then some value else none

/-! ### Inputs -/

structure Actor where
  subject : String
  roles : List String
  projects : List Uuid

structure MutationInput where
  actor : Actor
  projectId : Uuid
  idempotencyKey : String
  correlationId : Uuid

structure CreateInstanceInput extends MutationInput where
  imageId : String
  flavorId : String
  networkId : String
  hostname : String
  sshPublicKeys : Option (List String)

/-- What the inputs about one instance share. -/
structure InstanceInput extends MutationInput where
  instanceId : Uuid

structure PowerInstanceInput extends InstanceInput where
  action : String

structure ResizeInstanceInput extends InstanceInput where
  flavorId : String
  diskGiB : Option Nat

structure CreateSnapshotInput extends InstanceInput where
  name : String
  description : Option String

structure SnapshotActionInput extends InstanceInput where
  snapshotId : Uuid

abbrev RetainInstanceInput := InstanceInput

structure PurgeInstanceInput where
  actor : Actor
  instanceId : Uuid
  idempotencyKey : String
  correlationId : Uuid
  reason : String
  confirmInstanceId : Uuid

structure ReplayDeadLetterInput where
  actor : Actor
  originalEventId : Uuid
  idempotencyKey : String
  correlationId : Uuid
  reason : String

/-! ### The service -/

def authorize (actor : Actor) (projectId : Uuid) : Except DomainError Unit :=
  if !actor.roles.contains "tenant_developer" || !actor.projects.contains projectId then
    .error ⟨.projectAccessDenied, "Project access is denied."⟩
  else .ok ()

/-- Administrative recovery is never inferred from the membership of a project. -/
def authorizeAdministrator (actor : Actor) : Except DomainError Unit :=
  if !actor.roles.contains "platform_administrator" then
    .error ⟨.adminRequired, "Platform administrator access is required."⟩
  else .ok ()

def assertIdempotencyKey (key : String) : Except DomainError Unit :=
  if utf16Length key < 8 || 128 < utf16Length key then refused "Idempotency key must contain 8 to 128 characters."
  else .ok ()

def MutationInput.identity (input : MutationInput) : MutationIdentity :=
  ⟨input.actor.subject, input.projectId, input.idempotencyKey⟩

def InstanceInput.request (input : InstanceInput) : InstanceRequest :=
  { input.identity with instanceId := input.instanceId, correlationId := input.correlationId }

def createInstance (input : CreateInstanceInput) : Except DomainError CreateInstanceCommand := do
  authorize input.actor input.projectId
  assertIdempotencyKey input.idempotencyKey
  let sshPublicKeys := input.sshPublicKeys.getD []
  validateCreateInstance ⟨input.imageId, input.flavorId, input.networkId, input.hostname, sshPublicKeys⟩
  return { input.identity with
    correlationId := input.correlationId, imageId := input.imageId, flavorId := input.flavorId,
    networkId := input.networkId, hostname := input.hostname, sshPublicKeys := sshPublicKeys }

def mutateInstancePower (input : PowerInstanceInput) : Except DomainError PowerInstanceCommand := do
  authorize input.actor input.projectId
  assertIdempotencyKey input.idempotencyKey
  let action ← validatePowerAction input.action
  return { input.request with action := action }

/-- The sizing is checked by the store, against what it reads. -/
def resizeInstance (input : ResizeInstanceInput) : Except DomainError ResizeInstanceCommand := do
  authorize input.actor input.projectId
  assertIdempotencyKey input.idempotencyKey
  return { input.request with flavorId := input.flavorId, diskGiB := input.diskGiB }

def createSnapshot (input : CreateSnapshotInput) : Except DomainError CreateSnapshotCommand := do
  authorize input.actor input.projectId
  assertIdempotencyKey input.idempotencyKey
  validateSnapshotName input.name
  return { input.request with name := input.name, description := input.description.filter (· ≠ "") }

/-- What rollback and deletion share. -/
def snapshotAction (input : SnapshotActionInput) : Except DomainError SnapshotActionCommand := do
  authorize input.actor input.projectId
  assertIdempotencyKey input.idempotencyKey
  return { input.request with snapshotId := input.snapshotId }

def retainInstance (input : RetainInstanceInput) : Except DomainError RetainInstanceCommand := do
  authorize input.actor input.projectId
  assertIdempotencyKey input.idempotencyKey
  return input.request

def purgeInstance (input : PurgeInstanceInput) : Except DomainError PurgeInstanceCommand := do
  authorizeAdministrator input.actor
  assertIdempotencyKey input.idempotencyKey
  if utf16Length (trim input.reason) < 10 then refused "A purge reason of at least 10 characters is required."
  else return ⟨input.actor.subject, input.idempotencyKey, input.instanceId, input.correlationId, input.confirmInstanceId⟩

def requestDeadLetterReplay (input : ReplayDeadLetterInput) : Except DomainError ReplayDeadLetterCommand := do
  authorizeAdministrator input.actor
  assertIdempotencyKey input.idempotencyKey
  let reason := trim input.reason
  if utf16Length reason < 10 || 512 < utf16Length reason then refused "Replay reason must contain 10 to 512 characters."
  else return ⟨input.actor.subject, input.idempotencyKey, input.originalEventId, input.correlationId, reason⟩

/-- A call of the service that mutates. -/
inductive Input
  | createInstance (input : CreateInstanceInput)
  | mutateInstancePower (input : PowerInstanceInput)
  | resizeInstance (input : ResizeInstanceInput)
  | createSnapshot (input : CreateSnapshotInput)
  | snapshotAction (action : SnapshotAction) (input : SnapshotActionInput)
  | retainInstance (input : RetainInstanceInput)
  | purgeInstance (input : PurgeInstanceInput)
  | requestDeadLetterReplay (input : ReplayDeadLetterInput)

def Input.correlationId : Input → Uuid
  | .createInstance input => input.correlationId
  | .mutateInstancePower input => input.correlationId
  | .resizeInstance input => input.correlationId
  | .createSnapshot input => input.correlationId
  | .snapshotAction _ input => input.correlationId
  | .retainInstance input => input.correlationId
  | .purgeInstance input => input.correlationId
  | .requestDeadLetterReplay input => input.correlationId

/-- What the service hands to the store, unless it refuses. -/
def submit : Input → Except DomainError Request
  | .createInstance input => (createInstance input).map .create
  | .mutateInstancePower input => (mutateInstancePower input).map .power
  | .resizeInstance input => (resizeInstance input).map .resize
  | .createSnapshot input => (createSnapshot input).map .snapshotCreate
  | .snapshotAction action input => (snapshotAction input).map (.snapshotAction action)
  | .retainInstance input => (retainInstance input).map .retention
  | .purgeInstance input => (purgeInstance input).map .purge
  | .requestDeadLetterReplay input => (requestDeadLetterReplay input).map .replay

/-! ### What the service hands over -/

/-- What each call hands to the store, and what was checked before. -/
inductive Handed : Input → Request → Prop
  | createInstance (input : CreateInstanceInput) (authorized : authorize input.actor input.projectId = .ok ())
      (valid : validateCreateInstance
        ⟨input.imageId, input.flavorId, input.networkId, input.hostname, input.sshPublicKeys.getD []⟩ = .ok ()) :
      Handed (.createInstance input) (.create { input.identity with
        correlationId := input.correlationId, imageId := input.imageId, flavorId := input.flavorId,
        networkId := input.networkId, hostname := input.hostname, sshPublicKeys := input.sshPublicKeys.getD [] })
  | mutateInstancePower (input : PowerInstanceInput) (action : Commands.PowerAction)
      (authorized : authorize input.actor input.projectId = .ok ()) (known : validatePowerAction input.action = .ok action) :
      Handed (.mutateInstancePower input) (.power { input.request with action := action })
  | resizeInstance (input : ResizeInstanceInput) (authorized : authorize input.actor input.projectId = .ok ()) :
      Handed (.resizeInstance input) (.resize { input.request with flavorId := input.flavorId, diskGiB := input.diskGiB })
  | createSnapshot (input : CreateSnapshotInput) (authorized : authorize input.actor input.projectId = .ok ())
      (valid : validateSnapshotName input.name = .ok ()) :
      Handed (.createSnapshot input)
        (.snapshotCreate { input.request with name := input.name, description := input.description.filter (· ≠ "") })
  | snapshotAction (action : SnapshotAction) (input : SnapshotActionInput)
      (authorized : authorize input.actor input.projectId = .ok ()) :
      Handed (.snapshotAction action input) (.snapshotAction action { input.request with snapshotId := input.snapshotId })
  | retainInstance (input : RetainInstanceInput) (authorized : authorize input.actor input.projectId = .ok ()) :
      Handed (.retainInstance input) (.retention input.request)
  | purgeInstance (input : PurgeInstanceInput) (administers : authorizeAdministrator input.actor = .ok ()) :
      Handed (.purgeInstance input)
        (.purge ⟨input.actor.subject, input.idempotencyKey, input.instanceId, input.correlationId, input.confirmInstanceId⟩)
  | requestDeadLetterReplay (input : ReplayDeadLetterInput) (administers : authorizeAdministrator input.actor = .ok ()) :
      Handed (.requestDeadLetterReplay input)
        (.replay ⟨input.actor.subject, input.idempotencyKey, input.originalEventId, input.correlationId, trim input.reason⟩)

theorem map_ok {Command : Type} {made : Except DomainError Command} {kind : Command → Request} {request : Request}
    (served : made.map kind = .ok request) : ∃ command, made = .ok command ∧ request = kind command := by
  cases made with
  | error error => cases served
  | ok command => cases served; exact ⟨command, rfl, rfl⟩

theorem submit_handed {input : Input} {request : Request} (served : submit input = .ok request) : Handed input request := by
  cases input with
  | createInstance input =>
    obtain ⟨command, made, rfl⟩ := map_ok served
    obtain ⟨_, authorized, made⟩ := bind_ok made
    obtain ⟨_, -, made⟩ := bind_ok made
    obtain ⟨_, valid, made⟩ := bind_ok made
    cases made
    exact .createInstance input authorized valid
  | mutateInstancePower input =>
    obtain ⟨command, made, rfl⟩ := map_ok served
    obtain ⟨_, authorized, made⟩ := bind_ok made
    obtain ⟨_, -, made⟩ := bind_ok made
    obtain ⟨action, known, made⟩ := bind_ok made
    cases made
    exact .mutateInstancePower input action authorized known
  | resizeInstance input =>
    obtain ⟨command, made, rfl⟩ := map_ok served
    obtain ⟨_, authorized, made⟩ := bind_ok made
    obtain ⟨_, -, made⟩ := bind_ok made
    cases made
    exact .resizeInstance input authorized
  | createSnapshot input =>
    obtain ⟨command, made, rfl⟩ := map_ok served
    obtain ⟨_, authorized, made⟩ := bind_ok made
    obtain ⟨_, -, made⟩ := bind_ok made
    obtain ⟨_, valid, made⟩ := bind_ok made
    cases made
    exact .createSnapshot input authorized valid
  | snapshotAction action input =>
    obtain ⟨command, made, rfl⟩ := map_ok served
    obtain ⟨_, authorized, made⟩ := bind_ok made
    obtain ⟨_, -, made⟩ := bind_ok made
    cases made
    exact .snapshotAction action input authorized
  | retainInstance input =>
    obtain ⟨command, made, rfl⟩ := map_ok served
    obtain ⟨_, authorized, made⟩ := bind_ok made
    obtain ⟨_, -, made⟩ := bind_ok made
    cases made
    exact .retainInstance input authorized
  | purgeInstance input =>
    obtain ⟨command, made, rfl⟩ := map_ok served
    obtain ⟨_, administers, made⟩ := bind_ok made
    obtain ⟨_, -, made⟩ := bind_ok made
    split at made
    next => cases made
    next =>
      cases made
      exact .purgeInstance input administers
  | requestDeadLetterReplay input =>
    obtain ⟨command, made, rfl⟩ := map_ok served
    obtain ⟨_, administers, made⟩ := bind_ok made
    obtain ⟨_, -, made⟩ := bind_ok made
    simp only at made
    split at made
    next => cases made
    next =>
      cases made
      exact .requestDeadLetterReplay input administers

end ControlPlane.ControlPlaneApplication
