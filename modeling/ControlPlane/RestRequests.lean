import ControlPlane.ControlPlaneApplication
import ControlPlane.JsonTexts

/-!
The REST surface of the mutations. A route unpacks a request, its pipes and the
validation of its body refuse what is malformed, and what is left is an input of the
service. Every refusal of the framework is answered alike.
-/
namespace ControlPlane.RestRequests
open ControlPlane.Texts ControlPlane.JsonTexts ControlPlane.JsonTexts.Value ControlPlane.ControlSchema ControlPlane.Domain
open ControlPlane.RequestValidation ControlPlane.ControlPlaneApplication
open ControlPlane.EventValidation (distinct)

/-! ### What transports share -/

/-- Why a request is refused: the transport does not take it, or the service does not. -/
inductive Refusal
  | badRequest
  | domain (error : DomainError)

/-- The headers, or the metadata, of a request. -/
structure Carrier where
  correlation : Option String
  traceparent : Option String
  tracestate : Option String

/-- What is drawn for a request: a correlation identifier, and a trace. -/
structure Drawn where
  correlationId : Uuid
  traceparent : String

/-- Whether a text is some digits of base 16, without capitals, and not all zero. -/
def isTraceField (width : Nat) (text : String) : Bool :=
  text.length = width && (text.toList.all fun c => isDigit c || ('a' ≤ c && c ≤ 'f')) && text.toList.any (· ≠ '0')

def isTraceparent (text : String) : Bool :=
  match split '-' text with
  | [version, trace, span, flags] =>
    version = "00" && isTraceField 32 trace && isTraceField 16 span &&
      flags.length = 2 && flags.toList.all fun c => isDigit c || ('a' ≤ c && c ≤ 'f')
  | _ => false

/-- The caller's trace, or the one drawn for it. -/
def requestTraceparent (drawn : String) (value : Option String) : Except Refusal String :=
  match value.filter (· ≠ "") with
  | none => .ok drawn
  | some value => if isTraceparent value then .ok value else .error .badRequest

/-- The state of the vendors, which needs a trace to belong to. -/
def requestTracestate (value suppliedTraceparent : Option String) : Except Refusal (Option String) :=
  match value.filter (· ≠ "") with
  | none => .ok none
  | some value =>
    if (suppliedTraceparent.filter (· ≠ "")).isNone then .error .badRequest
    else if 512 < utf16Length value || value.toList.any (fun c => c.toNat ≤ 31 || c.toNat = 127) then .error .badRequest
    else .ok (some value)

/-- The correlation identifier of a request. -/
def requestCorrelation (drawn : Drawn) (carrier : Carrier) : Except Refusal Uuid :=
  match correlationId drawn.correlationId carrier.correlation with
  | none => .error .badRequest
  | some id => .ok id

/-! ### The validation of bodies -/

/-- The library that validates bodies. -/
structure Validator where
  /-- The length of a text, where a surrogate pair counts once and a variation not at all. -/
  length : String → Nat
  length_le : ∀ text, length text ≤ utf16Length text

/-- What a property of a body has to keep to. -/
structure Rule where
  name : String
  optional : Bool := false
  accepts : Value → Bool

/-- Whether a body keeps to a rule. A property that may be missing may be null. -/
def Rule.holds (rule : Rule) (body : Value) : Bool :=
  match property rule.name body with
  | undefined | null => rule.optional
  | value => rule.accepts value

/-- Whether a body keeps to its rules, and has nothing else. A missing body is empty. -/
def validated (rules : List Rule) : Value → Bool
  | object entries =>
    (entries.all fun entry => rules.any fun rule => rule.name = entry.1) && rules.all fun rule => rule.holds (object entries)
  | undefined | null => rules.all fun rule => rule.holds (object [])
  | _ => false

/-- A text of some kind. -/
def isText (accepts : String → Bool) (value : Value) : Bool := (text value).any accepts

/-- A list of texts of some kind. -/
def areTexts (accepts : String → Bool) (values : List Value) : Bool := values.all (isText accepts)

/-- The whole number that a number prints. -/
def wholeNumber : Value → Option Nat
  | number value => if value.printed.all isDigit then some (digitsValue value.printed) else none
  | _ => none

section
variable (library : Validator)

def isLength (least most : Nat) (text : String) : Bool := least ≤ library.length text && library.length text ≤ most

def createInstanceDto : List Rule :=
  [{ name := "imageId", accepts := isText isSlugText }, { name := "flavorId", accepts := isText isSlugText },
    { name := "networkId", accepts := isText isSlugText },
    { name := "hostname", accepts := isText fun text => isLength library 0 63 text && isHostnameText text },
    { name := "sshPublicKeys", optional := true,
      accepts := fun value => (items value).any fun keys =>
        keys.length ≤ 5 && distinct (keys.filterMap text) && areTexts (isLength library 32 8192) keys }]

def instanceActionDto : List Rule :=
  [{ name := "action", accepts := isText ["start", "shutdown", "stop", "reboot", "resize"].contains },
    { name := "flavorId", optional := true, accepts := isText isSlugText },
    { name := "diskGiB", optional := true, accepts := fun value => (wholeNumber value).any fun size => 8 ≤ size && size ≤ 2048 }]

def createSnapshotDto : List Rule :=
  [{ name := "name", accepts := isText (isLength library 1 64) },
    { name := "description", optional := true, accepts := isText fun text => library.length text ≤ 256 }]

def snapshotRollbackDto : List Rule := [{ name := "action", accepts := isText fun _ => true }]

def purgeRequestDto : List Rule :=
  [{ name := "reason", accepts := isText (isLength library 10 512) }, { name := "confirmInstanceId", accepts := isText isUuidText }]

def replayRequestDto : List Rule := [{ name := "reason", accepts := isText (isLength library 10 512) }]

end

/-- A property that the validation has found to be a text. -/
def textOf (name : String) (body : Value) : String := (text (property name body)).getD ""

/-! ### Routes -/

/-- The routes of mutations, with their parameters and bodies. -/
inductive Route
  | create (projectId : String) (body : Value)
  | act (projectId instanceId : String) (body : Value)
  | retain (projectId instanceId : String)
  | createSnapshot (projectId instanceId : String) (body : Value)
  | rollbackSnapshot (projectId instanceId snapshotId : String) (body : Value)
  | deleteSnapshot (projectId instanceId snapshotId : String)
  | purge (instanceId : String) (body : Value)
  | replay (originalEventId : String) (body : Value)

/-- The headers of a request to the API. -/
structure RestHeaders extends Carrier where
  idempotencyKey : Option String

/-- `new ParseUUIDPipe()`. -/
def parseUuid (value : String) : Except Refusal Uuid := if isUuidText value then .ok value else .error .badRequest

/-- `new ValidationPipe(...)`. -/
def validateBody (rules : List Rule) (body : Value) : Except Refusal Unit :=
  if validated rules body then .ok () else .error .badRequest

def mutationIdentity (drawn : Drawn) (headers : RestHeaders) (actor : Actor) (projectId : Uuid) : Except Refusal MutationInput := do
  let _ ← requestTracestate headers.tracestate headers.traceparent
  let correlation ← requestCorrelation drawn headers.toCarrier
  let _ ← requestTraceparent drawn.traceparent headers.traceparent
  return { actor, projectId, idempotencyKey := headers.idempotencyKey.getD "", correlationId := correlation }

def create (library : Validator) (drawn : Drawn) (headers : RestHeaders) (actor : Actor) (projectId : String) (body : Value) :
    Except Refusal Input := do
  let projectId ← parseUuid projectId
  validateBody (createInstanceDto library) body
  let identity ← mutationIdentity drawn headers actor projectId
  return .createInstance { identity with
    imageId := textOf "imageId" body, flavorId := textOf "flavorId" body, networkId := textOf "networkId" body,
    hostname := textOf "hostname" body, sshPublicKeys := (items (property "sshPublicKeys" body)).map (List.filterMap text) }

/-- The identity of a mutation of one instance. -/
def instanceIdentity (drawn : Drawn) (headers : RestHeaders) (actor : Actor) (projectId instanceId : Uuid) :
    Except Refusal InstanceInput := do
  let identity ← mutationIdentity drawn headers actor projectId
  return { identity with instanceId }

def act (drawn : Drawn) (headers : RestHeaders) (actor : Actor) (projectId instanceId : String) (body : Value) :
    Except Refusal Input := do
  let projectId ← parseUuid projectId
  let instanceId ← parseUuid instanceId
  validateBody instanceActionDto body
  let identity ← instanceIdentity drawn headers actor projectId instanceId
  if textOf "action" body = "resize" then
    return .resizeInstance { identity with
      flavorId := textOf "flavorId" body, diskGiB := wholeNumber (property "diskGiB" body) }
  else return .mutateInstancePower { identity with action := textOf "action" body }

def retain (drawn : Drawn) (headers : RestHeaders) (actor : Actor) (projectId instanceId : String) : Except Refusal Input := do
  let projectId ← parseUuid projectId
  let instanceId ← parseUuid instanceId
  return .retainInstance (← instanceIdentity drawn headers actor projectId instanceId)

def createSnapshot (library : Validator) (drawn : Drawn) (headers : RestHeaders) (actor : Actor) (projectId instanceId : String)
    (body : Value) : Except Refusal Input := do
  let projectId ← parseUuid projectId
  let instanceId ← parseUuid instanceId
  validateBody (createSnapshotDto library) body
  let identity ← instanceIdentity drawn headers actor projectId instanceId
  return .createSnapshot { identity with
    name := textOf "name" body, description := (text (property "description" body)).filter (· ≠ "") }

def rollbackSnapshot (drawn : Drawn) (headers : RestHeaders) (actor : Actor) (projectId instanceId snapshotId : String)
    (body : Value) : Except Refusal Input := do
  let projectId ← parseUuid projectId
  let instanceId ← parseUuid instanceId
  let snapshotId ← parseUuid snapshotId
  validateBody snapshotRollbackDto body
  if textOf "action" body ≠ "rollback" then
    throw (.domain ⟨.validationFailed, "The only supported snapshot action is rollback."⟩)
  let identity ← instanceIdentity drawn headers actor projectId instanceId
  return .snapshotAction .rollbackSnapshot { identity with snapshotId }

def deleteSnapshot (drawn : Drawn) (headers : RestHeaders) (actor : Actor) (projectId instanceId snapshotId : String) :
    Except Refusal Input := do
  let projectId ← parseUuid projectId
  let instanceId ← parseUuid instanceId
  let snapshotId ← parseUuid snapshotId
  let identity ← instanceIdentity drawn headers actor projectId instanceId
  return .snapshotAction .deleteSnapshot { identity with snapshotId }

def purge (library : Validator) (drawn : Drawn) (headers : RestHeaders) (actor : Actor) (instanceId : String) (body : Value) :
    Except Refusal Input := do
  let instanceId ← parseUuid instanceId
  validateBody (purgeRequestDto library) body
  let identity ← mutationIdentity drawn headers actor ""
  return .purgeInstance
    { actor, instanceId, idempotencyKey := identity.idempotencyKey, correlationId := identity.correlationId,
      reason := textOf "reason" body, confirmInstanceId := textOf "confirmInstanceId" body }

def replay (library : Validator) (drawn : Drawn) (headers : RestHeaders) (actor : Actor) (originalEventId : String) (body : Value) :
    Except Refusal Input := do
  let originalEventId ← parseUuid originalEventId
  validateBody (replayRequestDto library) body
  let identity ← mutationIdentity drawn headers actor ""
  return .requestDeadLetterReplay
    { actor, originalEventId, idempotencyKey := identity.idempotencyKey, correlationId := identity.correlationId,
      reason := textOf "reason" body }

/-- What a request of an authenticated caller asks of the service. -/
def handle (library : Validator) (drawn : Drawn) (headers : RestHeaders) (actor : Actor) : Route → Except Refusal Input
  | .create projectId body => create library drawn headers actor projectId body
  | .act projectId instanceId body => act drawn headers actor projectId instanceId body
  | .retain projectId instanceId => retain drawn headers actor projectId instanceId
  | .createSnapshot projectId instanceId body => createSnapshot library drawn headers actor projectId instanceId body
  | .rollbackSnapshot projectId instanceId snapshotId body =>
    rollbackSnapshot drawn headers actor projectId instanceId snapshotId body
  | .deleteSnapshot projectId instanceId snapshotId => deleteSnapshot drawn headers actor projectId instanceId snapshotId
  | .purge instanceId body => purge library drawn headers actor instanceId body
  | .replay originalEventId body => replay library drawn headers actor originalEventId body

end ControlPlane.RestRequests
