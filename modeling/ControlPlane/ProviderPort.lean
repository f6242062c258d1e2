import ControlPlane.Commands
import ControlPlane.Programs

/-!
The provider-neutral lifecycle port: the calls a workflow may make, what each of
them is answered with, and how a transport fails. Every field of a message is
optional on the wire, and a missing field is `none`. The calls that no workflow
makes (`validateProfile`, `getCapabilities`) are left out.
-/
namespace ControlPlane.ProviderPort
open ControlPlane.Domain ControlPlane.Programs

/-! ### Transport failures -/

inductive ProviderTransportErrorCode
  | aborted
  | deadlineExceeded
  | protocolError
  | unavailable
  deriving DecidableEq, Repr

def ProviderTransportErrorCode.text : ProviderTransportErrorCode → String
  | .aborted => "aborted"
  | .deadlineExceeded => "deadline_exceeded"
  | .protocolError => "protocol_error"
  | .unavailable => "unavailable"

/-- A transport failure says nothing about whether the provider acted. -/
structure ProviderTransportError where
  code : ProviderTransportErrorCode
  message : String
  retryable : Bool
  deriving DecidableEq, Repr

/-- The refusal of a request before anything was done. -/
def protocolError (message : String) : ProviderTransportError := ⟨.protocolError, message, false⟩

/-! ### Messages -/

structure ProviderCallContext where
  requestId : Option String := none
  operationId : Option String := none
  correlationId : Option String := none
  projectId : Option String := none
  instanceId : Option String := none
  providerProfileId : Option String := none
  attempt : Option Nat := none
  fencingToken : Option String := none
  deriving DecidableEq, Repr

/-- The labels that identify the owner of a provider resource. -/
structure OwnershipMarkers where
  managedBy : Option String := none
  environment : Option String := none
  projectId : Option String := none
  instanceId : Option String := none
  createOperationId : Option String := none
  deriving DecidableEq, Repr

/-- A sizing, with its 64-bit numbers as decimal texts. -/
structure InstanceResources where
  cpuCount : Option Nat := none
  memoryMib : Option String := none
  diskGib : Option String := none
  deriving DecidableEq, Repr

structure NetworkConfiguration where
  networkId : Option String := none
  ipv4Address : Option String := none
  ipv4PrefixLength : Option Int := none
  ipv4Gateway : Option String := none
  dnsServers : Option (List String) := none
  deriving DecidableEq, Repr

inductive FailureCategory
  | unspecified
  | validation
  | authentication
  | authorization
  | notFound
  | conflict
  | quota
  | transient
  | permanent
  | unknownOutcome
  | compensationFailure
  | manualReview
  | internal
  | unrecognized
  deriving DecidableEq, Repr

structure ProviderFailure where
  category : Option FailureCategory := none
  code : Option String := none
  safeMessage : Option String := none
  retryAfterMilliseconds : Option String := none
  deriving DecidableEq, Repr

inductive ProviderResultState
  | unspecified
  | accepted
  | succeeded
  | rejected
  | unknown
  | unrecognized
  deriving DecidableEq, Repr

structure ProviderMutationResult where
  state : Option ProviderResultState := none
  providerTaskReference : Option String := none
  providerResourceId : Option String := none
  failure : Option ProviderFailure := none
  deriving DecidableEq, Repr

inductive ProviderTaskState
  | unspecified
  | queued
  | running
  | succeeded
  | failed
  | unknown
  | unrecognized
  deriving DecidableEq, Repr

structure GetTaskResponse where
  state : Option ProviderTaskState := none
  failure : Option ProviderFailure := none
  deriving DecidableEq, Repr

inductive ObservedPowerState
  | unspecified
  | running
  | stopped
  | suspended
  | unknown
  | unrecognized
  deriving DecidableEq, Repr

structure ObservedOwnershipMarkers where
  complete : Option Bool := none
  matching : Option Bool := none
  values : Option OwnershipMarkers := none
  deriving DecidableEq, Repr

structure InstanceObservation where
  existing : Option Bool := none
  providerResourceId : Option String := none
  powerState : Option ObservedPowerState := none
  resources : Option InstanceResources := none
  network : Option NetworkConfiguration := none
  ownership : Option ObservedOwnershipMarkers := none
  observedAt : Option Instant := none
  deriving DecidableEq, Repr

structure ProviderSnapshot where
  providerSnapshotReference : Option String := none
  name : Option String := none
  description : Option String := none
  createdAt : Option Instant := none
  deriving DecidableEq, Repr

/-! ### Requests -/

/-- The request of a read about one instance, and the part that every mutation
    of an existing one nests. -/
structure InstanceMutationRequest where
  context : Option ProviderCallContext := none
  providerResourceId : Option String := none
  expectedOwnershipMarkers : Option OwnershipMarkers := none
  deriving DecidableEq, Repr

structure SubmitCreateInstanceRequest where
  context : Option ProviderCallContext := none
  imageId : Option String := none
  flavorId : Option String := none
  hostname : Option String := none
  resources : Option InstanceResources := none
  network : Option NetworkConfiguration := none
  sshPublicKeys : Option (List String) := none
  ownershipMarkers : Option OwnershipMarkers := none
  deriving DecidableEq, Repr

structure ApplyInstanceConfigurationRequest where
  context : Option ProviderCallContext := none
  providerResourceId : Option String := none
  hostname : Option String := none
  resources : Option InstanceResources := none
  network : Option NetworkConfiguration := none
  sshPublicKeys : Option (List String) := none
  ownershipMarkers : Option OwnershipMarkers := none
  deriving DecidableEq, Repr

structure GetTaskRequest where
  context : Option ProviderCallContext := none
  providerTaskReference : Option String := none
  deriving DecidableEq, Repr

structure ResizeInstanceRequest where
  request : Option InstanceMutationRequest := none
  targetResources : Option InstanceResources := none
  deriving DecidableEq, Repr

structure CreateSnapshotRequest where
  request : Option InstanceMutationRequest := none
  snapshotId : Option String := none
  name : Option String := none
  description : Option String := none
  deriving DecidableEq, Repr

structure SnapshotMutationRequest where
  request : Option InstanceMutationRequest := none
  snapshotId : Option String := none
  providerSnapshotReference : Option String := none
  deriving DecidableEq, Repr

structure MarkInstanceRetainedRequest where
  request : Option InstanceMutationRequest := none
  retentionDeadline : Option Instant := none
  deriving DecidableEq, Repr

structure PurgeInstanceRequest where
  request : Option InstanceMutationRequest := none
  purgeAuthorizationId : Option String := none
  retentionDeadline : Option Instant := none
  deriving DecidableEq, Repr

/-! ### Calls -/

/-- A call of the port. The power calls and the snapshot actions nest their
    request in a message of its own. -/
inductive ProviderCall
  | submitCreateInstance (request : SubmitCreateInstanceRequest)
  | applyInstanceConfiguration (request : ApplyInstanceConfigurationRequest)
  | getTask (request : GetTaskRequest)
  | observeInstance (request : InstanceMutationRequest)
  | startInstance (request : Option InstanceMutationRequest)
  | shutdownInstance (request : Option InstanceMutationRequest)
  | stopInstance (request : Option InstanceMutationRequest)
  | rebootInstance (request : Option InstanceMutationRequest)
  | resizeInstance (request : ResizeInstanceRequest)
  | listSnapshots (request : InstanceMutationRequest)
  | createSnapshot (request : CreateSnapshotRequest)
  | rollbackSnapshot (request : Option SnapshotMutationRequest)
  | deleteSnapshot (request : Option SnapshotMutationRequest)
  | markInstanceRetained (request : MarkInstanceRetainedRequest)
  | purgeInstance (request : PurgeInstanceRequest)
  deriving DecidableEq, Repr

namespace ProviderCall

/-- What a call is answered with: a task, an observation, a listing, or the
    result of a mutation. -/
@[reducible] def Response : ProviderCall → Type
  | .getTask _ => GetTaskResponse
  | .observeInstance _ => Option InstanceObservation
  | .listSnapshots _ => Option (List ProviderSnapshot)
  | _ => Option ProviderMutationResult

/-- A response, or the failure of the transport. -/
abbrev Answer (call : ProviderCall) : Type := Except ProviderTransportError call.Response

/-- The nested instance request of a call on an existing instance. -/
def request : ProviderCall → Option InstanceMutationRequest
  | .observeInstance request => some request
  | .startInstance request => request
  | .shutdownInstance request => request
  | .stopInstance request => request
  | .rebootInstance request => request
  | .resizeInstance request => request.request
  | .listSnapshots request => some request
  | .createSnapshot request => request.request
  | .rollbackSnapshot request => request.bind SnapshotMutationRequest.request
  | .deleteSnapshot request => request.bind SnapshotMutationRequest.request
  | .markInstanceRetained request => request.request
  | .purgeInstance request => request.request
  | _ => none

/-- The context that a call presents. -/
def context : ProviderCall → Option ProviderCallContext
  | .submitCreateInstance request => request.context
  | .applyInstanceConfiguration request => request.context
  | .getTask request => request.context
  | call => call.request.bind InstanceMutationRequest.context

/-- The ownership markers that a call presents. -/
def markers : ProviderCall → Option OwnershipMarkers
  | .submitCreateInstance request => request.ownershipMarkers
  | .applyInstanceConfiguration request => request.ownershipMarkers
  | call => call.request.bind InstanceMutationRequest.expectedOwnershipMarkers

/-- Whether a call presents ownership markers at all; a poll does not. -/
def presentsMarkers : ProviderCall → Bool
  | .getTask _ => false
  | _ => true

/-- Whether a call may change something at the provider. -/
def mutates : ProviderCall → Bool
  | .getTask _ | .observeInstance _ | .listSnapshots _ => false
  | _ => true

/-- Whether a call destroys the instance. -/
def purges : ProviderCall → Bool
  | .purgeInstance _ => true
  | _ => false

end ProviderCall

/-- The conversation of a workflow with its provider. -/
abbrev ProviderExchange := Exchange ProviderCall.Answer

end ControlPlane.ProviderPort
